import ClusterHealth.Proofs.Collect.ReportedTexts
import ClusterHealth.Proofs.CommandLine.SnapshotAgreement

namespace ClusterHealth.Agent

open ClusterHealth.Collect ClusterHealth.CommandLine ClusterHealth.Text

def outOfRange : Fault := ⟨.value, "Out of range float values are not JSON compliant"⟩

def Response.strict (status : Nat) (v : Json) : Answer Response :=
  if v.allFinite then Response.json status v else .error outOfRange

variable {names : List String}

/-- A section is the answer unless a text in it is broken, which only a provider's can be, and of the
numbers in it only those of the collectors' own may have been blanked. -/
structure Serves (api : Api) (h : Host) (names : List String) (s : SysSection) : Prop where
  answered : (api.handle h "GET" "/sysinfo" (typesQuery names)).answer = Response.strict 200 s.toJson
  written : s.toJson.isPlain = true →
    Response.strict 200 s.toJson = .ok ⟨200, some "application/json", s.toJson.render Json.compactRaw⟩
  unwritten : s.toJson.isPlain = false →
    Response.strict 200 s.toJson = .error ⟨.unencodable, s.toJson.encodeError Json.compactRaw⟩
  told : PlainHost h → s.toJson.isPlain = true
  blanked : s.toJson = Report.finite s.collected
  clean : FiniteHost h → s.collected.finiteOutside ownNumbers = true

theorem exists_selected (hknown : ∀ n ∈ names, strip n ≠ "" → DataType.IsKnown n) :
    ∃ types, selected names = .ok types := by
  rw [selected]
  split
  · exact ⟨_, rfl⟩
  · exact DataType.exists_parse_eq_ok_iff.2 hknown

theorem section_served (api : Api) {h : Host} (hquiet : Quiet api.node.address h)
    (hknown : ∀ n ∈ names, strip n ≠ "" → DataType.IsKnown n) :
    ∃ types s, selected names = .ok types ∧ (sysSection api.node.address types h).answer = .ok s ∧
      Serves api h names s := by
  obtain ⟨types, htypes⟩ := exists_selected hknown
  obtain ⟨s, hs⟩ := exists_sysSection hquiet types
  have hstrict : Response.strict 200 s.toJson = Response.json 200 s.toJson :=
    if_pos (Report.allFinite_finite s.collected)
  refine ⟨types, s, htypes, hs, ?_, ?_, ?_, fun hh => isPlain_toJson hh hs, s.toJson_eq,
    fun hh => clean_collected hh hs⟩
  · rw [hstrict, handle_typesQuery, htypes]
    exact answer_bind_of_ok hs _
  · exact fun hplain => hstrict.trans (if_pos hplain)
  · exact fun hbroken => hstrict.trans (if_neg (by simp [hbroken]))

theorem finiteHost_ofFiles (hostname : Answer AnyText) (uname : Uname) (time : Quantity)
    (files : Entries File) : FiniteHost (.ofFiles hostname uname time files) where
  sensors _ h := nomatch h
  netCounters _ h := nomatch h
  process _ h := nomatch h

theorem isPlain_noSuchFile (path : AnyText) : (Fault.noSuchFile path).isPlain = true := rfl

theorem plainHost_ofFiles {uname : Uname} (hostname : String) (time : Quantity) {files : Entries File}
    (huname : uname.IsPlain)
    (hfiles : ∀ m ∈ files, ∃ bs, m.2 = .ofOctets bs) :
    PlainHost (.ofFiles (.ok hostname) uname time files) := by
  have hfile (path : String) : Caught Fault.isPlain ((files.get? path).getD (.missing path)).present ∧
      Caught Fault.isPlain ((files.get? path).getD (.missing path)).octets := by
    cases hget : files.get? path with
    | none => exact ⟨caught_ok _, caught_error (isPlain_noSuchFile path)⟩
    | some file =>
      obtain ⟨m, hm, rfl⟩ := Option.map_eq_some_iff.1 hget
      obtain ⟨bs, hbs⟩ := hfiles m (List.mem_of_find?_eq_some hm)
      rw [Option.getD_some, hbs]
      exact ⟨caught_ok _, caught_ok _⟩
  have hmissing (name : String) : (Host.missingProvider name).isPlain = true := rfl
  exact {
    hostname := tells_ok rfl
    uname := tells_ok huname
    processor := tells_ok rfl
    machine := tells_ok huname.machine
    present := fun path => (hfile path).1
    octets := fun path => (hfile path).2
    inodes := fun path => caught_error (isPlain_noSuchFile path)
    cpuFrequency := caught_error (hmissing _)
    cpuCount := caught_error (hmissing _)
    bootTime := caught_error (hmissing _)
    pids := caught_error (hmissing _)
    mounts := tells_error (hmissing _)
    diskUsage := fun _ => caught_error (hmissing _)
    ram := caught_error (hmissing _)
    swap := caught_error (hmissing _)
    sensors := nofun
    netCounters := tells_error (hmissing _)
    process := tells_error (hmissing _) }

def fastHost : Host :=
  .ofFiles (.ok "node-1") ⟨"Linux", "6.1.0", "x86_64"⟩ (.decimal 0)
    [("/proc/cpuinfo", .ofOctets (octets "processor: 0\ncpu MHz: inf\n"))]

theorem quiet_of_isSome {address : String} {h : Host}
    (hsome : ∀ p : Part, (p.record address h).toOption.isSome = true) : Quiet address h := by
  intro p
  cases hr : p.record address h with
  | ok r => exact ⟨r, rfl⟩
  | error f => simpa [hr, Except.toOption] using hsome p

theorem quiet_fastHost : Quiet "node-1" fastHost :=
  quiet_of_isSome fun p => by cases p <;> decide +kernel

theorem plainHost_fastHost : PlainHost fastHost :=
  plainHost_ofFiles "node-1" (.decimal 0) ⟨rfl, rfl, rfl⟩ fun m hm => by
    obtain rfl := List.mem_singleton.1 hm
    exact ⟨_, rfl⟩

theorem section_served_fastHost : ∃ s, s.collected.allFinite = false ∧
    s.collected.finiteOutside ownNumbers = true ∧
      Serves ⟨⟨"node-1", by decide⟩, "test"⟩ fastHost ["SysCPU", " "] s ∧
        (Api.handle ⟨⟨"node-1", by decide⟩, "test"⟩ fastHost "GET" "/sysinfo"
          (typesQuery ["SysCPU", " "])).answer =
            .ok ⟨200, some "application/json", s.toJson.render Json.compactRaw⟩ := by
  obtain ⟨types, s, htypes, hs, hserves⟩ :=
    @section_served ["SysCPU", " "] ⟨⟨"node-1", by decide⟩, "test"⟩ fastHost quiet_fastHost
      (by decide +kernel)
  have hselected : selected ["SysCPU", " "] = .ok [.sysCpu] := by decide +kernel
  obtain rfl : types = [.sysCpu] := Except.ok.inj (htypes.symm.trans hselected)
  have hcollected : (sysSection "node-1" [.sysCpu] fastHost).answer.toOption.map
      (fun s => s.collected.allFinite) = some false := by decide +kernel
  obtain ⟨t, ht, hfinite⟩ := exists_of_toOption_map hcollected
  obtain rfl : s = t := Except.ok.inj (hs.symm.trans ht)
  exact ⟨s, hfinite, hserves.clean (finiteHost_ofFiles ..), hserves,
    hserves.answered.trans (hserves.written (hserves.told plainHost_fastHost))⟩

def strayMount : AnyText := .broken "/mnt/" 0x4ff []

/-- A volume is mounted at a place whose name is no text. -/
def strayHost : Host :=
  { Host.ofFiles (.ok "node-1") ⟨"Linux", "6.1.0", "x86_64"⟩ (.decimal 0) [] with
    mounts := .ok [⟨"/dev/sdb1", strayMount, "vfat", "rw"⟩]
    diskUsage := fun _ => .ok ⟨.whole 100, .whole 40⟩
    inodes := fun _ => .ok ⟨.whole 7, .whole 5⟩ }

theorem quiet_strayHost : Quiet "node-1" strayHost :=
  quiet_of_isSome fun p => by cases p <;> decide +kernel

theorem not_served_strayHost : Quiet "node-1" strayHost ∧ FiniteHost strayHost ∧
    DataType.IsKnown "SysDriveHw" ∧
      (Api.handle ⟨⟨"node-1", by decide⟩, "test"⟩ strayHost "GET" "/sysinfo"
        (typesQuery ["SysDriveHw"])).answer = .error ⟨.unencodable,
          "'utf-8' codec can't encode character '\\udcff' in position 97: surrogates not allowed"⟩ := by
  have hfiles := finiteHost_ofFiles (.ok "node-1") ⟨"Linux", "6.1.0", "x86_64"⟩ (.decimal 0) []
  refine ⟨quiet_strayHost, ⟨hfiles.sensors, hfiles.netCounters, hfiles.process⟩, by decide +kernel, ?_⟩
  have hselected : selected ["SysDriveHw"] = .ok [.sysDriveHw] := by decide +kernel
  obtain ⟨s, hs, hfailed⟩ := exists_of_toOption_map
    (x := (sysSection "node-1" [.sysDriveHw] strayHost).answer)
    (f := fun s => (s.toJson.isPlain, s.toJson.encodeError Json.compactRaw))
    (b := (false, "'utf-8' codec can't encode character '\\udcff' in position 97: surrogates not allowed"))
    (by decide +kernel)
  obtain ⟨hbroken, hmessage⟩ := Prod.mk.inj hfailed
  rw [handle_typesQuery, hselected]
  refine (answer_bind_of_ok hs _).trans ((if_neg ?_).trans ?_)
  · simp [hbroken]
  · rw [hmessage]

end ClusterHealth.Agent
