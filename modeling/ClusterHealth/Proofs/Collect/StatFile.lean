import ClusterHealth.Proofs.Collect.FirstFault
import ClusterHealth.Proofs.Text.EncodingLaws
import ClusterHealth.Proofs.Text.LineLaws

namespace ClusterHealth.Collect

open ClusterHealth.Metric ClusterHealth.Text

section Information

theorem statusPath_ne_statPath (pid other : Int) : statusPath pid ≠ statPath other := by
  intro heq
  have hpath : "/proc/" ++ toString pid ++ "/status" = "/proc/" ++ toString other ++ "/stat" := heq
  have hlast := congrArg (·.toList.getLast?) hpath
  simp only [String.toList_append, List.getLast?_append] at hlast
  simp at hlast

def pageFaults (minor childMinor major childMajor : Int) : Members :=
  [("minor_faults", .int minor), ("major_faults", .int major), ("child_minor_faults", .int childMinor),
    ("child_major_faults", .int childMajor)]

def background? (stat : List String) : Answer Bool := do
  return (← statField stat 2) != (← statField stat 5)

def pageFaults? (stat : List String) : Answer Members := do
  return pageFaults (← statInt stat 7) (← statInt stat 8) (← statInt stat 9) (← statInt stat 10)

def Gives (x : Answer α) (P : α → Prop) : Prop := ∀ a, x = .ok a → P a

theorem Gives.bind {x : Answer α} {g : α → Answer β} {P : β → Prop}
    (hg : ∀ a, x = .ok a → Gives (g a) P) : Gives (x >>= g) P := by
  intro b hb
  obtain ⟨a, ha, hb⟩ := exists_of_bind_eq_ok hb
  exact hg a ha b hb

structure Reported (h : Host) (p : HostProcess) (info : ProcessInfo) : Prop where
  background : readStat h p.pid >>= background? = .ok info.isBackground
  pageFaults : readStat h p.pid >>= pageFaults? = .ok info.pageFaults
  ioCounters : p.ioCounters = .ok info.ioCounters
  netIoCounters : netCounters h = .ok info.netIoCounters
  memInfo : p.memoryInfo = .ok info.memInfo
  memMaps : p.memoryMaps = .ok info.memMaps
  memPercent : p.memoryPercent >>= Quantity.toBinary64 = .ok info.memPercent
  numCtxSwitches : p.numCtxSwitches = .ok info.numCtxSwitches
  times : ∃ times, p.cpuTimes = .ok times ∧ times.all = info.times

theorem gives_processInfo (h : Host) (p : HostProcess) : Gives (processInfo h p) (Reported h p) := by
  refine .bind fun stat hstat => .bind fun children _ => .bind fun ppid _ => ?_
  refine .bind fun group hgroup => .bind fun foreground hforeground => ?_
  refine .bind fun cpuPercent _ => .bind fun cmdline _ => .bind fun numConnections _ => ?_
  refine .bind fun seconds _ => .bind fun milliseconds _ => .bind fun createTime _ => ?_
  refine .bind fun cwd _ => .bind fun exe _ => .bind fun gids _ => .bind fun ioCounters hio => ?_
  refine .bind fun netIoCounters hnet => .bind fun isRunning _ => .bind fun memInfo hmem => ?_
  refine .bind fun memMaps hmaps => .bind fun percent hpercent => .bind fun memPercent hshare => ?_
  refine .bind fun name _ => .bind fun priority _ => .bind fun nice _ => ?_
  refine .bind fun numCtxSwitches hswitches => .bind fun numFds _ => .bind fun numThreads _ => ?_
  refine .bind fun minor hminor => .bind fun major hmajor => ?_
  refine .bind fun childMinor hchildMinor => .bind fun childMajor hchildMajor => ?_
  refine .bind fun status _ => .bind fun tgid _ => .bind fun times htimes => ?_
  refine .bind fun uids _ => .bind fun username _ => .bind fun rlimit _ => ?_
  rintro info ⟨⟩
  refine ⟨?_, ?_, hio, hnet, hmem, hmaps, ?_, hswitches, times, htimes, rfl⟩
  · rw [hstat, ok_bind, background?, hgroup, hforeground]
    rfl
  · rw [hstat, ok_bind, pageFaults?, hminor, hmajor, hchildMinor, hchildMajor]
    rfl
  · rw [hpercent, ok_bind, hshare]

end Information

structure IsField (s : String) : Prop extends IsWord s where
  noParenthesis : ')' ∉ s.toList

instance (s : String) : Decidable (IsField s) :=
  decidable_of_iff (s ≠ "" ∧ s.toList.all (!isBlank ·) ∧ ')' ∉ s.toList)
    ⟨fun ⟨hne, hblank, hclosing⟩ => ⟨⟨hne, by simpa using hblank⟩, hclosing⟩,
      fun h => ⟨h.ne_empty, by simpa using h.noBlank, h.noParenthesis⟩⟩

/-- A stat file as the kernel writes it: its fields stand behind the number and the name of the process, and
nothing but blanks behind them. -/
structure StatLine where
  pid : Int
  name : String
  fields : List String
  ending : String
  isField : ∀ s ∈ fields, IsField s
  blankEnding : ∀ c ∈ ending.toList, isBlank c = true

namespace StatLine

def text (l : StatLine) : String :=
  toString l.pid ++ " (" ++ l.name ++ ") " ++ (" ".intercalate l.fields ++ l.ending)

/-- The field of a number. The kernel counts from one, and the number and the name of the process with
them. -/
def kernelField? (l : StatLine) (k : Nat) : Option String :=
  (toString l.pid :: s!"({l.name})" :: l.fields)[k - 1]?

def named (l : StatLine) (name : String) : StatLine := { l with name }

def on (l : StatLine) (h : Host) : Host :=
  { h with file := fun path => if path = statPath l.pid then .ofOctets (octets l.text) else h.file path }

structure Tells (l : StatLine) (background : Bool) (minor childMinor major childMajor : Int) : Prop where
  background : ∃ group foreground, l.kernelField? 5 = some group ∧ l.kernelField? 8 = some foreground ∧
    background = (group != foreground)
  minor : ∃ s, l.kernelField? 10 = some s ∧ Numeral.int s = .ok minor
  childMinor : ∃ s, l.kernelField? 11 = some s ∧ Numeral.int s = .ok childMinor
  major : ∃ s, l.kernelField? 12 = some s ∧ Numeral.int s = .ok major
  childMajor : ∃ s, l.kernelField? 13 = some s ∧ Numeral.int s = .ok childMajor

section Reading

variable {rest : List Char}

theorem statFields?_append (front : List Char) (h : ')' ∉ rest) :
    statFields? (String.ofList (front ++ ')' :: ' ' :: rest)) = some (words (String.ofList rest)) := by
  have hreverse : (front ++ ')' :: ' ' :: rest).reverse = (rest.reverse ++ [' ']) ++ ')' :: front.reverse := by
    simp
  have hbehind : ∀ c ∈ rest.reverse ++ [' '], (c != ')') = true := by
    intro c hc
    obtain hc | hc := List.mem_append.1 hc
    · exact bne_iff_ne.2 fun heq => h (heq ▸ List.mem_reverse.1 hc)
    · rw [List.mem_singleton.1 hc]
      rfl
  rw [statFields?, String.toList_ofList, hreverse, List.dropWhile_append_of_pos hbehind,
    List.takeWhile_append_of_pos hbehind]
  simp

theorem isBlank_of_mem_unified {ending : List Char} (h : ∀ c ∈ ending, isBlank c = true) :
    ∀ c ∈ unifyLineEnds ending, isBlank c = true := by
  intro c hc
  obtain rfl | hc := mem_unifyLineEnds hc
  · decide
  · exact h c hc

theorem not_mem_joined (l : StatLine) {c : Char} (hspace : c ≠ ' ') (h : ∀ s ∈ l.fields, c ∉ s.toList) :
    c ∉ (" ".intercalate l.fields).toList := by
  intro hc
  obtain hc | ⟨s, hs, hc⟩ := mem_of_mem_intercalate hc
  · exact hspace (by simpa using hc)
  · exact h s hs hc

theorem statFields?_text (l : StatLine) :
    statFields? (String.ofList (unifyLineEnds l.text.toList)) = some l.fields := by
  have hreturn : '\r' ∉ (" ".intercalate l.fields).toList :=
    l.not_mem_joined (by decide) fun s hs hc =>
      absurd ((l.isField s hs).noBlank _ hc) (by decide)
  have hclosing : ')' ∉ (" ".intercalate l.fields).toList :=
    l.not_mem_joined (by decide) fun s hs => (l.isField s hs).noParenthesis
  have hending := isBlank_of_mem_unified l.blankEnding
  have htext : l.text.toList = (toString l.pid ++ " (" ++ l.name).toList ++
      ')' :: ' ' :: ((" ".intercalate l.fields).toList ++ l.ending.toList) := by
    simp [text]
  have hrest : ')' ∉ (" ".intercalate l.fields).toList ++ unifyLineEnds l.ending.toList := by
    intro hc
    obtain hc | hc := List.mem_append.1 hc
    · exact hclosing hc
    · exact absurd (hending _ hc) (by decide)
  rw [htext, unifyLineEnds_append_cons (by decide) (by decide), unifyLineEnds_cons (by decide),
    unifyLineEnds_append hreturn, statFields?_append _ hrest, String.ofList_append, String.ofList_toList,
    words_intercalate (fun s hs => (l.isField s hs).toIsWord) (by rwa [String.toList_ofList])]

end Reading

section Naming

variable (l : StatLine) (h : Host) {s : ProcessStep} {pid : Int}

theorem readStat_on (hpid : statPath pid = statPath l.pid) : readStat (l.on h) pid = .ok l.fields := by
  have htext : ((l.on h).file (statPath pid)).text = .ok (String.ofList (unifyLineEnds l.text.toList)) := by
    simp only [on, if_pos hpid, File.text, File.ofOctets, ok_bind, utf8?_octets]
    rfl
  rw [readStat, htext, ok_bind, l.statFields?_text]
  rfl

theorem readStat_named (name : String) (pid : Int) :
    readStat ((l.named name).on h) pid = readStat (l.on h) pid := by
  by_cases hpid : statPath pid = statPath l.pid
  · rw [l.readStat_on h hpid, (l.named name).readStat_on h hpid]
    rfl
  · have hfile (l : StatLine) (hpid : statPath pid ≠ statPath l.pid) :
        (l.on h).file (statPath pid) = h.file (statPath pid) := if_neg hpid
    rw [readStat, readStat, hfile l hpid, hfile (l.named name) hpid]

theorem tgid_on (pid : Int) : tgid (l.on h) pid = tgid h pid := by
  have hfile : (l.on h).file (statusPath pid) = h.file (statusPath pid) :=
    if_neg (statusPath_ne_statPath pid l.pid)
  rw [tgid, tgid, hfile]

theorem processInfo_named (name : String) (p : HostProcess) :
    processInfo ((l.named name).on h) p = processInfo (l.on h) p := by
  rw [processInfo, processInfo, l.readStat_named h name, tgid_on, tgid_on]
  rfl

theorem process_named (name address : String) :
    process address ((l.named name).on h) = process address (l.on h) := by
  have hinfo : processInfo ((l.named name).on h) = processInfo (l.on h) :=
    funext (l.processInfo_named h name)
  rw [process, process, hinfo]
  rfl

theorem fault?_on (hs : s.readsStat = false) : s.fault? (l.on h) = s.fault? h := by
  have hstep : s.faultIn? (l.on h) = s.faultIn? h := by
    funext p
    cases s with
    | tgid => exact congrArg Collect.fault? (l.tgid_on h p.pid)
    | statFile | processGroup | foregroundGroup | minorFaults | majorFaults | childMinorFaults
    | childMajorFaults => cases hs
    | _ => rfl
  rw [ProcessStep.fault?, ProcessStep.fault?, hstep]
  rfl

end Naming

section Counting

variable {l : StatLine} {h : Host} {p : HostProcess} {s : ProcessStep} {background : Bool}
  {minor childMinor major childMajor : Int} {i : Nat}

theorem statField_of_kernelField? {field : String} (hfield : l.kernelField? (i + 3) = some field) :
    statField l.fields i = .ok field := by
  have hget : l.fields[i]? = some field := hfield
  rw [statField, hget]

theorem statInt_of_kernelField? {n : Int}
    (hfield : ∃ s, l.kernelField? (i + 3) = some s ∧ Numeral.int s = .ok n) : statInt l.fields i = .ok n := by
  obtain ⟨s, hs, hn⟩ := hfield
  rw [statInt, statField_of_kernelField? hs, ok_bind, intOfText, hn]

theorem Tells.background?_eq (ht : l.Tells background minor childMinor major childMajor) :
    background? l.fields = .ok background := by
  obtain ⟨group, foreground, hgroup, hforeground, rfl⟩ := ht.background
  rw [background?, statField_of_kernelField? hgroup, statField_of_kernelField? hforeground]
  rfl

theorem Tells.pageFaults?_eq (ht : l.Tells background minor childMinor major childMajor) :
    pageFaults? l.fields = .ok (pageFaults minor childMinor major childMajor) := by
  rw [pageFaults?, statInt_of_kernelField? ht.minor, statInt_of_kernelField? ht.childMinor,
    statInt_of_kernelField? ht.major, statInt_of_kernelField? ht.childMajor]
  rfl

theorem Tells.fault?_on (ht : l.Tells background minor childMinor major childMajor) (hp : h.process = .ok p)
    (hpid : p.pid = l.pid) (hs : s.readsStat = true) : s.fault? (l.on h) = none := by
  have hprocess : (l.on h).process = .ok p := hp
  have hstat := l.readStat_on h (congrArg statPath hpid)
  obtain ⟨group, foreground, hgroup, hforeground, -⟩ := ht.background
  rw [ProcessStep.fault?, hprocess]
  -- what each of them reads
  have hreads {α : Type} {x : List String → Answer α} {a : α} (hx : x l.fields = .ok a) :
      Collect.fault? (readStat (l.on h) p.pid >>= x) = none :=
    fault?_eq_none_iff.2 ⟨a, by rw [hstat, ok_bind, hx]⟩
  cases s with
  | statFile => exact fault?_eq_none_iff.2 ⟨_, hstat⟩
  | processGroup => exact hreads (statField_of_kernelField? hgroup)
  | foregroundGroup => exact hreads (statField_of_kernelField? hforeground)
  | minorFaults => exact hreads (statInt_of_kernelField? ht.minor)
  | majorFaults => exact hreads (statInt_of_kernelField? ht.major)
  | childMinorFaults => exact hreads (statInt_of_kernelField? ht.childMinor)
  | childMajorFaults => exact hreads (statInt_of_kernelField? ht.childMajor)
  | _ => cases hs

theorem Tells.exists_info (ht : l.Tells background minor childMinor major childMajor) (hp : h.process = .ok p)
    (hpid : p.pid = l.pid) (hrest : ∀ s : ProcessStep, s.readsStat = false → s.fault? h = none)
    (address : String) : ∃ info, process address (l.on h) = .ok ⟨.success address info, []⟩ ∧
      info.isBackground = background ∧ info.pageFaults = pageFaults minor childMinor major childMajor := by
  have hall (s : ProcessStep) : s.fault? (l.on h) = none := by
    cases hs : s.readsStat with
    | true => exact ht.fault?_on hp hpid hs
    | false => rw [l.fault?_on h hs, hrest s hs]
  obtain ⟨info, hinfo⟩ := exists_info_of_fault?_eq_none hall
  have hprocess : processInfo (l.on h) p = .ok info := by
    rwa [show (l.on h).process = .ok p from hp, ok_bind] at hinfo
  have hreported := gives_processInfo (l.on h) p info hprocess
  have hbackground := hreported.background
  have hfaults := hreported.pageFaults
  rw [l.readStat_on h (congrArg statPath hpid), ok_bind] at hbackground hfaults
  refine ⟨info, ?_, ?_, ?_⟩
  · rw [process, hinfo]
    rfl
  · exact Except.ok.inj (hbackground.symm.trans ht.background?_eq)
  · exact Except.ok.inj (hfaults.symm.trans ht.pageFaults?_eq)

end Counting

structure IgnoresName (l : StatLine) (h : Host) : Prop where
  fields (name : String) : readStat ((l.named name).on h) l.pid = .ok l.fields
  alike (name address : String) : process address ((l.named name).on h) = process address (l.on h)
  told {p : HostProcess} {background : Bool} {minor childMinor major childMajor : Int} :
    l.Tells background minor childMinor major childMajor → h.process = .ok p → p.pid = l.pid →
      (∀ s : ProcessStep, s.readsStat = false → s.fault? h = none) →
        ∀ name address : String, ∃ info,
          process address ((l.named name).on h) = .ok ⟨.success address info, []⟩ ∧
            info.isBackground = background ∧
              info.pageFaults = pageFaults minor childMinor major childMajor

theorem ignoresName (l : StatLine) (h : Host) : l.IgnoresName h where
  fields name := (l.named name).readStat_on h rfl
  alike := l.process_named h
  told ht hp hpid hrest name address := by
    rw [l.process_named h name address]
    exact ht.exists_info hp hpid hrest address

def init : StatLine where
  pid := 1
  name := "init"
  fields := ["S", "0", "1", "1", "0", "-1", "4194560", "10", "20", "30", "40", "5", "6"]
  ending := "\n"
  isField := by decide +kernel
  blankEnding := List.all_eq_true.1 (by decide)

theorem tells_init : init.Tells true 10 20 30 40 where
  background := ⟨"1", "-1", rfl, rfl, rfl⟩
  minor := ⟨"10", rfl, by decide +kernel⟩
  childMinor := ⟨"20", rfl, by decide +kernel⟩
  major := ⟨"30", rfl, by decide +kernel⟩
  childMajor := ⟨"40", rfl, by decide +kernel⟩

theorem fault?_init : ∀ s ∈ ProcessStep.all, s.readsStat = false →
    s.fault? (hostOf (initProcess (.decimal 0)) initStat) = none := by
  decide +kernel

/-- A name that looks like another line of fields, in front of the true one. -/
theorem ignoresName_imitation :
    (init.named "init) R 1 2 2 0 2 0 7 7 7 7\n2 (sh").text =
        "1 (init) R 1 2 2 0 2 0 7 7 7 7\n2 (sh) S 0 1 1 0 -1 4194560 10 20 30 40 5 6\n" ∧
      ∃ info, process "node-1" ((init.named "init) R 1 2 2 0 2 0 7 7 7 7\n2 (sh").on
          (hostOf (initProcess (.decimal 0)) initStat)) = .ok ⟨.success "node-1" info, []⟩ ∧
        info.isBackground = true ∧ info.pageFaults = pageFaults 10 20 30 40 :=
  ⟨rfl, (init.ignoresName _).told tells_init rfl rfl (fun s => fault?_init s s.mem_all) _ _⟩

end StatLine

end ClusterHealth.Collect
