import ClusterHealth.Proofs.Collect.ProcessEscapes

/-!
The steps of the collection of the running process, and the first of them that fails. It alone decides what
becomes of the collection, but for the lookups of the children and of the parent, which may fail as
providers do. Only a time of creation that is no number, or an infinite one in milliseconds, is not
reported as the fault that it is.
-/

namespace ClusterHealth.Collect

open ClusterHealth.Metric

section Steps

def fault? : Answer α → Option Fault
  | .ok _ => none
  | .error f => some f

def tolerated? (x : Answer α) : Option Fault := (fault? x).filter (·.family != .provider)

/-- Steps one after the other: what comes of them is the first of these faults. -/
def Follows (x : Answer α) (faults : List (Option Fault)) : Prop := fault? x = faults.findSome? id

variable {x : Answer α} {f : Fault} {o : Option Fault} {faults : List (Option Fault)}

theorem fault?_eq_some_iff : fault? x = some f ↔ x = .error f := by
  cases x <;> simp [fault?]

theorem fault?_eq_none_iff : fault? x = none ↔ ∃ a, x = .ok a := by
  cases x <;> simp [fault?]

theorem fault?_orElse (default : α) (x : Answer α) : fault? (orElse default x) = tolerated? x := by
  cases x with
  | ok a => rfl
  | error f =>
    by_cases hf : f.family = .provider <;> simp [orElse, tolerated?, fault?, Option.filter, hf]

theorem follows_ok (a : α) : Follows (.ok a) [] := rfl

theorem Follows.bind {g : α → Answer β} (hx : fault? x = o) (hg : ∀ a, x = .ok a → Follows (g a) faults) :
    Follows (x >>= g) (o :: faults) := by
  subst hx
  cases x with
  | error f => rfl
  | ok a => exact hg a rfl

theorem Follows.join {y : α → Answer β} {g : β → Answer γ} (h : Follows (x >>= y >>= g) faults) :
    Follows (x >>= fun a => y a >>= g) faults := by
  rwa [← bind_assoc]

theorem fault?_bind_of_eq_ok {a : α} (hx : x = .ok a) (g : α → Answer β) :
    fault? (g a) = fault? (x >>= g) := by
  rw [hx]
  rfl

end Steps

/-- The steps of the collection, in the order in which they are taken. The groups of the process and of its
terminal tell whether it runs in the background, and the faults are those of its pages. -/
inductive ProcessStep
  | lookup
  | statFile
  | children
  | parent
  | processGroup
  | foregroundGroup
  | cpuPercent
  | cmdline
  | netConnections
  | createTime
  | cwd
  | exe
  | gids
  | ioCounters
  | netIoCounters
  | isRunning
  | memoryInfo
  | memoryMaps
  | memoryPercent
  | name
  | nice
  | numCtxSwitches
  | numFds
  | numThreads
  | minorFaults
  | majorFaults
  | childMinorFaults
  | childMajorFaults
  | status
  | tgid
  | times
  | uids
  | username
  | limits
deriving DecidableEq

namespace ProcessStep

def all : List ProcessStep :=
  [lookup, statFile, children, parent, processGroup, foregroundGroup, cpuPercent, cmdline,
    netConnections, createTime, cwd, exe, gids, ioCounters, netIoCounters, isRunning, memoryInfo,
    memoryMaps, memoryPercent, name, nice, numCtxSwitches, numFds, numThreads, minorFaults, majorFaults,
    childMinorFaults, childMajorFaults, status, tgid, times, uids, username, limits]

theorem mem_all (s : ProcessStep) : s ∈ all := by
  cases s <;> decide

def readsStat : ProcessStep → Bool
  | statFile | processGroup | foregroundGroup | minorFaults | majorFaults | childMinorFaults
  | childMajorFaults => true
  | _ => false

def readsText (s : ProcessStep) : Bool := s.readsStat || s == tgid

def faultIn? (h : Host) (p : HostProcess) : ProcessStep → Option Fault
  | lookup => none
  | statFile => Collect.fault? (readStat h p.pid)
  | children => tolerated? p.children
  | parent => tolerated? p.ppid
  | processGroup => Collect.fault? (readStat h p.pid >>= (statField · 2))
  | foregroundGroup => Collect.fault? (readStat h p.pid >>= (statField · 5))
  | cpuPercent => Collect.fault? (Collect.cpuPercent h p)
  | cmdline => Collect.fault? p.cmdline
  | netConnections => Collect.fault? p.netConnections
  | createTime => Collect.fault? (p.createTime >>= (Quantity.mul · (.whole 1000)) >>= Quantity.toInt)
  | cwd => Collect.fault? p.cwd
  | exe => Collect.fault? p.exe
  | gids => Collect.fault? p.gids
  | ioCounters => Collect.fault? p.ioCounters
  | netIoCounters => Collect.fault? (netCounters h)
  | isRunning => Collect.fault? p.isRunning
  | memoryInfo => Collect.fault? p.memoryInfo
  | memoryMaps => Collect.fault? p.memoryMaps
  | memoryPercent => Collect.fault? (p.memoryPercent >>= Quantity.toBinary64)
  | name => Collect.fault? p.name
  | nice => Collect.fault? (p.nice >>= Quantity.toInt)
  | numCtxSwitches => Collect.fault? p.numCtxSwitches
  | numFds => Collect.fault? p.numFds
  | numThreads => Collect.fault? p.numThreads
  | minorFaults => Collect.fault? (readStat h p.pid >>= (statInt · 7))
  | majorFaults => Collect.fault? (readStat h p.pid >>= (statInt · 9))
  | childMinorFaults => Collect.fault? (readStat h p.pid >>= (statInt · 8))
  | childMajorFaults => Collect.fault? (readStat h p.pid >>= (statInt · 10))
  | status => Collect.fault? p.status
  | tgid => Collect.fault? (Collect.tgid h p.pid)
  | times => Collect.fault? p.cpuTimes
  | uids => Collect.fault? p.uids
  | username => Collect.fault? p.username
  | limits => Collect.fault? (resourceLimits h p)

def fault? (h : Host) (s : ProcessStep) : Option Fault :=
  match h.process with
  | .error f => some f
  | .ok p => s.faultIn? h p

end ProcessStep

def FailsFirst (h : Host) (s : ProcessStep) (f : Fault) : Prop :=
  ∃ before after, ProcessStep.all = before ++ s :: after ∧ (∀ t ∈ before, t.fault? h = none) ∧
    s.fault? h = some f

section Order

variable {h : Host} {p : HostProcess} {s : ProcessStep} {f : Fault}

theorem follows_processInfo (h : Host) (p : HostProcess) :
    Follows (processInfo h p) (ProcessStep.all.map (·.faultIn? h p)) := by
  -- the lookup of the process is behind it
  have hsteps : Follows (processInfo h p) ((ProcessStep.all.drop 1).map (·.faultIn? h p)) := by
    refine .bind rfl fun stat hstat => ?_
    refine .bind (fault?_orElse [] p.children) fun children _ => ?_
    refine .bind (fault?_orElse 0 p.ppid) fun ppid _ => ?_
    refine .bind (fault?_bind_of_eq_ok hstat (statField · 2)) fun group _ => ?_
    refine .bind (fault?_bind_of_eq_ok hstat (statField · 5)) fun foreground _ => ?_
    refine .bind rfl fun cpuPercent _ => ?_
    refine .bind rfl fun cmdline _ => ?_
    refine .bind rfl fun numConnections _ => ?_
    refine .join (.join (.bind rfl fun createTime _ => ?_))
    refine .bind rfl fun cwd _ => ?_
    refine .bind rfl fun exe _ => ?_
    refine .bind rfl fun gids _ => ?_
    refine .bind rfl fun ioCounters _ => ?_
    refine .bind rfl fun netIoCounters _ => ?_
    refine .bind rfl fun isRunning _ => ?_
    refine .bind rfl fun memInfo _ => ?_
    refine .bind rfl fun memMaps _ => ?_
    refine .join (.bind rfl fun memPercent _ => ?_)
    refine .bind rfl fun name _ => ?_
    refine .join (.bind rfl fun nice _ => ?_)
    refine .bind rfl fun numCtxSwitches _ => ?_
    refine .bind rfl fun numFds _ => ?_
    refine .bind rfl fun numThreads _ => ?_
    refine .bind (fault?_bind_of_eq_ok hstat (statInt · 7)) fun minor _ => ?_
    refine .bind (fault?_bind_of_eq_ok hstat (statInt · 9)) fun major _ => ?_
    refine .bind (fault?_bind_of_eq_ok hstat (statInt · 8)) fun childMinor _ => ?_
    refine .bind (fault?_bind_of_eq_ok hstat (statInt · 10)) fun childMajor _ => ?_
    refine .bind rfl fun status _ => ?_
    refine .bind rfl fun tgid _ => ?_
    refine .bind rfl fun times _ => ?_
    refine .bind rfl fun uids _ => ?_
    refine .bind rfl fun username _ => ?_
    refine .bind rfl fun rlimit _ => ?_
    exact follows_ok _
  exact hsteps

theorem fault?_process (h : Host) :
    fault? (h.process >>= processInfo h) = ProcessStep.all.findSome? (·.fault? h) := by
  cases hp : h.process with
  | error f =>
    have hlookup : ProcessStep.lookup.fault? h = some f := by rw [ProcessStep.fault?, hp]
    rw [ProcessStep.all, List.findSome?_cons, hlookup]
    rfl
  | ok p =>
    have hsteps : ∀ s : ProcessStep, s.fault? h = s.faultIn? h p := fun s => by
      rw [ProcessStep.fault?, hp]
    have hfollows := follows_processInfo h p
    rw [Follows, List.findSome?_map] at hfollows
    simp only [hsteps]
    exact hfollows

theorem FailsFirst.process_eq (hs : FailsFirst h s f) : h.process >>= processInfo h = .error f := by
  obtain ⟨before, after, hall, hbefore, hf⟩ := hs
  rw [← fault?_eq_some_iff, fault?_process, List.findSome?_eq_some_iff]
  exact ⟨before, s, after, hall, hf, hbefore⟩

theorem exists_info_of_fault?_eq_none (hall : ∀ s : ProcessStep, s.fault? h = none) :
    ∃ info, h.process >>= processInfo h = .ok info := by
  rw [← fault?_eq_none_iff, fault?_process, List.findSome?_eq_none_iff]
  exact fun s _ => hall s

end Order

section Decisions

variable {h : Host} {p : HostProcess} {s : ProcessStep} {f : Fault} {address : String}

def unreadable (f : Fault) : Fault := ⟨.system, "unreadable process stat: " ++ f.text⟩

inductive Refusal : ProcessStep → Fault → Prop
  | provider {s : ProcessStep} {f : Fault} : isExpected f = true → Refusal s f
  | text {s : ProcessStep} {f : Fault} : s.readsText = true → f.family = .value ∨ f.family = .index →
      Refusal s f
  | undated : Refusal .createTime Quantity.notANumberFault
  | endless : Refusal .createTime Quantity.infiniteFault

theorem Refusal.of_caught {x : Answer α} (hx : Caught isExpected x) (hf : fault? x = some f) :
    Refusal s f :=
  .provider (hx f (fault?_eq_some_iff.1 hf))

theorem Refusal.of_tolerated {x : Answer α} (hx : Caught isExpected x) (hf : tolerated? x = some f) :
    Refusal s f :=
  .of_caught hx (Option.eq_some_of_filter_eq_some hf)

theorem Refusal.of_settled {x : Answer α} (hs : s.readsText = true) (hx : Caught isSettled x)
    (hf : fault? x = some f) : Refusal s f := by
  have hsettled := hx f (fault?_eq_some_iff.1 hf)
  unfold isSettled asSystemFault at hsettled
  split at hsettled
  · next hvalue => exact .text hs (.inl hvalue)
  · next hindex => exact .text hs (.inr hindex)
  · exact .provider hsettled

theorem eq_of_toInt_eq_error {q : Quantity} (hf : q.toInt = .error f) :
    f = Quantity.notANumberFault ∨ f = Quantity.infiniteFault := by
  unfold Quantity.toInt at hf
  split at hf
  · cases hf
  · split at hf
    · cases hf
    · obtain rfl := Except.error.inj hf
      split
      · exact .inl rfl
      · exact .inr rfl

theorem refusal_of_createTime (hp : p.Documented)
    (hf : ProcessStep.createTime.faultIn? h p = some f) : Refusal .createTime f := by
  have hx : p.createTime >>= (Quantity.mul · (.whole 1000)) >>= Quantity.toInt = .error f :=
    fault?_eq_some_iff.1 hf
  cases hq : p.createTime with
  | error e =>
    rw [hq] at hx
    obtain rfl := Except.error.inj hx
    exact .provider (hp.createTime.faults e hq)
  | ok q =>
    obtain ⟨ms, hms⟩ := exists_mul_thousand (hp.createTime.typed q hq)
    rw [hq, ok_bind, hms, ok_bind] at hx
    obtain rfl | rfl := eq_of_toInt_eq_error hx
    · exact .undated
    · exact .endless

theorem refusal_of_fault? (hd : h.Documented) (hf : s.fault? h = some f) : Refusal s f := by
  unfold ProcessStep.fault? at hf
  split at hf
  · next e he =>
    obtain rfl := Option.some.inj hf
    exact .provider (hd.process.faults e he)
  next p hprocess =>
  have hp : p.Documented := hd.process.typed p hprocess
  have hfield (i : Nat) : Caught isSettled (readStat h p.pid >>= (statField · i)) :=
    (caught_readStat hd p.pid).bind fun stat _ => caught_statField stat i
  have hcount (i : Nat) : Caught isSettled (readStat h p.pid >>= (statInt · i)) :=
    (caught_readStat hd p.pid).bind fun stat _ => caught_statInt stat i
  cases s with
  | lookup => cases hf
  | statFile => exact .of_settled rfl (caught_readStat hd p.pid) hf
  | children => exact .of_tolerated hp.children.faults hf
  | parent => exact .of_tolerated hp.ppid.faults hf
  | processGroup => exact .of_settled rfl (hfield 2) hf
  | foregroundGroup => exact .of_settled rfl (hfield 5) hf
  | cpuPercent => exact .of_caught (caught_cpuPercent hd hp) hf
  | cmdline => exact .of_caught hp.cmdline.faults hf
  | netConnections => exact .of_caught hp.netConnections.faults hf
  | createTime => exact refusal_of_createTime hp hf
  | cwd => exact .of_caught hp.cwd.faults hf
  | exe => exact .of_caught hp.exe.faults hf
  | gids => exact .of_caught hp.gids.faults hf
  | ioCounters => exact .of_caught hp.ioCounters.faults hf
  | netIoCounters => exact .of_caught (caught_netCounters hd) hf
  | isRunning => exact .of_caught hp.isRunning.faults hf
  | memoryInfo => exact .of_caught hp.memoryInfo.faults hf
  | memoryMaps => exact .of_caught hp.memoryMaps.faults hf
  | memoryPercent =>
    have hpercent : Caught isExpected (p.memoryPercent >>= Quantity.toBinary64) :=
      hp.memoryPercent.faults.bind fun q hq =>
        caught_of_eq_ok (toBinary64_of_isDecimal (hp.memoryPercent.typed q hq))
    exact .of_caught hpercent hf
  | name => exact .of_caught hp.name.faults hf
  | nice =>
    have hnice : Caught isExpected (p.nice >>= Quantity.toInt) :=
      hp.nice.faults.bind fun q hq => caught_of_eq_ok (toInt_of_isWhole (hp.nice.typed q hq))
    exact .of_caught hnice hf
  | numCtxSwitches => exact .of_caught hp.numCtxSwitches.faults hf
  | numFds => exact .of_caught hp.numFds.faults hf
  | numThreads => exact .of_caught hp.numThreads.faults hf
  | minorFaults => exact .of_settled rfl (hcount 7) hf
  | majorFaults => exact .of_settled rfl (hcount 9) hf
  | childMinorFaults => exact .of_settled rfl (hcount 8) hf
  | childMajorFaults => exact .of_settled rfl (hcount 10) hf
  | status => exact .of_caught hp.status.faults hf
  | tgid => exact .of_settled rfl (caught_tgid hd p.pid) hf
  | times => exact .of_caught hp.cpuTimes.faults hf
  | uids => exact .of_caught hp.uids.faults hf
  | username => exact .of_caught hp.username.faults hf
  | limits => exact .of_caught (caught_resourceLimits hp) hf

/-- What becomes of the collection by its first fault: a failure that explains itself, and for a text that
cannot be understood says so. A time of creation that is no number is taken for such a text, and an infinite
one comes out of the collection. -/
inductive Decided (address : String) : ProcessStep → Fault → Answer (Collected ProcessInfo) → Prop
  | refused {s : ProcessStep} {f : Fault} : isExpected f = true →
      Decided address s f (.ok ⟨.failure address f.describe, [warning "process" address f]⟩)
  | unreadable {s : ProcessStep} {f : Fault} : s.readsText = true →
      f.family = .value ∨ f.family = .index →
      Decided address s f (.ok ⟨.failure address ("unreadable process stat: " ++ f.text),
        [warning "process" address (unreadable f)]⟩)
  | undated : Decided address .createTime Quantity.notANumberFault
      (.ok ⟨.failure address "unreadable process stat: cannot convert float NaN to integer",
        [warning "process" address (unreadable Quantity.notANumberFault)]⟩)
  | endless : Decided address .createTime Quantity.infiniteFault (.error Quantity.infiniteFault)

theorem describe_unreadable (f : Fault) :
    (unreadable f).describe = "unreadable process stat: " ++ f.text := by
  have hne : (unreadable f).text ≠ "" := AnyText.plain_append_ne_empty (by decide) f.text
  rw [Fault.describe, if_neg hne]
  rfl

theorem asSystemFault_of_isExpected (hf : isExpected f = true) : asSystemFault f = f := by
  unfold isExpected at hf
  unfold asSystemFault
  split
  · next hvalue =>
    rw [hvalue] at hf
    cases hf
  · next hindex =>
    rw [hindex] at hf
    cases hf
  · rfl

theorem asSystemFault_of_text (hf : f.family = .value ∨ f.family = .index) :
    asSystemFault f = unreadable f := by
  rw [asSystemFault]
  obtain hvalue | hindex := hf
  · rw [hvalue]
    rfl
  · rw [hindex]
    rfl

theorem settle_of_isExpected (hf : isExpected f = true) : settle "process" address (.error f) =
    (.ok ⟨.failure address f.describe, [warning "process" address f]⟩ : Answer (Collected ProcessInfo)) := by
  rw [settle, if_pos hf]
  rfl

theorem Refusal.decided (hf : Refusal s f) :
    Decided address s f (settle "process" address (.error (asSystemFault f))) := by
  have htext : isExpected (unreadable f) = true := rfl
  cases hf with
  | provider hf =>
    rw [asSystemFault_of_isExpected hf, settle_of_isExpected hf]
    exact .refused hf
  | text hs hf =>
    rw [asSystemFault_of_text hf, settle_of_isExpected htext, describe_unreadable]
    exact .unreadable hs hf
  | undated => exact .undated
  | endless => exact .endless

theorem process_of_error (hf : h.process >>= processInfo h = .error f) (address : String) :
    process address h = settle "process" address (.error (asSystemFault f)) := by
  rw [process, hf]
  rfl

def withProcess (h : Host) (p : HostProcess) : Host := { h with process := .ok p }

structure DecidedFirst (address : String) (h : Host) : Prop where
  childless {p : HostProcess} {f : Fault} : h.process = .ok p → p.children = .error f →
    f.family = .provider →
      process address h = process address (withProcess h { p with children := .ok [] })
  parentless {p : HostProcess} {f : Fault} : h.process = .ok p → p.ppid = .error f →
    f.family = .provider →
      process address h = process address (withProcess h { p with ppid := .ok 0 })
  decided {s : ProcessStep} {f : Fault} : FailsFirst h s f → Decided address s f (process address h)
  alone {other : Host} {s : ProcessStep} {f : Fault} : FailsFirst h s f → FailsFirst other s f →
    process address other = process address h
  complete : (∀ s : ProcessStep, s.fault? h = none) →
    ∃ info, process address h = .ok ⟨.success address info, []⟩

theorem orElse_of_provider {default : α} (hf : f.family = .provider) :
    orElse default (.error f) = .ok default := if_pos hf

theorem processInfo_childless (hf : p.children = .error f) (hprovider : f.family = .provider) :
    processInfo (withProcess h { p with children := .ok [] }) { p with children := .ok [] } =
      processInfo h p := by
  rw [processInfo, processInfo, hf, orElse_of_provider hprovider]
  rfl

theorem processInfo_parentless (hf : p.ppid = .error f) (hprovider : f.family = .provider) :
    processInfo (withProcess h { p with ppid := .ok 0 }) { p with ppid := .ok 0 } =
      processInfo h p := by
  rw [processInfo, processInfo, hf, orElse_of_provider hprovider]
  rfl

theorem process_congr {other : Host} {q : HostProcess} (hp : h.process = .ok p) (hq : other.process = .ok q)
    (hinfo : processInfo other q = processInfo h p) (address : String) :
    process address h = process address other := by
  rw [process, process, hp, hq, ok_bind, ok_bind, hinfo]

theorem decided_first (hd : h.Documented) (address : String) : DecidedFirst address h where
  childless hp hf hprovider := process_congr hp rfl (processInfo_childless hf hprovider) address
  parentless hp hf hprovider := process_congr hp rfl (processInfo_parentless hf hprovider) address
  decided hs := by
    rw [process_of_error hs.process_eq address]
    obtain ⟨-, -, -, -, hf⟩ := hs
    exact (refusal_of_fault? hd hf).decided
  alone hs hother := by
    rw [process_of_error hs.process_eq address, process_of_error hother.process_eq address]
  complete hall := by
    obtain ⟨info, hinfo⟩ := exists_info_of_fault?_eq_none hall
    refine ⟨info, ?_⟩
    rw [process, hinfo]
    rfl

def initProcess (createTime : Quantity) : HostProcess where
  pid := 1
  children := .ok []
  ppid := .ok 0
  cmdline := .ok ["/sbin/init"]
  netConnections := .ok 0
  createTime := .ok createTime
  cwd := .ok "/"
  exe := .ok "/sbin/init"
  gids := .ok [0]
  ioCounters := .ok []
  isRunning := .ok true
  memoryInfo := .ok []
  memoryMaps := .ok []
  memoryPercent := .ok (.decimal 0)
  name := .ok "init"
  nice := .ok (.whole 0)
  numCtxSwitches := .ok []
  numFds := .ok 3
  numThreads := .ok 1
  status := .ok "sleeping"
  cpuTimes := .ok ⟨.ok (.decimal 0), .ok (.decimal 0), []⟩
  uids := .ok [0]
  username := .ok "root"
  limit := fun _ => .ok (.whole (-1), .whole (-1))

def hostOf (p : HostProcess) (stat : String) : Host :=
  { Host.ofFiles (.ok "node-1") ⟨"Linux", "6.1.0", "x86_64"⟩ (.decimal 0)
      [("/proc/1/stat", .ofOctets (Text.octets stat)),
        ("/proc/1/status", .ofOctets (Text.octets "Tgid:\t1\n"))] with
    netCounters := .ok []
    process := .ok p }

def initStat : String := "1 (init) S 0 1 1 0 -1 4194560 10 20 30 40 5 6\n"

theorem documented_initProcess (createTime : Binary64) : (initProcess (.decimal createTime)).Documented where
  children := provides_ok trivial
  ppid := provides_ok trivial
  cmdline := provides_ok trivial
  netConnections := provides_ok trivial
  createTime := provides_ok ⟨_, rfl⟩
  cwd := provides_ok trivial
  exe := provides_ok trivial
  gids := provides_ok trivial
  ioCounters := provides_ok trivial
  isRunning := provides_ok trivial
  memoryInfo := provides_ok trivial
  memoryMaps := provides_ok trivial
  memoryPercent := provides_ok ⟨_, rfl⟩
  name := provides_ok trivial
  nice := provides_ok ⟨_, rfl⟩
  numCtxSwitches := provides_ok trivial
  numFds := provides_ok trivial
  numThreads := provides_ok trivial
  status := provides_ok trivial
  cpuTimes := provides_ok ⟨provides_ok ⟨_, rfl⟩, provides_ok ⟨_, rfl⟩⟩
  uids := provides_ok trivial
  username := provides_ok trivial
  limit _ := provides_ok ⟨⟨_, rfl⟩, ⟨_, rfl⟩⟩

theorem documented_hostOf (hp : p.Documented) (stat : String) : (hostOf p stat).Documented := by
  have hfiles : (Host.ofFiles (.ok "node-1") ⟨"Linux", "6.1.0", "x86_64"⟩ (.decimal 0)
      [("/proc/1/stat", .ofOctets (Text.octets stat)),
        ("/proc/1/status", .ofOctets (Text.octets "Tgid:\t1\n"))]).Documented := by
    apply Host.documented_ofFiles
    · decide +kernel
    · intro m hm
      obtain rfl | hm := List.mem_cons.1 hm
      · exact ⟨nofun, nofun⟩
      · obtain rfl := List.mem_singleton.1 hm
        exact ⟨nofun, nofun⟩
  exact { hfiles with
    netCounters := provides_ok trivial
    process := provides_ok hp }

def secretiveProcess : HostProcess :=
  { initProcess (.decimal 0) with
    children := .error (.raised .accessDenied [.int 1])
    cwd := .error (.raised .noSuchProcess [.int 1])
    exe := .error (Host.missingMethod "exe") }

theorem failsFirst_secretiveProcess :
    FailsFirst (hostOf secretiveProcess initStat) .cwd (.raised .noSuchProcess [.int 1]) :=
  ⟨ProcessStep.all.take 10, ProcessStep.all.drop 11, rfl, by decide +kernel, by decide +kernel⟩

theorem documented_secretiveProcess : secretiveProcess.Documented :=
  { documented_initProcess 0 with
    children := provides_error (by decide +kernel)
    cwd := provides_error (by decide +kernel)
    exe := provides_error (by decide +kernel) }

theorem decided_first_secretiveProcess : (hostOf secretiveProcess initStat).Documented ∧
    FailsFirst (hostOf secretiveProcess initStat) .cwd (.raised .noSuchProcess [.int 1]) ∧
      ∃ log, process "node-1" (hostOf secretiveProcess initStat) =
        .ok ⟨.failure "node-1" "process no longer exists (pid=1)", log⟩ := by
  have hd := documented_hostOf documented_secretiveProcess initStat
  have hs := failsFirst_secretiveProcess
  refine ⟨hd, hs, ?_⟩
  have hdecided := (decided_first hd "node-1").decided hs
  generalize process "node-1" (hostOf secretiveProcess initStat) = answer at hdecided
  cases hdecided with
  | refused => exact ⟨_, rfl⟩
  | unreadable hreads => cases hreads

/-- A time of creation that is finite in seconds and infinite in milliseconds: no question is refused, and
yet the collection ends without a snapshot. -/
theorem process_raises_of_endless :
    (hostOf (initProcess (.decimal (.ofDecimal false 1 306))) initStat).Documented ∧
      process "node-1" (hostOf (initProcess (.decimal (.ofDecimal false 1 306))) initStat) =
        .error ⟨.overflow, "cannot convert float infinity to integer"⟩ := by
  have hs : FailsFirst (hostOf (initProcess (.decimal (.ofDecimal false 1 306))) initStat) .createTime
      Quantity.infiniteFault :=
    ⟨ProcessStep.all.take 9, ProcessStep.all.drop 10, rfl, by decide +kernel, by decide +kernel⟩
  exact ⟨documented_hostOf (documented_initProcess _) initStat, process_of_error hs.process_eq "node-1"⟩

end Decisions

end ClusterHealth.Collect
