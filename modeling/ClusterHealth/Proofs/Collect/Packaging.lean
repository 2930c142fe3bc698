import ClusterHealth.Collect.Cpus
import ClusterHealth.Host.Files
import ClusterHealth.Proofs.EntryLaws
import ClusterHealth.Proofs.Results
import Mathlib.Algebra.BigOperators.Group.List.Basic
import Mathlib.Algebra.Ring.Int.Defs
import Mathlib.Data.List.Induction
import Mathlib.Data.Nat.Cast.Basic

namespace ClusterHealth.Collect

open ClusterHealth.Metric ClusterHealth.Text

variable {p : Processor} {ps : List Processor} {es : Entries Package} {ids : List String}

def Processor.package (p : Processor) : String := p.field "physical id"

def inPackage (id : String) (ps : List Processor) : List Processor := ps.filter (·.package == id)

section Partition

theorem eraseDups_concat (ids : List String) (id : String) :
    (ids ++ [id]).eraseDups = if id ∈ ids then ids.eraseDups else ids.eraseDups ++ [id] := by
  rw [List.eraseDups_append]
  by_cases h : id ∈ ids <;> simp [List.removeAll, h, List.eraseDups_cons]

theorem names_put_eraseDups {α : Type} {es : Entries α} {id : String} {v : α}
    (h : Entries.names es = ids.eraseDups) : Entries.names (es.put id v) = (ids ++ [id]).eraseDups := by
  have hmem : id ∈ Entries.names es ↔ id ∈ ids := by rw [h, List.mem_eraseDups]
  rw [eraseDups_concat]
  split
  · next hid => rw [Entries.names_put_of_mem (hmem.2 hid), h]
  · next hid =>
    rw [Entries.put_of_not_mem (mt hmem.1 hid), Entries.names, List.map_append, ← h]
    rfl

theorem perm_flatMap_inPackage (hids : ids.Nodup) (hps : ∀ p ∈ ps, p.package ∈ ids) :
    (ids.flatMap (inPackage · ps)).Perm ps := by
  induction ids generalizing ps with
  | nil =>
    have hnone : ps = [] := List.eq_nil_iff_forall_not_mem.2 fun p hp => List.not_mem_nil (hps p hp)
    rw [hnone]
    rfl
  | cons id ids ih =>
    obtain ⟨hid, hids⟩ := List.nodup_cons.1 hids
    -- what the other packages have of all processors they have of those outside the first package
    have hothers : ids.flatMap (inPackage · ps) =
        ids.flatMap (inPackage · (ps.filter fun p => !(p.package == id))) := by
      refine List.flatMap_congr fun i hi => ?_
      have hne : i ≠ id := ne_of_mem_of_not_mem hi hid
      rw [inPackage, inPackage, List.filter_filter]
      refine List.filter_congr fun p _ => ?_
      by_cases hp : p.package = i <;> simp [hp, hne]
    rw [List.flatMap_cons, hothers]
    refine ((ih hids fun p hp => ?_).append_left _).trans (List.filter_append_perm _ ps)
    obtain ⟨hp, hne⟩ := List.mem_filter.1 hp
    exact List.mem_of_ne_of_mem (by simpa using hne) (hps p hp)

end Partition

section Gathering

def gather (es : Entries Package) (p : Processor) : Entries Package :=
  match es.get? p.package with
  | none => Entries.put p.package (p, 1) es
  | some (first, n) => Entries.put p.package (first, n + 1) es

theorem packages_eq_foldl (ps : List Processor) : packages ps = ps.foldl gather [] := rfl

structure Grouped (ps : List Processor) (es : Entries Package) : Prop where
  names : Entries.names es = (ps.map Processor.package).eraseDups
  nodup : (Entries.names es).Nodup
  groups : ∀ id, es.get? id =
    (inPackage id ps).head?.map fun first => (first, (inPackage id ps).length)

theorem Grouped.exists_put (h : Grouped ps es) (p : Processor) : ∃ first n,
    gather es p = Entries.put p.package (first, n) es ∧
      (inPackage p.package (ps ++ [p])).head? = some first ∧
      (inPackage p.package (ps ++ [p])).length = n := by
  have hgroup : inPackage p.package (ps ++ [p]) = inPackage p.package ps ++ [p] := by simp [inPackage]
  rw [gather, h.groups, hgroup]
  cases inPackage p.package ps with
  | nil => exact ⟨p, 1, rfl, rfl, rfl⟩
  | cons first others => exact ⟨first, _, rfl, rfl, by simp⟩

theorem Grouped.gather (h : Grouped ps es) (p : Processor) : Grouped (ps ++ [p]) (gather es p) := by
  obtain ⟨first, n, hput, hfirst, hn⟩ := h.exists_put p
  rw [hput]
  constructor
  · rw [List.map_append]
    exact names_put_eraseDups h.names
  · exact Entries.nodup_names_put h.nodup
  · intro id
    by_cases hid : id = p.package
    · subst hid
      rw [Entries.get?_put, hfirst, hn]
      rfl
    · have hgroup : inPackage id (ps ++ [p]) = inPackage id ps := by simp [inPackage, Ne.symm hid]
      rw [Entries.get?_put_of_ne hid, hgroup, h.groups]

theorem grouped_packages (ps : List Processor) : Grouped ps (packages ps) := by
  rw [packages_eq_foldl]
  induction ps using List.reverseRecOn with
  | nil => exact ⟨rfl, List.nodup_nil, fun _ => rfl⟩
  | append_singleton ps p ih =>
    rw [List.foldl_append, List.foldl_cons, List.foldl_nil]
    exact ih.gather p

theorem Grouped.of_mem {e : String × Package} (h : Grouped ps es) (he : e ∈ es) :
    (inPackage e.1 ps).head? = some e.2.1 ∧ (inPackage e.1 ps).length = e.2.2 := by
  have hget := h.groups e.1
  rw [Entries.get?_of_mem h.nodup he] at hget
  obtain ⟨first, hfirst, heq⟩ := Option.map_eq_some_iff.1 hget.symm
  rw [← heq]
  exact ⟨hfirst, rfl⟩

theorem package_of_head? {id : String} (h : (inPackage id ps).head? = some p) : p.package = id := by
  have hp : p ∈ inPackage id ps := List.mem_of_mem_head? h
  simpa [inPackage] using (List.mem_filter.1 hp).2

end Gathering

section Records

inductive ReadsInt (value : String) : Int → Prop
  | number {w : String} {rest : List String} {n : Int} : words value = w :: rest →
      Numeral.int w = .ok n → ReadsInt value n
  | unreadable : (∀ w rest n, words value = w :: rest → Numeral.int w ≠ .ok n) → ReadsInt value 0

inductive ReadsDecimal (value : String) : Binary64 → Prop
  | number {x : Binary64} : Numeral.float? value = some x → ReadsDecimal value x
  | unreadable : Numeral.float? value = none → ReadsDecimal value 0

theorem readsInt_leadingInt (value : String) : ReadsInt value (Processor.leadingInt value) := by
  unfold Processor.leadingInt
  split
  · next hnone => exact .unreadable fun w rest n hwords => by cases hnone.symm.trans hwords
  next w rest hwords =>
  split
  · next n hn => exact .number hwords hn
  · next e he =>
    refine .unreadable fun w' rest' n hwords' hn => ?_
    cases hwords.symm.trans hwords'
    cases he.symm.trans hn

theorem readsDecimal_decimal (value : String) : ReadsDecimal value (Processor.decimal value) := by
  rw [Processor.decimal]
  cases hx : Numeral.float? value with
  | none => exact .unreadable hx
  | some x => exact .number hx

structure Processor.Tells (p : Processor) (c : Cpu) : Prop where
  vendorId : c.vendorId = p.field "vendor_id"
  family : c.family = p.field "cpu family"
  model : c.model = p.field "model"
  stepping : ReadsInt (p.field "stepping") c.stepping
  modelName : c.modelName = p.field "model name"
  mhz : ReadsDecimal (p.field "cpu mhz") c.mhz
  cacheSize : ReadsInt (p.field "cache size") c.cacheSize
  flags : c.flags = words (p.field "flags")
  microcode : c.microcode = p.field "microcode"

theorem tells_toCpu (p : Processor) (n : Nat) : p.Tells (p.toCpu n) where
  vendorId := rfl
  family := rfl
  model := rfl
  stepping := readsInt_leadingInt _
  modelName := rfl
  mhz := by
    dsimp only [Processor.toCpu]
    exact readsDecimal_decimal _
  cacheSize := readsInt_leadingInt _
  flags := rfl
  microcode := rfl

structure Describes (ps : List Processor) (cs : List Cpu) : Prop where
  ids : cs.map (·.physicalId) = (ps.map Processor.package).eraseDups
  distinct : (cs.map (·.physicalId)).Nodup
  first : ∀ c ∈ cs, ∃ p, (inPackage c.physicalId ps).head? = some p ∧ p.Tells c
  cores : ∀ c ∈ cs, c.cores = (inPackage c.physicalId ps).length
  parts : (cs.flatMap fun c => inPackage c.physicalId ps).Perm ps
  total : (cs.map (·.cores)).sum = ps.length

def recordOf (e : String × Package) : Cpu := e.2.1.toCpu e.2.2

theorem Grouped.describes (h : Grouped ps es) : Describes ps (es.map recordOf) := by
  have hid : ∀ e ∈ es, (recordOf e).physicalId = e.1 := fun e he => package_of_head? (h.of_mem he).1
  have hids : (es.map recordOf).map (·.physicalId) = Entries.names es := by
    rw [List.map_map]
    exact List.map_congr_left hid
  have hcores : ∀ c ∈ es.map recordOf, c.cores = (inPackage c.physicalId ps).length := by
    intro c hc
    obtain ⟨e, he, rfl⟩ := List.mem_map.1 hc
    rw [hid e he, (h.of_mem he).2]
    rfl
  have hparts : ((es.map recordOf).flatMap fun c => inPackage c.physicalId ps).Perm ps := by
    have hall : ∀ p ∈ ps, p.package ∈ Entries.names es := fun p hp => by
      rw [h.names, List.mem_eraseDups]
      exact List.mem_map_of_mem hp
    have hperm := perm_flatMap_inPackage h.nodup hall
    rwa [← hids, List.flatMap_map] at hperm
  refine ⟨hids.trans h.names, hids ▸ h.nodup, fun c hc => ?_, hcores, hparts, ?_⟩
  · obtain ⟨e, he, rfl⟩ := List.mem_map.1 hc
    exact ⟨e.2.1, (hid e he).symm ▸ (h.of_mem he).1, tells_toCpu _ _⟩
  · have hsum := map_list_sum (Nat.castAddMonoidHom Int)
      ((es.map recordOf).map fun c => (inPackage c.physicalId ps).length)
    rw [← List.length_flatMap, hparts.length_eq, List.map_map] at hsum
    exact (congrArg List.sum (List.map_congr_left hcores)).trans hsum.symm

end Records

section Nodes

variable {h : Host} {c : Cpu} {address : String}

inductive Told (h : Host) : List Processor → Prop
  | missing : (h.file "/proc/cpuinfo").present = .ok false → Told h []
  | described {text : String} : (h.file "/proc/cpuinfo").present = .ok true →
      (h.file "/proc/cpuinfo").text = .ok text → Told h (Processor.parse text)

theorem Told.processors_eq (htold : Told h ps) : processors h = .ok ps := by
  cases htold with
  | missing hpresent =>
    rw [processors, hpresent]
    rfl
  | described hpresent htext =>
    rw [processors, hpresent, htext]
    rfl

structure FallsBack (h : Host) (c : Cpu) : Prop where
  eq : c = ⟨"", "", "", 0, "0", c.modelName, c.mhz, 0, [], "", c.cores⟩
  modelName : ∃ name, h.processor = .ok name ∧
    (if name = "" then h.machine else .ok name) = .ok c.modelName
  mhz : h.cpuFrequency = .ok none ∧ c.mhz = 0 ∨
    ∃ q, h.cpuFrequency = .ok (some q) ∧ q.toBinary64 = .ok c.mhz
  cores : ∃ count, h.cpuCount = .ok count ∧ c.cores = count.getD 0

theorem fallsBack_of_fallbackCpu (hc : fallbackCpu h = .ok c) : FallsBack h c := by
  obtain ⟨frequency, hfrequency, hc⟩ := exists_of_bind_eq_ok hc
  obtain ⟨name, hname, hc⟩ := exists_of_bind_eq_ok hc
  obtain ⟨mhz, hmhz, hc⟩ := exists_of_bind_eq_ok hc
  obtain ⟨count, hcount, hc⟩ := exists_of_bind_eq_ok hc
  obtain rfl := Except.ok.inj hc
  refine ⟨rfl, exists_of_bind_eq_ok hname, ?_, count, hcount, rfl⟩
  cases frequency with
  | none => exact .inl ⟨hfrequency, (Except.ok.inj hmhz).symm⟩
  | some q => exact .inr ⟨q, hfrequency, hmhz⟩

inductive Packaged (address : String) (h : Host) (ps : List Processor) :
    Answer (Collected Cpus) → Prop
  | packages {cs : List Cpu} : ps ≠ [] → Describes ps cs →
      Packaged address h ps (.ok ⟨.success address ⟨cs⟩, []⟩)
  | fallback {c : Cpu} : ps = [] → fallbackCpu h = .ok c → FallsBack h c →
      Packaged address h ps (.ok ⟨.success address ⟨[c]⟩, []⟩)
  | failed {f : Fault} : ps = [] → fallbackCpu h = .error f → isExpected f = true →
      Packaged address h ps (.ok (failed "cpu" address f))
  | passed {f : Fault} : ps = [] → fallbackCpu h = .error f → isExpected f = false →
      Packaged address h ps (.error f)

theorem cpus_of_processors (hps : processors h = .ok ps) (hne : ps ≠ []) :
    cpus address h = .ok ⟨.success address ⟨(packages ps).map recordOf⟩, []⟩ := by
  rw [cpus, hps]
  cases ps with
  | nil => contradiction
  | cons p ps => rfl

theorem cpus_of_none (hps : processors h = .ok []) :
    cpus address h = settle "cpu" address ((fallbackCpu h).map fun c => ⟨[c]⟩) := by
  rw [cpus, hps]
  rfl

theorem packaged_cpus (htold : Told h ps) (address : String) :
    Packaged address h ps (cpus address h) := by
  have hprocessors := htold.processors_eq
  by_cases hps : ps = []
  · subst hps
    rw [cpus_of_none hprocessors]
    cases hfallback : fallbackCpu h with
    | ok c => exact .fallback rfl hfallback (fallsBack_of_fallbackCpu hfallback)
    | error f =>
      rw [Except.map, settle]
      split
      · next hf => exact .failed rfl hfallback hf
      · next hf => exact .passed rfl hfallback (Bool.eq_false_iff.2 hf)
  · rw [cpus_of_processors hprocessors hps]
    exact .packages hps (grouped_packages ps).describes

def twoPackages : String := "processor:0\nphysical id:1\n\nprocessor:1\n\nprocessor:2\nphysical id:1"

def threeProcessors : Host :=
  .ofFiles (.ok "node-1") ⟨"Linux", "6.1.0", "x86_64"⟩ (.decimal 0)
    [("/proc/cpuinfo", .ofOctets (octets twoPackages))]

theorem packaged_threeProcessors : Told threeProcessors (Processor.parse twoPackages) ∧
    ∃ cs, cpus "node-1" threeProcessors = .ok ⟨.success "node-1" ⟨cs⟩, []⟩ ∧
      cs.map (·.physicalId) = ["1", ""] ∧ (cs.map (·.cores)).sum = 3 := by
  have htext : (File.ofOctets (octets twoPackages)).text = .ok twoPackages := by decide +kernel
  have htold : Told threeProcessors (Processor.parse twoPackages) := .described rfl htext
  have hparsed : (Processor.parse twoPackages).map Processor.package = ["1", "", "1"] := by decide +kernel
  have hlength : (Processor.parse twoPackages).length = 3 := by
    simpa using congrArg List.length hparsed
  have hpackaged := packaged_cpus htold "node-1"
  generalize cpus "node-1" threeProcessors = answer at hpackaged
  cases hpackaged with
  | packages _ hcs =>
    refine ⟨htold, _, rfl, hcs.ids.trans ?_, hcs.total.trans (congrArg _ hlength)⟩
    rw [hparsed]
    decide
  | fallback hnone | failed hnone | passed hnone => simp [hnone] at hlength

end Nodes

end ClusterHealth.Collect
