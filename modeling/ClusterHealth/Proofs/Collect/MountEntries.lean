import ClusterHealth.Collect.Partitions
import ClusterHealth.Host.Files
import ClusterHealth.Proofs.Collect.Documented
import ClusterHealth.Proofs.Results

namespace ClusterHealth.Collect

open ClusterHealth.Metric

structure CountsTo (c : Capacity) (total free : Int) : Prop where
  total : c.total.toInt = .ok total
  free : c.free.toInt = .ok free

def Countable (c : Capacity) : Prop := ∃ total free, CountsTo c total free

inductive Enters (h : Host) (m : Mount) : Metric.Partition → Prop
  | noUsage {f : Fault} : h.diskUsage m.mountpoint = .error f →
      Enters h m (.failure ⟨m.device, f.text⟩)
  | noInodes {space : Capacity} {f : Fault} : h.diskUsage m.mountpoint = .ok space →
      h.inodes m.mountpoint = .error f → Enters h m (.failure ⟨m.device, f.text⟩)
  | usage {space inodes : Capacity} {spaceTotal spaceFree inodeTotal inodeFree : Int} :
      h.diskUsage m.mountpoint = .ok space → h.inodes m.mountpoint = .ok inodes →
      CountsTo space spaceTotal spaceFree → CountsTo inodes inodeTotal inodeFree →
      Enters h m (.usage ⟨m.device, m.mountpoint, m.fsType, m.options, m.fsType, spaceTotal, spaceFree,
        inodeTotal, inodeFree⟩)

structure Mounts (h : Host) (mounts : List Mount) : Prop where
  linux : h.isLinux = true
  listed : h.mounts = .ok mounts
  usage : ∀ m ∈ mounts, Provides Countable (h.diskUsage m.mountpoint)
  inodes : ∀ m ∈ mounts, Provides Countable (h.inodes m.mountpoint)

structure AgreesAt (mountpoint : AnyText) (h other : Host) : Prop where
  usage : other.diskUsage mountpoint = h.diskUsage mountpoint
  inodes : other.inodes mountpoint = h.inodes mountpoint

variable {h other : Host} {m : Mount} {mounts : List Mount}

section Entry

theorem partitionEntry_of_error {f : Fault} (hf : partitionUsage h m = .error f)
    (hexpected : isExpected f = true) : partitionEntry h m = .ok (.failure ⟨m.device, f.text⟩) := by
  rw [partitionEntry, hf]
  exact if_pos hexpected

theorem exists_enters (husage : Provides Countable (h.diskUsage m.mountpoint))
    (hinodes : Provides Countable (h.inodes m.mountpoint)) :
    ∃ e, partitionEntry h m = .ok e ∧ Enters h m e := by
  cases hspace : h.diskUsage m.mountpoint with
  | error f =>
    have hfault : partitionUsage h m = .error f := by
      rw [partitionUsage, hspace]
      rfl
    exact ⟨_, partitionEntry_of_error hfault (husage.faults f hspace), .noUsage hspace⟩
  | ok space =>
    cases hfiles : h.inodes m.mountpoint with
    | error f =>
      have hfault : partitionUsage h m = .error f := by
        rw [partitionUsage, hspace, inodeUsage, hfiles]
        rfl
      exact ⟨_, partitionEntry_of_error hfault (hinodes.faults f hfiles), .noInodes hspace hfiles⟩
    | ok inodes =>
      obtain ⟨spaceTotal, spaceFree, hcounts⟩ := husage.typed space hspace
      obtain ⟨inodeTotal, inodeFree, hcounts'⟩ := hinodes.typed inodes hfiles
      refine ⟨_, ?_, .usage hspace hfiles hcounts hcounts'⟩
      have hok : partitionUsage h m = .ok (space, inodeTotal, inodeFree) := by
        rw [partitionUsage, hspace, inodeUsage, hfiles, ok_bind, ok_bind, hcounts'.total, hcounts'.free]
        rfl
      rw [partitionEntry, hok]
      dsimp only
      rw [hcounts.total, hcounts.free]
      rfl

theorem partitionEntry_congr (hagrees : AgreesAt m.mountpoint h other) :
    partitionEntry other m = partitionEntry h m := by
  rw [partitionEntry, partitionEntry, partitionUsage, partitionUsage, inodeUsage, inodeUsage,
    hagrees.usage, hagrees.inodes]

end Entry

section Listing

structure Enumerates (address : String) (h : Host) (mounts : List Mount) (es : List Metric.Partition) :
    Prop where
  collected : partitions address h = .ok ⟨.success address ⟨es⟩, []⟩
  entries : List.Forall₂ (Enters h) mounts es

theorem Mounts.exists_entries (hmounts : Mounts h mounts) (address : String) :
    ∃ es, Enumerates address h mounts es ∧
      List.Forall₂ (fun m e => partitionEntry h m = .ok e) mounts es := by
  have henters : ∀ m ∈ mounts, ∃ e, partitionEntry h m = .ok e ∧ Enters h m e := fun m hm =>
    exists_enters (hmounts.usage m hm) (hmounts.inodes m hm)
  obtain ⟨es, hes⟩ := exists_mapM_eq_ok fun m hm => (henters m hm).imp fun _ => And.left
  have hmade := forall₂_of_mapM_eq_ok hes
  have hentries : List.Forall₂ (Enters h) mounts es := by
    refine List.Forall₂.imp ?_ ((List.forall₂_and_left _ _).2 ⟨fun _ => id, hmade⟩)
    rintro m e ⟨hm, he⟩
    obtain ⟨e', he', hentered⟩ := henters m hm
    rwa [Except.ok.inj (he.symm.trans he')]
  refine ⟨es, ⟨?_, hentries⟩, hmade⟩
  rw [partitions, onLinux, if_pos hmounts.linux, hmounts.listed]
  dsimp only
  rw [hes]
  rfl

theorem getElem?_eq_of_agreesAt {es es' : List Metric.Partition}
    (hes : List.Forall₂ (fun m e => partitionEntry h m = .ok e) mounts es)
    (hes' : List.Forall₂ (fun m e => partitionEntry other m = .ok e) mounts es') {i : Nat}
    (hm : mounts[i]? = some m) (hagrees : AgreesAt m.mountpoint h other) : es'[i]? = es[i]? := by
  induction hes generalizing es' i with
  | nil => cases hm
  | cons he hes ih =>
    cases hes' with
    | cons he' hes' =>
      cases i with
      | zero =>
        obtain rfl := Option.some.inj hm
        rw [partitionEntry_congr hagrees] at he'
        exact congrArg some (Except.ok.inj (he'.symm.trans he))
      | succ i => exact ih hes' hm

theorem partitions_one_by_one (hmounts : Mounts h mounts) (address : String) :
    ∃ es, Enumerates address h mounts es ∧
      ∀ (other : Host) (mountpoint : AnyText), Mounts other mounts →
        (∀ p, p ≠ mountpoint → AgreesAt p h other) →
        ∃ es', Enumerates address other mounts es' ∧
          ∀ (i : Nat) (m : Mount), mounts[i]? = some m → m.mountpoint ≠ mountpoint → es'[i]? = es[i]? := by
  obtain ⟨es, hes, hmade⟩ := hmounts.exists_entries address
  refine ⟨es, hes, fun other mountpoint hother hagrees => ?_⟩
  obtain ⟨es', hes', hmade'⟩ := hother.exists_entries address
  refine ⟨es', hes', fun i m hm hne => ?_⟩
  exact getElem?_eq_of_agreesAt hmade hmade' hm (hagrees m.mountpoint hne)

def rootMount : Mount := ⟨"/dev/vda1", "/", "ext4", "rw"⟩

def dataMount : Mount := ⟨"/dev/vdb1", "/data", "xfs", "rw"⟩

def threeMounts (data : Answer Capacity) : Host :=
  { Host.ofFiles (.ok "node-1") ⟨"Linux", "6.1.0", "x86_64"⟩ (.decimal 0) [] with
    mounts := .ok [dataMount, rootMount, dataMount]
    diskUsage := fun p => if p = "/data" then data else .ok ⟨.whole 100, .whole 40⟩
    inodes := fun p => if p = "/data" then .ok ⟨.whole 7, .whole 5⟩ else .error (.noSuchFile p) }

theorem mounts_threeMounts {data : Answer Capacity} (hdata : Provides Countable data) :
    Mounts (threeMounts data) [dataMount, rootMount, dataMount] where
  linux := by
    have hlinux : "linux".toList.isPrefixOf "linux".toList = true := by decide
    exact hlinux
  listed := rfl
  usage m _ := by
    show Provides Countable (if m.mountpoint = "/data" then data else _)
    split
    · exact hdata
    · exact provides_ok ⟨100, 40, rfl, rfl⟩
  inodes m _ := by
    show Provides Countable (if m.mountpoint = "/data" then _ else .error (.noSuchFile m.mountpoint))
    split
    · exact provides_ok ⟨7, 5, rfl, rfl⟩
    · exact provides_error (isExpected_of_system (family_noSuchFile m.mountpoint))

theorem partitions_one_by_one_threeMounts :
    let answered := threeMounts (.ok ⟨.whole 9, .whole 1⟩)
    let refused := threeMounts (.error (Host.missingProvider "disk_usage"))
    let mounts := [dataMount, rootMount, dataMount]
    Mounts answered mounts ∧ Mounts refused mounts ∧ ∃ es es', Enumerates "node-1" answered mounts es ∧
      Enumerates "node-1" refused mounts es' ∧ es.length = 3 ∧ es'[1]? = es[1]? := by
  intro answered refused mounts
  have hanswered : Mounts answered mounts := mounts_threeMounts (provides_ok ⟨9, 1, rfl, rfl⟩)
  have hrefused : Mounts refused mounts :=
    mounts_threeMounts (provides_error (isExpected_missingProvider "disk_usage"))
  obtain ⟨es, hes, hothers⟩ := partitions_one_by_one hanswered "node-1"
  have hagrees : ∀ p : AnyText, p ≠ "/data" → AgreesAt p answered refused := fun p hp =>
    ⟨(if_neg hp).trans (if_neg hp).symm, rfl⟩
  obtain ⟨es', hes', hsame⟩ := hothers refused "/data" hrefused hagrees
  exact ⟨hanswered, hrefused, es, es', hes, hes', hes.entries.length_eq.symm,
    hsame 1 rootMount rfl (by decide)⟩

end Listing

end ClusterHealth.Collect
