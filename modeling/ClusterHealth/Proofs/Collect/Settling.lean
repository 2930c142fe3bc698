import ClusterHealth.Collect.Outcome
import ClusterHealth.Proofs.Results

namespace ClusterHealth.Collect

open ClusterHealth.Metric

def Raises (caught : Fault → Bool) (x : Answer α) (f : Fault) : Prop := x = .error f ∧ caught f = false

def Caught (caught : Fault → Bool) (x : Answer α) : Prop := ∀ f, x = .error f → caught f = true

section Steps

variable {caught : Fault → Bool} {x : Answer α} {g : α → Answer β} {f : Fault}

theorem Caught.not_raises (h : Caught caught x) : ¬ Raises caught x f := by
  intro ⟨hx, hf⟩
  rw [h f hx] at hf
  cases hf

theorem caught_ok (a : α) : Caught caught (.ok a) := by
  intro f hf
  cases hf

theorem caught_of_eq_ok (h : ∃ a, x = .ok a) : Caught caught x := by
  obtain ⟨a, rfl⟩ := h
  exact caught_ok a

theorem caught_error (h : caught f = true) : Caught caught (.error f : Answer α) := by
  intro e he
  cases he
  exact h

theorem Caught.bind (hx : Caught caught x) (hg : ∀ a, x = .ok a → Caught caught (g a)) :
    Caught caught (x >>= g) := by
  cases x with
  | error e => exact fun f hf => hx f (Except.error.inj hf ▸ rfl)
  | ok a => exact hg a rfl

theorem caught_bind_iff :
    Caught caught (x >>= g) ↔ Caught caught x ∧ ∀ a, x = .ok a → Caught caught (g a) := by
  constructor
  · intro h
    cases x with
    | error e => exact ⟨fun f hf => h f (congrArg Except.error (Except.error.inj hf)), nofun⟩
    | ok a =>
      refine ⟨caught_ok a, fun b hb => ?_⟩
      cases hb
      exact h
  · rintro ⟨hx, hg⟩
    exact hx.bind hg

theorem raises_bind_iff :
    Raises caught (x >>= g) f ↔ Raises caught x f ∨ ∃ a, x = .ok a ∧ Raises caught (g a) f := by
  cases x with
  | error e => simp [Raises, bind, Except.bind]
  | ok a => simp [Raises, bind, Except.bind]

theorem ok_bind (a : α) (g : α → Answer β) : (.ok a : Answer α) >>= g = g a := rfl

theorem Caught.raises_bind_iff (hx : Caught caught x) :
    Raises caught (x >>= g) f ↔ ∃ a, x = .ok a ∧ Raises caught (g a) f := by
  rw [Collect.raises_bind_iff, or_iff_right hx.not_raises]

theorem Caught.mapM {g : α → Answer β} {as : List α} (h : ∀ a ∈ as, Caught caught (g a)) :
    Caught caught (as.mapM g) := by
  induction as with
  | nil => exact caught_ok []
  | cons a as ih =>
    obtain ⟨ha, has⟩ := List.forall_mem_cons.1 h
    rw [List.mapM_cons]
    apply ha.bind
    intro b _
    apply (ih has).bind
    intro bs _
    exact caught_ok (b :: bs)

theorem exists_mapM_eq_ok {as : List α} (h : ∀ a ∈ as, ∃ b, g a = .ok b) :
    ∃ bs, as.mapM g = .ok bs := by
  induction as with
  | nil => exact ⟨[], rfl⟩
  | cons a as ih =>
    obtain ⟨⟨b, hb⟩, has⟩ := List.forall_mem_cons.1 h
    obtain ⟨bs, hbs⟩ := ih has
    refine ⟨b :: bs, ?_⟩
    rw [List.mapM_cons, hb, hbs]
    rfl

end Steps

/-- A collection ends with a snapshot of its address, unless one of `escapes` comes out of it. -/
structure Settles (address : String) (escapes : Fault → Prop) (x : Answer (Collected α)) : Prop where
  address : ∀ c, x = .ok c → c.snapshot.address = address
  raises : ∀ f, x = .error f ↔ escapes f

section Settle

variable {address domain : String} {x : Answer α} {escapes : Fault → Prop}

theorem settles_settle (h : ∀ f, Raises isExpected x f ↔ escapes f) :
    Settles address escapes (settle domain address x) := by
  cases x with
  | ok a =>
    constructor
    · intro c hc
      cases hc
      rfl
    · intro f
      rw [← h f]
      simp [settle, Raises]
  | error e =>
    rw [settle]
    constructor
    · intro c hc
      split at hc
      · cases hc
        rfl
      · cases hc
    · intro f
      rw [← h f, Raises, Except.error.injEq]
      split
      · next he =>
        refine ⟨nofun, ?_⟩
        rintro ⟨rfl, hf⟩
        rw [he] at hf
        cases hf
      · next he =>
        rw [Except.error.injEq]
        refine ⟨?_, And.left⟩
        rintro rfl
        exact ⟨rfl, Bool.eq_false_iff.2 he⟩

theorem settles_of_eq_ok {x : Answer (Collected α)} {c : Collected α} (hx : x = .ok c)
    (hc : c.snapshot.address = address) : Settles address (fun _ => False) x := by
  subst hx
  constructor
  · intro d hd
    cases hd
    exact hc
  · intro f
    exact ⟨nofun, nofun⟩

theorem settles_onLinux {h : Host} {x : Answer (Collected α)} (hx : Settles address escapes x) :
    Settles address (fun f => h.isLinux = true ∧ escapes f) (onLinux address h x) := by
  rw [onLinux]
  split
  · next hlinux => exact ⟨hx.address, fun f => by simp [hx.raises f, hlinux]⟩
  · next hlinux => exact ⟨fun c hc => by cases hc; rfl, fun f => by simp [hlinux]⟩

end Settle

end ClusterHealth.Collect
