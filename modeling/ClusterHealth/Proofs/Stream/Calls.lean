import ClusterHealth.Stream.Reader

/-!
A call on a reader without its bound on steps: it scans what it holds, asks for more where that is too
little, and stops at a result, at the end or at a fault. Facts about calls go by induction on this.
-/

namespace ClusterHealth.Stream

/-- A source whose answers are laid down: it gives them as a list of chunks does. -/
class Scripted (σ : Type) [TextSource σ] where
  script : σ → List Chunk
  pull_script : ∀ s : σ, (TextSource.pull s).map id script =
    (Chunks.ofList (script s)).pull.map id Chunks.left
  length_script_le : ∀ s : σ, (script s).length ≤ TextSource.remaining s

instance : Scripted Chunks where
  script := Chunks.left
  pull_script s := by
    obtain ⟨left, pulled⟩ := s
    cases left with
    | nil => rfl
    | cons c rest => cases c <;> rfl
  length_script_le s := Nat.le_refl _

namespace Scripted

variable {σ : Type} [TextSource σ] [Scripted σ] {s s' : σ}

theorem script_of_pull {p : Pull} (h : TextSource.pull s = (p, s')) :
    match p with
    | .text cs => script s = .text cs :: script s'
    | .ended => script s = [] ∧ script s' = []
    | .failed f => (∃ rest, script s = .fault f :: rest) ∧ script s' = [] := by
  have hpull := pull_script s
  rw [h] at hpull
  cases hscript : script s with
  | nil =>
    rw [hscript] at hpull
    obtain ⟨rfl, hs'⟩ := Prod.mk.inj hpull
    exact ⟨rfl, hs'⟩
  | cons c rest =>
    rw [hscript] at hpull
    cases c with
    | text cs =>
      obtain ⟨rfl, hs'⟩ := Prod.mk.inj hpull
      exact congrArg _ hs'.symm
    | fault f =>
      obtain ⟨rfl, hs'⟩ := Prod.mk.inj hpull
      exact ⟨⟨rest, rfl⟩, hs'⟩

end Scripted

open Scripted (script script_of_pull)

namespace Reader

variable {σ : Type} [TextSource σ]

inductive Call : Reader → σ → Reading × Reader × σ → Prop
  | known : r.advance = (some reading, r') → Call r s (reading, r', s)
  | exhausted : r.advance = (none, r') → r'.exhausted = true →
      Call r s (if r'.taken.isEmpty then .ended else .failed .unfinished, r', s)
  | text : r.advance = (none, r') → r'.exhausted = false →
      TextSource.pull s = (.text cs, s') → Call (r'.feed cs) s' out → Call r s out
  | ended : r.advance = (none, r') → r'.exhausted = false →
      TextSource.pull s = (.ended, s') → Call { r' with exhausted := true } s' out → Call r s out
  | fault : r.advance = (none, r') → r'.exhausted = false →
      TextSource.pull s = (.failed f, s') → Call r s (.failed (.ofFault f), r', s')

variable {r r' : Reader} {s s' : σ}

theorem exhausted_of_advance {o : Option Reading} (h : r.advance = (o, r')) :
    r'.exhausted = r.exhausted := by
  have hskip : r.skip.exhausted = r.exhausted := by
    unfold skip
    split <;> rfl
  obtain rfl : r.advance.2 = r' := congrArg Prod.snd h
  simp only [advance]
  split
  · exact hskip
  · split <;> exact hskip

theorem advance_ne_ended (r : Reader) : r.advance.1 ≠ some .ended := by
  have hpiece (p : List Char) : readPiece p ≠ .ended := by
    unfold readPiece
    split <;> simp
  simp only [advance]
  split
  · simp
  · split <;> simp [hpiece]

theorem Call.exhausted_of_ended {out : Reading × Reader × σ} (h : Call r s out)
    (hout : out.1 = .ended) : out.2.1.exhausted = true := by
  induction h with
  | known ha =>
    dsimp only at hout
    subst hout
    exact absurd (congrArg Prod.fst ha) (advance_ne_ended _)
  | exhausted _ hx => exact hx
  | text _ _ _ _ ih => exact ih hout
  | ended _ _ _ _ ih => exact ih hout
  | fault => cases hout

theorem call_of_exhausted (h : r.exhausted = true) (s : σ) (steps : Nat) :
    Call r s (nextWithin (steps + 1) r s) := by
  rw [nextWithin]
  rcases ha : r.advance with ⟨_ | reading, r'⟩
  · have hr : r'.exhausted = true := (exhausted_of_advance ha).trans h
    simpa [hr] using Call.exhausted ha hr
  · exact .known ha

theorem call_nextWithin [Scripted σ] {steps : Nat} (h : (script s).length + 2 ≤ steps) :
    Call r s (nextWithin steps r s) := by
  induction steps generalizing r s with
  | zero => simp at h
  | succ steps ih =>
    rw [nextWithin]
    rcases ha : r.advance with ⟨_ | reading, r'⟩
    · cases hx : r'.exhausted with
      | true => simpa [hx] using Call.exhausted ha hx
      | false =>
        dsimp only
        rw [if_neg (by simp [hx])]
        rcases hpull : TextSource.pull s with ⟨cs | _ | f, s'⟩
        · have hscript : script s = .text cs :: script s' := script_of_pull hpull
          rw [hscript, List.length_cons] at h
          exact .text ha hx hpull (ih (Nat.le_of_succ_le_succ h))
        · -- the end takes a step of its own, in which what is held is scanned once more
          obtain ⟨steps, rfl⟩ : ∃ k, steps = k + 1 := ⟨steps - 1, by omega⟩
          exact .ended ha hx hpull (call_of_exhausted rfl s' steps)
        · exact .fault ha hx hpull
    · exact .known ha

theorem call_next [Scripted σ] (r : Reader) (s : σ) : Call r s (r.next s) :=
  call_nextWithin (Nat.add_le_add_right (Scripted.length_script_le s) 2)

end Reader

end ClusterHealth.Stream
