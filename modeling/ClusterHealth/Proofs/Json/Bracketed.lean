import ClusterHealth.Proofs.Stream.Framing

namespace ClusterHealth.Stream

namespace Scan

def outside (n : Nat) : Scan := ⟨n + 1, false, false⟩

def inside (n : Nat) : Scan := ⟨n + 1, true, false⟩

@[simp] theorem depth_outside (n : Nat) : (outside n).depth = n + 1 := rfl

@[simp] theorem depth_inside (n : Nat) : (inside n).depth = n + 1 := rfl

inductive Passes : Scan → List Char → Scan → List Char → Prop
  | refl : Passes a s a s
  | step : (step a c).depth ≠ 0 → Passes (step a c) s b left → Passes a (c :: s) b left

theorem Passes.one {a b : Scan} (h : a.step c = b) (hb : b.depth ≠ 0) :
    Passes a (c :: left) b left :=
  .step (h ▸ hb) (h ▸ .refl)

theorem Passes.trans (h : Passes a s b t) (h' : Passes b t c left) : Passes a s c left := by
  induction h with
  | refl => exact h'
  | step hd _ ih => exact .step hd (ih h')

theorem Passes.cut (h : Passes a s b left) :
    ∃ p, s = p ++ left ∧ ∀ out, a.cut out s = b.cut (p.reverse ++ out) left := by
  induction h with
  | refl => exact ⟨[], rfl, fun out => rfl⟩
  | @step a c s b left hd _ ih =>
    obtain ⟨p, rfl, hcut⟩ := ih
    refine ⟨c :: p, rfl, fun out => ?_⟩
    simp [Scan.cut, hd, hcut]

def isPlain (c : Char) : Bool := c != '"' && !isOpening c && !isClosing c

theorem step_outside_of_isPlain {c : Char} (h : isPlain c) (n : Nat) :
    (outside n).step c = outside n := by
  simp only [isPlain, Bool.and_eq_true, bne_iff_ne, Bool.not_eq_true'] at h
  simp [step, outside, h]

theorem passes_cons_of_isPlain {c : Char} (h : isPlain c) (n : Nat) (left : List Char) :
    Passes (outside n) (c :: left) (outside n) left :=
  .one (step_outside_of_isPlain h n) (by simp)

theorem passes_of_isPlain {p : List Char} (h : ∀ c ∈ p, isPlain c) (n : Nat) (left : List Char) :
    Passes (outside n) (p ++ left) (outside n) left := by
  induction p with
  | nil => exact .refl
  | cons c p ih =>
    exact (passes_cons_of_isPlain (h c (by simp)) n _).trans (ih fun d hd => h d (by simp [hd]))

theorem isPlain_of_isBlank {c : Char} (h : Json.isBlank c) : isPlain c := by
  simp only [Json.isBlank, Bool.or_eq_true, beq_iff_eq] at h
  rcases h with ((rfl | rfl) | rfl) | rfl <;> decide

theorem passes_skipBlanks (n : Nat) (s : List Char) :
    Passes (outside n) s (outside n) (Json.skipBlanks s) := by
  have h := passes_of_isPlain (p := s.takeWhile Json.isBlank)
    (fun c hc => isPlain_of_isBlank (List.mem_takeWhile_imp hc)) n (s.dropWhile Json.isBlank)
  rwa [List.takeWhile_append_dropWhile] at h

theorem passes_open {c : Char} (h : isOpening c) (n : Nat) (left : List Char) :
    Passes (outside n) (c :: left) (outside (n + 1)) left :=
  .one (by simp [step, outside, h, ne_quote_of_isOpening h]) (by simp)

theorem passes_close {c : Char} (h : isClosing c) (n : Nat) (left : List Char) :
    Passes (outside (n + 1)) (c :: left) (outside n) left := by
  simp only [isClosing, Bool.or_eq_true, beq_iff_eq] at h
  rcases h with rfl | rfl <;> exact .one rfl (by simp)

theorem passes_quote (n : Nat) (left : List Char) :
    Passes (outside n) ('"' :: left) (inside n) left :=
  .one rfl (by simp)

theorem passes_endQuote (n : Nat) (left : List Char) :
    Passes (inside n) ('"' :: left) (outside n) left :=
  .one rfl (by simp)

theorem passes_inside {c : Char} (hq : c ≠ '"') (hb : c ≠ '\\') (n : Nat) (left : List Char) :
    Passes (inside n) (c :: left) (inside n) left :=
  .one (by simp [step, inside, hq, hb]) (by simp)

theorem passes_escape (c : Char) (n : Nat) (left : List Char) :
    Passes (inside n) ('\\' :: c :: left) (inside n) left :=
  .step (by simp [step, inside]) (.one (by simp [step, inside]) (by simp))

end Scan

open Scan

theorem ne_quote_of_hexValue? {c : Char} {k : Nat} (h : Json.hexValue? c = some k) : c ≠ '"' := by
  rintro rfl
  simp [Json.hexValue?] at h

theorem ne_backslash_of_hexValue? {c : Char} {k : Nat} (h : Json.hexValue? c = some k) :
    c ≠ '\\' := by
  rintro rfl
  simp [Json.hexValue?] at h

theorem passes_hexValue? {c : Char} {k : Nat} (h : Json.hexValue? c = some k) (n : Nat)
    (left : List Char) : Passes (inside n) (c :: left) (inside n) left :=
  passes_inside (ne_quote_of_hexValue? h) (ne_backslash_of_hexValue? h) n left

theorem passes_hex4? {a b c d : Char} {k : Nat} (h : Json.hex4? a b c d = some k) (n : Nat)
    (left : List Char) : Passes (inside n) (a :: b :: c :: d :: left) (inside n) left := by
  simp only [Json.hex4?, Option.bind_eq_bind, Option.bind_eq_some_iff] at h
  obtain ⟨_, ha, _, hb, _, hc, _, hd, -⟩ := h
  exact (passes_hexValue? ha n _).trans <| (passes_hexValue? hb n _).trans <|
    (passes_hexValue? hc n _).trans (passes_hexValue? hd n _)

theorem passes_stringFrom {opened : Nat} {state : Json.StringState} {s left : List Char} {t : AnyText}
    (h : Json.stringFrom opened state s = .ok (t, left)) (n : Nat) :
    Passes (inside n) s (outside n) left := by
  fun_induction Json.stringFrom opened state s with
  | case1 | case3 | case4 | case6 | case7 | case9 | case10 => cases h
  | case2 state rest =>
    cases h
    exact passes_endQuote n _
  | case5 state a b c d rest k hk _ ih =>
    exact (passes_escape 'u' n _).trans ((passes_hex4? hk n _).trans (ih h))
  | case8 state e rest _ c _ ih => exact (passes_escape e n _).trans (ih h)
  | case11 state c rest hq hb _ ih => exact (passes_inside hq hb n _).trans (ih h)

theorem passes_string {s left : List Char} {t : AnyText} (h : Json.string s = .ok (t, left)) (n : Nat) :
    Passes (outside n) ('"' :: s) (outside n) left :=
  (passes_quote n s).trans (passes_stringFrom h n)

def PlainTo (s left : List Char) : Prop := ∃ p, s = p ++ left ∧ ∀ c ∈ p, isPlain c

theorem PlainTo.refl (s : List Char) : PlainTo s s := ⟨[], rfl, by simp⟩

theorem PlainTo.cons {c : Char} {s left : List Char} (hc : isPlain c) (h : PlainTo s left) :
    PlainTo (c :: s) left := by
  obtain ⟨p, rfl, hp⟩ := h
  exact ⟨c :: p, rfl, by simpa [hc] using hp⟩

theorem PlainTo.trans {s t left : List Char} (h : PlainTo s t) (h' : PlainTo t left) :
    PlainTo s left := by
  obtain ⟨p, rfl, hp⟩ := h
  obtain ⟨q, rfl, hq⟩ := h'
  exact ⟨p ++ q, by simp, by simpa [or_imp, forall_and] using ⟨hp, hq⟩⟩

theorem PlainTo.passes {s left : List Char} (h : PlainTo s left) (n : Nat) :
    Passes (outside n) s (outside n) left := by
  obtain ⟨p, rfl, hp⟩ := h
  exact passes_of_isPlain hp n left

theorem isPlain_of_isDigit {c : Char} (h : Json.isDigit c) : isPlain c := by
  simp only [isPlain, isOpening, isClosing, Bool.and_eq_true, bne_iff_ne, Bool.not_eq_true',
    Bool.or_eq_false_iff, beq_eq_false_iff_ne]
  refine ⟨⟨?_, ?_, ?_⟩, ?_, ?_⟩ <;> rintro rfl <;> simp [Json.isDigit] at h

theorem plainTo_digits (s : List Char) : PlainTo s (s.dropWhile Json.isDigit) :=
  ⟨s.takeWhile Json.isDigit, List.takeWhile_append_dropWhile.symm,
    fun _ hc => isPlain_of_isDigit (List.mem_takeWhile_imp hc)⟩

theorem plainTo_sign (s : List Char) : PlainTo s (Numeral.sign s).2 := by
  unfold Numeral.sign
  split
  · exact .cons rfl (.refl _)
  · exact .cons rfl (.refl _)
  · exact .refl _

theorem plainTo_wholePart {s whole left : List Char} (h : Json.wholePart? s = some (whole, left)) :
    PlainTo s left := by
  unfold Json.wholePart? at h
  split at h
  · cases h
    exact .cons rfl (.refl _)
  · split at h
    · next hd =>
      cases h
      exact .cons (isPlain_of_isDigit hd) (plainTo_digits _)
    · cases h
  · cases h

theorem plainTo_fractionPart (s : List Char) : PlainTo s (Json.fractionPart s).2 := by
  unfold Json.fractionPart
  split
  · dsimp only
    split
    · exact .refl _
    · exact .cons rfl (plainTo_digits _)
  · exact .refl _

theorem plainTo_exponentPart (s : List Char) : PlainTo s (Json.exponentPart s).2 := by
  unfold Json.exponentPart
  split
  · next e rest =>
    split
    · next he =>
      dsimp only
      split
      · exact .refl _
      · refine .cons ?_ ((plainTo_sign rest).trans (plainTo_digits _))
        rcases he with rfl | rfl <;> rfl
    · exact .refl _
  · exact .refl _

theorem plainTo_number {s left : List Char} {v : Json} (h : Json.number s = .ok (v, left)) :
    PlainTo s left := by
  unfold Json.number at h
  split at h
  next negative body hsign =>
  have hbody : PlainTo s body := by
    split at hsign <;> cases hsign
    · exact .cons rfl (.refl _)
    · exact .refl _
  refine hbody.trans ?_
  split at h
  · cases h
  next whole rest hwhole =>
  refine (plainTo_wholePart hwhole).trans <|
    (plainTo_fractionPart rest).trans <| (plainTo_exponentPart _).trans ?_
  dsimp only at h
  split at h
  · split at h <;> cases h
    exact .refl _
  · cases h
    exact .refl _

theorem plainTo_word {s left : List Char} {v : Json} (h : Json.word? s = some (v, left)) :
    PlainTo s left := by
  unfold Json.word? at h
  obtain ⟨⟨w, u⟩, hmem, hw⟩ := List.exists_of_findSome?_eq_some h
  have hplain : ∀ x ∈ Json.wordValues, ∀ c ∈ x.1, isPlain c := by
    simp [Json.wordValues]; decide
  simp only [List.isPrefixOf_iff_prefix, Option.ite_none_right_eq_some, Option.some.injEq,
    Prod.mk.injEq] at hw
  obtain ⟨⟨t, rfl⟩, -, rfl⟩ := hw
  exact ⟨w, by simp, hplain _ hmem⟩

theorem passes_scalar {s left : List Char} {v : Json} (h : Json.scalar s = .ok (v, left)) (n : Nat) :
    Passes (outside n) s (outside n) left := by
  unfold Json.scalar at h
  split at h
  · next rest =>
    cases hs : Json.string rest with
    | error e => simp [hs, Except.map] at h
    | ok r =>
      obtain ⟨t, left'⟩ := r
      obtain ⟨-, rfl⟩ : _ ∧ left' = left := by simpa [hs, Except.map] using h
      exact passes_string hs n
  · split at h
    · next r hw =>
      cases h
      exact (plainTo_word hw).passes n
    · exact (plainTo_number h).passes n

/-- What a scan does while a value is decoded in at most `steps` steps. An array or an object is
followed to the bracket that closes it. -/
structure Followed (steps : Nat) : Prop where
  value : ∀ {levels s v left}, Json.value steps levels s = .ok (v, left) →
    ∀ n, Passes (outside n) s (outside n) left
  items : ∀ {levels out s v left}, Json.items steps levels out s = .ok (v, left) →
    ∃ b, isClosing b ∧ ∀ n, Passes (outside n) s (outside n) (b :: left)
  members : ∀ {levels out s v left}, Json.members steps levels out s = .ok (v, left) →
    ∃ b, isClosing b ∧ ∀ n, Passes (outside n) s (outside n) (b :: left)

theorem passes_container {steps levels : Nat} {c : Char} {s left : List Char} {v : Json}
    (ih : Followed steps) (hc : isOpening c)
    (h : Json.value (steps + 1) levels (c :: s) = .ok (v, left)) :
    ∃ b, isClosing b ∧ ∀ n, Passes (outside n) s (outside n) (b :: left) := by
  simp only [isOpening, Bool.or_eq_true, beq_iff_eq] at hc
  rcases hc with rfl | rfl <;> simp only [Json.value] at h <;> split at h
  · cases h
  · split at h
    · next hr =>
      cases h
      exact ⟨_, rfl, fun n => hr ▸ passes_skipBlanks n s⟩
    · obtain ⟨b, hb, hp⟩ := ih.members h
      exact ⟨b, hb, fun n => (passes_skipBlanks n s).trans (hp n)⟩
  · cases h
  · split at h
    · next hr =>
      cases h
      exact ⟨_, rfl, fun n => hr ▸ passes_skipBlanks n s⟩
    · obtain ⟨b, hb, hp⟩ := ih.items h
      exact ⟨b, hb, fun n => (passes_skipBlanks n s).trans (hp n)⟩

theorem value_eq_scalar {steps levels : Nat} {s : List Char}
    (hs : ∀ c ∈ s.head?, isOpening c = false) :
    Json.value (steps + 1) levels s = Json.scalar s := by
  unfold Json.value
  split
  · simp [isOpening] at hs
  · simp [isOpening] at hs
  · rfl

theorem passes_value_succ {steps levels : Nat} {s left : List Char} {v : Json}
    (ih : Followed steps) (h : Json.value (steps + 1) levels s = .ok (v, left)) (n : Nat) :
    Passes (outside n) s (outside n) left := by
  by_cases hs : ∀ c ∈ s.head?, isOpening c = false
  · rw [value_eq_scalar hs] at h
    exact passes_scalar h n
  · cases s with
    | nil => simp at hs
    | cons c s =>
      have hc : isOpening c := by simpa using hs
      obtain ⟨b, hb, hp⟩ := passes_container ih hc h
      exact (passes_open hc n s).trans ((hp (n + 1)).trans (passes_close hb n left))

theorem passes_items_succ {steps levels : Nat} {out : List Json} {s left : List Char} {v : Json}
    (ih : Followed steps) (h : Json.items (steps + 1) levels out s = .ok (v, left)) :
    ∃ b, isClosing b ∧ ∀ n, Passes (outside n) s (outside n) (b :: left) := by
  unfold Json.items at h
  split at h
  · cases h
  next u rest hvalue =>
  have hrest (n : Nat) : Passes (outside n) s (outside n) (Json.skipBlanks rest) :=
    (ih.value hvalue n).trans (passes_skipBlanks n rest)
  split at h
  · next hb =>
    cases h
    exact ⟨_, rfl, fun n => hb ▸ hrest n⟩
  · next tail hc =>
    obtain ⟨b, hb, hp⟩ := ih.items h
    refine ⟨b, hb, fun n => (hc ▸ hrest n).trans ?_⟩
    exact (passes_cons_of_isPlain rfl n tail).trans ((passes_skipBlanks n tail).trans (hp n))
  · cases h

theorem passes_members_succ {steps levels : Nat} {out : Members} {s left : List Char} {v : Json}
    (ih : Followed steps) (h : Json.members (steps + 1) levels out s = .ok (v, left)) :
    ∃ b, isClosing b ∧ ∀ n, Passes (outside n) s (outside n) (b :: left) := by
  unfold Json.members at h
  split at h
  · next rest =>
    split at h
    · cases h
    next name tail hname =>
    split at h
    · next tail' hcolon =>
      split at h
      · cases h
      next u rest' hvalue =>
      -- name, colon and value leave the depth as it was
      have hrest (n : Nat) : Passes (outside n) ('"' :: rest) (outside n) (Json.skipBlanks rest') := by
        refine (passes_string hname n).trans ((passes_skipBlanks n tail).trans ?_)
        rw [hcolon]
        exact (passes_cons_of_isPlain rfl n tail').trans <|
          (passes_skipBlanks n tail').trans <| (ih.value hvalue n).trans (passes_skipBlanks n rest')
      dsimp only at h
      split at h
      · next hb =>
        cases h
        exact ⟨_, rfl, fun n => hb ▸ hrest n⟩
      · next tail'' hc =>
        obtain ⟨b, hb, hp⟩ := ih.members h
        refine ⟨b, hb, fun n => (hc ▸ hrest n).trans ?_⟩
        exact (passes_cons_of_isPlain rfl n tail'').trans <|
          (passes_skipBlanks n tail'').trans (hp n)
      · cases h
    · cases h
  · cases h

theorem followed (steps : Nat) : Followed steps := by
  induction steps with
  | zero =>
    refine ⟨fun h => ?_, fun h => ?_, fun h => ?_⟩
    · simp [Json.value] at h
    · simp [Json.items] at h
    · simp [Json.members] at h
  | succ steps ih => exact ⟨passes_value_succ ih, passes_items_succ ih, passes_members_succ ih⟩

theorem cut_of_value {steps levels : Nat} {c : Char} {s left : List Char} {v : Json}
    (hc : isOpening c) (h : Json.value steps levels (c :: s) = .ok (v, left)) :
    ∃ p, c :: s = p ++ left ∧ initial.cut [] (c :: s) = (initial, p.reverse, some left) := by
  cases steps with
  | zero => simp [Json.value] at h
  | succ steps =>
    obtain ⟨b, hb, hp⟩ := passes_container (followed steps) hc h
    obtain ⟨p, rfl, hcut⟩ := (hp 0).cut
    have hend : (outside 0).step b = initial := by
      simp only [isClosing, Bool.or_eq_true, beq_iff_eq] at hb
      rcases hb with rfl | rfl <;> rfl
    refine ⟨c :: p ++ [b], by simp, ?_⟩
    calc
      initial.cut [] (c :: (p ++ b :: left)) = (outside 0).cut [c] (p ++ b :: left) := by
        rw [Scan.cut, step_initial hc]
        rfl
      _ = (outside 0).cut (p.reverse ++ [c]) (b :: left) := hcut [c]
      _ = (initial, (c :: p ++ [b]).reverse, some left) := by
        simp [Scan.cut, hend, initial]

end ClusterHealth.Stream
