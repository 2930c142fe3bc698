import ClusterHealth.Proofs.Stream.Framing

namespace ClusterHealth.Stream

open Framing (weight)

namespace Scan

variable {s s' : Scan} {c : Char} {t : List Char}

theorem step_quote (he : s.escaped = false) : s.step '"' = { s with inString := !s.inString } := by
  cases hin : s.inString <;> simp [step, he, hin]

theorem step_backslash (he : s.escaped = false) (hin : s.inString = true) :
    s.step '\\' = { s with escaped := true } := by
  simp [step, he, hin]

theorem step_opening (he : s.escaped = false) (hin : ¬ s.inString = true) (hc : isOpening c) :
    s.step c = { s with depth := s.depth + 1 } := by
  simp [step, he, hin, hc, ne_quote_of_isOpening hc]

theorem step_closing (he : s.escaped = false) (hin : ¬ s.inString = true) (hc : isClosing c) :
    s.step c = { s with depth := s.depth - 1 } := by
  have hne : c ≠ '"' ∧ isOpening c = false := by
    simp only [isClosing, Bool.or_eq_true, beq_iff_eq] at hc
    rcases hc with rfl | rfl <;> decide
  simp [step, he, hin, hc, hne]

def Begins (s : Scan) (t : List Char) : Prop :=
  0 < s.depth ∨ s = .initial ∧ ∀ c ∈ t.head?, isOpening c

theorem Begins.step_eq_initial (h : s.Begins (c :: t)) (hz : (s.step c).depth = 0) :
    s.step c = .initial := by
  obtain hd | ⟨rfl, ho⟩ := h
  · revert hz
    simp only [step, initial]
    grind
  · simp [step_initial (ho c rfl)] at hz

theorem cut_eq_some {out out' rest : List Char} (h : s.Begins t)
    (hcut : s.cut out t = (s', out', some rest)) :
    s' = .initial ∧ ∃ p, t = p ++ rest ∧ out' = p.reverse ++ out := by
  induction t generalizing s out with
  | nil => cases hcut
  | cons c t ih =>
    simp only [cut] at hcut
    split at hcut
    · next hz =>
      cases hcut
      exact ⟨h.step_eq_initial hz, [c], rfl, rfl⟩
    · next hz =>
      obtain ⟨hs', p, rfl, rfl⟩ := ih (.inl (Nat.pos_of_ne_zero hz)) hcut
      exact ⟨hs', c :: p, rfl, by simp⟩

end Scan

structure Tally where
  depth : Int
  inString : Bool
  escaped : Bool
deriving DecidableEq

namespace Tally

def initial : Tally := ⟨0, false, false⟩

def step (x : Tally) (c : Char) : Tally :=
  if x.escaped then { x with escaped := false }
  else if x.inString then
    if c = '\\' then { x with escaped := true }
    else if c = '"' then { x with inString := false }
    else x
  else if c = '"' then { x with inString := true }
  else { x with depth := x.depth + weight c }

def run (x : Tally) (t : List Char) : Tally := t.foldl step x

theorem run_append (x : Tally) (t u : List Char) : x.run (t ++ u) = (x.run t).run u := by
  simp [run]

theorem wf_run {x : Tally} (h : x.escaped = true → x.inString = true) (t : List Char) :
    (x.run t).escaped = true → (x.run t).inString = true := by
  induction t generalizing x with
  | nil => exact h
  | cons c t ih =>
    apply ih
    simp only [step]
    grind

def isMark (x : Tally) (c : Char) : Bool :=
  c == '"' || if x.inString then c == '\\' else Scan.isOpening c || Scan.isClosing c

theorem length_lt_of_dropWhile {p : Char → Bool} {t rest : List Char} {c : Char}
    (h : t.dropWhile p = c :: rest) : rest.length < t.length := by
  have hle : (c :: rest).length ≤ t.length := h ▸ (List.dropWhile_suffix p).length_le
  exact hle

/-- The text behind the bracket that closes all, if that is there. A backslash takes the character behind
it along, or leaves it to the text to come. -/
def leap (x : Tally) (t : List Char) : Tally × Option (List Char) :=
  match _ : t.dropWhile (!x.isMark ·) with
  | [] => (x, none)
  | c :: rest =>
    if c = '"' then leap { x with inString := !x.inString } rest
    else if x.inString then
      if rest = [] then ({ x with escaped := true }, none) else leap x rest.tail
    else if Scan.isOpening c then leap { x with depth := x.depth + 1 } rest
    else if x.depth - 1 = 0 then ({ x with depth := x.depth - 1 }, some rest)
    else leap { x with depth := x.depth - 1 } rest
termination_by t.length
decreasing_by
  all_goals
    have hlt := length_lt_of_dropWhile ‹_›
    have htail := rest.length_tail
    omega

def scan (x : Tally) (t : List Char) : Tally × Option (List Char) :=
  if x.escaped then leap { x with escaped := false } t.tail else leap x t

def toScan (x : Tally) : Scan := ⟨x.depth.toNat, x.inString, x.escaped⟩

def ofScan (s : Scan) : Tally := ⟨s.depth, s.inString, s.escaped⟩

variable {s s' : Scan} {x : Tally} {c : Char} {t rest : List Char}

@[simp] theorem ofScan_initial : ofScan .initial = initial := rfl

@[simp] theorem toScan_initial : initial.toScan = .initial := rfl

@[simp] theorem toScan_ofScan (s : Scan) : (ofScan s).toScan = s := rfl

theorem ofScan_toScan (h : 0 ≤ x.depth) : ofScan x.toScan = x := by
  simp [ofScan, toScan, Int.toNat_of_nonneg h]

@[simp] theorem depth_ofScan (s : Scan) : (ofScan s).depth = s.depth := rfl

theorem ofScan_step (hd : 0 < s.depth) (c : Char) : ofScan (s.step c) = (ofScan s).step c := by
  have hpred : ((s.depth - 1 : Nat) : Int) = s.depth - 1 := Int.ofNat_sub hd
  simp only [ofScan, Scan.step, step, weight]
  grind

theorem ofScan_step_initial (h : Scan.isOpening c) :
    ofScan (Scan.initial.step c) = initial.step c := by
  rw [Scan.step_initial h]
  simp [ofScan, initial, step, weight, h, Scan.ne_quote_of_isOpening h]

/-- As long as no document ends the depth is above zero, so that both ways of counting agree. -/
theorem run_of_cut {out out' : List Char} (hd : 0 < s.depth)
    (h : s.cut out t = (s', out', none)) : ofScan s' = (ofScan s).run t ∧ 0 < s'.depth := by
  induction t generalizing s out with
  | nil =>
    cases h
    exact ⟨rfl, hd⟩
  | cons c t ih =>
    simp only [Scan.cut] at h
    split at h
    · cases h
    · next hz =>
      obtain ⟨hs', hd'⟩ := ih (Nat.pos_of_ne_zero hz) h
      exact ⟨by rw [hs', ofScan_step hd]; rfl, hd'⟩

theorem step_of_not_isMark (he : s.escaped = false) (h : (ofScan s).isMark c = false) :
    s.step c = s := by
  simp only [isMark, ofScan, Scan.step] at *
  grind

theorem cut_dropWhile (hd : 0 < s.depth) (he : s.escaped = false) (out t : List Char) :
    ∃ out', s.cut out t = s.cut out' (t.dropWhile (!(ofScan s).isMark ·)) := by
  induction t generalizing out with
  | nil => exact ⟨out, rfl⟩
  | cons c t ih =>
    cases hc : (ofScan s).isMark c with
    | true => exact ⟨out, by simp [hc]⟩
    | false =>
      obtain ⟨out', h⟩ := ih (c :: out)
      refine ⟨out', ?_⟩
      rw [Scan.cut, step_of_not_isMark he hc, if_neg (Nat.ne_of_gt hd), h]
      simp [hc]

theorem cut_mark (hd : 0 < s.depth) (he : s.escaped = false)
    (h : t.dropWhile (!(ofScan s).isMark ·) = c :: rest) (hstep : s.step c = s')
    (hd' : 0 < s'.depth) (out : List Char) : ∃ out', s.cut out t = s'.cut out' rest := by
  obtain ⟨out', hcut⟩ := cut_dropWhile hd he out t
  exact ⟨c :: out', by rw [hcut, h, Scan.cut, hstep, if_neg (Nat.ne_of_gt hd')]⟩

theorem isMark_of_dropWhile (h : t.dropWhile (!x.isMark ·) = c :: rest) : x.isMark c := by
  have := List.head?_dropWhile_not (!x.isMark ·) t
  simpa [h] using this

theorem leap_of_no_mark (h : t.dropWhile (!x.isMark ·) = []) : x.leap t = (x, none) := by
  rw [leap]
  split <;> simp_all

theorem leap_of_mark (h : t.dropWhile (!x.isMark ·) = c :: rest) :
    x.leap t =
      if c = '"' then leap { x with inString := !x.inString } rest
      else if x.inString then
        if rest = [] then ({ x with escaped := true }, none) else leap x rest.tail
      else if Scan.isOpening c then leap { x with depth := x.depth + 1 } rest
      else if x.depth - 1 = 0 then ({ x with depth := x.depth - 1 }, some rest)
      else leap { x with depth := x.depth - 1 } rest := by
  rw [leap]
  split <;> simp_all

theorem leap_eq_cut (hx : x = ofScan s) (hd : 0 < s.depth) (he : s.escaped = false)
    (out : List Char) : x.leap t = (ofScan (s.cut out t).1, (s.cut out t).2.2) := by
  -- one case for each kind of mark; all but the last bracket leave the depth above zero
  induction x, t using leap.induct generalizing s out with
  | case1 x t hdrop =>
    subst hx
    obtain ⟨out', hcut⟩ := cut_dropWhile hd he out t
    rw [leap_of_no_mark hdrop, hcut, hdrop, Scan.cut]
  | case2 x t rest hdrop ih =>
    subst hx
    obtain ⟨out', hcut⟩ := cut_mark hd he hdrop (Scan.step_quote he) hd out
    rw [leap_of_mark hdrop, if_pos rfl, hcut]
    exact ih (s := { s with inString := !s.inString }) rfl hd he out'
  | case3 x t c hq hin hdrop =>
    obtain rfl : c = '\\' := by simpa [isMark, hin, hq] using isMark_of_dropWhile hdrop
    subst hx
    obtain ⟨out', hcut⟩ := cut_mark hd he hdrop (Scan.step_backslash he hin) hd out
    rw [leap_of_mark hdrop, if_neg hq, if_pos hin, if_pos rfl, hcut]
    rfl
  | case4 x t c rest hdrop hq hin hne ih =>
    obtain rfl : c = '\\' := by simpa [isMark, hin, hq] using isMark_of_dropWhile hdrop
    subst hx
    obtain ⟨out', hcut⟩ := cut_mark hd he hdrop (Scan.step_backslash he hin) hd out
    obtain ⟨d, rest, rfl⟩ := List.exists_cons_of_ne_nil hne
    have hskip : Scan.step { s with escaped := true } d = s := by
      simp [Scan.step, ← he]
    rw [leap_of_mark hdrop, if_neg hq, if_pos hin, if_neg hne, hcut, Scan.cut, hskip,
      if_neg (Nat.ne_of_gt hd)]
    exact ih rfl hd he (d :: out')
  | case5 x t c rest hdrop hq hin ho ih =>
    subst hx
    obtain ⟨out', hcut⟩ := cut_mark hd he hdrop (Scan.step_opening he hin ho) (Nat.succ_pos _) out
    rw [leap_of_mark hdrop, if_neg hq, if_neg hin, if_pos ho, hcut]
    exact ih (s := { s with depth := s.depth + 1 }) rfl (Nat.succ_pos _) he out'
  | case6 x t c rest hdrop hq hin ho hz =>
    have hc : Scan.isClosing c := by simpa [isMark, hin, hq, ho] using isMark_of_dropWhile hdrop
    subst hx
    have hone : s.depth - 1 = 0 := by
      rw [depth_ofScan] at hz
      omega
    obtain ⟨out', hcut⟩ := cut_dropWhile hd he out t
    rw [leap_of_mark hdrop, if_neg hq, if_neg hin, if_neg ho, if_pos hz, hcut, hdrop, Scan.cut,
      Scan.step_closing he hin hc, if_pos hone]
    simp [ofScan, hone, show (s.depth : Int) - 1 = 0 from hz]
  | case7 x t c rest hdrop hq hin ho hz ih =>
    have hc : Scan.isClosing c := by simpa [isMark, hin, hq, ho] using isMark_of_dropWhile hdrop
    subst hx
    have hd' : 0 < s.depth - 1 := by
      rw [depth_ofScan] at hz
      omega
    have hpred : ((s.depth - 1 : Nat) : Int) = s.depth - 1 := Int.ofNat_sub hd
    obtain ⟨out', hcut⟩ := cut_mark hd he hdrop (Scan.step_closing he hin hc) hd' out
    rw [leap_of_mark hdrop, if_neg hq, if_neg hin, if_neg ho, if_neg hz, hcut]
    exact ih (s := { s with depth := s.depth - 1 }) (by simp [ofScan, hpred]) hd' he out'

theorem scan_eq_cut (hne : t ≠ []) (h : s.Begins t) (out : List Char) :
    (ofScan s).scan t = (ofScan (s.cut out t).1, (s.cut out t).2.2) := by
  obtain ⟨c, t, rfl⟩ := List.exists_cons_of_ne_nil hne
  obtain hd | ⟨rfl, ho⟩ := h
  · cases he : s.escaped with
    | false =>
      rw [scan, if_neg (by simp [ofScan, he])]
      exact leap_eq_cut rfl hd he out
    | true =>
      have hstep : s.step c = { s with escaped := false } := by
        simp [Scan.step, he]
      rw [scan, if_pos (by simp [ofScan, he]), Scan.cut, hstep, if_neg (Nat.ne_of_gt hd)]
      exact leap_eq_cut (s := { s with escaped := false }) rfl hd rfl (c :: out)
  · -- the depth is zero here, but the first character is a bracket and raises it
    have ho : Scan.isOpening c := ho c rfl
    have hq := Scan.ne_quote_of_isOpening ho
    have hdrop : (c :: t).dropWhile (!(ofScan .initial).isMark ·) = c :: t := by
      simp [isMark, initial, ho]
    rw [scan, if_neg (by simp [initial]), leap_of_mark hdrop, if_neg hq, if_neg (by simp [initial]),
      if_pos ho, Scan.cut, Scan.step_initial ho, if_neg (by simp)]
    exact leap_eq_cut (s := ⟨1, false, false⟩) rfl (by simp) rfl _

theorem run_of_begins {out out' : List Char} (hne : t ≠ []) (h : s.Begins t)
    (hcut : s.cut out t = (s', out', none)) : ofScan s' = (ofScan s).run t ∧ 0 < s'.depth := by
  obtain hd | ⟨rfl, ho⟩ := h
  · exact run_of_cut hd hcut
  · obtain ⟨c, t, rfl⟩ := List.exists_cons_of_ne_nil hne
    have ho : Scan.isOpening c := ho c rfl
    rw [Scan.cut, Scan.step_initial ho, if_neg (by simp), ← Scan.step_initial ho] at hcut
    obtain ⟨hs', hd'⟩ := run_of_cut (by simp [Scan.step_initial ho]) hcut
    exact ⟨by rw [hs', ofScan_step_initial ho]; rfl, hd'⟩

theorem scan_cases (hne : t ≠ []) (h : s.Begins t) (out : List Char) :
    (∃ s', s.cut out t = (s', t.reverse ++ out, none) ∧ (ofScan s).scan t = (ofScan s', none) ∧
      ofScan s' = (ofScan s).run t ∧ 0 < s'.depth) ∨
    ∃ p rest, t = p ++ rest ∧ s.cut out t = (.initial, p.reverse ++ out, some rest) ∧
      (ofScan s).scan t = (initial, some rest) := by
  have hscan := scan_eq_cut hne h out
  rcases hcut : s.cut out t with ⟨s', out', _ | rest⟩
  · obtain ⟨-, rfl⟩ := Scan.cut_eq_run hcut
    rw [hcut] at hscan
    obtain ⟨hs', hd'⟩ := run_of_begins hne h hcut
    exact .inl ⟨s', rfl, hscan, hs', hd'⟩
  · obtain ⟨rfl, p, rfl, rfl⟩ := Scan.cut_eq_some h hcut
    rw [hcut] at hscan
    exact .inr ⟨p, rest, rfl, rfl, hscan⟩

end Tally

end ClusterHealth.Stream
