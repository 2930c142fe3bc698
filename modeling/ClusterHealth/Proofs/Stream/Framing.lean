import ClusterHealth.Stream.Reader
import Mathlib.Data.List.DropRight
import Mathlib.Data.List.Infix

/-!
Documents of a text that is there as a whole. A document is the shortest front of the text that closes
as many brackets as it opens; what stands there instead of one decides about every later call too. The
scan of a reader, which sees a text piece by piece, finds the same fronts.
-/

namespace ClusterHealth.Stream

namespace Framing

def weight (c : Char) : Int :=
  if Scan.isOpening c then 1 else if Scan.isClosing c then -1 else 0

mutual

/-- Brackets opened less brackets closed, in a text that begins outside of strings; in one that begins
within a string, or behind a backslash there, what follows is passed over first. -/
def balance : List Char → Int
  | [] => 0
  | c :: rest => if c = '"' then stringBalance rest else weight c + balance rest

def stringBalance : List Char → Int
  | [] => 0
  | c :: rest =>
    if c = '\\' then hiddenBalance rest else if c = '"' then balance rest else stringBalance rest

def hiddenBalance : List Char → Int
  | [] => 0
  | _ :: rest => stringBalance rest

end

def piece? (t : List Char) : Option (List Char) := t.inits.find? fun p => p ≠ [] ∧ balance p = 0

inductive Front
  | short (t : List Char)
  | stray (t : List Char)
  | piece (p rest : List Char)
deriving DecidableEq

def front (t : List Char) : Front :=
  match Json.skipBlanks t with
  | [] => .short []
  | c :: rest =>
    if Scan.isOpening c then
      match piece? (c :: rest) with
      | some p => .piece p ((c :: rest).drop p.length)
      | none => .short (c :: rest)
    else .stray (c :: rest)

def verdict : Except Json.DecodeError Json → Reading
  | .ok (.obj d) => .document d
  | .ok _ => .failed .notObject
  | .error (.malformed cause _) => .failed (.malformed cause)
  | .error (.tooManyDigits n) => .failed (.foreign (.tooManyDigits n))
  | .error (.tooDeep c) => .failed (.foreign (.tooDeep c))

namespace Front

def reading : Front → Reading
  | .short [] => .ended
  | .short _ => .failed .unfinished
  | .stray _ => .failed .notObject
  | .piece p _ => verdict (Json.decode (String.ofList p))

def rest : Front → List Char
  | .short t => t
  | .stray t => t
  | .piece _ t => t

end Front

def frames : Nat → List Char → List Reading
  | 0, _ => []
  | n + 1, t => (front t).reading :: frames n (front t).rest

end Framing

open Framing

namespace Scan

variable {s : Scan}

def Wf (s : Scan) : Prop := s.escaped = true → s.inString = true

theorem Wf.step (h : s.Wf) (c : Char) : (s.step c).Wf := by
  revert h
  simp only [Wf, Scan.step]
  grind

def gain (s : Scan) (t : List Char) : Int :=
  if s.escaped then hiddenBalance t else if s.inString then stringBalance t else balance t

@[simp] theorem gain_nil (s : Scan) : s.gain [] = 0 := by
  simp [gain, balance, stringBalance, hiddenBalance]

theorem depth_add_gain_cons (h : s.Wf) (hd : 0 < s.depth) (c : Char) (t : List Char) :
    (s.depth : Int) + s.gain (c :: t) = (s.step c).depth + (s.step c).gain t := by
  obtain ⟨depth, inString, escaped⟩ := s
  cases escaped with
  | true =>
    have hin : inString = true := h rfl
    simp [gain, hin, Scan.step, hiddenBalance]
  | false =>
    cases inString with
    | true =>
      by_cases hb : c = '\\'
      · simp [gain, Scan.step, stringBalance, hb]
      · by_cases hq : c = '"' <;> simp [gain, Scan.step, stringBalance, hb, hq]
    | false =>
      by_cases hq : c = '"'
      · simp [gain, Scan.step, balance, hq]
      · by_cases ho : isOpening c
        · simp [gain, Scan.step, balance, weight, hq, ho, Int.add_assoc]
        · by_cases hc : isClosing c
          · have : ((depth - 1 : Nat) : Int) = depth - 1 := Int.ofNat_sub hd
            simp [gain, Scan.step, balance, weight, hq, ho, hc, this]
            omega
          · simp [gain, Scan.step, balance, weight, hq, ho, hc]

@[simp] theorem run_nil (s : Scan) : s.run [] = s := rfl

@[simp] theorem run_cons (s : Scan) (c : Char) (t : List Char) :
    s.run (c :: t) = (s.step c).run t := rfl

theorem cut_eq_find? (h : s.Wf) (hd : 0 < s.depth) (out t : List Char) :
    s.cut out t =
      match t.inits.find? fun p => (s.depth : Int) + s.gain p = 0 with
      | some p => (s.run p, p.reverse ++ out, some (t.drop p.length))
      | none => (s.run t, t.reverse ++ out, none) := by
  induction t generalizing s out with
  | nil => simp [cut, Nat.ne_of_gt hd]
  | cons c t ih =>
    have hnil : ¬ ((s.depth : Int) + s.gain [] = 0) := by simp [Nat.ne_of_gt hd]
    have hstep : (fun p => decide ((s.depth : Int) + s.gain p = 0)) ∘ (c :: ·) =
        fun p => decide (((s.step c).depth : Int) + (s.step c).gain p = 0) := by
      funext p
      simp [depth_add_gain_cons h hd]
    rw [List.inits_cons, List.find?_cons_of_neg (by simpa using hnil), List.find?_map, hstep]
    by_cases hz : (s.step c).depth = 0
    · cases t <;> simp [cut, hz, List.inits]
    · rw [cut, if_neg hz, ih (h.step c) (Nat.pos_of_ne_zero hz)]
      cases t.inits.find? fun p => decide (((s.step c).depth : Int) + (s.step c).gain p = 0) <;> simp

theorem cut_append (s : Scan) (out t u : List Char) :
    s.cut out (t ++ u) =
      match s.cut out t with
      | (s', out', some rest) => (s', out', some (rest ++ u))
      | (s', out', none) => s'.cut out' u := by
  induction t generalizing s out with
  | nil => rfl
  | cons c t ih =>
    by_cases hz : (s.step c).depth = 0
    · simp [cut, hz]
    · simp only [List.cons_append, cut, if_neg hz, ih]

theorem ne_quote_of_isOpening {c : Char} (h : isOpening c) : c ≠ '"' := by
  rintro rfl
  simp [isOpening] at h

theorem step_initial {c : Char} (h : isOpening c) : initial.step c = ⟨1, false, false⟩ := by
  simp [step, initial, h, ne_quote_of_isOpening h]

theorem cut_eq_piece? {c : Char} (h : isOpening c) (t : List Char) :
    initial.cut [] (c :: t) =
      match piece? (c :: t) with
      | some p => (initial.run p, p.reverse, some ((c :: t).drop p.length))
      | none => (initial.run (c :: t), (c :: t).reverse, none) := by
  have hone : Wf ⟨1, false, false⟩ := by simp [Wf]
  have hpiece : (fun p => decide (p ≠ [] ∧ balance p = 0)) ∘ (c :: ·) =
      fun p => decide (((1 : Nat) : Int) + gain ⟨1, false, false⟩ p = 0) := by
    funext p
    simp [gain, balance, weight, h, ne_quote_of_isOpening h]
  rw [piece?, List.inits_cons, List.find?_cons_of_neg (by simp), List.find?_map, hpiece, cut,
    step_initial h, if_neg (by simp), cut_eq_find? hone (by simp)]
  cases t.inits.find? fun p => decide (((1 : Nat) : Int) + gain ⟨1, false, false⟩ p = 0) <;>
    simp [step_initial h]

theorem isClosing_of_step {c : Char} (hd : 0 < s.depth) (h : (s.step c).depth = 0) :
    isClosing c := by
  revert h
  simp only [step]
  grind

theorem isClosing_of_cut {s' : Scan} {out out' t rest : List Char} (hd : 0 < s.depth)
    (h : s.cut out t = (s', out', some rest)) : ∃ b o, out' = b :: o ∧ isClosing b := by
  induction t generalizing s out with
  | nil => simp [cut] at h
  | cons c t ih =>
    by_cases hz : (s.step c).depth = 0
    · simp only [cut, hz, if_true] at h
      cases h
      exact ⟨c, out, rfl, isClosing_of_step hd hz⟩
    · simp only [cut, if_neg hz] at h
      exact ih (Nat.pos_of_ne_zero hz) h

end Scan

namespace Framing

theorem not_isBlank_of_isOpening {c : Char} (h : Scan.isOpening c) : Json.isBlank c = false := by
  simp only [Scan.isOpening, Bool.or_eq_true, beq_iff_eq] at h
  rcases h with rfl | rfl <;> rfl

@[simp] theorem skipBlanks_cons_of_isOpening {c : Char} (h : Scan.isOpening c) (t : List Char) :
    Json.skipBlanks (c :: t) = c :: t := by
  simp [Json.skipBlanks, not_isBlank_of_isOpening h]

theorem prefix_of_piece? {t p : List Char} (h : piece? t = some p) : p <+: t :=
  (List.mem_inits ..).1 (List.mem_of_find?_eq_some h)

theorem piece?_ne_nil {t p : List Char} (h : piece? t = some p) : p ≠ [] := by
  have := List.find?_some h
  simp at this
  exact this.1

theorem piece?_eq_append {c : Char} {t p : List Char} (ho : Scan.isOpening c)
    (h : piece? (c :: t) = some p) : ∃ q b, p = q ++ [b] ∧ Scan.isClosing b := by
  have hcut := Scan.cut_eq_piece? ho t
  rw [h, Scan.cut, Scan.step_initial ho, if_neg (by simp)] at hcut
  obtain ⟨b, o, hp, hb⟩ := Scan.isClosing_of_cut (by simp) hcut
  exact ⟨o.reverse, b, by simpa using congrArg List.reverse hp, hb⟩

theorem piece?_append {t p : List Char} (h : piece? t = some p) (u : List Char) :
    piece? (t ++ u) = some p := by
  rw [piece?] at *
  rw [List.inits_append, List.find?_append, h]
  rfl

theorem piece?_append_of_none {t u p : List Char} (ht : piece? t = none)
    (h : piece? (t ++ u) = some p) : ∃ q, q ≠ [] ∧ q <+: u ∧ p = t ++ q := by
  rw [piece?] at ht h
  rw [List.inits_append, List.find?_append, ht, Option.none_or] at h
  obtain ⟨q, hq, rfl⟩ := List.mem_map.1 (List.mem_of_find?_eq_some h)
  refine ⟨q, ?_, (List.mem_inits ..).1 (List.mem_of_mem_tail hq), rfl⟩
  rintro rfl
  cases u <;> simp at hq

theorem front_cases (t : List Char) :
    (Json.skipBlanks t = [] ∧ front t = .short []) ∨
    ∃ c u, Json.skipBlanks t = c :: u ∧
      ((Scan.isOpening c = false ∧ front t = .stray (c :: u)) ∨
       (Scan.isOpening c = true ∧ piece? (c :: u) = none ∧ front t = .short (c :: u)) ∨
       (Scan.isOpening c = true ∧ ∃ p, piece? (c :: u) = some p ∧
          front t = .piece p ((c :: u).drop p.length))) := by
  cases ht : Json.skipBlanks t with
  | nil => simp [front, ht]
  | cons c u =>
    refine .inr ⟨c, u, rfl, ?_⟩
    cases ho : Scan.isOpening c with
    | false => simp [front, ht, ho]
    | true => cases hp : piece? (c :: u) <;> simp [front, ht, ho, hp]

theorem front_eq_piece {t p rest : List Char} (h : front t = .piece p rest) :
    ∃ c u, Json.skipBlanks t = c :: u ∧ Scan.isOpening c ∧ piece? (c :: u) = some p ∧
      p ++ rest = c :: u := by
  obtain ⟨-, ht⟩ | ⟨c, u, hu, ⟨-, ht⟩ | ⟨-, -, ht⟩ | ⟨ho, q, hq, ht⟩⟩ := front_cases t
  · simp [ht] at h
  · simp [ht] at h
  · simp [ht] at h
  · obtain ⟨rfl, rfl⟩ : q = p ∧ (c :: u).drop q.length = rest := by simpa [ht] using h
    exact ⟨c, u, hu, ho, hq, List.prefix_iff_eq_append.1 (prefix_of_piece? hq)⟩

theorem eq_append_of_front {t p rest : List Char} (h : front t = .piece p rest) :
    ∃ w, (∀ c ∈ w, Json.isBlank c) ∧ t = w ++ p ++ rest := by
  obtain ⟨c, u, hu, -, -, hp⟩ := front_eq_piece h
  refine ⟨t.takeWhile Json.isBlank, fun _ hc => List.mem_takeWhile_imp hc, ?_⟩
  rw [List.append_assoc, hp, ← hu]
  exact List.takeWhile_append_dropWhile.symm

theorem front_rest {t : List Char} (h : ∀ p u, front t ≠ .piece p u) :
    front (front t).rest = front t := by
  obtain ⟨-, ht⟩ | ⟨c, u, hu, ⟨ho, ht⟩ | ⟨ho, hp, ht⟩ | ⟨ho, p, hp, ht⟩⟩ := front_cases t
  · rw [ht]
    rfl
  · have hc : Json.skipBlanks (c :: u) = c :: u := by
      rw [← hu]
      exact List.dropWhile_idempotent ..
    rw [ht]
    simp [Front.rest, front, ho, hc]
  · rw [ht]
    simp [Front.rest, front, ho, hp]
  · exact absurd ht (h _ _)

theorem front_of_short {t u : List Char} (h : front t = .short u) : front u = .short u := by
  have hrest := front_rest (t := t) (by simp [h])
  simpa [h, Front.rest] using hrest

/-- More text moves what stands at the front only where there was too little. -/
theorem front_append (t u : List Char) :
    front (t ++ u) =
      match front t with
      | .short t => front (t ++ u)
      | .stray t => .stray (t ++ u)
      | .piece p rest => .piece p (rest ++ u) := by
  have happ : Json.skipBlanks (t ++ u) =
      if (Json.skipBlanks t).isEmpty then Json.skipBlanks u else Json.skipBlanks t ++ u := by
    simp [Json.skipBlanks, List.dropWhile_append]
  obtain ⟨ht, hf⟩ | ⟨c, v, ht, ⟨ho, hf⟩ | ⟨ho, hp, hf⟩ | ⟨ho, p, hp, hf⟩⟩ := front_cases t
  · simp [front, happ, ht]
  · simp [front, happ, ht, ho]
  · simp [front, happ, ht, ho, hp]
  · have hp' : piece? (c :: (v ++ u)) = some p := piece?_append hp u
    have hle : p.length ≤ (c :: v).length := (prefix_of_piece? hp).length_le
    have hdrop : (c :: (v ++ u)).drop p.length = (c :: v).drop p.length ++ u :=
      List.drop_append_of_le_length hle
    simp [front, happ, ht, ho, hp, hp', hdrop]

theorem exists_isClosing_of_front {t u v p rest : List Char} (ht : front t = .short u)
    (h : front (t ++ v) = .piece p rest) : ∃ b ∈ v, Scan.isClosing b := by
  rw [front_append, ht] at h
  obtain ⟨c, w, hw, ho, hp, -⟩ := front_eq_piece h
  obtain ⟨q, b, hq, hb⟩ := piece?_eq_append ho hp
  obtain ⟨-, hu⟩ | ⟨d, x, -, ⟨-, hu⟩ | ⟨hd, hnone, hu⟩ | ⟨-, _, -, hu⟩⟩ := front_cases t
  · obtain rfl : [] = u := by simpa [ht] using hu.symm
    have hmem : b ∈ Json.skipBlanks v := by
      rw [List.nil_append] at hw
      rw [hw]
      exact (prefix_of_piece? hp).subset (by simp [hq])
    exact ⟨b, (List.dropWhile_suffix _).subset hmem, hb⟩
  · simp [ht] at hu
  · obtain rfl : d :: x = u := by simpa [ht] using hu.symm
    rw [List.cons_append, skipBlanks_cons_of_isOpening hd] at hw
    obtain ⟨y, hne, hy, rfl⟩ := piece?_append_of_none hnone (u := v) (hw ▸ hp)
    obtain ⟨z, e, rfl⟩ := (List.eq_nil_or_concat y).resolve_left hne
    rw [List.concat_eq_append, ← List.append_assoc] at hq
    obtain rfl : e = b := by simpa using (List.append_inj' hq rfl).2
    exact ⟨e, hy.subset (by simp), hb⟩
  · simp [ht] at hu

end Framing

end ClusterHealth.Stream
