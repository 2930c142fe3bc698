import ClusterHealth.Text.Basic
import Mathlib.Data.List.DropRight

namespace ClusterHealth.Text

section Lists

variable {p : Char → Bool} {cs : List Char}

structure Trimmed (p : Char → Bool) (cs : List Char) : Prop where
  first : ∀ c ∈ cs.head?, p c = false
  last : ∀ c ∈ cs.getLast?, p c = false

instance (p : Char → Bool) (cs : List Char) : Decidable (Trimmed p cs) :=
  have : Decidable (∀ c ∈ cs.head?, p c = false) := Option.decidableForallMem _
  have : Decidable (∀ c ∈ cs.getLast?, p c = false) := Option.decidableForallMem _
  decidable_of_iff ((∀ c ∈ cs.head?, p c = false) ∧ ∀ c ∈ cs.getLast?, p c = false)
    ⟨fun ⟨hfirst, hlast⟩ => ⟨hfirst, hlast⟩, fun h => ⟨h.first, h.last⟩⟩

theorem trimRight_eq_rdropWhile (p : Char → Bool) (cs : List Char) :
    trimRight p cs = cs.rdropWhile p := rfl

theorem trimLeft_eq_self (h : ∀ c ∈ cs.head?, p c = false) : trimLeft p cs = cs := by
  cases cs with
  | nil => rfl
  | cons c cs => simp [trimLeft, h c rfl]

theorem trimRight_eq_self (h : ∀ c ∈ cs.getLast?, p c = false) : trimRight p cs = cs := by
  rw [trimRight_eq_rdropWhile, List.rdropWhile_eq_self_iff]
  intro hne
  simp [h _ (List.getLast?_eq_some_getLast hne)]

theorem last_trimRight (p : Char → Bool) (cs : List Char) :
    ∀ c ∈ (trimRight p cs).getLast?, p c = false := by
  intro c hc
  have hne : cs.rdropWhile p ≠ [] := by
    rintro hnil
    simp [trimRight_eq_rdropWhile, hnil] at hc
  have hlast := List.rdropWhile_last_not p cs hne
  rw [trimRight_eq_rdropWhile, List.getLast?_eq_some_getLast hne] at hc
  rw [Option.mem_some_iff.1 hc] at hlast
  exact Bool.eq_false_iff.2 hlast

theorem first_trimLeft (p : Char → Bool) (cs : List Char) :
    ∀ c ∈ (trimLeft p cs).head?, p c = false := by
  induction cs with
  | nil => simp [trimLeft]
  | cons c cs ih =>
    by_cases hc : p c = true
    · simpa [trimLeft, hc] using ih
    · simp [trimLeft, hc]

theorem head?_of_isPrefixOf {as : List Char} (h : as <+: cs) : ∀ c ∈ as.head?, c ∈ cs.head? := by
  obtain ⟨bs, rfl⟩ := h
  cases as <;> simp

theorem trimmed_trimBy (p : Char → Bool) (cs : List Char) : Trimmed p (trimBy p cs) where
  first c hc := first_trimLeft p cs c (head?_of_isPrefixOf (List.rdropWhile_prefix p _) c hc)
  last := last_trimRight p _

theorem Trimmed.trimBy_eq (h : Trimmed p cs) : trimBy p cs = cs := by
  rw [trimBy, trimLeft_eq_self h.first, trimRight_eq_self h.last]

theorem trimRight_eq_nil_iff : trimRight p cs = [] ↔ ∀ c ∈ cs, p c = true :=
  List.rdropWhile_eq_nil_iff

theorem exists_append_trimRight (p : Char → Bool) (cs : List Char) :
    ∃ ds, cs = trimRight p cs ++ ds ∧ ∀ c ∈ ds, p c = true :=
  ⟨cs.rtakeWhile p, (List.rdropWhile_append_rtakeWhile ..).symm, fun _ => List.mem_rtakeWhile_imp⟩

theorem trimRight_append {ds : List Char} (h : ∀ c ∈ ds, p c = true) :
    trimRight p (cs ++ ds) = trimRight p cs := by
  induction ds using List.reverseRecOn with
  | nil => rw [List.append_nil]
  | append_singleton ds d ih =>
    obtain ⟨hds, hd⟩ := List.forall_mem_append.1 h
    rw [← List.append_assoc, trimRight_eq_rdropWhile, List.rdropWhile_concat_pos _ _ _ (hd d (by simp)),
      ← trimRight_eq_rdropWhile, ih hds]

theorem Trimmed.trimBy_append {as bs : List Char} (h : Trimmed p cs) (has : ∀ c ∈ as, p c = true)
    (hbs : ∀ c ∈ bs, p c = true) : trimBy p (as ++ cs ++ bs) = cs := by
  have hleft : trimLeft p (as ++ cs ++ bs) = trimLeft p (cs ++ bs) := by
    rw [trimLeft, List.append_assoc, List.dropWhile_append_of_pos has, ← trimLeft]
  rw [trimBy, hleft]
  cases cs with
  | nil =>
    have hnone : trimLeft p bs = [] := List.dropWhile_eq_nil_iff.2 hbs
    rw [List.nil_append, hnone]
    rfl
  | cons c cs =>
    rw [trimLeft_eq_self (by simpa using h.first), trimRight_append hbs, trimRight_eq_self h.last]

end Lists

theorem trimmed_strip (s : String) : Trimmed isBlank (strip s).toList := by
  rw [strip, String.toList_ofList]
  exact trimmed_trimBy isBlank s.toList

theorem strip_eq_self {s : String} (h : Trimmed isBlank s.toList) : strip s = s := by
  rw [strip, h.trimBy_eq, String.ofList_toList]

theorem strip_eq_empty_iff {s : String} : strip s = "" ↔ ∀ c ∈ s.toList, isBlank c = true := by
  rw [strip, String.ofList_eq_empty_iff, trimBy, trimRight_eq_nil_iff]
  constructor
  · intro hrest c hc
    rw [← List.takeWhile_append_dropWhile (p := isBlank) (l := s.toList)] at hc
    exact (List.mem_append.1 hc).elim List.mem_takeWhile_imp (hrest c)
  · exact fun hall c hc => hall c ((List.dropWhile_sublist isBlank).subset hc)

theorem strip_append {a s b : String} (h : Trimmed isBlank s.toList)
    (ha : ∀ c ∈ a.toList, isBlank c = true) (hb : ∀ c ∈ b.toList, isBlank c = true) :
    strip (a ++ s ++ b) = s := by
  rw [strip, String.toList_append, String.toList_append, h.trimBy_append ha hb, String.ofList_toList]

@[simp] theorem strip_strip (s : String) : strip (strip s) = strip s :=
  strip_eq_self (trimmed_strip s)

theorem stripRightChar_eq_empty_iff {c : Char} {s : String} :
    stripRightChar c s = "" ↔ ∀ d ∈ s.toList, d = c := by
  simp [stripRightChar, String.ofList_eq_empty_iff, trimRight_eq_nil_iff]

theorem toList_stripRightChar (c : Char) (s : String) :
    (stripRightChar c s).toList = trimRight (· == c) s.toList := by
  rw [stripRightChar, String.toList_ofList]

section Pieces

variable {sep : Char} {mid : String}

theorem piecesFrom_eq (sep : Char) (piece cs : List Char) :
    piecesFrom sep piece cs = cs.splitOnPPrepend (· == sep) piece := by
  induction cs generalizing piece with
  | nil => rfl
  | cons c cs ih => simp [piecesFrom, List.splitOnPPrepend, ih]

theorem mem_piecesFrom {c : Char} {piece cs : List Char} (h : c ∈ piece ∨ c ∈ cs) :
    c = sep ∨ ∃ p ∈ piecesFrom sep piece cs, c ∈ p := by
  induction cs generalizing piece with
  | nil => exact .inr ⟨piece.reverse, by simp [piecesFrom], by simpa using h⟩
  | cons d cs ih =>
    rw [piecesFrom]
    split
    · next hd =>
      obtain h | h := h
      · exact .inr ⟨piece.reverse, by simp, by simpa using h⟩
      obtain rfl | h := List.mem_cons.1 h
      · exact .inl hd
      · obtain hsep | ⟨p, hp, hc⟩ := ih (.inr h)
        · exact .inl hsep
        · exact .inr ⟨p, List.mem_cons_of_mem _ hp, hc⟩
    · exact ih (by simpa [or_assoc, or_comm, or_left_comm] using h)

theorem mem_pieces (sep : Char) {c : Char} {s : String} (h : c ∈ s.toList) :
    c = sep ∨ ∃ p ∈ pieces sep s, c ∈ p.toList := by
  obtain hc | ⟨p, hp, hc⟩ := mem_piecesFrom (.inr h : c ∈ [] ∨ c ∈ s.toList)
  · exact .inl hc
  · exact .inr ⟨String.ofList p, List.mem_map_of_mem hp, by simpa using hc⟩

theorem piecesFrom_of_not_mem {piece cs : List Char} (h : sep ∉ cs) :
    piecesFrom sep piece cs = [piece.reverse ++ cs] := by
  induction cs generalizing piece with
  | nil => simp [piecesFrom]
  | cons d cs ih =>
    obtain ⟨hd, hcs⟩ : sep ≠ d ∧ sep ∉ cs := by simpa using h
    rw [piecesFrom, if_neg (Ne.symm hd), ih hcs]
    simp

theorem pieces_intercalate {parts : List String} (hmid : mid.toList = [sep]) (hne : parts ≠ [])
    (h : ∀ part ∈ parts, sep ∉ part.toList) : pieces sep (mid.intercalate parts) = parts := by
  have hlists : ∀ cs ∈ parts.map String.toList, sep ∉ cs := by simpa using h
  rw [pieces, piecesFrom_eq, String.toList_intercalate, hmid]
  change (([sep].intercalate (parts.map String.toList)).splitOn sep).map String.ofList = parts
  rw [List.splitOn_intercalate sep hlists (by simpa using hne)]
  simp [Function.comp_def]

theorem splitAtFirst?_append {a b : String} (hmid : mid.toList = [sep]) (h : sep ∉ a.toList) :
    splitAtFirst? sep (a ++ mid ++ b) = some (a, b) := by
  have hall : ∀ c ∈ a.toList, (c != sep) = true := fun c hc => bne_iff_ne.2 (ne_of_mem_of_not_mem hc h)
  simp [splitAtFirst?, hmid, List.dropWhile_append_of_pos hall, List.takeWhile_append_of_pos hall]

theorem infix_intercalate {sep part : List Char} {parts : List (List Char)} (h : part ∈ parts) :
    part <:+: sep.intercalate parts := by
  induction parts with
  | nil => cases h
  | cons first rest ih =>
    cases rest with
    | nil =>
      obtain rfl := List.mem_singleton.1 h
      simp
    | cons second rest =>
      rw [List.intercalate_cons_cons]
      obtain rfl | h := List.mem_cons.1 h
      · rw [List.append_assoc]
        exact (List.prefix_append ..).isInfix
      · exact (ih h).trans (List.suffix_append ..).isInfix

theorem infix_joined {sep s : String} {parts : List String} (h : s ∈ parts) :
    s.toList <:+: (sep.intercalate parts).toList := by
  rw [String.toList_intercalate]
  exact infix_intercalate (List.mem_map_of_mem h)

theorem infix_append {s t u : String} (h : s.toList <:+: u.toList) : s.toList <:+: (t ++ u).toList := by
  rw [String.toList_append]
  exact h.trans (List.suffix_append ..).isInfix

end Pieces

end ClusterHealth.Text
