import ClusterHealth.Text.Basic

namespace ClusterHealth.Text

section Lines

def OneLine (s : String) : Prop := ∀ c ∈ s.toList, isLineEnd c = false

instance (s : String) : Decidable (OneLine s) := List.decidableBAll _ s.toList

variable {s t : String} {ls : List String}

theorem OneLine.append (hs : OneLine s) (ht : OneLine t) : OneLine (s ++ t) := by
  intro c hc
  rw [String.toList_append] at hc
  exact (List.mem_append.1 hc).elim (hs c) (ht c)

theorem linesFrom_cons {c : Char} {line rest : List Char} (h : isLineEnd c = false) :
    linesFrom line (c :: rest) = linesFrom (c :: line) rest := by
  rw [linesFrom, h]
  · rfl
  · rintro rest' rfl
    cases h

theorem linesFrom_append {line cs rest : List Char} (h : ∀ c ∈ cs, isLineEnd c = false) :
    linesFrom line (cs ++ rest) = linesFrom (cs.reverse ++ line) rest := by
  induction cs generalizing line with
  | nil => rfl
  | cons c cs ih =>
    obtain ⟨hc, hcs⟩ := List.forall_mem_cons.1 h
    rw [List.cons_append, linesFrom_cons hc, ih hcs, List.reverse_cons, List.append_assoc]
    rfl

theorem lines_append_newline (h : OneLine s) (t : String) : lines (s ++ "\n" ++ t) = s :: lines t := by
  have hend : ∀ line rest, linesFrom line ('\n' :: rest) = line.reverse :: linesFrom [] rest :=
    fun _ _ => rfl
  have htext : (s ++ "\n" ++ t).toList = s.toList ++ '\n' :: t.toList := by simp
  rw [lines, htext, linesFrom_append h, hend]
  simp [lines]

theorem lines_of_oneLine (h : OneLine s) : lines s = if s = "" then [] else [s] := by
  have hfrom : linesFrom [] s.toList = linesFrom s.toList.reverse [] := by
    rw [← List.append_nil s.toList, linesFrom_append h, List.append_nil, List.append_nil]
  rw [lines, hfrom, linesFrom]
  by_cases hs : s = "" <;> simp [hs]

theorem lines_intercalate (h : ∀ s ∈ ls, OneLine s) :
    lines ("\n".intercalate ls) = ls ∨ lines ("\n".intercalate ls) ++ [""] = ls := by
  induction ls with
  | nil => exact .inl rfl
  | cons s ls ih =>
    obtain ⟨hs, hls⟩ := List.forall_mem_cons.1 h
    cases ls with
    | nil =>
      rw [String.intercalate_singleton, lines_of_oneLine hs]
      split
      · next hempty => exact .inr (by rw [hempty]; rfl)
      · exact .inl rfl
    | cons t ls =>
      rw [String.intercalate_cons_cons, lines_append_newline hs, List.cons_append]
      exact (ih hls).imp (congrArg _) (congrArg _)

end Lines

section LineEnds

theorem unifyLineEnds_cons {c : Char} {cs : List Char} (h : c ≠ '\r') :
    unifyLineEnds (c :: cs) = c :: unifyLineEnds cs := by
  rw [unifyLineEnds]
  · rintro rest rfl
    contradiction
  · exact h

theorem unifyLineEnds_append {as bs : List Char} (h : '\r' ∉ as) :
    unifyLineEnds (as ++ bs) = as ++ unifyLineEnds bs := by
  induction as with
  | nil => rfl
  | cons a as ih =>
    obtain ⟨ha, has⟩ : '\r' ≠ a ∧ '\r' ∉ as := by simpa using h
    rw [List.cons_append, unifyLineEnds_cons (Ne.symm ha), ih has, List.cons_append]

/-- A character that is part of no line end parts what stands before it from what stands behind. -/
theorem unifyLineEnds_append_cons {c : Char} (hreturn : c ≠ '\r') (hfeed : c ≠ '\n') (as bs : List Char) :
    unifyLineEnds (as ++ c :: bs) = unifyLineEnds as ++ c :: unifyLineEnds bs := by
  fun_induction unifyLineEnds as with
  | case1 => exact unifyLineEnds_cons hreturn
  | case2 rest ih => exact congrArg (List.cons '\n') ih
  | case3 rest hrest ih =>
    rw [List.cons_append, unifyLineEnds, ih]
    · rfl
    · rintro tail htail
      cases rest with
      | nil => exact hfeed (List.cons.inj htail).1
      | cons d rest => exact hrest rest (by rw [(List.cons.inj htail).1])
  | case4 d rest hcrlf hcr ih =>
    rw [List.cons_append, unifyLineEnds_cons fun hd => hcr hd, ih]
    rfl

theorem mem_unifyLineEnds {c : Char} {cs : List Char} (h : c ∈ unifyLineEnds cs) : c = '\n' ∨ c ∈ cs := by
  fun_induction unifyLineEnds cs with
  | case1 => exact .inr h
  | case2 rest ih =>
    obtain rfl | h := List.mem_cons.1 h
    · exact .inl rfl
    · exact (ih h).imp_right fun h => List.mem_cons_of_mem _ (List.mem_cons_of_mem _ h)
  | case3 rest _ ih =>
    obtain rfl | h := List.mem_cons.1 h
    · exact .inl rfl
    · exact (ih h).imp_right (List.mem_cons_of_mem _)
  | case4 d rest _ _ ih =>
    obtain rfl | h := List.mem_cons.1 h
    · exact .inr List.mem_cons_self
    · exact (ih h).imp_right (List.mem_cons_of_mem _)

end LineEnds

section Words

variable {ws : List String} {ending : String}

structure IsWord (w : String) : Prop where
  ne_empty : w ≠ ""
  noBlank : ∀ c ∈ w.toList, isBlank c = false

theorem wordsFrom_append {word cs rest : List Char} (h : ∀ c ∈ cs, isBlank c = false) :
    wordsFrom word (cs ++ rest) = wordsFrom (cs.reverse ++ word) rest := by
  induction cs generalizing word with
  | nil => rfl
  | cons c cs ih =>
    obtain ⟨hc, hcs⟩ := List.forall_mem_cons.1 h
    rw [List.cons_append, wordsFrom, hc, if_neg Bool.false_ne_true, ih hcs, List.reverse_cons,
      List.append_assoc]
    rfl

theorem wordsFrom_blanks {word cs : List Char} (h : ∀ c ∈ cs, isBlank c = true) :
    wordsFrom word cs = if word = [] then [] else [word.reverse] := by
  induction cs generalizing word with
  | nil => cases word <;> rfl
  | cons c cs ih =>
    obtain ⟨hc, hcs⟩ := List.forall_mem_cons.1 h
    rw [wordsFrom, hc, if_pos rfl, ih hcs]
    cases word <;> rfl

theorem words_append_space {w : String} (h : IsWord w) (t : String) :
    words (w ++ " " ++ t) = w :: words t := by
  have hne : w.toList.reverse ≠ [] := by simpa using h.ne_empty
  have hend : ∀ word rest, word ≠ [] → wordsFrom word (' ' :: rest) = word.reverse :: wordsFrom [] rest := by
    intro word rest hword
    cases word with
    | nil => contradiction
    | cons c word => rfl
  have htext : (w ++ " " ++ t).toList = w.toList ++ ' ' :: t.toList := by simp
  rw [words, htext, wordsFrom_append h.noBlank, List.append_nil, hend _ _ hne]
  simp [words]

theorem words_append_blanks {w : String} (h : IsWord w) (hending : ∀ c ∈ ending.toList, isBlank c = true) :
    words (w ++ ending) = [w] := by
  have hne : w.toList.reverse ≠ [] := by simpa using h.ne_empty
  rw [words, String.toList_append, wordsFrom_append h.noBlank, List.append_nil, wordsFrom_blanks hending,
    if_neg hne, List.reverse_reverse]
  simp

theorem words_intercalate (h : ∀ w ∈ ws, IsWord w) (hending : ∀ c ∈ ending.toList, isBlank c = true) :
    words (" ".intercalate ws ++ ending) = ws := by
  induction ws with
  | nil =>
    rw [String.intercalate_nil, String.empty_append, words, wordsFrom_blanks hending]
    rfl
  | cons w ws ih =>
    obtain ⟨hw, hws⟩ := List.forall_mem_cons.1 h
    cases ws with
    | nil => rw [String.intercalate_singleton, words_append_blanks hw hending]
    | cons v ws =>
      rw [String.intercalate_cons_cons, String.append_assoc, words_append_space hw, ih hws]

theorem mem_of_mem_intercalate {sep : String} {parts : List String} {c : Char}
    (h : c ∈ (sep.intercalate parts).toList) : c ∈ sep.toList ∨ ∃ part ∈ parts, c ∈ part.toList := by
  induction parts with
  | nil =>
    rw [String.intercalate_nil] at h
    cases h
  | cons part parts ih =>
    cases parts with
    | nil =>
      rw [String.intercalate_singleton] at h
      exact .inr ⟨part, List.mem_cons_self, h⟩
    | cons next parts =>
      rw [String.intercalate_cons_cons, String.toList_append, String.toList_append, List.mem_append,
        List.mem_append] at h
      obtain (h | h) | h := h
      · exact .inr ⟨part, List.mem_cons_self, h⟩
      · exact .inl h
      · obtain h | ⟨other, hother, h⟩ := ih h
        · exact .inl h
        · exact .inr ⟨other, List.mem_cons_of_mem _ hother, h⟩

end Words

end ClusterHealth.Text
