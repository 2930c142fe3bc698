import ClusterHealth.Proofs.EntryLaws
import ClusterHealth.Proofs.Json.NumberText
import ClusterHealth.Proofs.Json.StringText
import ClusterHealth.Proofs.Report.Depth

namespace ClusterHealth

mutual

def Json.isReadable : Json → Bool
  | .int n => decide ((Nat.toDigits 10 n.natAbs).length ≤ Numeral.digitLimit)
  | .arr items => Json.itemsReadable items
  | .obj members => decide (Entries.names members).Nodup && Json.membersReadable members
  | _ => true

def Json.itemsReadable : List Json → Bool
  | [] => true
  | v :: rest => v.isReadable && Json.itemsReadable rest

def Json.membersReadable : List (AnyText × Json) → Bool
  | [] => true
  | (_, v) :: rest => v.isReadable && Json.membersReadable rest

end

namespace Json

def Starts (s : List Char) : Prop :=
  ∃ c tail, s = c :: tail ∧ isBlank c = false ∧ c ≠ ']' ∧ c ≠ Char.ofNat 0xFEFF

/-- The value is read from its text, wherever that stands. -/
structure ReadsBack (f : Format) (v : Json) : Prop where
  starts : ∀ level rest, Starts (chars f level rest v)
  reads : ∀ {steps levels level rest}, v.depth ≤ levels → EndsNumber rest →
    (chars f level rest v).length ≤ steps + rest.length →
    value steps levels (chars f level rest v) = .ok (v, rest)

section Suffixes

variable (f : Format)

mutual

theorem chars_append (level : Nat) (as bs : List Char) (v : Json) :
    chars f level (as ++ bs) v = chars f level as v ++ bs := by
  match v with
  | .null | .bool true | .bool false | .int _ | .float _ | .str _ | .arr [] | .obj [] => simp [chars]
  | .arr (v :: vs) =>
    have htail : f.newline level ++ ']' :: (as ++ bs) = (f.newline level ++ ']' :: as) ++ bs := by simp
    rw [chars, chars, htail, itemChars_append, chars_append]
    simp
  | .obj ((name, v) :: ms) =>
    have htail : f.newline level ++ '\x7d' :: (as ++ bs) = (f.newline level ++ '\x7d' :: as) ++ bs := by
      simp
    rw [chars, chars, htail, memberChars_append, chars_append]
    simp

theorem itemChars_append (level : Nat) (as bs : List Char) (vs : List Json) :
    itemChars f level (as ++ bs) vs = itemChars f level as vs ++ bs := by
  match vs with
  | [] => rfl
  | v :: vs =>
    rw [itemChars, itemChars, itemChars_append, chars_append]
    simp

theorem memberChars_append (level : Nat) (as bs : List Char) (ms : List (AnyText × Json)) :
    memberChars f level (as ++ bs) ms = memberChars f level as ms ++ bs := by
  match ms with
  | [] => rfl
  | (name, v) :: ms =>
    rw [memberChars, memberChars, memberChars_append, chars_append]
    simp

end

theorem suffix_chars (level : Nat) (rest : List Char) (v : Json) : rest <:+ chars f level rest v :=
  ⟨chars f level [] v, (chars_append f level [] rest v).symm⟩

theorem suffix_itemChars (level : Nat) (rest : List Char) (vs : List Json) :
    rest <:+ itemChars f level rest vs :=
  ⟨itemChars f level [] vs, (itemChars_append f level [] rest vs).symm⟩

theorem suffix_memberChars (level : Nat) (rest : List Char) (ms : List (AnyText × Json)) :
    rest <:+ memberChars f level rest ms :=
  ⟨memberChars f level [] ms, (memberChars_append f level [] rest ms).symm⟩

end Suffixes

section Blanks

variable {f : Format} {s : List Char}

theorem skipBlanks_of_starts (h : Starts s) : skipBlanks s = s := by
  obtain ⟨c, tail, rfl, hc, -⟩ := h
  simp [skipBlanks, hc]

theorem skipBlanks_append {blanks : List Char} (h : ∀ c ∈ blanks, isBlank c = true) :
    skipBlanks (blanks ++ s) = skipBlanks s :=
  List.dropWhile_append_of_pos h

theorem skipBlanks_newline (f : Format) (level : Nat) (s : List Char) :
    skipBlanks (f.newline level ++ s) = skipBlanks s := by
  refine skipBlanks_append fun c hc => ?_
  unfold Format.newline at hc
  split at hc
  · simp at hc
  · obtain rfl | hc := List.mem_cons.1 hc
    · rfl
    · rw [List.eq_of_mem_replicate hc]
      rfl

theorem exists_colon (f : Format) (s : List Char) :
    ∃ text, f.colon ++ s = ':' :: text ∧ skipBlanks text = skipBlanks s := by
  unfold Format.colon
  split
  · exact ⟨s, rfl, rfl⟩
  · exact ⟨' ' :: s, rfl, rfl⟩

theorem endsNumber_cons {c : Char} (h : isDigit c = false ∧ c ≠ '.' ∧ c ≠ 'e' ∧ c ≠ 'E') :
    EndsNumber (c :: s) := by
  rintro d ⟨⟩
  exact h

theorem endsNumber_newline {c : Char} (level : Nat)
    (h : isDigit c = false ∧ c ≠ '.' ∧ c ≠ 'e' ∧ c ≠ 'E') :
    EndsNumber (f.newline level ++ c :: s) := by
  unfold Format.newline
  split
  · exact endsNumber_cons h
  · exact endsNumber_cons (by decide)

end Blanks

section Scalars

variable {f : Format} {v : Json} {s rest : List Char}

theorem exists_minus_of_number (h : number s = .ok (v, rest)) :
    ∃ negative c tail, s = minus negative ++ c :: tail ∧ isDigit c = true := by
  unfold number at h
  split at h
  next negative body hsign =>
  split at h
  · cases h
  next whole rest hwhole =>
  obtain ⟨c, tail, rfl, hc⟩ := exists_digit_of_wholePart hwhole
  split at hsign <;> obtain ⟨rfl, rfl⟩ := Prod.mk.inj hsign
  · exact ⟨true, c, tail, rfl, hc⟩
  · exact ⟨false, c, tail, rfl, hc⟩

theorem word?_eq_none_of_isDigit {c : Char} {tail : List Char} (negative : Bool)
    (hc : isDigit c = true) : word? (minus negative ++ c :: tail) = none := by
  have hne (d : Char) (hd : isDigit d = false) : d ≠ c := by
    rintro rfl
    rw [hc] at hd
    cases hd
  cases negative <;>
    simp [word?, wordValues, minus, hne 'n' rfl, hne 't' rfl, hne 'f' rfl,
      hne 'N' rfl, hne 'I' rfl, hne '-' rfl]

theorem value_of_number {steps levels : Nat} (h : number s = .ok (v, rest)) :
    value (steps + 1) levels s = .ok (v, rest) := by
  obtain ⟨negative, c, tail, rfl, hc⟩ := exists_minus_of_number h
  have hword : word? (minus negative ++ c :: tail) = none := word?_eq_none_of_isDigit negative hc
  have hne (d : Char) (hd : isDigit d = false) : c ≠ d := by
    rintro rfl
    rw [hc] at hd
    cases hd
  cases negative with
  | true =>
    rw [minus, if_pos rfl, List.singleton_append] at h hword ⊢
    simp [value, scalar, hword, h]
  | false =>
    rw [minus, if_neg Bool.false_ne_true, List.nil_append] at h hword ⊢
    simp [value, scalar, hword, h, hne '[' rfl, hne '\x7b' rfl, hne '"' rfl]

theorem starts_of_number (h : number s = .ok (v, rest)) : Starts s := by
  obtain ⟨negative, c, tail, rfl, hc⟩ := exists_minus_of_number h
  cases negative with
  | true => exact ⟨'-', _, rfl, rfl, by decide, by decide⟩
  | false =>
    refine ⟨c, tail, rfl, ?_, ?_, ?_⟩
    · simp only [isBlank, Bool.or_eq_false_iff, beq_eq_false_iff_ne]
      refine ⟨⟨⟨?_, ?_⟩, ?_⟩, ?_⟩ <;> rintro rfl <;> cases hc
    · rintro rfl
      cases hc
    · rintro rfl
      cases hc

theorem ne_zero_of_length_le {cs : List Char} {steps : Nat} (hcs : Starts cs)
    (h : (cs ++ rest).length ≤ steps + rest.length) : ∃ n, steps = n + 1 := by
  obtain ⟨c, tail, rfl, -⟩ := hcs
  simp at h
  exact Nat.exists_eq_succ_of_ne_zero (by omega)

theorem readsBack_of_text {text : List Char} (hchars : ∀ level rest, chars f level rest v = text ++ rest)
    (htext : Starts text)
    (hread : ∀ steps levels {rest}, EndsNumber rest →
      value (steps + 1) levels (text ++ rest) = .ok (v, rest)) : ReadsBack f v where
  starts level rest := by
    obtain ⟨c, tail, rfl, h⟩ := htext
    exact ⟨c, tail ++ rest, hchars level rest, h⟩
  reads {steps levels level rest} _ hrest hsteps := by
    rw [hchars] at hsteps ⊢
    obtain ⟨n, rfl⟩ := ne_zero_of_length_le htext hsteps
    exact hread n levels hrest

theorem readsBack_of_number {text : List Char}
    (hchars : ∀ level rest, chars f level rest v = text ++ rest)
    (hnumber : ∀ {rest}, EndsNumber rest → number (text ++ rest) = .ok (v, rest)) :
    ReadsBack f v := by
  refine readsBack_of_text hchars ?_ fun _ _ _ hrest => value_of_number (hnumber hrest)
  have hbare := hnumber endsNumber_nil
  rw [List.append_nil] at hbare
  exact starts_of_number hbare

theorem readsBack_null : ReadsBack f .null :=
  readsBack_of_text (fun _ _ => rfl) ⟨'n', _, rfl, rfl, by decide, by decide⟩ fun _ _ _ _ => rfl

theorem readsBack_bool (b : Bool) : ReadsBack f (.bool b) := by
  cases b with
  | true =>
    exact readsBack_of_text (fun _ _ => rfl) ⟨'t', _, rfl, rfl, by decide, by decide⟩
      fun _ _ _ _ => rfl
  | false =>
    exact readsBack_of_text (fun _ _ => rfl) ⟨'f', _, rfl, rfl, by decide, by decide⟩
      fun _ _ _ _ => rfl

theorem readsBack_str {t : AnyText} (ht : t.isPlain = true) : ReadsBack f (.str t) := by
  obtain ⟨s, rfl⟩ := AnyText.exists_of_isPlain ht
  refine readsBack_of_text (fun _ _ => rfl) ⟨'"', _, rfl, rfl, by decide, by decide⟩
    fun steps levels rest _ => ?_
  obtain ⟨text, htext, hread⟩ := string_stringChars f ht rest
  rw [htext]
  simp [value, scalar, hread, Except.map]

end Scalars

section Inner

variable {f : Format} {v : Json} {rest : List Char}

/-- A value that stands in an array or an object is read with the steps that its container has left. -/
theorem ReadsBack.value_inner {steps levels level : Nat} {tail : List Char} (hv : ReadsBack f v)
    (hdepth : v.depth ≤ levels) (htail : EndsNumber tail) (hlength : rest.length < tail.length)
    (hsteps : (chars f level tail v).length ≤ steps + rest.length) :
    ∃ n, steps = n + 1 ∧ value n levels (chars f level tail v) = .ok (v, tail) := by
  have hle := (suffix_chars f level tail v).length_le
  obtain ⟨n, rfl⟩ := Nat.exists_eq_succ_of_ne_zero (n := steps) (by omega)
  exact ⟨n, rfl, hv.reads hdepth htail (by omega)⟩

theorem skipBlanks_newline_chars (hv : ReadsBack f v) (level inner : Nat) (s : List Char) :
    skipBlanks (f.newline level ++ chars f inner s v) = chars f inner s v := by
  rw [skipBlanks_newline, skipBlanks_of_starts (hv.starts inner s)]

theorem exists_succ_of_length_le {steps : Nat} {a b : Char}
    (h : (a :: b :: rest).length ≤ steps + rest.length) : ∃ n, steps = n + 1 := by
  simp at h
  exact Nat.exists_eq_succ_of_ne_zero (by omega)

end Inner

section Arrays

variable {f : Format} {v : Json} {vs : List Json} {rest : List Char}

def arrayRest (f : Format) (level : Nat) (rest : List Char) (vs : List Json) : List Char :=
  itemChars f level (f.newline level ++ ']' :: rest) vs

def arrayFrom (f : Format) (level : Nat) (rest : List Char) (v : Json) (vs : List Json) : List Char :=
  chars f (level + 1) (arrayRest f level rest vs) v

theorem arrayRest_cons (f : Format) (level : Nat) (rest : List Char) (v : Json) (vs : List Json) :
    arrayRest f level rest (v :: vs) =
      ',' :: (f.newline (level + 1) ++ arrayFrom f level rest v vs) := by
  rw [arrayRest, itemChars]
  rfl

theorem chars_arr_cons (f : Format) (level : Nat) (rest : List Char) (v : Json) (vs : List Json) :
    chars f level rest (.arr (v :: vs)) =
      '[' :: (f.newline (level + 1) ++ arrayFrom f level rest v vs) := by
  rw [chars]
  rfl

theorem endsNumber_arrayRest (level : Nat) : EndsNumber (arrayRest f level rest vs) := by
  cases vs with
  | nil => exact endsNumber_newline level (by decide)
  | cons v vs =>
    rw [arrayRest_cons]
    exact endsNumber_cons (by decide)

theorem length_lt_arrayRest (f : Format) (level : Nat) (rest : List Char) (vs : List Json) :
    rest.length < (arrayRest f level rest vs).length := by
  have hle := (suffix_itemChars f level (f.newline level ++ ']' :: rest) vs).length_le
  rw [List.length_append, List.length_cons] at hle
  rw [arrayRest]
  omega

theorem length_arrayRest_le (f : Format) (level : Nat) (rest : List Char) (v : Json) (vs : List Json) :
    (arrayRest f level rest vs).length ≤ (arrayFrom f level rest v vs).length :=
  (suffix_chars f (level + 1) (arrayRest f level rest vs) v).length_le

theorem items_arrayFrom {steps levels level : Nat} {out : List Json}
    (hreads : ∀ w ∈ v :: vs, ReadsBack f w) (hdepth : ∀ w ∈ v :: vs, w.depth ≤ levels)
    (hsteps : (arrayFrom f level rest v vs).length ≤ steps + rest.length) :
    items steps levels out (arrayFrom f level rest v vs) =
      .ok (.arr (out.reverse ++ v :: vs), rest) := by
  induction vs generalizing v out steps with
  | nil =>
    obtain ⟨hv, -⟩ := List.forall_mem_cons.1 hreads
    obtain ⟨n, rfl, hvalue⟩ := hv.value_inner (hdepth v List.mem_cons_self)
      (endsNumber_arrayRest level) (length_lt_arrayRest f level rest []) hsteps
    have hclose : skipBlanks (arrayRest f level rest []) = ']' :: rest := skipBlanks_newline ..
    simp only [arrayFrom, items, hvalue, hclose, List.reverse_cons]
  | cons w vs ih =>
    obtain ⟨hv, hreads⟩ := List.forall_mem_cons.1 hreads
    obtain ⟨hdepthv, hdepth⟩ := List.forall_mem_cons.1 hdepth
    obtain ⟨n, rfl, hvalue⟩ := hv.value_inner hdepthv
      (endsNumber_arrayRest level) (length_lt_arrayRest f level rest (w :: vs)) hsteps
    have hle := length_arrayRest_le f level rest v (w :: vs)
    rw [arrayRest_cons, List.length_cons, List.length_append] at hle
    have hrest : items n levels (v :: out) (arrayFrom f level rest w vs) =
        .ok (.arr ((v :: out).reverse ++ w :: vs), rest) := ih hreads hdepth (by omega)
    have hcomma : skipBlanks (arrayRest f level rest (w :: vs)) =
        ',' :: (f.newline (level + 1) ++ arrayFrom f level rest w vs) := by
      rw [arrayRest_cons]
      rfl
    have hskip : skipBlanks (f.newline (level + 1) ++ arrayFrom f level rest w vs) =
        arrayFrom f level rest w vs := skipBlanks_newline_chars (hreads w List.mem_cons_self) ..
    rw [arrayFrom, items, hvalue]
    simp only [hcomma, hskip, hrest, List.reverse_cons, List.append_assoc, List.singleton_append]

theorem readsBack_arr (hreads : ∀ w ∈ vs, ReadsBack f w) : ReadsBack f (.arr vs) where
  starts level rest := by
    cases vs with
    | nil => exact ⟨'[', _, by rw [chars], rfl, by decide, by decide⟩
    | cons v vs => exact ⟨'[', _, by rw [chars], rfl, by decide, by decide⟩
  reads {steps levels level rest} hdepth _ hsteps := by
    rw [depth] at hdepth
    obtain ⟨levels, rfl⟩ := Nat.exists_eq_succ_of_ne_zero (n := levels) (by omega)
    cases vs with
    | nil =>
      rw [chars] at hsteps ⊢
      obtain ⟨n, rfl⟩ := exists_succ_of_length_le hsteps
      rfl
    | cons v vs =>
      have hitems : ∀ w ∈ v :: vs, w.depth ≤ levels :=
        itemsDepth_le_iff.1 (Nat.le_of_succ_le_succ hdepth)
      have hle := length_arrayRest_le f level rest v vs
      have hlt := length_lt_arrayRest f level rest vs
      rw [chars_arr_cons] at hsteps ⊢
      rw [List.length_cons, List.length_append] at hsteps
      obtain ⟨n, rfl⟩ := Nat.exists_eq_succ_of_ne_zero (n := steps) (by omega)
      have hread : items n levels [] (arrayFrom f level rest v vs) = .ok (.arr (v :: vs), rest) :=
        items_arrayFrom hreads hitems (by omega)
      have hv := hreads v List.mem_cons_self
      have hskip : skipBlanks (f.newline (level + 1) ++ arrayFrom f level rest v vs) =
          arrayFrom f level rest v vs := skipBlanks_newline_chars hv ..
      obtain ⟨c, tail, hstarts, -, hbracket, -⟩ := hv.starts (level + 1) (arrayRest f level rest vs)
      rw [arrayFrom, hstarts] at hread hskip
      simp only [value, arrayFrom, hstarts, hskip]
      simpa [hbracket] using hread

end Arrays

section Objects

variable {f : Format} {v : Json} {name : AnyText} {ms : Members} {rest : List Char}

def objectRest (f : Format) (level : Nat) (rest : List Char) (ms : Members) : List Char :=
  memberChars f level (f.newline level ++ '\x7d' :: rest) ms

def objectFrom (f : Format) (level : Nat) (rest : List Char) (name : AnyText) (v : Json)
    (ms : Members) : List Char :=
  stringChars f name ++ (f.colon ++ chars f (level + 1) (objectRest f level rest ms) v)

theorem objectRest_cons (f : Format) (level : Nat) (rest : List Char) (name : AnyText) (v : Json)
    (ms : Members) : objectRest f level rest ((name, v) :: ms) =
      ',' :: (f.newline (level + 1) ++ objectFrom f level rest name v ms) := by
  rw [objectRest, memberChars, List.append_assoc, List.append_assoc]
  rfl

theorem chars_obj_cons (f : Format) (level : Nat) (rest : List Char) (name : AnyText) (v : Json)
    (ms : Members) : chars f level rest (.obj ((name, v) :: ms)) =
      '\x7b' :: (f.newline (level + 1) ++ objectFrom f level rest name v ms) := by
  rw [chars, List.append_assoc, List.append_assoc]
  rfl

theorem endsNumber_objectRest (level : Nat) : EndsNumber (objectRest f level rest ms) := by
  cases ms with
  | nil => exact endsNumber_newline level (by decide)
  | cons m ms =>
    rw [objectRest_cons]
    exact endsNumber_cons (by decide)

theorem length_lt_objectRest (f : Format) (level : Nat) (rest : List Char) (ms : Members) :
    rest.length < (objectRest f level rest ms).length := by
  have hle := (suffix_memberChars f level (f.newline level ++ '\x7d' :: rest) ms).length_le
  rw [List.length_append, List.length_cons] at hle
  rw [objectRest]
  omega

theorem length_chars_le_objectFrom (f : Format) (level : Nat) (rest : List Char) (name : AnyText)
    (v : Json) (ms : Members) : (chars f (level + 1) (objectRest f level rest ms) v).length ≤
      (objectFrom f level rest name v ms).length := by
  rw [objectFrom, List.length_append, List.length_append]
  omega

theorem skipBlanks_newline_objectFrom (f : Format) (level inner : Nat) (rest : List Char)
    (name : AnyText) (v : Json) (ms : Members) :
    skipBlanks (f.newline inner ++ objectFrom f level rest name v ms) =
      objectFrom f level rest name v ms :=
  skipBlanks_newline ..

theorem members_member {steps levels inner : Nat} {out : Members} {tail left : List Char}
    (hplain : name.isPlain = true) (hv : ReadsBack f v)
    (hvalue : value steps levels (chars f inner tail v) = .ok (v, tail)) :
    (skipBlanks tail = '\x7d' :: left →
      members (steps + 1) levels out (stringChars f name ++ (f.colon ++ chars f inner tail v)) =
        .ok (.obj (out.put name v), left)) ∧
    (skipBlanks tail = ',' :: left →
      members (steps + 1) levels out (stringChars f name ++ (f.colon ++ chars f inner tail v)) =
        members steps levels (out.put name v) (skipBlanks left)) := by
  obtain ⟨text, htext, hname⟩ := string_stringChars f hplain (f.colon ++ chars f inner tail v)
  obtain ⟨text', hcolon, hskip⟩ := exists_colon f (chars f inner tail v)
  have hstart := skipBlanks_of_starts (hv.starts inner tail)
  rw [hcolon] at hname
  have hfront : skipBlanks (':' :: text') = ':' :: text' := rfl
  constructor
  · intro hclose
    simp only [htext, members, hname, hfront, hskip, hstart, hvalue, hclose]
  · intro hcomma
    simp only [htext, members, hname, hfront, hskip, hstart, hvalue, hcomma]

theorem not_mem_names_of_nodup {out : Members}
    (h : (Entries.names (out ++ (name, v) :: ms)).Nodup) : name ∉ Entries.names out := by
  rw [Entries.names, List.map_append, List.nodup_append] at h
  exact fun hname => h.2.2 name hname name (by simp) rfl

theorem members_objectFrom {steps levels level : Nat} {out : Members}
    (hreads : ∀ m ∈ (name, v) :: ms, m.1.isPlain = true ∧ ReadsBack f m.2)
    (hdepth : ∀ m ∈ (name, v) :: ms, m.2.depth ≤ levels)
    (hnodup : (Entries.names (out ++ (name, v) :: ms)).Nodup)
    (hsteps : (objectFrom f level rest name v ms).length ≤ steps + rest.length) :
    members steps levels out (objectFrom f level rest name v ms) =
      .ok (.obj (out ++ (name, v) :: ms), rest) := by
  induction ms generalizing name v out steps with
  | nil =>
    obtain ⟨⟨hplain, hv⟩, -⟩ := List.forall_mem_cons.1 hreads
    obtain ⟨n, rfl, hvalue⟩ := hv.value_inner (hdepth _ List.mem_cons_self)
      (endsNumber_objectRest level) (length_lt_objectRest f level rest [])
      ((length_chars_le_objectFrom ..).trans hsteps)
    have hclose : skipBlanks (objectRest f level rest []) = '\x7d' :: rest := skipBlanks_newline ..
    rw [objectFrom, (members_member hplain hv hvalue).1 hclose,
      Entries.put_of_not_mem (not_mem_names_of_nodup hnodup)]
  | cons m ms ih =>
    obtain ⟨⟨hplain, hv⟩, hreads⟩ := List.forall_mem_cons.1 hreads
    obtain ⟨hdepthv, hdepth⟩ := List.forall_mem_cons.1 hdepth
    have hinner := length_chars_le_objectFrom f level rest name v (m :: ms)
    obtain ⟨n, rfl, hvalue⟩ := hv.value_inner hdepthv (endsNumber_objectRest level)
      (length_lt_objectRest f level rest (m :: ms)) (hinner.trans hsteps)
    -- every step of the fuel is paid for by a character, here by the comma
    have hle := (suffix_chars f (level + 1) (objectRest f level rest (m :: ms)) v).length_le
    rw [objectRest_cons] at hle hinner
    rw [List.length_cons, List.length_append] at hle
    have hnext : (Entries.names ((out ++ [(name, v)]) ++ (m.1, m.2) :: ms)).Nodup := by
      rwa [List.append_assoc]
    have hrest : members n levels (out ++ [(name, v)]) (objectFrom f level rest m.1 m.2 ms) =
        .ok (.obj (out ++ [(name, v)] ++ m :: ms), rest) := ih hreads hdepth hnext (by omega)
    have hcomma : skipBlanks (objectRest f level rest (m :: ms)) =
        ',' :: (f.newline (level + 1) ++ objectFrom f level rest m.1 m.2 ms) := by
      rw [objectRest_cons]
      rfl
    rw [objectFrom, (members_member hplain hv hvalue).2 hcomma,
      Entries.put_of_not_mem (not_mem_names_of_nodup hnodup)]
    simp only [skipBlanks_newline_objectFrom, hrest, List.append_assoc, List.singleton_append]

theorem readsBack_obj (hreads : ∀ m ∈ ms, m.1.isPlain = true ∧ ReadsBack f m.2)
    (hnodup : (Entries.names ms).Nodup) :
    ReadsBack f (.obj ms) where
  starts level rest := by
    cases ms with
    | nil => exact ⟨'\x7b', _, by rw [chars], rfl, by decide, by decide⟩
    | cons m ms => exact ⟨'\x7b', _, by rw [chars], rfl, by decide, by decide⟩
  reads {steps levels level rest} hdepth _ hsteps := by
    rw [depth] at hdepth
    obtain ⟨levels, rfl⟩ := Nat.exists_eq_succ_of_ne_zero (n := levels) (by omega)
    cases ms with
    | nil =>
      rw [chars] at hsteps ⊢
      obtain ⟨n, rfl⟩ := exists_succ_of_length_le hsteps
      rfl
    | cons m ms =>
      obtain ⟨name, v⟩ := m
      have hmembers : ∀ m ∈ (name, v) :: ms, m.2.depth ≤ levels :=
        membersDepth_le_iff.1 (Nat.le_of_succ_le_succ hdepth)
      have hinner := length_chars_le_objectFrom f level rest name v ms
      have hle := (suffix_chars f (level + 1) (objectRest f level rest ms) v).length_le
      have hlt := length_lt_objectRest f level rest ms
      rw [chars_obj_cons] at hsteps ⊢
      rw [List.length_cons, List.length_append] at hsteps
      obtain ⟨n, rfl⟩ := Nat.exists_eq_succ_of_ne_zero (n := steps) (by omega)
      have hread : members n levels [] (objectFrom f level rest name v ms) =
          .ok (.obj ((name, v) :: ms), rest) := members_objectFrom hreads hmembers hnodup (by omega)
      simp only [value, skipBlanks_newline_objectFrom]
      exact hread

end Objects

mutual

theorem readsBack (f : Format) (v : Json) (hreadable : v.isReadable = true)
    (hfinite : v.allFinite = true) (hplain : v.isPlain = true) : ReadsBack f v := by
  match v with
  | .null => exact readsBack_null
  | .bool b => exact readsBack_bool b
  | .int n =>
    exact readsBack_of_number (fun _ _ => rfl) fun hrest =>
      number_int (of_decide_eq_true hreadable) hrest
  | .float x =>
    exact readsBack_of_number (fun _ _ => rfl) fun hrest =>
      number_float f.layout f.nonFinite hfinite hrest
  | .str t => exact readsBack_str hplain
  | .arr vs => exact readsBack_arr (readsBack_items f vs hreadable hfinite hplain)
  | .obj ms =>
    obtain ⟨hnodup, hmembers⟩ := Bool.and_eq_true_iff.1 hreadable
    exact readsBack_obj (readsBack_members f ms hmembers hfinite hplain) (of_decide_eq_true hnodup)

theorem readsBack_items (f : Format) (vs : List Json) (hreadable : itemsReadable vs = true)
    (hfinite : itemsFinite vs = true) (hplain : itemsPlain vs = true) : ∀ w ∈ vs, ReadsBack f w := by
  match vs with
  | [] => simp
  | v :: vs =>
    obtain ⟨hreadablev, hreadable⟩ := Bool.and_eq_true_iff.1 hreadable
    obtain ⟨hfinitev, hfinite⟩ := Bool.and_eq_true_iff.1 hfinite
    obtain ⟨hplainv, hplain⟩ := Bool.and_eq_true_iff.1 hplain
    exact List.forall_mem_cons.2
      ⟨readsBack f v hreadablev hfinitev hplainv, readsBack_items f vs hreadable hfinite hplain⟩

theorem readsBack_members (f : Format) (ms : List (AnyText × Json))
    (hreadable : membersReadable ms = true) (hfinite : membersFinite ms = true)
    (hplain : membersPlain ms = true) : ∀ m ∈ ms, m.1.isPlain = true ∧ ReadsBack f m.2 := by
  match ms with
  | [] => simp
  | (name, v) :: ms =>
    obtain ⟨hreadablev, hreadable⟩ := Bool.and_eq_true_iff.1 hreadable
    obtain ⟨hfinitev, hfinite⟩ := Bool.and_eq_true_iff.1 hfinite
    obtain ⟨hname, hplain⟩ := Bool.and_eq_true_iff.1 hplain
    obtain ⟨hplainv, hplain⟩ := Bool.and_eq_true_iff.1 hplain
    exact List.forall_mem_cons.2 ⟨⟨hname, readsBack f v hreadablev hfinitev hplainv⟩,
      readsBack_members f ms hreadable hfinite hplain⟩

end

theorem decode_chars (f : Format) {v : Json} {blanks : List Char} (hreadable : v.isReadable = true)
    (hfinite : v.allFinite = true) (hplain : v.isPlain = true) (hdepth : v.depth ≤ nestingLimit)
    (hends : EndsNumber blanks) (hblanks : ∀ c ∈ blanks, isBlank c = true) :
    decode (String.ofList (chars f 0 blanks v)) = .ok v := by
  have hback := readsBack f v hreadable hfinite hplain
  have hread : value (2 * (chars f 0 blanks v).length + 2) nestingLimit (chars f 0 blanks v) =
      .ok (v, blanks) :=
    hback.reads hdepth hends (by omega)
  have hstarts := hback.starts 0 blanks
  have hleft : skipBlanks blanks = [] := by
    rw [← List.append_nil blanks, skipBlanks_append hblanks]
    rfl
  have hdocument : document (chars f 0 blanks v) = .ok v := by
    simp only [document, skipBlanks_of_starts hstarts, hread, hleft]
  obtain ⟨c, tail, htext, -, -, hmark⟩ := hstarts
  rw [decode, String.toList_ofList, hdocument, htext]
  simp [hmark]

theorem decode_render (f : Format) {v : Json} (hreadable : v.isReadable = true)
    (hfinite : v.allFinite = true) (hplain : v.isPlain = true) (hdepth : v.depth ≤ nestingLimit) :
    decode (v.render f) = .ok v :=
  decode_chars f hreadable hfinite hplain hdepth endsNumber_nil (by simp)

theorem decode_line (f : Format) {v : Json} (hreadable : v.isReadable = true)
    (hfinite : v.allFinite = true) (hplain : v.isPlain = true) (hdepth : v.depth ≤ nestingLimit) :
    decode (v.render f ++ "\n") = .ok v := by
  have hline : v.render f ++ "\n" = String.ofList (chars f 0 ['\n'] v) := by
    rw [render, show ['\n'] = [] ++ ['\n'] from rfl, chars_append, String.ofList_append]
  rw [hline]
  exact decode_chars f hreadable hfinite hplain hdepth (endsNumber_cons (by decide))
    (List.forall_mem_singleton.2 rfl)

end Json

end ClusterHealth
