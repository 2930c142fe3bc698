import ClusterHealth.Json.Decoder
import ClusterHealth.Json.Printer

namespace ClusterHealth.Json

open ClusterHealth.Text

section Hex

theorem hexDigits_succ {width : Nat} (hwidth : width ≠ 0) (n : Nat) :
    hexDigits (width + 1) n = hexDigits width (n / 16) ++ [(n % 16).digitChar] := by
  by_cases hn : n < 16
  · obtain ⟨width, rfl⟩ := Nat.exists_eq_succ_of_ne_zero hwidth
    have hdiv : n / 16 = 0 := Nat.div_eq_of_lt hn
    have hmod : n % 16 = n := Nat.mod_eq_of_lt hn
    simp [hexDigits, hdiv, hmod, Nat.toDigits_of_lt_base hn, List.replicate_succ']
  · simp [hexDigits, Nat.toDigits_of_base_le (by decide) (Nat.le_of_not_lt hn)]

theorem hexDigits_one {n : Nat} (hn : n < 16) : hexDigits 1 n = [n.digitChar] := by
  simp [hexDigits, Nat.toDigits_of_lt_base hn]

theorem hexDigits_four {n : Nat} (hn : n < 0x10000) :
    hexDigits 4 n = [(n / 16 / 16 / 16).digitChar, (n / 16 / 16 % 16).digitChar,
      (n / 16 % 16).digitChar, (n % 16).digitChar] := by
  rw [hexDigits_succ (by decide), hexDigits_succ (by decide), hexDigits_succ (by decide),
    hexDigits_one (by omega)]
  rfl

theorem hexValue?_digitChar : ∀ d < 16, hexValue? d.digitChar = some d := by decide

theorem hex4?_digitChars {a b c d : Nat} (ha : a < 16) (hb : b < 16) (hc : c < 16) (hd : d < 16) :
    hex4? a.digitChar b.digitChar c.digitChar d.digitChar = some (((a * 16 + b) * 16 + c) * 16 + d) := by
  simp [hex4?, hexValue?_digitChar, ha, hb, hc, hd]

end Hex

section Escapes

variable {opened : Nat} {state : StringState} {out : List Point} {tail rest : List Char}

theorem stringFrom_unitEscape {n : Nat} (hn : n < 0x10000) (htail : tail ≠ []) :
    stringFrom opened state (unitEscape n ++ tail) = stringFrom opened (state.pushUnit n) tail := by
  have hvalue : hex4? (n / 16 / 16 / 16).digitChar (n / 16 / 16 % 16).digitChar
      (n / 16 % 16).digitChar (n % 16).digitChar = some n := by
    rw [hex4?_digitChars (by omega) (by omega) (by omega) (by omega)]
    congr 1
    omega
  rw [unitEscape, hexDigits_four hn]
  simp [stringFrom, hvalue, htail]

theorem not_surrogate (c : Char) : isHighSurrogate c.toNat = false ∧ isLowSurrogate c.toNat = false := by
  have hvalid : c.toNat < 0xd800 ∨ 0xdfff < c.toNat ∧ c.toNat < 0x110000 := c.valid
  simp only [isHighSurrogate, isLowSurrogate, Bool.and_eq_false_iff, decide_eq_false_iff_not]
  omega

theorem pushUnit_char (c : Char) : StringState.pushUnit ⟨out, none⟩ c.toNat = ⟨.char c :: out, none⟩ := by
  simp [StringState.pushUnit, not_surrogate, Point.ofCode_toNat]

theorem pushUnit_pair {high low : Nat} (hhigh : isHighSurrogate high = true)
    (hlow : isLowSurrogate low = true) :
    (StringState.pushUnit ⟨out, none⟩ high).pushUnit low =
      ⟨.ofCode (0x10000 + (high - 0xD800) * 0x400 + (low - 0xDC00)) :: out, none⟩ := by
  simp [StringState.pushUnit, hhigh, hlow]

theorem stringFrom_surrogates {c : Char} {n : Nat} (hc : c.toNat = 0x10000 + n) (htail : tail ≠ []) :
    stringFrom opened ⟨out, none⟩
        (unitEscape (0xD800 + n / 0x400) ++ (unitEscape (0xDC00 + n % 0x400) ++ tail)) =
      stringFrom opened ⟨.char c :: out, none⟩ tail := by
  have hvalid : c.toNat < 0xd800 ∨ 0xdfff < c.toNat ∧ c.toNat < 0x110000 := c.valid
  have hhigh : isHighSurrogate (0xD800 + n / 0x400) = true := by
    simp only [isHighSurrogate, Bool.and_eq_true, decide_eq_true_eq]
    omega
  have hlow : isLowSurrogate (0xDC00 + n % 0x400) = true := by
    simp only [isLowSurrogate, Bool.and_eq_true, decide_eq_true_eq]
    omega
  have hsum : 0x10000 + (0xD800 + n / 0x400 - 0xD800) * 0x400 + (0xDC00 + n % 0x400 - 0xDC00) =
      c.toNat := by omega
  rw [stringFrom_unitEscape (by omega) (by simp [unitEscape]),
    stringFrom_unitEscape (by omega) htail, pushUnit_pair hhigh hlow, hsum, Point.ofCode_toNat]

theorem stringFrom_escaped {c e : Char} (he : escaped? e = some c) :
    stringFrom opened ⟨out, none⟩ ('\\' :: e :: tail) = stringFrom opened ⟨.char c :: out, none⟩ tail := by
  have hu : e ≠ 'u' := by
    rintro rfl
    cases he
  rw [stringFrom, he]
  · rfl
  · exact hu

theorem stringFrom_escapeChar (escapedFrom : Nat) (c : Char) (htail : tail ≠ []) :
    stringFrom opened ⟨out, none⟩ (escapeChar escapedFrom c ++ tail) =
      stringFrom opened ⟨.char c :: out, none⟩ tail := by
  have hvalid : c.toNat < 0xd800 ∨ 0xdfff < c.toNat ∧ c.toNat < 0x110000 := c.valid
  unfold escapeChar
  -- seven characters have escapes of their own
  split
  · next h =>
    subst h
    exact stringFrom_escaped rfl
  split
  · next h =>
    subst h
    exact stringFrom_escaped rfl
  split
  · next h =>
    subst h
    exact stringFrom_escaped rfl
  split
  · next h =>
    subst h
    exact stringFrom_escaped rfl
  split
  · next h =>
    subst h
    exact stringFrom_escaped rfl
  split
  · next h =>
    subst h
    exact stringFrom_escaped rfl
  split
  · next h =>
    subst h
    exact stringFrom_escaped rfl
  -- the others are written by one unit, as they are, or by one unit or two
  split
  · rw [stringFrom_unitEscape (by omega) htail, pushUnit_char]
  split
  · next hquote hslash _ _ _ _ _ hcontrol _ =>
    rw [List.singleton_append, stringFrom, if_neg (by omega)]
    · rfl
    · exact hquote
    · exact hslash
  split
  · next h => rw [stringFrom_unitEscape h htail, pushUnit_char]
  · next h =>
    have hc : c.toNat = 0x10000 + (c.toNat - 0x10000) := by omega
    rw [List.append_assoc, stringFrom_surrogates hc htail]

theorem stringFrom_flatMap (escapedFrom : Nat) (cs : List Char) :
    stringFrom opened ⟨out, none⟩ (cs.flatMap (escapeChar escapedFrom) ++ '"' :: rest) =
      .ok (.ofPoints (out.reverse ++ cs.map .char), rest) := by
  induction cs generalizing out with
  | nil => simp [stringFrom, StringState.settle]
  | cons c cs ih =>
    rw [List.flatMap_cons, List.append_assoc, stringFrom_escapeChar escapedFrom c (by simp), ih]
    simp

theorem string_stringChars (f : Format) {t : AnyText} (ht : t.isPlain = true) (rest : List Char) :
    ∃ text, stringChars f t ++ rest = '"' :: text ∧ string text = .ok (t, rest) := by
  obtain ⟨s, rfl⟩ := AnyText.exists_of_isPlain ht
  refine ⟨s.toList.flatMap (escapeChar f.escapedFrom) ++ '"' :: rest, by simp [stringChars, textChars], ?_⟩
  rw [string, stringFrom_flatMap, List.reverse_nil, List.nil_append, AnyText.ofPoints_map_char,
    String.ofList_toList]

end Escapes

end ClusterHealth.Json
