import ClusterHealth.Proofs.Text.CuttingLaws
import ClusterHealth.Proofs.Text.EncodingLaws
import ClusterHealth.Web.Percent

namespace ClusterHealth.Web

open ClusterHealth.Text

section Escapes

variable {c : Char}

theorem hexValue?_upperHex : ∀ n < 16, Json.hexValue? (upperHex n) = some n := by decide

theorem upperHex_ne : ∀ n < 16, upperHex n ≠ '&' ∧ upperHex n ≠ '=' ∧ upperHex n ≠ '+' := by decide

theorem percentOctets_octetEscape (b : UInt8) (rest : List Char) :
    percentOctets 0 (octetEscape b ++ rest) = b :: percentOctets 0 rest := by
  have hb := b.toNat_lt
  have hoctet : hexOctet? (upperHex (b.toNat / 16) :: upperHex (b.toNat % 16) :: rest) = some b := by
    simp only [hexOctet?, hexValue?_upperHex _ (show b.toNat / 16 < 16 by omega),
      hexValue?_upperHex _ (show b.toNat % 16 < 16 by omega)]
    change some (b.toNat / 16 * 16 + b.toNat % 16).toUInt8 = some b
    rw [Nat.div_add_mod']
    simp
  simp [octetEscape, percentOctets, hoctet]

theorem percentOctets_flatMap (bs : List UInt8) (rest : List Char) :
    percentOctets 0 (bs.flatMap octetEscape ++ rest) = bs ++ percentOctets 0 rest := by
  induction bs with
  | nil => rfl
  | cons b bs ih => rw [List.flatMap_cons, List.append_assoc, percentOctets_octetEscape, ih, List.cons_append]

theorem percentOctets_cons (hc : c ≠ '%') (rest : List Char) :
    percentOctets 0 (c :: rest) = octets c.toString ++ percentOctets 0 rest := by
  simp [percentOctets, hc]

end Escapes

section Forms

variable {c d : Char} {s : String}

def formChars (c : Char) : List Char :=
  if isUnreserved c then [c] else if c = ' ' then ['+'] else escapeChar c

def unplus (c : Char) : Char := if c = '+' then ' ' else c

theorem toList_formEncode (s : String) : (formEncode s).toList = s.toList.flatMap formChars := by
  rw [formEncode, String.toList_ofList]
  rfl

theorem isUnreserved_ne (h : isUnreserved c = true) : c ≠ '&' ∧ c ≠ '=' ∧ c ≠ '+' ∧ c ≠ '%' := by
  refine ⟨?_, ?_, ?_, ?_⟩ <;> rintro rfl <;> revert h <;> decide

theorem mem_octetEscape {b : UInt8} (h : c ∈ octetEscape b) : c ≠ '&' ∧ c ≠ '=' ∧ c ≠ '+' := by
  have hb := b.toNat_lt
  simp only [octetEscape, List.mem_cons, List.not_mem_nil, or_false] at h
  obtain rfl | rfl | rfl := h
  · decide
  · exact upperHex_ne _ (by omega)
  · exact upperHex_ne _ (by omega)

theorem ne_separator_of_mem_formChars (h : c ∈ formChars d) : c ≠ '&' ∧ c ≠ '=' := by
  unfold formChars at h
  split at h
  · next hd =>
    obtain rfl := List.mem_singleton.1 h
    exact ⟨(isUnreserved_ne hd).1, (isUnreserved_ne hd).2.1⟩
  split at h
  · obtain rfl := List.mem_singleton.1 h
    decide
  · obtain ⟨b, -, hc⟩ := List.mem_flatMap.1 h
    exact ⟨(mem_octetEscape hc).1, (mem_octetEscape hc).2.1⟩

theorem ne_separator_of_mem_formEncode (h : c ∈ (formEncode s).toList) : c ≠ '&' ∧ c ≠ '=' := by
  rw [toList_formEncode] at h
  obtain ⟨d, -, hd⟩ := List.mem_flatMap.1 h
  exact ne_separator_of_mem_formChars hd

theorem percentOctets_formChars (c : Char) (rest : List Char) :
    percentOctets 0 ((formChars c).map unplus ++ rest) = octets c.toString ++ percentOctets 0 rest := by
  unfold formChars
  split
  · next hc =>
    obtain ⟨-, -, hplus, hpercent⟩ := isUnreserved_ne hc
    simp [unplus, hplus, percentOctets_cons hpercent]
  split
  · next hc =>
    subst hc
    exact percentOctets_cons (by decide) rest
  · have hplain : ∀ d ∈ escapeChar c, unplus d = id d := by
      intro d hd
      obtain ⟨b, -, hb⟩ := List.mem_flatMap.1 hd
      exact if_neg (mem_octetEscape hb).2.2
    rw [List.map_congr_left hplain, List.map_id, escapeChar, percentOctets_flatMap]

theorem percentOctets_formEncode (cs : List Char) :
    percentOctets 0 ((cs.flatMap formChars).map unplus) = cs.flatMap String.utf8EncodeChar := by
  induction cs with
  | nil => rfl
  | cons c cs ih =>
    rw [List.flatMap_cons, List.map_append, percentOctets_formChars, ih, List.flatMap_cons, octets_eq]
    simp

theorem formDecode_formEncode (s : String) : formDecode (formEncode s) = s := by
  rw [formDecode, percentDecode, String.toList_ofList, toList_formEncode]
  change utf8Replacing (percentOctets 0 ((s.toList.flatMap formChars).map unplus)) = s
  rw [percentOctets_formEncode, ← octets_eq, utf8Replacing_octets]

theorem pieces_formOf {pairs : List (String × String)} (hne : pairs ≠ []) :
    pieces '&' (formOf pairs) = pairs.map fun (name, v) => formEncode name ++ "=" ++ formEncode v := by
  refine pieces_intercalate (by simp) (by simpa using hne) ?_
  intro part hpart
  obtain ⟨⟨name, v⟩, -, rfl⟩ := List.mem_map.1 hpart
  have hname : '&' ∉ (formEncode name).toList := fun h => (ne_separator_of_mem_formEncode h).1 rfl
  have hv : '&' ∉ (formEncode v).toList := fun h => (ne_separator_of_mem_formEncode h).1 rfl
  simp [hname, hv]

theorem parseForm_formOf (pairs : List (String × String)) : parseForm (formOf pairs) = pairs := by
  by_cases hne : pairs = []
  · subst hne
    rfl
  have hfull : ∀ part ∈ pairs.map fun (name, v) => formEncode name ++ "=" ++ formEncode v,
      part ≠ "" := by
    intro part hpart
    obtain ⟨⟨name, v⟩, -, rfl⟩ := List.mem_map.1 hpart
    simp
  rw [parseForm, pieces_formOf hne, List.filter_eq_self.2 (by simpa using hfull), List.map_map]
  refine (List.map_congr_left fun pair _ => ?_).trans (List.map_id pairs)
  have hname : '=' ∉ (formEncode pair.1).toList := fun h => (ne_separator_of_mem_formEncode h).2 rfl
  simp [splitAtFirst?_append (show "=".toList = ['='] by simp) hname, formDecode_formEncode]

end Forms

end ClusterHealth.Web
