import ClusterHealth.Proofs.Text.DecodingLaws

namespace ClusterHealth.Text

theorem toList_loop (bs : ByteArray) (i : Nat) (out : List UInt8) :
    ByteArray.toList.loop bs i out = out.reverse ++ bs.data.toList.drop i := by
  fun_induction ByteArray.toList.loop bs i out with
  | case1 i out hi ih =>
    have hlt : i < bs.data.toList.length := by simpa using hi
    rw [ih, List.drop_eq_getElem_cons hlt]
    simp [ByteArray.get!, hi]
  | case2 i out hi =>
    rw [List.drop_eq_nil_of_le (by simpa using Nat.le_of_not_lt hi)]
    simp

theorem octets_eq (s : String) : octets s = s.toList.flatMap String.utf8EncodeChar := by
  rw [octets, String.toUTF8_eq_toByteArray, ← String.utf8Encode_toList, ByteArray.toList, toList_loop]
  simp [List.utf8Encode]

section Steps

variable {b : UInt8} {m : Nat} {p : Partial}

theorem beginChar_two (h : 0xC2 ≤ b.toNat ∧ b.toNat < 0xE0) :
    beginChar b = ([], some ⟨b, 1, 1, 0x80, 0xBF, b.toNat - 0xC0⟩) := by
  unfold beginChar
  dsimp only
  rw [if_neg (by omega), if_neg (by omega), if_pos (by omega)]

/-- The first of three octets admits all second ones but those of shorter forms and of surrogates. -/
theorem beginChar_three (h : 0xE0 ≤ b.toNat ∧ b.toNat < 0xF0) (hm : 0x80 ≤ m ∧ m ≤ 0xBF)
    (hshort : b.toNat = 0xE0 → 0xA0 ≤ m) (hsurrogate : b.toNat = 0xED → m ≤ 0x9F) :
    ∃ low high, beginChar b = ([], some ⟨b, 1, 2, low, high, b.toNat - 0xE0⟩) ∧ low ≤ m ∧ m ≤ high := by
  unfold beginChar
  dsimp only
  rw [if_neg (by omega), if_neg (by omega), if_neg (by omega)]
  split
  · next hb => exact ⟨_, _, by rw [hb], hshort hb, hm.2⟩
  split
  · next hb => exact ⟨_, _, by rw [hb], hm.1, hsurrogate hb⟩
  rw [if_pos (by omega)]
  exact ⟨_, _, rfl, hm⟩

theorem beginChar_four (h : 0xF0 ≤ b.toNat ∧ b.toNat ≤ 0xF4) (hm : 0x80 ≤ m ∧ m ≤ 0xBF)
    (hshort : b.toNat = 0xF0 → 0x90 ≤ m) (hbeyond : b.toNat = 0xF4 → m ≤ 0x8F) :
    ∃ low high, beginChar b = ([], some ⟨b, 1, 3, low, high, b.toNat - 0xF0⟩) ∧ low ≤ m ∧ m ≤ high := by
  unfold beginChar
  dsimp only
  rw [if_neg (by omega), if_neg (by omega), if_neg (by omega), if_neg (by omega), if_neg (by omega),
    if_neg (by omega)]
  split
  · next hb => exact ⟨_, _, by rw [hb], hshort hb, hm.2⟩
  split
  · exact ⟨_, _, rfl, hm⟩
  rw [if_pos (by omega)]
  exact ⟨_, _, by rw [show b.toNat = 0xF4 by omega], hm.1, hbeyond (by omega)⟩

theorem decodeOctet_more (hlow : p.low ≤ b.toNat) (hhigh : b.toNat ≤ p.high) (hneed : 1 < p.need) :
    decodeOctet (some p) b = ([], some
      ⟨p.first, p.seen + 1, p.need - 1, 0x80, 0xBF, p.value * 64 + (b.toNat - 0x80)⟩) := by
  unfold decodeOctet
  dsimp only
  rw [if_pos ⟨hlow, hhigh⟩, if_neg (by omega)]

theorem decodeOctet_last (hlow : p.low ≤ b.toNat) (hhigh : b.toNat ≤ p.high) (hneed : p.need = 1) :
    decodeOctet (some p) b = ([.char (Char.ofNat (p.value * 64 + (b.toNat - 0x80)))], none) := by
  unfold decodeOctet
  dsimp only
  rw [if_pos ⟨hlow, hhigh⟩, if_pos (by omega)]

end Steps

section Characters

variable {v : Nat}

theorem toNat_ofNat_of_lt {n : Nat} (h : n < 256) : (UInt8.ofNat n).toNat = n := by
  simpa using h

theorem decodeOctets_one (h : v ≤ 0x7f) :
    decodeOctets none [UInt8.ofNat v] = ([.char (Char.ofNat v)], none) := by
  have hoctet := toNat_ofNat_of_lt (show v < 256 by omega)
  rw [decodeOctets_of_ascii (by simp only [List.mem_singleton, forall_eq, hoctet]; omega)]
  simp only [List.map_cons, List.map_nil, hoctet]

theorem decodeOctets_two (h : 0x7f < v ∧ v ≤ 0x7ff) :
    decodeOctets none [UInt8.ofNat (v / 64 % 0x20 + 0xc0), UInt8.ofNat (v % 0x40 + 0x80)] =
      ([.char (Char.ofNat v)], none) := by
  have hfirst := toNat_ofNat_of_lt (show v / 64 % 0x20 + 0xc0 < 256 by omega)
  have hsecond := toNat_ofNat_of_lt (show v % 0x40 + 0x80 < 256 by omega)
  generalize UInt8.ofNat (v / 64 % 0x20 + 0xc0) = a at hfirst ⊢
  generalize UInt8.ofNat (v % 0x40 + 0x80) = b at hsecond ⊢
  rw [decodeOctets_cons, decodeOctets_cons, decodeOctet, beginChar_two (by omega),
    decodeOctet_last (by dsimp only; omega) (by dsimp only; omega) rfl]
  dsimp only
  rw [show (a.toNat - 0xC0) * 64 + (b.toNat - 0x80) = v by omega]
  rfl

theorem decodeOctets_three (h : 0x7ff < v ∧ v ≤ 0xffff) (hsurrogate : v < 0xD800 ∨ 0xDFFF < v) :
    decodeOctets none [UInt8.ofNat (v / 4096 % 0x10 + 0xe0), UInt8.ofNat (v / 64 % 0x40 + 0x80),
        UInt8.ofNat (v % 0x40 + 0x80)] = ([.char (Char.ofNat v)], none) := by
  have hfirst := toNat_ofNat_of_lt (show v / 4096 % 0x10 + 0xe0 < 256 by omega)
  have hsecond := toNat_ofNat_of_lt (show v / 64 % 0x40 + 0x80 < 256 by omega)
  have hthird := toNat_ofNat_of_lt (show v % 0x40 + 0x80 < 256 by omega)
  generalize UInt8.ofNat (v / 4096 % 0x10 + 0xe0) = a at hfirst ⊢
  generalize UInt8.ofNat (v / 64 % 0x40 + 0x80) = b at hsecond ⊢
  generalize UInt8.ofNat (v % 0x40 + 0x80) = c at hthird ⊢
  obtain ⟨low, high, hbegin, hlow, hhigh⟩ := beginChar_three (b := a) (m := b.toNat) (by omega)
    (by omega) (by omega) (by omega)
  rw [decodeOctets_cons, decodeOctets_cons, decodeOctets_cons, decodeOctet, hbegin,
    decodeOctet_more hlow hhigh (by simp),
    decodeOctet_last (by dsimp only; omega) (by dsimp only; omega) rfl]
  dsimp only
  rw [show ((a.toNat - 0xE0) * 64 + (b.toNat - 0x80)) * 64 + (c.toNat - 0x80) = v by omega]
  rfl

theorem decodeOctets_four (h : 0xffff < v ∧ v < 0x110000) :
    decodeOctets none [UInt8.ofNat (v / 262144 % 0x08 + 0xf0), UInt8.ofNat (v / 4096 % 0x40 + 0x80),
        UInt8.ofNat (v / 64 % 0x40 + 0x80), UInt8.ofNat (v % 0x40 + 0x80)] =
      ([.char (Char.ofNat v)], none) := by
  have hfirst := toNat_ofNat_of_lt (show v / 262144 % 0x08 + 0xf0 < 256 by omega)
  have hsecond := toNat_ofNat_of_lt (show v / 4096 % 0x40 + 0x80 < 256 by omega)
  have hthird := toNat_ofNat_of_lt (show v / 64 % 0x40 + 0x80 < 256 by omega)
  have hfourth := toNat_ofNat_of_lt (show v % 0x40 + 0x80 < 256 by omega)
  generalize UInt8.ofNat (v / 262144 % 0x08 + 0xf0) = a at hfirst ⊢
  generalize UInt8.ofNat (v / 4096 % 0x40 + 0x80) = b at hsecond ⊢
  generalize UInt8.ofNat (v / 64 % 0x40 + 0x80) = c at hthird ⊢
  generalize UInt8.ofNat (v % 0x40 + 0x80) = d at hfourth ⊢
  obtain ⟨low, high, hbegin, hlow, hhigh⟩ := beginChar_four (b := a) (m := b.toNat) (by omega)
    (by omega) (by omega) (by omega)
  rw [decodeOctets_cons, decodeOctets_cons, decodeOctets_cons, decodeOctets_cons, decodeOctet, hbegin,
    decodeOctet_more hlow hhigh (by simp),
    decodeOctet_more (by dsimp only; omega) (by dsimp only; omega) (by simp),
    decodeOctet_last (by dsimp only; omega) (by dsimp only; omega) rfl]
  dsimp only
  rw [show (((a.toNat - 0xF0) * 64 + (b.toNat - 0x80)) * 64 + (c.toNat - 0x80)) * 64 +
    (d.toNat - 0x80) = v by omega]
  rfl

theorem decodeOctets_utf8EncodeChar (c : Char) :
    decodeOctets none (String.utf8EncodeChar c) = ([.char c], none) := by
  have hc : Char.ofNat c.val.toNat = c := Char.ofNat_toNat c
  have hvalid : c.val.toNat < 0xD800 ∨ 0xDFFF < c.val.toNat ∧ c.val.toNat < 0x110000 := c.valid
  rw [String.utf8EncodeChar]
  generalize c.val.toNat = v at hc hvalid ⊢
  rw [← hc]
  by_cases hone : v ≤ 0x7f
  · rw [if_pos hone]
    exact decodeOctets_one hone
  by_cases htwo : v ≤ 0x7ff
  · rw [if_neg hone, if_pos htwo]
    exact decodeOctets_two ⟨by omega, htwo⟩
  by_cases hthree : v ≤ 0xffff
  · rw [if_neg hone, if_neg htwo, if_pos hthree]
    exact decodeOctets_three ⟨by omega, hthree⟩ (by omega)
  · rw [if_neg hone, if_neg htwo, if_neg hthree]
    exact decodeOctets_four (by omega)

end Characters

theorem decodeOctets_flatMap (cs : List Char) :
    decodeOctets none (cs.flatMap String.utf8EncodeChar) = (cs.map Decoded.char, none) := by
  induction cs with
  | nil => rfl
  | cons c cs ih =>
    rw [List.flatMap_cons, decodeOctets_append, decodeOctets_utf8EncodeChar, ih]
    rfl

theorem utf8Replacing_octets (s : String) : utf8Replacing (octets s) = s := by
  have hreplaced : (s.toList.map Decoded.char).map Decoded.replaced = s.toList := by
    simp [Decoded.replaced, Function.comp_def]
  rw [utf8Replacing, decodeAll, octets_eq, decodeOctets_flatMap]
  simp only [decodeEnd, List.append_nil, hreplaced, String.ofList_toList]

theorem strictly_map_char (n : Nat) (out cs : List Char) :
    strictly n out (cs.map Decoded.char) = .ok (out.reverse ++ cs) := by
  induction cs generalizing n out with
  | nil => simp [strictly]
  | cons c cs ih => simp [strictly, ih]

theorem utf8?_octets (s : String) : utf8? (octets s) = .ok s := by
  rw [utf8?, decodeAll, octets_eq, decodeOctets_flatMap]
  simp only [decodeEnd, List.append_nil, strictly_map_char, List.reverse_nil, List.nil_append, Except.map,
    String.ofList_toList]

end ClusterHealth.Text
