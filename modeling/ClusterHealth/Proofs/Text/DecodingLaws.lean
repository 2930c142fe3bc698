import ClusterHealth.Text.Utf8
import Mathlib.Tactic.SplitIfs

namespace ClusterHealth.Text

theorem decodeFrom_eq (s : DecoderState) (out : List Decoded) (bs : List UInt8) :
    decodeFrom s out bs = (out.reverse ++ (decodeOctets s bs).1, (decodeOctets s bs).2) := by
  induction bs generalizing s out with
  | nil => simp [decodeFrom, decodeOctets]
  | cons b bs ih => simp [decodeFrom, decodeOctets, ih _ (_ ++ _), ih _ (List.reverse _)]

theorem decodeOctets_cons (s : DecoderState) (b : UInt8) (bs : List UInt8) :
    decodeOctets s (b :: bs) =
      ((decodeOctet s b).1 ++ (decodeOctets (decodeOctet s b).2 bs).1,
        (decodeOctets (decodeOctet s b).2 bs).2) := by
  simp [decodeOctets, decodeFrom, decodeFrom_eq _ (List.reverse _)]

theorem decodeOctets_append (s : DecoderState) (as bs : List UInt8) :
    decodeOctets s (as ++ bs) =
      ((decodeOctets s as).1 ++ (decodeOctets (decodeOctets s as).2 bs).1,
        (decodeOctets (decodeOctets s as).2 bs).2) := by
  induction as generalizing s with
  | nil => rfl
  | cons a as ih => simp [decodeOctets_cons, ih]

theorem decodeOctets_of_ascii {bs : List UInt8} (h : ∀ b ∈ bs, b.toNat < 0x80) :
    decodeOctets none bs = (bs.map fun b => .char (Char.ofNat b.toNat), none) := by
  induction bs with
  | nil => rfl
  | cons b bs ih =>
    have hb : decodeOctet none b = ([.char (Char.ofNat b.toNat)], none) := by
      simp [decodeOctet, beginChar, h b (by simp)]
    rw [decodeOctets_cons, hb, ih fun c hc => h c (by simp [hc])]
    rfl

@[simp] theorem Charset.decode_nil (cs : Charset) (s : DecoderState) : cs.decode s [] = ([], s) := by
  cases cs <;> rfl

theorem Charset.decode_append (cs : Charset) (s : DecoderState) (as bs : List UInt8) :
    cs.decode s (as ++ bs) =
      ((cs.decode s as).1 ++ (cs.decode (cs.decode s as).2 bs).1,
        (cs.decode (cs.decode s as).2 bs).2) := by
  cases cs with
  | utf8 => simp [decode, decodeOctets_append]
  | latin1 => simp [decode]
  | ascii => simp [decode]

end ClusterHealth.Text
