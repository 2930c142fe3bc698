import ClusterHealth.Text.Basic
import ClusterHealth.Text.LetterCase
import ClusterHealth.Text.Quoted

namespace ClusterHealth

open ClusterHealth.Text

/-- A character, or one of the 2048 surrogates, which encode nothing unless they come in pairs. -/
inductive Point
  | char (c : Char)
  | surrogate (n : Fin 0x800)
deriving DecidableEq

namespace Point

def code : Point → Nat
  | char c => c.toNat
  | surrogate n => 0xD800 + n

def ofCode (n : Nat) : Point :=
  if h : 0xD800 ≤ n ∧ n < 0xE000 then .surrogate ⟨n - 0xD800, by omega⟩ else .char (Char.ofNat n)

def isBlank : Point → Bool
  | char c => Text.isBlank c
  | surrogate _ => false

theorem ofCode_toNat (c : Char) : ofCode c.toNat = .char c := by
  have hvalid : c.toNat < 0xd800 ∨ 0xdfff < c.toNat ∧ c.toNat < 0x110000 := c.valid
  rw [ofCode, dif_neg (by omega), Char.ofNat_toNat]

end Point

/-- A text in which surrogates may stand alone. A broken one is cut at the first of them, so that every
sequence of points is one text. -/
inductive AnyText
  | plain (s : String)
  | broken (front : String) (surrogate : Fin 0x800) (rest : List Point)
deriving DecidableEq

instance : Coe String AnyText := ⟨.plain⟩

namespace AnyText

instance : Inhabited AnyText := ⟨.plain ""⟩

def isPlain : AnyText → Bool
  | plain _ => true
  | broken .. => false

theorem exists_of_isPlain {t : AnyText} (h : t.isPlain = true) : ∃ s : String, t = s := by
  cases t with
  | plain s => exact ⟨s, rfl⟩
  | broken => cases h

def points : AnyText → List Point
  | plain s => s.toList.map .char
  | broken front n rest => front.toList.map .char ++ .surrogate n :: rest

def ofPointsFrom (front : List Char) : List Point → AnyText
  | [] => plain (String.ofList front.reverse)
  | .char c :: rest => ofPointsFrom (c :: front) rest
  | .surrogate n :: rest => broken (String.ofList front.reverse) n rest

def ofPoints (ps : List Point) : AnyText := ofPointsFrom [] ps

theorem ofPoints_map_char (cs : List Char) : ofPoints (cs.map .char) = plain (String.ofList cs) := by
  have hfrom : ∀ front, ofPointsFrom front (cs.map .char) = plain (String.ofList (front.reverse ++ cs)) := by
    induction cs with
    | nil => simp [ofPointsFrom]
    | cons c cs ih => simp [ofPointsFrom, ih]
  exact hfrom []

def append : AnyText → AnyText → AnyText
  | plain s, plain t => plain (s ++ t)
  | plain s, broken front n rest => broken (s ++ front) n rest
  | broken front n rest, t => broken front n (rest ++ t.points)

instance : Append AnyText := ⟨append⟩

theorem plain_append_ne_empty {s : String} (hs : s ≠ "") (t : AnyText) : plain s ++ t ≠ plain "" := by
  cases t with
  | plain t => exact fun h => hs (String.append_eq_empty_iff.1 (plain.inj h)).1
  | broken => exact nofun

def intercalate (sep : AnyText) : List AnyText → AnyText
  | [] => plain ""
  | [t] => t
  | t :: ts => t ++ sep ++ intercalate sep ts

def strip : AnyText → AnyText
  | plain s => plain (Text.strip s)
  | broken front n rest =>
    broken (String.ofList (trimLeft Text.isBlank front.toList)) n
      (rest.reverse.dropWhile Point.isBlank).reverse

/-- Where a surrogate stands a word ends, so that what is between two of them has its own letter case. -/
def lowerPoints (run : List Char) : List Point → List Point
  | [] => (Text.lower (String.ofList run.reverse)).toList.map .char
  | .char c :: rest => lowerPoints (c :: run) rest
  | .surrogate n :: rest =>
    (Text.lower (String.ofList run.reverse)).toList.map .char ++ .surrogate n :: lowerPoints [] rest

def lower : AnyText → AnyText
  | plain s => plain (Text.lower s)
  | broken front n rest => broken (Text.lower front) n (lowerPoints [] rest)

def le (s t : AnyText) : Bool :=
  !List.lex (t.points.map Point.code) (s.points.map Point.code) Nat.blt

def pointText (mark : Char) : Point → List Char
  | .char c => quotedChar mark c
  | .surrogate n => '\\' :: 'u' :: hexDigits 4 (Point.surrogate n).code

def quoted : AnyText → String
  | plain s => Text.quoted s
  | broken front n rest =>
    let points := (broken front n rest).points
    let mark := if points.contains (.char '\'') && !points.contains (.char '"') then '"' else '\''
    String.ofList (mark :: (points.flatMap (pointText mark) ++ [mark]))

/-- The text with each surrogate as three characters that stand for octets without meaning. -/
def lossy : AnyText → String
  | plain s => s
  | broken front n rest => String.ofList <| (broken front n rest).points.flatMap fun
    | .char c => [c]
    | .surrogate _ => List.replicate 3 (Char.ofNat 0xFFFD)

/-- Why a text cannot be encoded whose first run of surrogates, from `n` on, has `count` of them. -/
def encodeMessage (place count n : Nat) : String :=
  let which :=
    if count = 1 then s!"character '\\u{String.ofList (hexDigits 4 n)}' in position {place}"
    else s!"characters in position {place}-{place + count - 1}"
  "'utf-8' codec can't encode " ++ which ++ ": surrogates not allowed"

def surrogatesIn : List Point → Nat
  | .surrogate _ :: rest => surrogatesIn rest + 1
  | _ => 0

def encodeError? : AnyText → Option String
  | plain _ => none
  | broken front n rest =>
    some (encodeMessage front.length (surrogatesIn rest + 1) (Point.surrogate n).code)

end AnyText

end ClusterHealth
