import ClusterHealth.Text.Utf8

/-!
Octets that were compressed by DEFLATE, bare or in one of its two wrappers. Reading them stops where the
input does and keeps what could be told by then, so that input that has come in part is read like input
that has come whole.
-/

namespace ClusterHealth.Web.Inflate

inductive Format
  | raw
  | zlib
  | gzip
deriving DecidableEq

inductive Halt
  | starved
  | corrupt (text : String)
deriving DecidableEq

def flawText (what : String) : String := "Error -3 while decompressing data: " ++ what

def dictionaryText : String := "Error 2 while decompressing data"

section Bits

/-- The bits to come, each octet from its low end, and the octets given, the newest in front. -/
structure State where
  bits : List Bool
  out : List UInt8

abbrev Inflater := EStateM Halt State

def bitsOf (bs : List UInt8) : List Bool :=
  bs.flatMap fun b => (List.range 8).map b.toNat.testBit

def flaw {α : Type} (what : String) : Inflater α := throw (.corrupt (flawText what))

def bit : Inflater Nat := do
  let s ← get
  match s.bits with
  | [] => throw .starved
  | b :: rest =>
    set { s with bits := rest }
    return b.toNat

def number : Nat → Inflater Nat
  | 0 => return 0
  | n + 1 => do
    let low ← bit
    return low + 2 * (← number n)

def align : Inflater Unit := modify fun s => { s with bits := s.bits.drop (s.bits.length % 8) }

def emit (n : Nat) : Inflater Unit := modify fun s => { s with out := UInt8.ofNat n :: s.out }

end Bits

section Codes

/-- The symbols of a code by the length of their words, from one bit up. Among words of one length the
order of the symbols is that of the words. -/
abbrev Code := List (List Nat)

def codeOf (lengths : List Nat) : Code :=
  (List.range' 1 (max 1 (lengths.foldl max 0))).map fun n =>
    lengths.zipIdx.filterMap fun (m, symbol) => if m = n then some symbol else none

def share (lengths : List Nat) : Nat :=
  lengths.foldl (fun words n => if n = 0 then words else words + 1 <<< (15 - n)) 0

/-- A code leaves no words over, but for one that is empty or has a single word of one bit. -/
def isUsable (lengths : List Nat) (singleton : Bool) : Bool :=
  let longest := lengths.foldl max 0
  decide (longest = 0) || decide (share lengths = 32768) ||
    (singleton && decide (longest = 1) && decide (share lengths < 32768))

/-- The symbol of the next word, which is `ahead` words behind the first one of the length so far. -/
def symbolFrom : Code → Nat → Inflater (Option Nat)
  | [], _ => return none
  | symbols :: longer, ahead => do
    let ahead := 2 * ahead + (← bit)
    match symbols[ahead]? with
    | some symbol => return some symbol
    | none => symbolFrom longer (ahead - symbols.length)

def symbol (code : Code) : Inflater (Option Nat) := symbolFrom code 0

end Codes

section Blocks

def lengthBases : List (Nat × Nat) :=
  [(3, 0), (4, 0), (5, 0), (6, 0), (7, 0), (8, 0), (9, 0), (10, 0), (11, 1), (13, 1), (15, 1), (17, 1),
    (19, 2), (23, 2), (27, 2), (31, 2), (35, 3), (43, 3), (51, 3), (59, 3), (67, 4), (83, 4), (99, 4),
    (115, 4), (131, 5), (163, 5), (195, 5), (227, 5), (258, 0)]

def distanceBases : List (Nat × Nat) :=
  [(1, 0), (2, 0), (3, 0), (4, 0), (5, 1), (7, 1), (9, 2), (13, 2), (17, 3), (25, 3), (33, 4), (49, 4),
    (65, 5), (97, 5), (129, 6), (193, 6), (257, 7), (385, 7), (513, 8), (769, 8), (1025, 9), (1537, 9),
    (2049, 10), (3073, 10), (4097, 11), (6145, 11), (8193, 12), (12289, 12), (16385, 13), (24577, 13)]

def based (bases : List (Nat × Nat)) (i : Nat) (what : String) : Inflater Nat :=
  match bases[i]? with
  | some (base, bits) => do return base + (← number bits)
  | none => flaw what

def copied : Nat → Nat → List UInt8 → List UInt8
  | 0, _, out => out
  | n + 1, distance, out => copied n distance (out.getD (distance - 1) 0 :: out)

def copy (length distance : Nat) : Inflater Unit := do
  if (← get).out.length < distance then flaw "invalid distance too far back"
  modify fun s => { s with out := copied length distance s.out }

/-- Octets and copies up to the end of a block. Each takes at least one bit, of which the fuel is one. -/
def symbols (literals distances : Code) : Nat → Inflater Unit
  | 0 => throw .starved
  | fuel + 1 => do
    match ← symbol literals with
    | none => flaw "invalid literal/length code"
    | some s =>
      if s < 256 then
        emit s
        symbols literals distances fuel
      else if s = 256 then return
      else
        let length ← based lengthBases (s - 257) "invalid literal/length code"
        match ← symbol distances with
        | none => flaw "invalid distance code"
        | some d =>
          copy length (← based distanceBases d "invalid distance code")
          symbols literals distances fuel

def fixedLiterals : List Nat :=
  List.replicate 144 8 ++ List.replicate 112 9 ++ List.replicate 24 7 ++ List.replicate 8 8

def fixedDistances : List Nat := List.replicate 32 5

def storedOctets : Nat → Inflater Unit
  | 0 => return
  | n + 1 => do
    emit (← number 8)
    storedOctets n

def stored : Inflater Unit := do
  align
  let both ← number 32
  let length := both % 65536
  if both / 65536 ≠ 65535 - length then flaw "invalid stored block lengths"
  storedOctets length

def lengthOrder : List Nat := [16, 17, 18, 0, 8, 7, 9, 6, 10, 5, 11, 4, 12, 3, 13, 2, 14, 1, 15]

/-- Word lengths, of which the last symbols repeat others; `lengths` holds those read, backwards. -/
def wordLengths (code : Code) (total : Nat) : Nat → List Nat → Inflater (List Nat)
  | 0, lengths => return lengths.reverse
  | fuel + 1, lengths => do
    if total ≤ lengths.length then return lengths.reverse
    let again (least bits n : Nat) : Inflater (List Nat) := do
      let count := least + (← number bits)
      if total < lengths.length + count then flaw "invalid bit length repeat"
      wordLengths code total fuel (List.replicate count n ++ lengths)
    match (← symbol code).getD 0 with
    | 16 =>
      match lengths with
      | [] => do
        let _ ← number 2
        flaw "invalid bit length repeat"
      | n :: _ => again 3 2 n
    | 17 => again 3 3 0
    | 18 => again 11 7 0
    | n => wordLengths code total fuel (n :: lengths)

def dynamic : Inflater Unit := do
  let literals := (← number 5) + 257
  let distances := (← number 5) + 1
  let count := (← number 4) + 4
  if 286 < literals ∨ 30 < distances then flaw "too many length or distance symbols"
  let given ← (List.range count).mapM fun _ => number 3
  let lengths := (List.range 19).map fun n => given.getD (lengthOrder.idxOf n) 0
  if !isUsable lengths false then flaw "invalid code lengths set"
  let total := literals + distances
  let all ← wordLengths (codeOf lengths) total total []
  let (literals, distances) := (all.take literals, all.drop literals)
  if literals.getD 256 0 = 0 then flaw "invalid code -- missing end-of-block"
  if !isUsable literals true then flaw "invalid literal/lengths set"
  if !isUsable distances true then flaw "invalid distances set"
  symbols (codeOf literals) (codeOf distances) (← get).bits.length

def block : Nat → Inflater Unit
  | 0 => stored
  | 1 => do symbols (codeOf fixedLiterals) (codeOf fixedDistances) (← get).bits.length
  | 2 => dynamic
  | _ => flaw "invalid block type"

def blocks : Nat → Inflater Unit
  | 0 => throw .starved
  | fuel + 1 => do
    let kind ← number 3
    block (kind / 2)
    if kind % 2 = 0 then blocks fuel

end Blocks

section Wrappers

def crcBit (c : UInt32) : UInt32 :=
  if c &&& 1 = 1 then (c >>> 1) ^^^ 0xEDB88320 else c >>> 1

def crcOctet (c : UInt32) (b : UInt8) : UInt32 :=
  (List.range 8).foldl (fun c _ => crcBit c) (c ^^^ b.toUInt32)

def crc32 (bs : List UInt8) : Nat := ((bs.foldl crcOctet 0xFFFFFFFF) ^^^ 0xFFFFFFFF).toNat

def adler32 (bs : List UInt8) : Nat :=
  let (a, b) := bs.foldl (fun (a, b) o => let a := (a + o.toNat) % 65521; (a, (b + a) % 65521)) (1, 0)
  b * 65536 + a

def spelt : List UInt8 → Nat
  | [] => 0
  | b :: bs => b.toNat + 256 * spelt bs

def takeOctets (n : Nat) (bs : List UInt8) : Except Halt (List UInt8 × List UInt8) :=
  if bs.length < n then .error .starved else .ok (bs.take n, bs.drop n)

def skipText (bs : List UInt8) : Except Halt (List UInt8) :=
  match bs.dropWhile (· != 0) with
  | [] => .error .starved
  | _ :: rest => .ok rest

def broken {α : Type} (what : String) : Except Halt α := .error (.corrupt (flawText what))

def zlibHeader (bs : List UInt8) : Except Halt (List UInt8) := do
  let (head, rest) ← takeOctets 2 bs
  let method := (head.getD 0 0).toNat
  let flags := (head.getD 1 0).toNat
  if (method * 256 + flags) % 31 ≠ 0 then broken "incorrect header check"
  if method % 16 ≠ 8 then broken "unknown compression method"
  if 7 < method / 16 then broken "invalid window size"
  if flags.testBit 5 then
    let _ ← takeOctets 4 rest
    throw (.corrupt dictionaryText)
  return rest

def gzipHeader (bs : List UInt8) : Except Halt (List UInt8) := do
  let (magic, rest) ← takeOctets 2 bs
  if magic ≠ [0x1f, 0x8b] then broken "incorrect header check"
  let (head, rest) ← takeOctets 2 rest
  -- an extra field, a name, a comment and a checksum of the header may follow, in this order
  let flags := (head.getD 1 0).toNat
  if head.getD 0 0 ≠ 8 then broken "unknown compression method"
  if 0x20 ≤ flags then broken "unknown header flags set"
  let (_, rest) ← takeOctets 6 rest
  let mut rest := rest
  if flags.testBit 2 then
    let (size, behind) ← takeOctets 2 rest
    rest := (← takeOctets (spelt size) behind).2
  if flags.testBit 3 then rest ← skipText rest
  if flags.testBit 4 then rest ← skipText rest
  if flags.testBit 1 then
    let (check, behind) ← takeOctets 2 rest
    if spelt check ≠ crc32 (bs.take (bs.length - rest.length)) % 65536 then broken "header crc mismatch"
    rest := behind
  return rest

def header : Format → List UInt8 → Except Halt (List UInt8)
  | .raw => .ok
  | .zlib => zlibHeader
  | .gzip => gzipHeader

def checkTrailer (format : Format) (out trailer : List UInt8) : Except Halt Unit := do
  match format with
  | .raw => return
  | .zlib =>
    let (check, _) ← takeOctets 4 trailer
    if spelt check.reverse ≠ adler32 out then broken "incorrect data check"
  | .gzip =>
    let (check, rest) ← takeOctets 4 trailer
    if spelt check ≠ crc32 out then broken "incorrect data check"
    let (size, _) ← takeOctets 4 rest
    if spelt size ≠ out.length % 4294967296 then broken "incorrect length check"

end Wrappers

/-- All that input gives as far as it has come, or what is wrong with it. -/
def inflate (format : Format) (input : List UInt8) : Except String (List UInt8) :=
  match header format input with
  | .error .starved => .ok []
  | .error (.corrupt text) => .error text
  | .ok body =>
    let bits := bitsOf body
    match (blocks bits.length).run ⟨bits, []⟩ with
    | .error .starved s => .ok s.out.reverse
    | .error (.corrupt text) _ => .error text
    | .ok _ s =>
      let out := s.out.reverse
      -- a trailer that has not come yet is not missed
      match checkTrailer format out (body.drop (body.length - s.bits.length / 8)) with
      | .error (.corrupt text) => .error text
      | _ => .ok out

end ClusterHealth.Web.Inflate
