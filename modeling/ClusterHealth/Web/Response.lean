import ClusterHealth.Stream.Reader
import ClusterHealth.Web.Headers
import ClusterHealth.Web.Inflate
import ClusterHealth.Web.Reason

/-!
Responses, whose bodies come in chunks and are read as far as they are wanted. A body counts how many
chunks were asked for and how often it was closed: reading it to its end closes it, and closing it again
does nothing. What it was compressed by is undone chunk by chunk, and so is its charset.
-/

namespace ClusterHealth.Web

open ClusterHealth.Stream ClusterHealth.Text

inductive BodyChunk
  | octets (bs : List UInt8)
  | fault (f : Fault)

/-- A charset beside those that are built in. What it makes of a piece may depend on those before it. -/
structure Codec where
  decode : List (List UInt8) → List UInt8 → Except Fault (List Char)
  finish : List (List UInt8) → Except Fault (List Char)

/-- What becomes of the chunks that have not been asked for when their body is closed. They may come all
the same, or only those that wait already, and for the others a fault. -/
inductive Late
  | goesOn
  | stops (waiting : Nat) (f : Fault)

/-- What a body meets beside its octets: the codecs that are there by their names, of which some cannot be
used for text, and what an early end does to a connection. -/
structure Wire where
  codecs : String → Option (Except Fault Codec)
  late : Late

def Wire.plain : Wire := ⟨fun _ => none, .stops 0 (.raised .streamClosed [])⟩

section Unpacking

/-- One coding being undone: the octets seen, and how many octets they gave. A deflated body may lack its
wrapper, which its first octets tell. -/
structure Unpacker where
  format : Inflate.Format
  isFresh : Bool
  seen : List UInt8
  given : Nat

namespace Unpacker

def ofCoding : Coding → Unpacker
  | .gzip => ⟨.gzip, false, [], 0⟩
  | .deflate => ⟨.zlib, true, [], 0⟩

def unpackAs (u : Unpacker) (format : Inflate.Format) (bs : List UInt8) :
    Except Fault (List UInt8 × Unpacker) :=
  match Inflate.inflate format (u.seen ++ bs) with
  | .ok out => .ok (out.drop u.given, ⟨format, false, u.seen ++ bs, out.length⟩)
  | .error text => .error ⟨.decoding, text⟩

def unpack (u : Unpacker) (bs : List UInt8) : Except Fault (List UInt8 × Unpacker) :=
  match u.unpackAs u.format bs with
  | .ok r => .ok r
  | .error f => if u.isFresh then u.unpackAs .raw bs else .error f

def unpackAll : List Unpacker → List UInt8 → Except Fault (List UInt8 × List Unpacker)
  | [], bs => .ok (bs, [])
  | u :: us, bs =>
    match u.unpack bs with
    | .error f => .error f
    | .ok (bs, u) => (unpackAll us bs).map fun (bs, us) => (bs, u :: us)

def unpackChunk (us : List Unpacker) (bs : List UInt8) : Except Fault (List UInt8 × List Unpacker) :=
  if bs = [] then .ok ([], us) else unpackAll us bs

end Unpacker

/-- The coding that was given last is undone first. -/
def Headers.unpackers (hs : Headers) : List Unpacker := hs.codings.reverse.map .ofCoding

end Unpacking

section Decoding

inductive TextDecoder
  | builtIn (cs : Charset) (s : DecoderState)
  | other (codec : Codec) (seen : List (List UInt8))
  | unusable (f : Fault)

namespace TextDecoder

def spent : TextDecoder := .builtIn .utf8 none

def fault? : TextDecoder → Option Fault
  | .unusable f => some f
  | _ => none

def decode : TextDecoder → List UInt8 → Except Fault (List Char × TextDecoder)
  | .builtIn cs s, bs =>
    let (out, s) := cs.decode s bs
    .ok (out, .builtIn cs s)
  | .other codec seen, bs =>
    if bs = [] then .ok ([], .other codec seen)
    else (codec.decode seen bs).map fun out => (out, .other codec (seen ++ [bs]))
  | .unusable f, _ => .error f

def finish : TextDecoder → Except Fault (List Char)
  | .builtIn _ s => .ok ((decodeEnd s).map Decoded.replaced)
  | .other codec seen => codec.finish seen
  | .unusable f => .error f

end TextDecoder

def Wire.decoder (wire : Wire) (hs : Headers) : TextDecoder :=
  match hs.charsetName? with
  | none => .builtIn .utf8 none
  | some name =>
    match Headers.charsetNames.lookup name, wire.codecs name with
    | some cs, _ => .builtIn cs none
    | none, some (.ok codec) => .other codec []
    | none, some (.error f) => .unusable f
    | none, none => .builtIn .utf8 none

end Decoding

/-- `ending` stands in place of the chunks that an early end cut off. -/
structure Body where
  left : List BodyChunk
  ending : Option Fault
  late : Late
  unpackers : List Unpacker
  decoder : TextDecoder
  pulled : Nat
  closes : Nat
  finished : Bool

namespace Body

def ofChunks (wire : Wire) (hs : Headers) (chunks : List BodyChunk) : Body where
  left := chunks
  ending := none
  late := wire.late
  unpackers := hs.unpackers
  decoder := wire.decoder hs
  pulled := 0
  closes := 0
  finished := false

def isClosed (b : Body) : Bool := decide (0 < b.closes)

def cut (b : Body) : Body :=
  match b.late with
  | .goesOn => b
  | .stops waiting f =>
    if b.left.length ≤ waiting then b
    else { b with left := b.left.take waiting, ending := some f }

def close (b : Body) : Body := if b.isClosed then b else { b.cut with closes := b.closes + 1 }

theorem close_close (b : Body) : b.close.close = b.close := by
  unfold close
  split <;> simp_all [isClosed]

def pullOctets (b : Body) : Except Fault (Option (List UInt8)) × Body :=
  if b.finished then (.ok none, b)
  else
    match b.left with
    | [] =>
      match b.ending with
      | none => (.ok none, { b.close with finished := true })
      | some f => (.error f, { b with finished := true })
    | chunk :: rest =>
      let b := { b with left := rest, pulled := b.pulled + 1 }
      match chunk with
      | .fault f => (.error f, { b with finished := true })
      | .octets bs =>
        match Unpacker.unpackChunk b.unpackers bs with
        | .ok (out, unpackers) => (.ok (some out), { b with unpackers := unpackers })
        | .error f => (.error f, { b with finished := true })

/-- The text of the next chunk; at the end, what was kept back of an unfinished character. A fault
drops what was kept back. -/
def pull (b : Body) : Pull × Body :=
  match b.decoder.fault? with
  | some f => (.failed f, { b with finished := true, decoder := .spent })
  | none =>
    match b.pullOctets with
    | (.error f, b) => (.failed f, { b with decoder := .spent })
    | (.ok (some bs), b) =>
      match b.decoder.decode bs with
      | .ok (cs, decoder) => (.text cs, { b with decoder := decoder })
      | .error f => (.failed f, { b with finished := true, decoder := .spent })
    | (.ok none, b) =>
      match b.decoder.finish with
      | .ok [] => (.ended, b)
      | .ok cs => (.text cs, { b with decoder := .spent })
      | .error f => (.failed f, { b with decoder := .spent })

instance : TextSource Body := ⟨pull, fun b => b.left.length + 1⟩

def flushed (decoder : TextDecoder) : List Chunk :=
  match decoder.finish with
  | .ok [] => []
  | .ok cs => [.text cs]
  | .error f => [.fault f]

def scriptOf (ending : Option Fault) :
    List Unpacker → TextDecoder → List BodyChunk → List Chunk
  | _, decoder, [] =>
    match ending with
    | none => flushed decoder
    | some f => [.fault f]
  | _, _, .fault f :: _ => [.fault f]
  | unpackers, decoder, .octets bs :: rest =>
    match Unpacker.unpackChunk unpackers bs with
    | .error f => [.fault f]
    | .ok (out, unpackers) =>
      match decoder.decode out with
      | .error f => [.fault f]
      | .ok (cs, decoder) => .text cs :: scriptOf ending unpackers decoder rest

def script (b : Body) : List Chunk :=
  match b.decoder.fault? with
  | some f => [.fault f]
  | none =>
    if b.finished then flushed b.decoder else scriptOf b.ending b.unpackers b.decoder b.left

def readChunks (limit : Nat) :
    Nat → Nat → List (List UInt8) → Body → Except Fault (List (List UInt8)) × Body
  | 0, _, out, b => (.ok out.reverse, b)
  | steps + 1, size, out, b =>
    match b.pullOctets with
    | (.error f, b) => (.error f, b)
    | (.ok none, b) => (.ok out.reverse, b)
    | (.ok (some bs), b) =>
      let size := size + bs.length
      if limit ≤ size then (.ok (bs :: out).reverse, b)
      else readChunks limit steps size (bs :: out) b

def readOctets (limit : Nat) (b : Body) : Except Fault (List UInt8) × Body :=
  let (chunks, b) := readChunks limit (b.left.length + 1) 0 [] b
  (chunks.map fun cs => cs.flatten.take limit, b)

end Body

structure Response where
  status : Nat
  headers : Headers
  reason : Option String
  body : Body

namespace Response

def reasonPhrase (r : Response) : String :=
  match r.reason with
  | some s => String.ofList (s.toList.filter (·.toNat < 0x80))
  | none => Web.reasonPhrase r.status

end Response

end ClusterHealth.Web
