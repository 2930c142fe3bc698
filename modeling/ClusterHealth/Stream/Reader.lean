import ClusterHealth.Stream.Scan
import ClusterHealth.Fault

/-!
Reading documents one at a time from text that comes in chunks. A document is handed on as soon as its
closing bracket is there, and no chunk is asked for while there is text that has not been scanned.
-/

namespace ClusterHealth.Stream

inductive Pull
  | text (cs : List Char)
  | ended
  | failed (fault : Fault)

/-- A source of text that comes in chunks; `remaining` bounds how many more it can give. -/
class TextSource (σ : Type) where
  pull : σ → Pull × σ
  remaining : σ → Nat

inductive ReadError
  | notObject
  | unfinished
  | malformed (cause : Json.Cause)
  | unreadable
  | timedOut
  | interrupted (text : AnyText)
  | undecodable (text : AnyText)
  | foreign (fault : Fault)
deriving DecidableEq

def ReadError.message : ReadError → AnyText
  | .notObject => "health info document must be a JSON object"
  | .unfinished => "malformed health info document: unexpected end of stream"
  | .malformed cause => "malformed health info document: " ++ cause.message
  | .unreadable => "health info stream is no longer readable"
  | .timedOut => "health info stream timed out"
  | .interrupted text => "health info stream was interrupted: " ++ text
  | .undecodable text => "health info stream could not be decoded: " ++ text
  | .foreign f => f.text

def ReadError.ofFault (f : Fault) : ReadError :=
  match f.family with
  | .stream => .unreadable
  | .timeout => .timedOut
  | .transport => .interrupted f.text
  | .http => .undecodable f.text
  | _ => .foreign f

inductive Reading
  | document (d : Members)
  | ended
  | failed (e : ReadError)

def Reading.handed : Reading → List Reading
  | .ended => []
  | r => [r]

/-- The value of a bracketed piece of text. Limits of the decoder are not the document's fault. -/
def readPiece (piece : List Char) : Reading :=
  match Json.document piece with
  | .ok (.obj d) => .document d
  | .ok _ => .failed .notObject
  | .error (.malformed cause _) => .failed (.malformed cause)
  | .error (.tooManyDigits n) => .failed (.foreign (.tooManyDigits n))
  | .error (.tooDeep c) => .failed (.foreign (.tooDeep c))

/-- The text received and not handed on: `taken`, backwards, has been scanned, `pending` has not. -/
structure Reader where
  taken : List Char
  scan : Scan
  pending : List Char
  exhausted : Bool
deriving DecidableEq

namespace Reader

def initial : Reader := ⟨[], .initial, [], false⟩

/-- Blanks between documents go; those within one stay. -/
def skip (r : Reader) : Reader :=
  if r.taken.isEmpty then { r with pending := Json.skipBlanks r.pending } else r

def startsBadly (r : Reader) : Bool :=
  r.taken.isEmpty && (r.pending.head?.any fun c => !Scan.isOpening c)

def advance (r : Reader) : Option Reading × Reader :=
  let r := r.skip
  if r.startsBadly then (some (.failed .notObject), r)
  else
    match r.scan.cut r.taken r.pending with
    | (_, out, some rest) =>
      (some (readPiece out.reverse), { r with taken := [], scan := .initial, pending := rest })
    | (s, out, none) => (none, { r with taken := out, scan := s, pending := [] })

def feed (r : Reader) (cs : List Char) : Reader := { r with pending := r.pending ++ cs }

def nextWithin [TextSource σ] : Nat → Reader → σ → Reading × Reader × σ
  | 0, r, source => (.ended, r, source)
  | steps + 1, r, source =>
    match r.advance with
    | (some reading, r) => (reading, r, source)
    | (none, r) =>
      if r.exhausted then
        (if r.taken.isEmpty then .ended else .failed .unfinished, r, source)
      else
        match TextSource.pull source with
        | (.text cs, source) => nextWithin steps (r.feed cs) source
        | (.ended, source) => nextWithin steps { r with exhausted := true } source
        | (.failed f, source) => (.failed (.ofFault f), r, source)

/-- The next document. The end of the source takes one step and what follows it another. -/
def next [TextSource σ] (r : Reader) (source : σ) : Reading × Reader × σ :=
  nextWithin (TextSource.remaining source + 2) r source

end Reader

inductive Chunk
  | text (cs : List Char)
  | fault (f : Fault)

def Chunk.sizes : List Chunk → Nat
  | [] => 0
  | .text cs :: chunks => cs.length + sizes chunks
  | .fault _ :: chunks => sizes chunks

structure Chunks where
  left : List Chunk
  pulled : Nat

namespace Chunks

def ofList (cs : List Chunk) : Chunks := ⟨cs, 0⟩

def pull (s : Chunks) : Pull × Chunks :=
  match s.left with
  | [] => (.ended, s)
  | .text cs :: rest => (.text cs, ⟨rest, s.pulled + 1⟩)
  | .fault f :: _ => (.failed f, ⟨[], s.pulled + 1⟩)

instance : TextSource Chunks := ⟨pull, fun s => s.left.length⟩

end Chunks

def readings : Nat → Reader → Chunks → List (Reading × Nat)
  | 0, _, _ => []
  | n + 1, r, source =>
    let (reading, r, source) := r.next source
    (reading, source.pulled) :: readings n r source

end ClusterHealth.Stream
