import ClusterHealth.Json.Decoder

/-!
Finding the end of a document without reading it: brackets of all kinds are counted alike, those in
strings are passed over, and a backslash in a string hides the character after it. The state is all
that a scan has to know of the text before, so that a text may be scanned piece by piece.
-/

namespace ClusterHealth.Stream

structure Scan where
  depth : Nat
  inString : Bool
  escaped : Bool
deriving DecidableEq

namespace Scan

def initial : Scan := ⟨0, false, false⟩

def isOpening (c : Char) : Bool := c == '\x7b' || c == '['

def isClosing (c : Char) : Bool := c == '\x7d' || c == ']'

def step (s : Scan) (c : Char) : Scan :=
  if s.escaped then { s with escaped := false }
  else if s.inString then
    if c = '\\' then { s with escaped := true }
    else if c = '"' then { s with inString := false }
    else s
  else if c = '"' then { s with inString := true }
  else if isOpening c then { s with depth := s.depth + 1 }
  else if isClosing c then { s with depth := s.depth - 1 }
  else s

def run (s : Scan) (cs : List Char) : Scan := cs.foldl step s

theorem run_append (s : Scan) (cs ds : List Char) : s.run (cs ++ ds) = (s.run cs).run ds := by
  simp [run]

def cut (s : Scan) (out : List Char) : List Char → Scan × List Char × Option (List Char)
  | [] => (s, out, none)
  | c :: rest =>
    let s' := s.step c
    if s'.depth = 0 then (s', c :: out, some rest) else cut s' (c :: out) rest

theorem cut_eq_run {s s' : Scan} {out out' cs : List Char} (h : s.cut out cs = (s', out', none)) :
    s' = s.run cs ∧ out' = cs.reverse ++ out := by
  induction cs generalizing s out with
  | nil => simp_all [cut, run]
  | cons c cs ih =>
    simp only [cut] at h
    split at h
    · simp at h
    · simpa [run] using ih h

end Scan

end ClusterHealth.Stream
