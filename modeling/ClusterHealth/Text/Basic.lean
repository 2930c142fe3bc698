import ClusterHealth.Text.Blank

namespace ClusterHealth.Text

def trimLeft (p : Char → Bool) (cs : List Char) : List Char := cs.dropWhile p

def trimRight (p : Char → Bool) (cs : List Char) : List Char := (cs.reverse.dropWhile p).reverse

def trimBy (p : Char → Bool) (cs : List Char) : List Char := trimRight p (trimLeft p cs)

def strip (s : String) : String := String.ofList (trimBy isBlank s.toList)

def stripRightChar (c : Char) (s : String) : String := String.ofList (trimRight (· == c) s.toList)

def stripLeftChar (c : Char) (s : String) : String := String.ofList (trimLeft (· == c) s.toList)

def wordsFrom (word : List Char) : List Char → List (List Char)
  | [] => if word.isEmpty then [] else [word.reverse]
  | c :: rest =>
    if isBlank c then
      if word.isEmpty then wordsFrom [] rest else word.reverse :: wordsFrom [] rest
    else wordsFrom (c :: word) rest

def words (s : String) : List String := (wordsFrom [] s.toList).map String.ofList

def piecesFrom (sep : Char) (piece : List Char) : List Char → List (List Char)
  | [] => [piece.reverse]
  | c :: rest =>
    if c = sep then piece.reverse :: piecesFrom sep [] rest else piecesFrom sep (c :: piece) rest

def pieces (sep : Char) (s : String) : List String := (piecesFrom sep [] s.toList).map String.ofList

def linesFrom (line : List Char) : List Char → List (List Char)
  | [] => if line.isEmpty then [] else [line.reverse]
  | '\r' :: '\n' :: rest => line.reverse :: linesFrom [] rest
  | c :: rest => if isLineEnd c then line.reverse :: linesFrom [] rest else linesFrom (c :: line) rest

/-- The lines of a text; a line boundary at the very end opens no further line. -/
def lines (s : String) : List String := (linesFrom [] s.toList).map String.ofList

def unifyLineEnds : List Char → List Char
  | [] => []
  | '\r' :: '\n' :: rest => '\n' :: unifyLineEnds rest
  | '\r' :: rest => '\n' :: unifyLineEnds rest
  | c :: rest => c :: unifyLineEnds rest

def splitAtFirst? (sep : Char) (s : String) : Option (String × String) :=
  let cs := s.toList
  match cs.dropWhile (· != sep) with
  | _ :: rest => some (String.ofList (cs.takeWhile (· != sep)), String.ofList rest)
  | [] => none

def startsWith (start s : String) : Bool := start.toList.isPrefixOf s.toList

end ClusterHealth.Text
