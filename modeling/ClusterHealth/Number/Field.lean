import ClusterHealth.Number.Numeral

namespace ClusterHealth.Numeral

open ClusterHealth.Text

def withoutUnderscores? (cs : List Char) : Option (List Char) :=
  if cs.contains '_' && cs.head? != some '_' && underscoresPlaced cs then some (cs.filter (· != '_'))
  else none

/-- Underscores count only where there are no blanks around the numeral. -/
def fieldFloat? (s : String) : Option Binary64 :=
  let cs := s.toList
  if cs.contains '_' then (withoutUnderscores? cs).bind (bareFloat? asciiDigit?)
  else bareFloat? asciiDigit? (trimBy isSpace cs)

def zerosAfterPoint : List Char → Bool
  | [] => true
  | ['.'] => false
  | '.' :: rest => rest.all (· == '0')
  | _ => false

def fieldInt (s : String) : Except Error Int :=
  let (negative, rest) := sign (trimBy isSpace s.toList)
  match digitRun? asciiDigit? rest with
  | none => .error .malformed
  | some ([], _) => .error .malformed
  | some (ds, rest) =>
    if !zerosAfterPoint rest then .error .malformed
    else if digitLimit < ds.length then .error (.tooLong ds.length)
    else .ok (if negative then -(ofDigits ds : Int) else ofDigits ds)

end ClusterHealth.Numeral
