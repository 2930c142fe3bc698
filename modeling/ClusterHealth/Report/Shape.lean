import ClusterHealth.Number.Field
import ClusterHealth.Report.Timestamp

/-!
The shape of a document: which fields its objects have and what each may hold. Checking a document
against a shape gives a value with every field present, or all the places where it does not fit; names
that a shape does not know are kept behind those it does.
-/

namespace ClusterHealth.Report

inductive Shape
  | text
  | optionalText
  | decimal
  | whole
  | optionalTime
  | free
  | mapping
  | list (item : Shape)
  | object (fields : List (String × List String × Shape))

abbrev Field := String × List String × Shape

inductive Value
  | absent
  | text (t : AnyText)
  | decimal (x : Binary64)
  | whole (n : Int)
  | time (t : Timestamp)
  | free (v : Json)
  | mapping (ms : Members)
  | list (items : List Value)
  | object (members : List (AnyText × Value))

def checkDecimal : Json → Except FieldErrorKind Binary64
  | .float x => .ok x
  | .int n =>
    let x := Binary64.ofInt n
    if x.isFinite then .ok x else .error .floatType
  | .bool b => .ok (.ofInt (if b then 1 else 0))
  | .str (.plain s) => (Numeral.fieldFloat? s).elim (.error .floatParsing) .ok
  | .str (.broken ..) => .error .stringUnicode
  | _ => .error .floatType

def wholeBound : Nat := 9223372036854775808

/-- A decimal stands for a whole number if it is one and fits in 64 bits. -/
def wholeOfDecimal (x : Binary64) : Except FieldErrorKind Int :=
  if !x.isFinite then .error .finiteNumber
  else
    match x.toInt? with
    | none => .error .intFromFloat
    | some n => if n.natAbs < wholeBound then .ok n else .error .intParsingSize

def checkWhole : Json → Except FieldErrorKind Int
  | .int n => .ok n
  | .bool b => .ok (if b then 1 else 0)
  | .float x => wholeOfDecimal x
  | .str (.broken ..) => .error .stringUnicode
  | .str (.plain s) =>
    match Numeral.fieldInt s with
    | .ok n => .ok n
    | .error .malformed => .error .intParsing
    | .error (.tooLong _) => .error .intParsingSize
  | _ => .error .intType

def checkText : Json → Except FieldErrorKind AnyText
  | .str t => .ok t
  | _ => .error .stringType

def checkMapping : Json → Except FieldErrorKind Members
  | .obj ms => .ok ms
  | _ => .error .dictType

def optional (f : Json → Except FieldErrorKind Value) : Json → Except FieldErrorKind Value
  | .null => .ok .absent
  | v => f v

mutual

def Shape.default : Shape → Value
  | .text => .text (.plain "")
  | .optionalText | .optionalTime => .absent
  | .decimal => .decimal (.ofInt 0)
  | .whole => .whole 0
  | .free => .free .null
  | .mapping => .mapping []
  | .list _ => .list []
  | .object fields => .object (fieldDefaults fields)

def fieldDefaults : List (String × List String × Shape) → List (AnyText × Value)
  | [] => []
  | (name, _, shape) :: rest => (name, shape.default) :: fieldDefaults rest

end

def givenName? (field : Field) (ms : Members) : Option String :=
  (field.1 :: field.2.1).find? fun name => ms.any (·.1 == .plain name)

def extras (fields : List Field) (ms : Members) : List (AnyText × Value) :=
  let used : List AnyText := fields.filterMap fun f => (givenName? f ms).map .plain
  (ms.filter fun m => !used.contains m.1).map fun (name, v) => (name, .free v)

def namesPlain (ms : Members) : Bool := ms.all (·.1.isPlain)

mutual

def Shape.check (path : List String) (v : Json) : Shape → Checked Value
  | .text => placed path ((checkText v).map .text)
  | .optionalText => placed path (optional (fun v => (checkText v).map .text) v)
  | .decimal => placed path ((checkDecimal v).map .decimal)
  | .whole => placed path ((checkWhole v).map .whole)
  | .optionalTime => placed path (optional (fun v => (Timestamp.ofJson v).map .time) v)
  | .free => .ok (.free v)
  | .mapping => placed path ((checkMapping v).map .mapping)
  | .list item =>
    match v with
    | .arr vs =>
      (allOf (vs.mapIdx fun i v => item.check (path ++ [toString i]) v)).map .list
    | _ => refuse path .listType
  | .object fields =>
    match v with
    | .obj ms =>
      if namesPlain ms then
        (checkFields path ms fields).map fun checked => .object (checked ++ extras fields ms)
      -- A broken name is told of alone, whatever else is wrong with the object.
      else refuse path .stringUnicode
    | _ => refuse path .modelType

def checkFields (path : List String) (ms : Members) :
    List (String × List String × Shape) → Checked (List (AnyText × Value))
  | [] => .ok []
  | (name, others, shape) :: rest =>
    let value : Checked Value :=
      match givenName? (name, others, shape) ms with
      | none => .ok shape.default
      | some given => shape.check (path ++ [given]) ((ms.get? given).getD .null)
    both value (checkFields path ms rest) fun v checked => (name, v) :: checked

end

mutual

/-- Numbers that are not finite have no place in free data, and become null. -/
def finite : Json → Json
  | .float x => if x.isFinite then .float x else .null
  | .arr vs => .arr (finiteItems vs)
  | .obj ms => .obj (finiteMembers ms)
  | v => v

def finiteItems : List Json → List Json
  | [] => []
  | v :: rest => finite v :: finiteItems rest

def finiteMembers : List (AnyText × Json) → List (AnyText × Json)
  | [] => []
  | (name, v) :: rest => (name, finite v) :: finiteMembers rest

end

/-- The names of a mapping are written with what stands for surrogates, unlike those within its values. -/
def lossyNames (ms : Members) : Members := ms.map fun (name, v) => (.plain name.lossy, v)

def Value.isOmitted : Value → Bool
  | .absent | .free .null => true
  | _ => false

mutual

def Value.toJson : Value → Json
  | .absent => .null
  | .text t => .str t
  | .decimal x => .float x
  | .whole n => .int n
  | .time t => .str t.render
  | .free v => finite v
  | .mapping ms => .obj (finiteMembers (lossyNames ms))
  | .list items => .arr (itemsToJson items)
  | .object members => .obj (membersToJson members)

def itemsToJson : List Value → List Json
  | [] => []
  | v :: rest => v.toJson :: itemsToJson rest

def membersToJson : List (AnyText × Value) → Members
  | [] => []
  | (name, v) :: rest =>
    if v.isOmitted then membersToJson rest else (name, v.toJson) :: membersToJson rest

end

end ClusterHealth.Report
