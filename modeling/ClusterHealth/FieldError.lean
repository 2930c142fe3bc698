namespace ClusterHealth

inductive FieldErrorKind
  | stringType
  | stringTooShort
  | stringUnicode
  | boolParsing
  | floatType
  | floatParsing
  | intType
  | intParsing
  | intParsingSize
  | intFromFloat
  | finiteNumber
  | greaterThan
  | greaterThanEqual
  | lessThanEqual
  | datetimeType
  | datetimeParsing
  | datetimeFromDateParsing
  | listType
  | dictType
  | modelType
  | refused (reason : String)
deriving DecidableEq

def FieldErrorKind.name : FieldErrorKind → String
  | stringType => "string_type"
  | stringTooShort => "string_too_short"
  | stringUnicode => "string_unicode"
  | boolParsing => "bool_parsing"
  | floatType => "float_type"
  | floatParsing => "float_parsing"
  | intType => "int_type"
  | intParsing => "int_parsing"
  | intParsingSize => "int_parsing_size"
  | intFromFloat => "int_from_float"
  | finiteNumber => "finite_number"
  | greaterThan => "greater_than"
  | greaterThanEqual => "greater_than_equal"
  | lessThanEqual => "less_than_equal"
  | datetimeType => "datetime_type"
  | datetimeParsing => "datetime_parsing"
  | datetimeFromDateParsing => "datetime_from_date_parsing"
  | listType => "list_type"
  | dictType => "dict_type"
  | modelType => "model_type"
  | refused _ => "value_error"

def FieldErrorKind.text? : FieldErrorKind → Option String
  | refused reason => some ("Value error, " ++ reason)
  | _ => none

structure FieldError where
  path : List String
  kind : FieldErrorKind
deriving DecidableEq

def FieldError.location (e : FieldError) : String := ".".intercalate e.path

abbrev Checked (α : Type) := Except (List FieldError) α

/-- Both parts are checked, so that the errors of both are found. -/
def both (x : Checked α) (y : Checked β) (f : α → β → γ) : Checked γ :=
  match x, y with
  | .ok a, .ok b => .ok (f a b)
  | .error es, .ok _ => .error es
  | .ok _, .error fs => .error fs
  | .error es, .error fs => .error (es ++ fs)

def alongside (x : Checked α) (f : Checked (α → β)) : Checked β := both f x fun g a => g a

def allOf : List (Checked α) → Checked (List α)
  | [] => .ok []
  | x :: rest => both x (allOf rest) (· :: ·)

def refuse (path : List String) (kind : FieldErrorKind) : Checked α := .error [⟨path, kind⟩]

def placed (path : List String) (r : Except FieldErrorKind α) : Checked α :=
  match r with
  | .ok a => .ok a
  | .error k => refuse path k

end ClusterHealth
