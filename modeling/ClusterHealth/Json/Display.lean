import ClusterHealth.Json.Printer

namespace ClusterHealth.Json

open ClusterHealth.Text

def displayNames : NonFinite := ⟨"nan", "inf", "-inf"⟩

def floatDisplay (x : Binary64) : String := floatText wideLayout displayNames x

mutual

def quotedDisplay : Json → String
  | .null => "None"
  | .bool true => "True"
  | .bool false => "False"
  | .int n => toString n
  | .float x => floatDisplay x
  | .str s => s.quoted
  | .arr items => "[" ++ ", ".intercalate (displayItems items) ++ "]"
  | .obj members => "\x7b" ++ ", ".intercalate (displayMembers members) ++ "\x7d"

def displayItems : List Json → List String
  | [] => []
  | v :: vs => quotedDisplay v :: displayItems vs

def displayMembers : List (AnyText × Json) → List String
  | [] => []
  | (name, v) :: ms => (name.quoted ++ ": " ++ quotedDisplay v) :: displayMembers ms

end

def display : Json → AnyText
  | .str s => s
  | v => quotedDisplay v

end ClusterHealth.Json
