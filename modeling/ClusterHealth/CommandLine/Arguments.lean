import ClusterHealth.Number.Numeral
import ClusterHealth.Text.Digit
import ClusterHealth.Text.Quoted

/-!
The arguments of the command line. Options may stand anywhere, their names may be cut short as long as
they stay unambiguous, and after a lone `--` there are no more of them. The first word that belongs to
no option is the command; what nothing has a use for is reported at the end, together.
-/

namespace ClusterHealth.CommandLine

open ClusterHealth.Text

inductive Command
  | api
  | snapshot
  | healthInfo
deriving DecidableEq

namespace Command

def name : Command → String
  | api => "api"
  | snapshot => "snapshot"
  | healthInfo => "healthinfo"

def all : List Command := [api, snapshot, healthInfo]

def ofName? (s : String) : Option Command := all.find? (·.name == s)

theorem ofName?_name (c : Command) : ofName? c.name = some c := by cases c <;> decide

end Command

inductive Flag
  | help
  | types
  | deadline
deriving DecidableEq

namespace Flag

def longName : Flag → String
  | help => "--help"
  | types => "--types"
  | deadline => "--deadline"

def title : Flag → String
  | help => "-h/--help"
  | flag => flag.longName

def all : List Flag := [help, types, deadline]

end Flag

inductive UsageError
  | ambiguous (argument : String) (flags : List Flag)
  | unusedValue (value : String)
  | missingValue (flag : Flag)
  | noNumber (value : String)
  | noCommand (word : String)
  | unrecognized (words : List String)
  | rejected (message : String)
deriving DecidableEq

def UsageError.message : UsageError → String
  | ambiguous argument flags =>
    s!"ambiguous option: {argument} could match " ++ ", ".intercalate (flags.map Flag.longName)
  | unusedValue value =>
    s!"argument {Flag.help.title}: ignored explicit argument " ++ quoted value
  | missingValue flag => s!"argument {flag.title}: expected one argument"
  | noNumber value => s!"argument {Flag.deadline.title}: invalid float value: " ++ quoted value
  | noCommand word =>
    "argument command: invalid choice: " ++ quoted word ++ " (choose from " ++
      ", ".intercalate (Command.all.map fun c => quoted c.name) ++ ")"
  | unrecognized words => "unrecognized arguments: " ++ " ".intercalate words
  | rejected message => message

inductive Token
  | word (s : String)
  | separator
  | flag (f : Flag) (value : Option String)
  | shortHelp (tail : List Char)
  | unknown (s : String)

namespace Token

/-- Digits with a minus before and perhaps a point inside are words. -/
def isNegativeNumber (s : List Char) : Bool :=
  let isDigit (c : Char) : Bool := (digitValue? c).isSome
  let s := if s.getLast? = some '\n' then s.dropLast else s
  match s with
  | '-' :: ds =>
    match ds.dropWhile isDigit with
    | [] => !ds.isEmpty
    | '.' :: fraction => !fraction.isEmpty && fraction.all isDigit
    | _ => false
  | _ => false

def candidates (name : List Char) : List Flag :=
  Flag.all.filter fun f => name.isPrefixOf f.longName.toList

def ofOther (s : String) : Token :=
  if isNegativeNumber s.toList || s.toList.contains ' ' then .word s else .unknown s

def ofLong (s : String) : Except UsageError Token :=
  let cs := s.toList
  let name := cs.takeWhile (· != '=')
  let value := match cs.dropWhile (· != '=') with
    | _ :: rest => some (String.ofList rest)
    | [] => none
  match Flag.all.find? fun f => f.longName.toList == name, candidates name with
  | some f, _ => .ok (.flag f value)
  | none, [f] => .ok (.flag f value)
  | none, [] => .ok (ofOther s)
  | none, fs => .error (.ambiguous s fs)

def ofArgument (s : String) : Except UsageError Token :=
  match s.toList with
  | '-' :: '-' :: _ => ofLong s
  | ['-', 'h'] => .ok (.flag .help none)
  | '-' :: 'h' :: '=' :: value => .ok (.flag .help (some (String.ofList value)))
  | '-' :: 'h' :: tail => .ok (.shortHelp tail)
  | ['-'] => .ok (.word s)
  | '-' :: _ => .ok (ofOther s)
  | _ => .ok (.word s)

/-- All are looked at, up to the separator, before any takes effect. -/
def ofArguments : List String → Except UsageError (List Token)
  | [] => .ok []
  | s :: rest =>
    if s = "--" then .ok (.separator :: rest.map .word)
    else do
      let t ← ofArgument s
      return t :: (← ofArguments rest)

end Token

structure Arguments where
  command : Command
  types : Option String
  deadline : Option Binary64

structure Reading where
  command : Option Command
  types : Option String
  deadline : Option Binary64
  unused : List String

inductive Stop
  | help
  | error (e : UsageError)

namespace Reading

def initial : Reading := ⟨none, none, none, []⟩

def takeCommand (r : Reading) (word : String) : Except Stop Reading :=
  match Command.ofName? word with
  | some c => .ok { r with command := some c }
  | none => .error (.error (.noCommand word))

def takeFlag (r : Reading) (f : Flag) (value : String) : Except Stop Reading :=
  match f with
  | .help => .error (.error (.unusedValue value))
  | .types => .ok { r with types := some value }
  | .deadline =>
    match Numeral.float? value with
    | some x => .ok { r with deadline := some x }
    | none => .error (.error (.noNumber value))

def afterShortHelp : List Char → Stop
  | 'h' :: '=' :: value => .error (.unusedValue (String.ofList value))
  | 'h' :: tail => afterShortHelp tail
  | '-' :: tail => .error (.unusedValue (String.ofList ('-' :: tail)))
  | _ => .help

def skip (r : Reading) (words : List String) : Reading :=
  { r with unused := words.reverse ++ r.unused }

/-- After the separator there are words alone, of which the first may still be the command. -/
def takeWords (r : Reading) (words : List String) : Except Stop Reading :=
  match words with
  | [] => .ok r
  | word :: rest => return (← r.takeCommand word).skip rest

def textOf : Token → String
  | .word s => s
  | .separator => "--"
  | .flag f _ => f.longName
  | .shortHelp tail => String.ofList ('-' :: 'h' :: tail)
  | .unknown s => s

def run (r : Reading) : List Token → Except Stop Reading
  | [] => .ok r
  | .separator :: rest =>
    if r.command.isSome then .ok (r.skip ("--" :: rest.map textOf))
    else r.takeWords (rest.map textOf)
  | .word s :: rest =>
    if r.command.isSome then run (r.skip [s]) rest
    else do
      let r ← r.takeCommand s
      match rest with
      | .separator :: rest => return r.skip (rest.map textOf)
      | rest => run r rest
  | .unknown s :: rest => run (r.skip [s]) rest
  | .shortHelp tail :: _ => .error (afterShortHelp tail)
  | .flag f (some value) :: rest => do run (← r.takeFlag f value) rest
  | .flag .help none :: _ => .error .help
  | .flag f none :: .word value :: rest => do run (← r.takeFlag f value) rest
  | .flag f none :: _ => .error (.error (.missingValue f))

def finish (r : Reading) : Except Stop Arguments :=
  if r.unused.isEmpty then .ok ⟨r.command.getD .api, r.types, r.deadline⟩
  else .error (.error (.unrecognized r.unused.reverse))

end Reading

def Arguments.parse (argv : List String) : Except Stop Arguments := do
  let tokens ← (Token.ofArguments argv).mapError .error
  let r ← Reading.initial.run tokens
  r.finish

end ClusterHealth.CommandLine
