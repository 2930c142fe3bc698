import ClusterHealth.Json.Basic
import ClusterHealth.Log
import ClusterHealth.Log.Template
import ClusterHealth.Text.LetterCase
import ClusterHealth.Text.Quoted

/-!
The root of all loggers: the least level that is written, and the handlers that write. Setting it up
again changes the level and, unless it is forced, leaves the handlers as they are, so that a record is
never written twice.
-/

namespace ClusterHealth

open ClusterHealth.Text

inductive Rendering
  | console
  | object
deriving DecidableEq

structure LogRoot where
  level : Nat
  handlers : List Rendering
deriving DecidableEq

inductive Written
  | text (s : AnyText)
  | object (ms : Members)

namespace LogRoot

def initial : LogRoot := ⟨LogLevel.warning.number, []⟩

structure UnknownLevel where
  name : String
deriving DecidableEq

def UnknownLevel.message (e : UnknownLevel) : String :=
  "Unknown level: " ++ quoted ("Level " ++ e.name)

/-- Levels have further names here, and there is one below all others. -/
def levelNumber? (name : String) : Option Nat :=
  match name with
  | "FATAL" => some LogLevel.critical.number
  | "WARN" => some LogLevel.warning.number
  | "NOTSET" => some 0
  | name => (LogLevel.ofName? name).map (·.number)

def install (r : LogRoot) (rendering : Rendering) (force : Bool) : LogRoot :=
  if force || r.handlers.isEmpty then { r with handlers := [rendering] } else r

/-- The handlers are set up even if the level is then refused. -/
def configure (r : LogRoot) (level : String) (rendering : Rendering) (force : Bool) :
    Except UnknownLevel Unit × LogRoot :=
  let r := r.install rendering force
  match levelNumber? (upper level) with
  | some n => (.ok (), { r with level := n })
  | none => (.error ⟨upper level⟩, r)

def admits (r : LogRoot) (s : Severity) : Bool := decide (r.level ≤ s.number)

def isEnabled (r : LogRoot) (l : LogLevel) : Bool := r.admits l.severity

def rendered (s : Severity) (text : AnyText) (time : String) : Rendering → Written
  | .console => .text ((time ++ " [" ++ lower s.name ++ "] ") ++ text)
  | .object =>
    .object [("event", .str text), ("level", .str (lower s.name)), ("timestamp", .str time)]

def emit (r : LogRoot) (s : Severity) (text : AnyText) (time : String) : List Written :=
  if !r.admits s then []
  else if r.handlers.isEmpty then
    if LogLevel.warning.number ≤ s.number then [.text text] else []
  else r.handlers.map (rendered s text time)

def write (r : LogRoot) (l : LogLevel) (text : AnyText) (time : String) : List Written :=
  r.emit l.severity text time

/-- What is written where a message is logged with values for its places. The record is lost if they do
not suit it. -/
def log (r : LogRoot) (s : Severity) (message : String) (values : List Json) (time : String) :
    List Written :=
  match Template.fill message values with
  | some text => r.emit s text time
  | none => []

end LogRoot

end ClusterHealth
