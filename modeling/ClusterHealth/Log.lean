import ClusterHealth.Text.AnyText

namespace ClusterHealth

inductive LogLevel
  | debug
  | info
  | warning
  | error
  | critical
deriving DecidableEq

namespace LogLevel

def name : LogLevel → String
  | debug => "DEBUG"
  | info => "INFO"
  | warning => "WARNING"
  | error => "ERROR"
  | critical => "CRITICAL"

def number : LogLevel → Nat
  | debug => 10
  | info => 20
  | warning => 30
  | error => 40
  | critical => 50

def all : List LogLevel := [debug, info, warning, error, critical]

def ofName? (s : String) : Option LogLevel := all.find? (·.name == s)

theorem ofName?_name (l : LogLevel) : ofName? l.name = some l := by cases l <;> decide

end LogLevel

/-- How grave a record is. The named levels are few among the numbers, and no record is of level zero. -/
structure Severity where
  number : Nat
  positive : 0 < number
deriving DecidableEq

def LogLevel.severity (l : LogLevel) : Severity := ⟨l.number, by cases l <;> decide⟩

def Severity.name (s : Severity) : String :=
  match LogLevel.all.find? (·.number == s.number) with
  | some l => l.name
  | none => s!"Level {s.number}"

theorem LogLevel.name_severity (l : LogLevel) : l.severity.name = l.name := by cases l <;> rfl

structure LogRecord where
  level : LogLevel
  logger : String
  text : AnyText
deriving DecidableEq

def LogRecord.line (r : LogRecord) : AnyText := s!"{r.level.name} {r.logger} " ++ r.text

end ClusterHealth
