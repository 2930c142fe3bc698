import ClusterHealth.Duration
import ClusterHealth.Text.LetterCase
import ClusterHealth.Text.AnyText

namespace ClusterHealth

open ClusterHealth.Text

inductive DataType
  | perfDrive
  | perfNet
  | serverInfo
  | serverConfig
  | sysCpu
  | sysDriveHw
  | sysDocker
  | sysOsInfo
  | sysLoad
  | sysMem
  | sysNet
  | sysProcess
deriving DecidableEq

namespace DataType

def name : DataType → String
  | perfDrive => "perfdrive"
  | perfNet => "perfnet"
  | serverInfo => "minioinfo"
  | serverConfig => "minioconfig"
  | sysCpu => "syscpu"
  | sysDriveHw => "sysdrivehw"
  | sysDocker => "sysdocker"
  | sysOsInfo => "sysosinfo"
  | sysLoad => "sysload"
  | sysMem => "sysmem"
  | sysNet => "sysnet"
  | sysProcess => "sysprocess"

def all : List DataType :=
  [perfDrive, perfNet, serverInfo, serverConfig, sysCpu, sysDriveHw, sysDocker, sysOsInfo, sysLoad,
    sysMem, sysNet, sysProcess]

theorem mem_all (t : DataType) : t ∈ all := by cases t <;> decide

def ofName? (s : String) : Option DataType := all.find? (·.name == s)

theorem ofName?_name (t : DataType) : ofName? t.name = some t := by cases t <;> decide

theorem ofName?_eq_some_iff {s : String} {t : DataType} : ofName? s = some t ↔ t.name = s := by
  constructor
  · intro h
    simpa using List.find?_some h
  · rintro rfl
    exact ofName?_name t

theorem ofName?_eq_none_iff {s : String} : ofName? s = none ↔ s ∉ all.map name := by
  simp [ofName?]

def normalize (s : String) : String := lower (strip s)

structure UnknownNames where
  names : List String
deriving DecidableEq

def sortNames (names : List String) : List String := names.mergeSort (fun a b => decide (a ≤ b))

def UnknownNames.message (e : UnknownNames) : String :=
  "unknown health data type(s): " ++ ", ".intercalate e.names

def isBlankName (s : String) : Bool := normalize s == ""

def select (names : List String) : List DataType :=
  let asked := names.filterMap (ofName? <| normalize ·)
  all.filter asked.contains

def unknown (names : List String) : List String :=
  (names.filter fun s => !isBlankName s && (ofName? (normalize s)).isNone).map strip

def parse (names : List String) : Except UnknownNames (List DataType) :=
  match unknown names with
  | [] => .ok (select names)
  | bad => .error ⟨sortNames bad⟩

def resolve (raw : Option String) : Except UnknownNames (List DataType) :=
  match raw with
  | none => .ok all
  | some s => if s = "" then .ok all else parse (pieces ',' s)

structure Invalid where
  name : String
deriving DecidableEq

def Invalid.message (e : Invalid) : String := quoted e.name ++ " is not a valid HealthDataType"

def exactly : List String → Except Invalid (List DataType)
  | [] => .ok []
  | s :: rest =>
    match ofName? s with
    | none => .error ⟨s⟩
    | some t => (exactly rest).map (t :: ·)

end DataType

def query (types : List DataType) (deadline : Duration) : List (String × String) :=
  ("deadline", deadline.format) ::
    DataType.all.map fun t => (t.name, if types.contains t then "true" else "false")

/-- The versions that this client reads; the empty one is that of servers which send none. -/
def isSupportedVersion (version : AnyText) : Bool := version == "" || version == "1"

end ClusterHealth
