import ClusterHealth.Admin.ServerError
import ClusterHealth.DataType

namespace ClusterHealth.Admin

open ClusterHealth.Stream

inductive Category
  | transport
  | timeout
  | server
  | application
  | version
  | decode
deriving DecidableEq

inductive Error
  | requestTimedOut (path : String)
  | requestFailed (path : String) (text : AnyText)
  | server (e : ServerError)
  | reading (e : ReadError)
  | emptyBody
  | envelope
  | application (text : AnyText)
  | version (version : AnyText)
  | noDocuments
  | report
  | unknownType (e : DataType.Invalid)
  | foreign (f : Fault)
deriving DecidableEq

namespace Error

def message : Error → AnyText
  | requestTimedOut path => "admin request timed out: " ++ path
  | requestFailed path text => "admin request failed: " ++ path ++ ": " ++ text
  | server e => e.message
  | reading e => e.message
  | emptyBody => "health info response body is empty"
  | envelope => "health info envelope failed validation"
  | application text => text
  | version v => "Upgrade client to support health info version " ++ v
  | noDocuments => "health info stream contained no documents"
  | report => "health info document failed validation"
  | unknownType e => e.message
  | foreign f => f.text

def readCategory? : ReadError → Option Category
  | .timedOut => some .timeout
  | .interrupted _ => some .transport
  | .foreign _ => none
  | .notObject | .unfinished | .malformed _ | .unreadable | .undecodable _ => some .decode

def category? : Error → Option Category
  | requestTimedOut _ => some .timeout
  | requestFailed .. => some .transport
  | server _ => some .server
  | reading e => readCategory? e
  | emptyBody | envelope | noDocuments | report => some .decode
  | application _ => some .application
  | version _ => some .version
  | unknownType _ | foreign _ => none

def fault : Error → Fault
  | foreign f => f
  | reading (.foreign f) => f
  | e => ⟨.value, e.message⟩

end Error

end ClusterHealth.Admin
