import NodeTelemetry.Config.Fault
import NodeTelemetry.Control.Basic
import NodeTelemetry.Retention.Store

/-!
# Errors

Every way in which the library refuses or fails, by concern, with one text for
each. Failures below the level of this library have no text of their own.
-/

namespace NodeTelemetry

/-- Why an identity record is of no use. -/
inductive IdentityError where
  | corrupt (p : Path) (reason : String)
  | persist (p : Path)
  deriving DecidableEq, Repr

inductive Error where
  | config (e : ConfigError)
  | storage (e : StorageError)
  | identity (e : IdentityError)
  | invalidParameter (text : String)
  | taskFailed
  | signalSenderClosed (text : String)
  deriving DecidableEq, Repr

/-- The text of a storage error, if it has one. -/
def StorageError.message? : StorageError → Option String
  | .io => none
  | .atPath p _ => some ("Error occurred at path: " ++ p.text)
  | .nameExhausted dir => some ("No free snapshot file name left in " ++ dir.text)
  | .document fault => some fault.message

def IdentityError.message : IdentityError → String
  | .corrupt p reason => "Identity record at " ++ p.text ++ " is corrupt: " ++ reason
  | .persist p => "Failed to persist identity record at " ++ p.text

namespace Error

/-- The text of an error, if it has one. -/
def message? : Error → Option String
  | config e => e.message?
  | storage e => e.message?
  | identity e => some e.message
  | invalidParameter text => some ("Invalid telemetry parameter: " ++ text)
  | taskFailed => none
  | signalSenderClosed text => some text

def ofControlFault (f : ControlFault) : Error := invalidParameter f.text

end Error

end NodeTelemetry
