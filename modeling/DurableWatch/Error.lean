import DurableWatch.Path
import DurableWatch.SessionState
import DurableWatch.Text.Quoted

/-!
# Failures

Every operation that can fail does so with an `Error`, whose constructors are the causes and whose
wording is `Error.message`. A failure of the service travels outwards inside `operationFailed`,
together with the operation and the path it was asked for; `Error.during` does the wrapping. A crash
is no failure: it ends whatever is going on, and a `Stop` is one or the other.
-/
namespace DurableWatch

/-- Where a configured value came from: a file, the environment, or nowhere that is known. -/
abbrev Origin := Option String

/-- Why no configuration could be read. -/
inductive ConfigError
  | message (text : String)
  /-- A value of the wrong type: what was found and expected, and the key and origin of the value.
  -/
  | wrongType (found expected : String) (key : Option String) (origin : Origin)
  /-- A file that is not well formed. -/
  | malformedFile (name : String)
  | foreign (text : String)
  | notFound (key : String)
  | badPath (reason : String)
  deriving DecidableEq, Repr

def ConfigError.text : ConfigError → String
  | message text => text
  | wrongType found expected key origin =>
    "invalid type: " ++ found ++ ", expected " ++ expected
      ++ (key.map fun k => " for key `" ++ k ++ "`").getD ""
      ++ (origin.map fun o => " in " ++ o).getD ""
  | malformedFile name => name ++ " is malformed"
  | foreign text => text
  | notFound key => "configuration property " ++ Text.quoted key ++ " not found"
  | badPath reason => reason

inductive Error
  /-- The session is not alive. -/
  | notConnected (reason : String)
  | pathNotFound (path : Path)
  | nodeExists (path : Path)
  /-- A call to the service failed for a cause of this library. -/
  | operationFailed (operation : String) (path : Path) (cause : Error)
  /-- A call to the service failed for a cause of its own, known by its text only. -/
  | serviceFailed (operation : String) (path : Path) (cause : String)
  | invalidArgument (reason : String)
  | unsupportedState (state : SessionState)
  /-- A recovery went through to the end, but not for these paths. -/
  | recoveryIncomplete (failed : List Path)
  | config (cause : ConfigError)
  deriving DecidableEq, Inhabited, Repr

namespace Error

def message : Error → String
  | notConnected reason => "Not connected to the coordination service: " ++ reason
  | pathNotFound path => "Node path " ++ path ++ " not found"
  | nodeExists path => "Node path " ++ path ++ " already exists"
  | operationFailed operation path cause =>
    operation ++ " failed on " ++ path ++ ": " ++ cause.message
  | serviceFailed operation path cause => operation ++ " failed on " ++ path ++ ": " ++ cause
  | invalidArgument reason => "Invalid argument: " ++ reason
  | unsupportedState state =>
    "Session state " ++ state.name ++ " cannot be listened on, expected Disconnected or Expired"
  | recoveryIncomplete failed =>
    "Recovery incomplete, " ++ toString failed.length ++ " path(s) failed: "
      ++ Text.quotedList failed
  | config cause => cause.text

/-- The failure of a service call, as the caller of a larger operation sees it. A lost connection
and a missing node stay what they are, because callers branch on them. -/
def during (operation : String) (path : Path) : Error → Error
  | notConnected reason => notConnected reason
  | pathNotFound missing => pathNotFound missing
  | e => operationFailed operation path e

/-- Only the bare failure counts. -/
def isNotFound : Error → Bool
  | pathNotFound _ => true
  | _ => false

/-- Looks through any number of wrappings. -/
def isNodeExists : Error → Bool
  | nodeExists _ => true
  | operationFailed _ _ cause => cause.isNodeExists
  | _ => false

end Error

/-- Why an operation stops early: a cause to report, or a crash of what it called. -/
inductive Stop
  | failed (cause : Error)
  | crashed (reason : String)
  deriving DecidableEq, Repr

namespace Stop

/-- The failure of a service call, as the caller of a larger operation sees it. -/
def during (operation : String) (path : Path) : Stop → Stop
  | failed e => failed (e.during operation path)
  | crashed reason => crashed reason

def isNotFound : Stop → Bool
  | failed e => e.isNotFound
  | crashed _ => false

def isNodeExists : Stop → Bool
  | failed e => e.isNodeExists
  | crashed _ => false

end Stop

/-- Checks that `p` is a path. -/
def Path.validate (p : Path) : Except Error Unit :=
  match p.defect? with
  | none => .ok ()
  | some d => .error (.invalidArgument (d.message p))

end DurableWatch
