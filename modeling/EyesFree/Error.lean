import EyesFree.Session.State

namespace EyesFree

/-! Why an operation was refused. What goes wrong with a running capture is not an error of this
kind; it is reported to the client as an event. -/

inductive Error
  /-- The request channel did not take a request. -/
  | submissionRejected (message : String)
  | invalidState (operation : String) (state : SessionState)
  | surface (message : String)
  | relay (message : String)
  | config (message : String)
  | unsupported (message : String)
  /-- The file system refused, in its own words. -/
  | file (message : String)
  /-- A text is not the JSON form of what was expected. -/
  | json
deriving DecidableEq, Repr

namespace Error

def message : Error → String
  | .submissionRejected message => s!"Submission rejected: {message}"
  | .invalidState operation state => s!"Invalid state for {operation}: session is {state.title}"
  | .surface message => s!"Surface error: {message}"
  | .relay message => s!"Relay error: {message}"
  | .config message => s!"Configuration error: {message}"
  | .unsupported message => s!"Unsupported operation: {message}"
  | .file message => message
  | .json => "unexpected JSON"

def isSubmissionRejected : Error → Bool
  | .submissionRejected _ => true
  | _ => false

end Error

end EyesFree
