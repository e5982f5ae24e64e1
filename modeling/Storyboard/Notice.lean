import Storyboard.Json.Display

/-!
# Notices

What the library reports beside its results. Each kind of notice is a
constructor; its weight and its wording are fixed here and nowhere else.
-/
namespace Storyboard

inductive Weight where
  | info
  | warning
  | error
  deriving DecidableEq, Repr

def Weight.label : Weight → String
  | .info => "INFO"
  | .warning => "WARNING"
  | .error => "ERROR"

inductive Notice where
  | danglingReferences (screens tables tokens : List String)
  | duplicateId (id : Json) (table : String)
  | unknownOperator (operator field : String)
  | noAuthentication (screen : String)
  | actionNotObject (action : Json)
  | actionWithoutType (action : Json)
  | unknownAction (kind : Json)
  | invalidAction (kind : String) (issues : List String)
  | depthExceeded (limit : Nat)
  | handlerFailed (kind : String)
  | submitIncomplete
  | submitUnknownTable (table : String)
  | submitted (id : Json) (table : String)
  | submitWithoutEndpoint
  | submissionFailed (endpoint reason : String)
  | submissionCrashed (endpoint : String)
  | deleteUnknownTable (table : String)
  | loginUnavailable
  | loginFailed
  | signupUnavailable
  | signupIncomplete
  | signupDuplicate
  | signupRejected (reason : String)
  | listenerFailed
  | reloadRejected (count : Nat)
  | submitting (count : Nat) (method endpoint : String)
  | plaintextInProduction
  | unrecognizedHash
  deriving Repr

namespace Notice

def weight : Notice → Weight
  | submitted .. | loginFailed | signupIncomplete | signupDuplicate | signupRejected _
  | submitting .. => .info
  | handlerFailed _ | submissionCrashed _ | listenerFailed => .error
  | _ => .warning

/-- The wording for a secret that cannot be stored. -/
def rejectionMessage (reason : String) : String := "Credential rejected: " ++ reason

def message : Notice → String
  | danglingReferences screens tables tokens =>
    "Definition has dangling references: screens=" ++ Json.inspectNames screens ++
      " tables=" ++ Json.inspectNames tables ++ " tokens=" ++ Json.inspectNames tokens
  | duplicateId id table =>
    "Duplicate id '" ++ id.display ++ "' in seed data for table '" ++ table ++ "'; reassigning"
  | unknownOperator operator field =>
    "Unknown filter operator '" ++ operator ++ "' on field '" ++ field ++ "'; ignoring"
  | noAuthentication screen =>
    "Screen '" ++ screen ++ "' requires auth but the app has no authentication config"
  | actionNotObject action => "Invalid action: " ++ action.inspect
  | actionWithoutType action => "Invalid action (missing type): " ++ action.inspect
  | unknownAction kind => "Unknown action type: " ++ kind.display
  | invalidAction kind issues =>
    "Invalid '" ++ kind ++ "' action: " ++ String.intercalate "; " issues
  | depthExceeded limit =>
    "Action chain exceeded maximum depth of " ++ toString limit ++ "; remaining actions dropped"
  | handlerFailed kind => "Error handling action " ++ kind
  | submitIncomplete => "Database submit needs both 'table' and 'fields'"
  | submitUnknownTable table => "Submit to unknown table '" ++ table ++ "' ignored"
  | submitted id table => "Submitted record " ++ id.display ++ " to '" ++ table ++ "'"
  | submitWithoutEndpoint => "Remote submit has no endpoint"
  | submissionFailed endpoint reason => "Submit to " ++ endpoint ++ " failed: " ++ reason
  | submissionCrashed endpoint => "Remote submit to " ++ endpoint ++ " failed"
  | deleteUnknownTable table => "Delete from unknown table '" ++ table ++ "' ignored"
  | loginUnavailable => "auth:login dispatched but the app has no authentication config"
  | loginFailed => "Login failed: no user matches the submitted credentials"
  | signupUnavailable => "auth:signup dispatched but the app has no authentication config"
  | signupIncomplete => "Signup rejected: email and password are required"
  | signupDuplicate => "Signup rejected: email already registered"
  | signupRejected reason => "Signup rejected: " ++ rejectionMessage reason
  | listenerFailed => "Runtime listener failed"
  | reloadRejected count => "Reload rejected: " ++ toString count ++ " validation error(s)"
  | submitting count method endpoint =>
    "Submitting " ++ toString count ++ " field(s) to " ++ method ++ " " ++ endpoint
  | plaintextInProduction => "Plaintext credential comparison enabled in production"
  | unrecognizedHash => "Stored credential is not a recognised hash; treating as mismatch"

end Notice

end Storyboard
