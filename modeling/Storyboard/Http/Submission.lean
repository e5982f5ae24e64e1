import Storyboard.Assoc
import Storyboard.Json.Basic
import Storyboard.Notice
import Storyboard.Text.UpperCase

/-!
# Submitting over HTTP

One call is made through a client, and the response becomes a result or an error. A
response without success and a failure of the exchange are refusals. Whatever else the
client raises leaves the submit as it is. The client and the network are not part of
the program: a `Client` is whatever makes requests and reads replies, and a transport
is whatever carries a request.
-/
namespace Storyboard.Http

/-- How a payload is handed over: in the query of the address, or as a JSON body. -/
inductive Load where
  | query (payload : Assoc Json)
  | json (payload : Assoc Json)

/-- What a client is asked for. -/
structure Call where
  method : String
  endpoint : String
  load : Load
  headers : Assoc Json

/-- What is raised on the way, by the classes that handlers tell apart. -/
inductive Raised where
  /-- The status of a response, raised as an error. -/
  | status (code : Nat)
  /-- Any other error of HTTP. -/
  | http (kind message : String)
  /-- A value that is none of what it should be. -/
  | value (kind message : String)
  | other (kind message : String)
  deriving DecidableEq, Repr

/-- What comes back over the network. -/
structure Reply where
  status : Nat
  headers : Assoc Json
  body : List Nat

/-- A reply as the client hands it on: its content, and what can be read from it. -/
structure Response where
  status : Nat
  content : List Nat
  json : Except Raised Json
  text : Except Raised String

/-- Makes requests for calls, and reads the replies. -/
structure Client (Request : Type) where
  build : Call → Except Raised Request
  receive : Request → Reply → Except Raised Response
  raiseForStatus : Response → Except Raised Unit

/-- Carries requests to their replies. -/
abbrev Transport (Request : Type) := Request → Except Raised Reply

variable {Request : Type}

/-- The response with success that a call leads to. -/
def Client.request (client : Client Request) (transport : Transport Request) (call : Call) :
    Except Raised Response := do
  let request ← client.build call
  let reply ← transport request
  let response ← client.receive request reply
  client.raiseForStatus response
  return response

/-- A submit that was sent in vain. -/
structure Refusal where
  endpoint : String
  reason : String
  status : Option Nat
  deriving DecidableEq, Repr

def Refusal.message (r : Refusal) : String :=
  "Submit to " ++ r.endpoint ++ " failed: " ++ r.reason

/-- Why a submit gave no result. -/
inductive SubmitFault where
  | refused (refusal : Refusal)
  | raised (raised : Raised)
  deriving DecidableEq, Repr

/-- What becomes of what is raised while a call is made. -/
def caught (endpoint : String) : Raised → SubmitFault
  | .status code => .refused ⟨endpoint, "HTTP " ++ toString code, some code⟩
  | .http kind message => .refused ⟨endpoint, if message == "" then kind else message, none⟩
  | raised => .raised raised

/-- What a response holds: nothing, a JSON value, or else a text. -/
def Response.read (response : Response) : Except Raised Json :=
  if response.content.isEmpty then .ok .null
  else match response.json with
    | .error (.value ..) => response.text.map .str
    | json => json

/-- The methods whose payload is a query. -/
def hasQuery (method : String) : Bool := method == "GET" || method == "DELETE"

/-- The call for a submit. -/
def callFor (endpoint : String) (payload : Assoc Json) (method : String)
    (headers : Assoc Json) : Call :=
  let method := Text.upper method
  ⟨method, endpoint, if hasQuery method then .query payload else .json payload, headers⟩

/-- What a submit leads to: the request, if one was made, and the result. -/
structure Submission (Request : Type) where
  request : Option Request
  result : Except SubmitFault Json
  notices : List Notice

/-- Submits a payload. -/
def submit (client : Client Request) (transport : Transport Request) (endpoint : String)
    (payload : Assoc Json) (method : String) (headers : Assoc Json) : Submission Request :=
  let call := callFor endpoint payload method headers
  { request := (client.build call).toOption
    result := do
      let response ← (client.request transport call).mapError (caught endpoint)
      response.read.mapError .raised
    notices := [.submitting payload.length call.method endpoint] }

end Storyboard.Http
