import Storyboard.Http.Header
import Storyboard.Http.Submission
import Storyboard.Http.Url
import Storyboard.Number.Numeral
import Storyboard.Text.Base64

/-!
# Requests

A payload goes into the query of the address where the method has no body, and
into a JSON body otherwise. A name and a password in the address go into a header.
-/
namespace Storyboard.Http

structure Request where
  method : String
  url : Url
  /-- Names in lower case. -/
  headers : Assoc String
  body : String

def UrlFault.raised (fault : UrlFault) : Raised := .other "InvalidURL" fault.message

def HeaderFault.raised (fault : HeaderFault) : Raised :=
  match fault with
  | .notAscii .. => .value "UnicodeEncodeError" fault.message
  | .notText _ => .other "TypeError" fault.message

/-- What is wrong with the name of a host. -/
def labelRaised (fault : HostName.LabelFault) : Raised :=
  let kind := match fault with
    | .forbidden .. => "InvalidCodepoint"
    | .outOfPlace .. => "InvalidCodepointContext"
    | .direction .. => "IDNABidiError"
    | _ => "IDNAError"
  .value kind fault.message

namespace Url

/-- The name that the host of an address stands for must be sound. -/
def checkHost (u : Url) : Except HostName.LabelFault Unit :=
  if HostName.isWritten u.host then (HostName.read u.host).map fun _ => () else .ok ()

/-- The header value for the name and the password in an address. -/
def credentials? (u : Url) : Option String :=
  let info := u.userInfo.toList
  let name := decodePart (info.takeWhile (· != ':'))
  let password := decodePart ((info.dropWhile (· != ':')).drop 1)
  if name == "" && password == "" then none
  else some ("Basic " ++ Text.base64 (Text.Utf8.encode (name ++ ":" ++ password)))

end Url

mutual

/-- Whether every whole number of a value can be written out. -/
def writesNumbers : Json → Bool
  | .int n => n.natAbs < 10 ^ Numeral.digitLimit
  | .arr items => writesNumbersItems items
  | .obj fields => writesNumbersFields fields
  | _ => true

def writesNumbersItems : List Json → Bool
  | [] => true
  | v :: rest => writesNumbers v && writesNumbersItems rest

def writesNumbersFields : List (String × Json) → Bool
  | [] => true
  | (_, v) :: rest => writesNumbers v && writesNumbersFields rest

end

/-- Refuses a payload that there is no text of. -/
def checkPayload (payload : Assoc Json) : Except Raised Unit :=
  if !(Json.obj payload).shows then .error (.other "RecursionError" "")
  else if !writesNumbers (.obj payload) then
    .error (.value "ValueError"
      ("Exceeds the limit (4300 digits) for integer string conversion; " ++
        "use sys.set_int_max_str_digits() to increase the limit"))
  else .ok ()

/-- The address and the body for a payload. -/
def Load.place (url : Url) : Load → Except Raised (Url × String)
  | .query payload => do
    checkPayload payload
    let url ← ({ url with query := queryOf? payload }.renew).mapError UrlFault.raised
    return (url, "")
  | .json payload => do
    if !(Json.obj payload).allFinite then
      throw (.value "ValueError" "Out of range float values are not JSON compliant")
    checkPayload payload
    return (url, (Json.obj payload).write .compact)

/-- The headers of a call: those given for it, and those for its payload. -/
def Load.headers (given : Assoc String) : Load → Assoc String
  | .query _ => given
  | .json _ =>
    if Assoc.has given "content-type" then given
    else given ++ [("content-type", "application/json")]

/-- The request for a call. A host that the headers do not name is taken from the
address, which must be able to give it. -/
def Request.build (call : Call) : Except Raised Request := do
  let url ← ((Url.parse call.endpoint).bind Url.fromRoot).mapError UrlFault.raised
  let given ← (readHeaders [] call.headers).mapError HeaderFault.raised
  let (url, body) ← call.load.place url
  if !Assoc.has given "host" && url.host != "" then
    url.checkHost.mapError labelRaised
    (checkAscii url.netLocation).mapError HeaderFault.raised
  let headers := call.load.headers given
  let headers := match url.credentials? with
    | some value => Assoc.put headers "authorization" value
    | none => headers
  return ⟨call.method, url, headers, body⟩

end Storyboard.Http
