import Storyboard.Http.Body
import Storyboard.Http.Request

/-!
# The client the program runs with

A client that makes requests and reads replies without anything else at hand. What
holds of submits is said of every client; this one only lets the program run by itself.
A reply can point to another address. It is not followed, but it must be an address.
-/
namespace Storyboard.Http

/-- The statuses of replies that point to another address. -/
def redirectStatuses : List Nat := [301, 302, 303, 307, 308]

/-- Checks where a reply to a request for `url` points. An address with a scheme and
without a host is one on the same host. -/
def checkRedirect (url : Url) (location : String) : Except Raised Unit := do
  let target ← (Url.parse location).mapError fun fault =>
    .http "RemoteProtocolError" ("Invalid URL in location header: " ++ fault.message ++ ".")
  target.checkHost.mapError labelRaised
  if target.scheme != "" && target.host == "" then
    let _ ← ({ target with host := url.host }.renew).mapError UrlFault.raised
  url.checkHost.mapError labelRaised

/-- Checks where a reply points, if it does. -/
def checkLocation (url : Url) (status : Nat) (location : Option String) :
    Except Raised Unit :=
  match location with
  | none => .ok ()
  | some location =>
    if redirectStatuses.contains status then checkRedirect url location else .ok ()

def charsetRaised (fault : CharsetFault) : Raised :=
  match fault with
  | .notText => .other "AssertionError" fault.message
  | .fromText => .other "TypeError" fault.message
  | _ => .value "UnicodeError" fault.message

/-- A body that is no JSON. -/
def notJson : Raised := .value "JSONDecodeError" ""

/-- A body as JSON. A text that no string can hold is none here. -/
def readJson (body : List Nat) : Except Raised Json :=
  match jsonText? body with
  | none => .error notJson
  | some text =>
    (Json.read replyBounds text).mapError fun
      | .tooDeep => .other "RecursionError" ""
      | .unpaired => .other "UnpairedSurrogate" ""
      | _ => notJson

/-- Reads a reply. Its body is unpacked before anything else is looked at. -/
def Reply.read (request : Request) (reply : Reply) : Except Raised Response := do
  let headers ← (readHeaders [] reply.headers).mapError HeaderFault.raised
  let coded := codings ((Assoc.get? headers "content-encoding").getD "")
  let content ← (unpack coded reply.body).mapError fun fault =>
    .http "DecodingError" fault.report
  if !request.url.isAbsolute then
    throw (.value "ValueError" ("unknown url type: " ++ Json.inspectString request.url.text))
  checkLocation request.url reply.status (Assoc.get? headers "location")
  return {
    status := reply.status
    content
    json := readJson content
    text := (bodyText (Assoc.get? headers "content-type") content).mapError charsetRaised }

/-- The client the program runs with. -/
def Client.running : Client Request where
  build := Request.build
  receive := Reply.read
  raiseForStatus response :=
    if 200 ≤ response.status && response.status ≤ 299 then .ok ()
    else .error (.status response.status)

/-- The schemes that requests can go out by. -/
def knownSchemes : List String := ["http", "https", "ws", "wss"]

/-- Where there is no network, no request arrives: it is said what is wrong with an
address, and no host is found. -/
def unconnected : Transport Request := fun request =>
  let scheme := request.url.scheme
  if scheme == "" then
    .error (.http "UnsupportedProtocol"
      "Request URL is missing an 'http://' or 'https://' protocol.")
  else if !knownSchemes.contains scheme then
    .error (.http "UnsupportedProtocol"
      ("Request URL has an unsupported protocol '" ++ scheme ++ "://'."))
  else .error (.http "ConnectError" "All connection attempts failed")

end Storyboard.Http
