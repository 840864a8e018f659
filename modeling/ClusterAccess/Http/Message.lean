import ClusterAccess.Http.Head
import ClusterAccess.Http.Reachable
import ClusterAccess.Http.Status
import ClusterAccess.Text.Base64
import ClusterAccess.Text.Percent

/-!
# HTTP requests and responses

## Main definitions

* `Request`, `Response`: the messages.
* `Reply`: what becomes of a request on its way.
* `Request.start`: a request to a URL, before headers are added.
* `Request.redirected?`: the request to make instead, if a response asks for that.
-/
namespace ClusterAccess.Http

inductive Method where
  | get
  | post
  deriving DecidableEq, Repr

def Method.name : Method → String
  | .get => "GET"
  | .post => "POST"

structure Body where
  mediaType : String
  text : String
  deriving DecidableEq, Repr

structure Request where
  method : Method
  url : Url
  accept : String := "*/*"
  /-- The values of the `Authorization` header, in order. -/
  authorization : List String := []
  body : Option Body := none
  deriving DecidableEq, Repr

structure Response where
  status : Nat
  headers : List (String × String) := []
  body : List UInt8 := []
  deriving DecidableEq, Repr

namespace Response

/-- The first value of a header, whose name is written in lower case. -/
def header? (r : Response) (name : String) : Option String :=
  (r.headers.find? (·.1.toLower == name)).map (·.2)

def text (r : Response) : String := String.ofList (Text.decodeLossy r.body)

end Response

/-- What becomes of a request. -/
inductive Reply where
  | response (r : Response)
  /-- The connection ended without a response. -/
  | closed
  /-- There was no connection. -/
  | unreachable
  deriving DecidableEq, Repr

/-- Why a request has no useful response. -/
inductive Fault where
  | unusableHeader
  | unusableUrl (u : Url)
  | noAnswer (u : Url)
  | tooManyRedirects (u : Url)
  | undecodable
  deriving DecidableEq, Repr

def Fault.message : Fault → String
  | .unusableHeader => "builder error"
  | .unusableUrl u => s!"builder error for url ({u.render})"
  | .noAnswer u => s!"error sending request for url ({u.render})"
  | .tooManyRedirects u => s!"error following redirect for url ({u.render})"
  | .undecodable => "error decoding response body"

/-! ## Authorization -/

def isHeaderText (s : String) : Bool := s.toList.all Head.isValueChar

/-- A header value as it arrives: blanks at its end are no part of it. -/
def arrived (value : String) : String := String.ofList (Head.withoutEnd value.toList)

/-- A name and password in the clear, as a header value. -/
def basicAuthorization (username password : String) : String :=
  "Basic " ++ String.ofList (Text.Base64.encode (Text.utf8Bytes (username ++ ":" ++ password)))

def bearerAuthorization (token : String) : String := "Bearer " ++ token

/-- The user part of a URL with its escapes undone, unless it is empty or no text. -/
def userOf? (u : Url) : Option (String × String) :=
  let password := u.password.bind Text.Percent.decode?
  match Text.Percent.decode? u.username with
  | some name => if name.isEmpty && password.isNone then none else some (name, password.getD "")
  | none => none

namespace Request

/-- Whether the URL names a host. -/
def namesHost (u : Url) : Bool :=
  match u.host with
  | none | some (.domain "") => false
  | some _ => true

/-- A request to a URL. The user part of the URL becomes a header. -/
def start (method : Method) (url : Url) : Except Fault Request :=
  if namesHost url then
    .ok (match userOf? url with
      | some (name, password) =>
        { method, url := { url with username := "", password := none },
          authorization := [basicAuthorization name password] }
      | none => { method, url })
  else .error (.unusableUrl url)

/-- The request with one more value of the `Authorization` header. -/
def authorized (r : Request) (value : String) : Except Fault Request :=
  if isHeaderText value then .ok { r with authorization := r.authorization ++ [value] }
  else .error .unusableHeader

/-! ## Redirections -/

/-- Whether two URLs lead to one server. -/
def isSameServer (u v : Url) : Bool := u.host == v.host && u.effectivePort == v.effectivePort

/-- The request without means of signing in. -/
def anonymous (r : Request) : Request := { r with authorization := [] }

/-- The request that a response asks for instead. A new place is asked for in the same way, except
that a request with a body is not repeated after some statuses. -/
def redirected? (r : Request) (answer : Response) : Option Request := do
  let location ← answer.header? "location"
  let there ← (Url.resolve r.url location).toOption
  guard (isReachable there)
  let r := { r with url := messageForm there }
  match answer.status with
  | 301 | 302 | 303 => some { r with method := .get, body := none }
  | 307 | 308 => some r
  | _ => none

end Request
end ClusterAccess.Http
