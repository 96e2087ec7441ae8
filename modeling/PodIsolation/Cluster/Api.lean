import PodIsolation.Json.Printer
import PodIsolation.Json.Reader
import PodIsolation.Resource.Endpoint
import PodIsolation.Resource.Pod
import PodIsolation.Resource.Policy
import PodIsolation.Text.Quoted
import PodIsolation.Watch.Error

/-!
# The API server

## Requests

Resources are listed and watched under the path of their group and version.
The queries of the two requests are fixed but for the resource version and the
selector of fields, which is written in the form encoding of queries.
-/

namespace PodIsolation

def policiesGroup : String := "/apis/" ++ Policy.apiVersion
def endpointsGroup : String := "/apis/" ++ EndpointResource.apiVersion

/-- The listing of a namespace. -/
def listUri (group plural ns : String) : String :=
  group ++ "/namespaces/" ++ ns ++ "/" ++ plural ++ "?"

def listPoliciesUri (ns : String) : String :=
  listUri policiesGroup "danmnetworkpolicies" ns

def listEndpointsUri (ns : String) : String :=
  listUri endpointsGroup "danmeps" ns

/-- A request for all resources of a kind in a namespace. -/
inductive ListRequest where
  | policies (ns : String)
  | endpoints (ns : String)
deriving DecidableEq, Repr

namespace ListRequest

def ns : ListRequest -> String
  | .policies ns => ns
  | .endpoints ns => ns

def uri : ListRequest -> String
  | .policies ns => listPoliciesUri ns
  | .endpoints ns => listEndpointsUri ns

end ListRequest

/-- Whether a character may stand in the path of a request. -/
def isPathChar (c : Char) : Bool :=
  0x20 < c.toNat && !(['<', '>', '\x60', '\x7f'].contains c)

/-- Whether a character may stand in the query of a request. -/
def isQueryChar (c : Char) : Bool :=
  0x20 < c.toNat && !(['"', '<', '>', '\x7f'].contains c)

/-- The target that a request is sent to.  A fragment is cut off; a target with
other characters than those allowed cannot be requested. -/
def requestTarget? (uri : String) : Option String :=
  let sent := uri.toList.takeWhile (· != '#')
  let isPath := (sent.takeWhile (· != '?')).all isPathChar
  let isQuery := (sent.dropWhile (· != '?')).all isQueryChar
  if isPath && isQuery then some (String.ofList sent) else none

def isFormChar (c : Char) : Bool :=
  c.isAlphanum || c == '*' || c == '-' || c == '.' || c == '_'

def formByte (b : UInt8) : List Char :=
  let digits := (Nat.toDigits 16 b.toNat).map Char.toUpper
  '%' :: List.replicate (2 - digits.length) '0' ++ digits

def formChar (c : Char) : List Char :=
  if isFormChar c then [c]
  else if c = ' ' then ['+']
  else c.toString.toUTF8.toList.flatMap formByte

def formEncoded (s : String) : String :=
  String.ofList (s.toList.flatMap formChar)

/-!
## Responses
-/

structure Response where
  status : Nat := 200
  body : String

/-- A response, or the reason why none arrived. -/
abbrev Exchange := Except String Response

/-- A code of a status, in 16 bits. -/
def codeReader : Json.Reader Nat :=
  (Json.Reader.int 0 65535).map Int.toNat

def ApiStatus.reader : Json.Reader ApiStatus :=
  Json.Reader.record { code := 0 }
    [.required "status" .string fun _ s => s,
      .defaulted "message" .string fun v s => { s with message := v },
      .defaulted "reason" .string fun v s => { s with reason := v },
      .required "code" codeReader fun v s => { s with code := v }]

/-- The status of a failed request, from its body or made up from it. -/
def Response.failure (r : Response) : ApiStatus :=
  match ApiStatus.reader.ofText? r.body with
  | some status => status
  | none =>
      { code := r.status, reason := "Failed to parse error data",
        message := Text.quoted r.body }

def Response.isFailure (r : Response) : Bool :=
  400 ≤ r.status && r.status < 600

/-- What a reader makes of a successful response. -/
def Exchange.read (reader : Json.Reader T) (e : Exchange) : Except ClientError T :=
  match e with
  | .error message => .error (.service message)
  | .ok r =>
      if r.isFailure then .error (.api r.failure)
      else match reader.ofText? r.body with
        | some value => .ok value
        | none => .error .malformed

/-!
## Lists
-/

/-- What the metadata of a list tells: the version that the list shows, and a
token for the next page if there is one.  Empty texts count as none. -/
structure ListPosition where
  resourceVersion : Option String := none
  nextPage : Option String := none
deriving DecidableEq

structure ResourceList (T : Type) where
  items : List T
  position : ListPosition

def nonempty (text : Option String) : Option String :=
  text.filter fun s => !s.isEmpty

def ListPosition.reader : Json.Reader ListPosition :=
  Json.Reader.object { }
    [.optional "continue" .string fun v p => { p with nextPage := nonempty v },
      .checked "remainingItemCount" .int64,
      .optional "resourceVersion" .string fun v p => { p with resourceVersion := nonempty v },
      .checked "selfLink" .string]

/-- Items that are null are none.  Members that are not declared are held back,
though nothing is made of them. -/
def ResourceList.reader (r : Json.Reader T) : Json.Reader (ResourceList T) :=
  Json.Reader.openRecord { items := [], position := {} }
    [.defaulted "metadata" ListPosition.reader fun v l => { l with position := v },
      .required "items" (Json.Reader.list r).nullable fun v l => { l with items := v.getD [] }]
    fun _ _ l => l

/-!
## Kinds that are served
-/

/-- The kind of one entry in a list of served resources. -/
def servedKindReader : Json.Reader String :=
  Json.Reader.object ""
    [.checked "categories" (.list .string), .checked "group" .string,
      .optional "kind" .string fun v _ => v.getD "", .checked "name" .string,
      .checked "namespaced" .bool, .checked "shortNames" (.list .string),
      .checked "singularName" .string, .checked "storageVersionHash" .string,
      .checked "verbs" (.list .string), .checked "version" .string]

def servedKindsReader : Json.Reader (List String) :=
  Json.Reader.object []
    [.defaulted "apiVersion" (.constant "v1") fun _ kinds => kinds,
      .checked "groupVersion" .string,
      .defaulted "kind" (.constant "APIResourceList") fun _ kinds => kinds,
      .optional "resources" (.list servedKindReader) fun v _ => v.getD []]

/-- Whether a kind is served.  Any failure means that it is not. -/
def Exchange.serves (kind : String) (e : Exchange) : Bool :=
  match e.read servedKindsReader with
  | .error _ => false
  | .ok kinds => kinds.contains kind

end PodIsolation
