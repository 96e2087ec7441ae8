import PodIsolation.Cluster.Api
import PodIsolation.Watch.Basic

/-!
# Listing and watching

## Sources of notices

A source keeps track of all resources of one kind.  It lists them page by page,
and then watches from the version that the list shows.  Each line of a watch
tells of one change.  When a watch ends, the next one begins at the version
reached; when the server has forgotten that version, or a listing fails, the
source lists again.
-/

namespace PodIsolation

/-- A kind of resource, as it is listed and watched in the whole cluster. -/
structure ResourceKind (T : Type) where
  path : String
  /-- Restricts the resources, if given. -/
  fieldSelector : Option String := none
  reader : Json.Reader T
  metadata : T -> Metadata

def policyKind : ResourceKind Policy where
  path := policiesGroup ++ "/danmnetworkpolicies"
  reader := Policy.reader
  metadata := Policy.metadata

/-- The pods of a node. -/
def podKind (node : String) : ResourceKind Pod where
  path := "/api/v1/pods"
  fieldSelector := some ("spec.nodeName=" ++ node)
  reader := Pod.reader
  metadata := Pod.metadata

/-- A query of named values, each led by an ampersand. -/
def query (params : List (String × String)) : String :=
  "?" ++ String.join (params.map fun (name, value) => "&" ++ name ++ "=" ++ formEncoded value)

namespace ResourceKind

def selection (k : ResourceKind T) : List (String × String) :=
  k.fieldSelector.toList.map fun s => ("fieldSelector", s)

def listUri (k : ResourceKind T) (page : Option String) : String :=
  k.path ++ query
    (k.selection ++ [("limit", "500")] ++ page.toList.map fun token => ("continue", token))

def watchUri (k : ResourceKind T) (version : String) : String :=
  k.path ++ query
    ([("watch", "true"), ("timeoutSeconds", "290")] ++ k.selection ++
      [("allowWatchBookmarks", "true"), ("resourceVersion", version)])

end ResourceKind

/-!
## Lines of a watch
-/

inductive WatchLine (T : Type) where
  | present (resource : T)
  | removed (resource : T)
  | bookmark (version : String)
  | error (status : ApiStatus)

def bookmarkVersionReader : Json.Reader String :=
  Json.Reader.record ""
    [.required "resourceVersion" .string fun v _ => v,
      .defaulted "annotations" Metadata.labelsReader fun _ version => version]

/-- A bookmark before its version and kind have been looked at. -/
structure Bookmark where
  version : String := ""
  others : List (String × Json.Draft) := []

/-- Whether one member of the given name, and only one, is held, and is a text. -/
def Bookmark.hasText (b : Bookmark) (name : String) : Bool :=
  match b.others.filter fun member => member.1 = name with
  | [(_, .string (some _))] => true
  | _ => false

def bookmarkReader : Json.Reader String :=
  (Json.Reader.openRecord { }
      [.required "metadata" bookmarkVersionReader fun v b => { b with version := v }]
      fun name d b => { b with others := (name, d) :: b.others }).filterMap
    fun b : Bookmark =>
      if b.hasText "apiVersion" && b.hasText "kind" then some b.version else none

/-- What a line tells, by its type. -/
inductive LineKind where
  | present
  | removed
  | bookmark
  | error
deriving DecidableEq, Repr

def LineKind.ofName? : String -> Option LineKind
  | "ADDED" => some .present
  | "MODIFIED" => some .present
  | "DELETED" => some .removed
  | "BOOKMARK" => some .bookmark
  | "ERROR" => some .error
  | _ => none

def LineKind.reader : Json.Reader LineKind :=
  Json.Reader.variant LineKind.ofName?

/-- Reads the object of a line of a kind. -/
def LineKind.content (k : LineKind) (r : Json.Reader T) : Json.Reader (WatchLine T) :=
  match k with
  | .present => r.map .present
  | .removed => r.map .removed
  | .bookmark => bookmarkReader.map .bookmark
  | .error => ApiStatus.reader.map .error

/-- How far the members of a line have been read.  An object that comes before
the type is held back. -/
inductive LineProgress (T : Type) where
  | start
  | typed (k : LineKind)
  | holding (d : Json.Draft)
  | complete (line : WatchLine T)

namespace WatchLine

open Json in
/-- Reads the member of a line with its type. -/
def takeType (r : Reader T) (p : Place) (d : Draft) :
    LineProgress T -> Except TextFault (LineProgress T)
  | .start => (LineKind.reader p d).map .typed
  | .holding kept => do
      let k <- LineKind.reader p d
      return .complete (<- k.content r { p with held := true } kept)
  | _ => .error .refused

open Json in
/-- Reads the member of a line with its object. -/
def takeObject (r : Reader T) (p : Place) (d : Draft) :
    LineProgress T -> Except TextFault (LineProgress T)
  | .start => atEnd (d.readFault? p.levels) (.holding d)
  | .typed k => (k.content r p d).map .complete
  | _ => .error .refused

open Json in
/-- The line that has been read. -/
def completed : LineProgress T -> Except TextFault (WatchLine T)
  | .complete line => .ok line
  | _ => .error .refused

open Json in
def readMembers (r : Reader T) (p : Place) (ending : Option TextFault) :
    List (Option String × Draft) -> LineProgress T -> Except TextFault (WatchLine T)
  | [], progress => do completed (<- atEnd ending progress)
  | (none, value) :: _, _ => .error value.mismatch
  | (some name, value) :: rest, progress => do
      let progress <-
        if name = "type" then takeType r p value progress
        else if name = "object" then takeObject r p value progress
        else atEnd value.skipFault? progress
      readMembers r p ending rest progress

open Json in
/-- A line is an object with a type and an object, or the list of the two. -/
def reader (r : Reader T) : Reader (WatchLine T)
  | p, .object members ending => readMembers r p.inner ending members .start
  | p, .list (kind :: content :: rest) ending => do
      let k <- LineKind.reader p.inner kind
      let line <- k.content r p.inner content
      if rest.isEmpty then atEnd ending line else .error .refused
  | p, .list [kind] ending => do
      let _ <- LineKind.reader p.inner kind
      .error (ending.getD .refused)
  | _, .list [] ending => .error (ending.getD .refused)
  | _, d => .error d.mismatch

end WatchLine

/-!
## Steps of a source
-/

/-- What a source does next: list a page, begin a watch at a version, or read
the watch that it has. -/
inductive SourcePhase where
  | listing (page : Option String)
  | opening (version : String)
  | watching (version : String)
deriving DecidableEq

namespace ResourceKind

/-- What follows from the answer to a listing.  The resources of a page are
applied before the next page is asked for. -/
def receiveList (answer : Except ClientError (ResourceList T)) :
    List (Notice T) × SourcePhase :=
  match answer with
  | .error cause => ([.error (.listFailed cause)], .listing none)
  | .ok l =>
      let applied := l.items.map fun r => .ok (.initApply r)
      match l.position.nextPage, l.position.resourceVersion with
      | some token, _ => (applied, .listing (some token))
      | none, some version => (applied ++ [.ok .initDone], .opening version)
      | none, none => ([.error .noResourceVersion], .listing none)

/-- A change counts only with the version that it leads to. -/
def receiveChange (k : ResourceKind T) (resource : T) (event : WatchEvent T) :
    List (Notice T) × SourcePhase :=
  match (k.metadata resource).resourceVersion.filter fun v => !v.isEmpty with
  | some version => ([.ok event], .watching version)
  | none => ([.error .noResourceVersion], .listing none)

/-- What follows from a line of a watch at a version.  A line that ends too early
is passed over.  A line that is no change may be the status of a failure. -/
def receiveLine (k : ResourceKind T) (version : String) (line : String) :
    List (Notice T) × SourcePhase :=
  match (WatchLine.reader k.reader).ofText line with
  | .ok (.present r) => k.receiveChange r (.apply r)
  | .ok (.removed r) => k.receiveChange r (.delete r)
  | .ok (.bookmark reached) => ([], .watching reached)
  | .ok (.error status) =>
      ([.error (.reported status)],
        if status.code = 410 then .listing none else .watching version)
  | .error .cutOff => ([], .watching version)
  | .error .refused =>
      let cause := match ApiStatus.reader.ofText? line with
        | some status => ClientError.api status
        | none => .malformed
      ([.error (.readFailed cause)], .watching version)

end ResourceKind

end PodIsolation
