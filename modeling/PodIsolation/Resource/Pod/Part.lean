import PodIsolation.Resource.Metadata
import PodIsolation.Resource.Policy

/-!
# Parts of pods

## Members that are only checked

Most of what a pod says does not matter here, but a pod whose members are not of
the right kinds cannot be read.  A part is an object whose members are checked
and then forgotten.  Every member may be left out or null, and members that are
not declared are passed over.
-/

namespace PodIsolation

namespace PodPart

abbrev Member := Json.Field Unit

def reader (members : List Member) : Json.Reader Unit :=
  Json.Reader.object () members

/-- Members that are of one kind. -/
def each (r : Json.Reader T) (names : List String) : List Member :=
  names.map fun name => .checked name r

def texts : List String -> List Member :=
  each .string

def flags : List String -> List Member :=
  each .bool

def int32s : List String -> List Member :=
  each .int32

def int64s : List String -> List Member :=
  each .int64

def textLists : List String -> List Member :=
  each (.list .string)

def textMaps : List String -> List Member :=
  each Metadata.labelsReader

def times : List String -> List Member :=
  each Metadata.timestampReader

/-- A member that is a part itself. -/
def one (name : String) (members : List Member) : Member :=
  .checked name (reader members)

/-- A member that is a list of parts. -/
def many (name : String) (members : List Member) : Member :=
  .checked name (.list (reader members))

/-- A member that is a number or a text. -/
def port (name : String) : Member :=
  .checked name PortSpec.reader

/-!
## Parts that occur in several places
-/

/-- The name of another resource of the namespace. -/
def localReference : List Member :=
  texts ["name"]

def labelSelector : List Member :=
  many "matchExpressions" (texts ["key", "operator"] ++ textLists ["values"]) ::
    textMaps ["matchLabels"]

/-- Amounts of resources are texts. -/
def resources : List Member :=
  many "claims" (texts ["name", "request"]) :: textMaps ["limits", "requests"]

def fieldReference : List Member :=
  texts ["apiVersion", "fieldPath"]

def resourceReference : List Member :=
  texts ["containerName", "divisor", "resource"]

def localProfile : List Member :=
  texts ["localhostProfile", "type"]

def linuxOptions : List Member :=
  texts ["level", "role", "type", "user"]

def windowsOptions : List Member :=
  texts ["gmsaCredentialSpec", "gmsaCredentialSpecName", "runAsUserName"] ++
    flags ["hostProcess"]

end PodPart

end PodIsolation
