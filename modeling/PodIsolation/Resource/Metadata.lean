import PodIsolation.Json.Reader
import PodIsolation.Text.Timestamp

/-!
# Metadata of resources

## Object metadata

Every member is optional, and null means that it is not set.  Members that are
not declared are dropped.  Only the members that are set are written.
-/

namespace PodIsolation

/-- A resource that this one depends on. -/
structure OwnerReference where
  apiVersion : String := ""
  blockOwnerDeletion : Option Bool := none
  controller : Option Bool := none
  kind : String := ""
  name : String := ""
  uid : String := ""
deriving DecidableEq, Repr

/-- The members that one manager of a resource has set. -/
structure ManagedFields where
  apiVersion : Option String := none
  fieldsType : Option String := none
  fieldsV1 : Option Json := none
  manager : Option String := none
  operation : Option String := none
  subresource : Option String := none
  time : Option Timestamp := none

structure Metadata where
  annotations : Option Labels := none
  creationTimestamp : Option Timestamp := none
  deletionGracePeriodSeconds : Option Int64 := none
  deletionTimestamp : Option Timestamp := none
  finalizers : Option (List String) := none
  generateName : Option String := none
  generation : Option Int64 := none
  labels : Option Labels := none
  managedFields : Option (List ManagedFields) := none
  name : Option String := none
  ns : Option String := none
  ownerReferences : Option (List OwnerReference) := none
  resourceVersion : Option String := none
  selfLink : Option String := none
  uid : Option String := none
deriving Inhabited

namespace Metadata

/-- The name to show: the given one, or the stem that names are made from. -/
def displayName (m : Metadata) : String :=
  m.name.getD (m.generateName.getD "")

/-!
## Encoding
-/

def encodeLabels (labels : Labels) : Json :=
  .object (labels.entries.map fun entry => (entry.1, .string entry.2))

def encodeInt64 (n : Int64) : Json :=
  .int n.toInt

def encodeOwner (owner : OwnerReference) : Json :=
  .object (
    [("apiVersion", .string owner.apiVersion)] ++
    Json.member? "blockOwnerDeletion" .bool owner.blockOwnerDeletion ++
    Json.member? "controller" .bool owner.controller ++
    [("kind", .string owner.kind), ("name", .string owner.name),
      ("uid", .string owner.uid)])

def encodeTimestamp (t : Timestamp) : Json :=
  .string t.text

def encodeManaged (f : ManagedFields) : Json :=
  .object (
    Json.member? "apiVersion" .string f.apiVersion ++
    Json.member? "fieldsType" .string f.fieldsType ++
    Json.member? "fieldsV1" id f.fieldsV1 ++
    Json.member? "manager" .string f.manager ++
    Json.member? "operation" .string f.operation ++
    Json.member? "subresource" .string f.subresource ++
    Json.member? "time" encodeTimestamp f.time)

def encode (m : Metadata) : Json :=
  .object (
    Json.member? "annotations" encodeLabels m.annotations ++
    Json.member? "creationTimestamp" encodeTimestamp m.creationTimestamp ++
    Json.member? "deletionGracePeriodSeconds" encodeInt64 m.deletionGracePeriodSeconds ++
    Json.member? "deletionTimestamp" encodeTimestamp m.deletionTimestamp ++
    Json.member? "finalizers" Json.strings m.finalizers ++
    Json.member? "generateName" .string m.generateName ++
    Json.member? "generation" encodeInt64 m.generation ++
    Json.member? "labels" encodeLabels m.labels ++
    Json.member? "managedFields" (fun fields => .list (fields.map encodeManaged))
      m.managedFields ++
    Json.member? "name" .string m.name ++
    Json.member? "namespace" .string m.ns ++
    Json.member? "ownerReferences" (fun owners => .list (owners.map encodeOwner))
      m.ownerReferences ++
    Json.member? "resourceVersion" .string m.resourceVersion ++
    Json.member? "selfLink" .string m.selfLink ++
    Json.member? "uid" .string m.uid)

/-!
## Reading

Texts of owner references that are left out or null are empty.
-/

def labelsReader : Json.Reader Labels :=
  Json.Reader.dictionary Json.Reader.string

def timestampReader : Json.Reader Timestamp :=
  Json.Reader.string.filterMap Timestamp.ofText?

def ownerReader : Json.Reader OwnerReference :=
  Json.Reader.object { }
    [.optional "apiVersion" .string fun v o => { o with apiVersion := v.getD "" },
      .optional "blockOwnerDeletion" .bool fun v o => { o with blockOwnerDeletion := v },
      .optional "controller" .bool fun v o => { o with controller := v },
      .optional "kind" .string fun v o => { o with kind := v.getD "" },
      .optional "name" .string fun v o => { o with name := v.getD "" },
      .optional "uid" .string fun v o => { o with uid := v.getD "" }]

def managedReader : Json.Reader ManagedFields :=
  Json.Reader.object { }
    [.optional "apiVersion" .string fun v f => { f with apiVersion := v },
      .optional "fieldsType" .string fun v f => { f with fieldsType := v },
      .optional "fieldsV1" .any fun v f => { f with fieldsV1 := v },
      .optional "manager" .string fun v f => { f with manager := v },
      .optional "operation" .string fun v f => { f with operation := v },
      .optional "subresource" .string fun v f => { f with subresource := v },
      .optional "time" timestampReader fun v f => { f with time := v }]

def reader : Json.Reader Metadata :=
  Json.Reader.object { }
    [.optional "annotations" labelsReader fun v m => { m with annotations := v },
      .optional "creationTimestamp" timestampReader fun v m =>
        { m with creationTimestamp := v },
      .optional "deletionGracePeriodSeconds" .int64 fun v m =>
        { m with deletionGracePeriodSeconds := v },
      .optional "deletionTimestamp" timestampReader fun v m =>
        { m with deletionTimestamp := v },
      .optional "finalizers" (.list .string) fun v m => { m with finalizers := v },
      .optional "generateName" .string fun v m => { m with generateName := v },
      .optional "generation" .int64 fun v m => { m with generation := v },
      .optional "labels" labelsReader fun v m => { m with labels := v },
      .optional "managedFields" (.list managedReader) fun v m => { m with managedFields := v },
      .optional "name" .string fun v m => { m with name := v },
      .optional "namespace" .string fun v m => { m with ns := v },
      .optional "ownerReferences" (.list ownerReader) fun v m =>
        { m with ownerReferences := v },
      .optional "resourceVersion" .string fun v m => { m with resourceVersion := v },
      .optional "selfLink" .string fun v m => { m with selfLink := v },
      .optional "uid" .string fun v m => { m with uid := v }]

end Metadata

end PodIsolation
