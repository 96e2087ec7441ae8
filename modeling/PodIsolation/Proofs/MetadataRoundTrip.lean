import PodIsolation.Proofs.ObjectReading
import PodIsolation.Proofs.TimestampText
import PodIsolation.Proofs.WholeDocuments
import PodIsolation.Resource.Metadata

/-!
# Metadata and its documents

## Metadata that is read back

Only the raw documents that managers of fields have left can stand in the way: a
null, a document that repeats a name, or one that is too deep is not read back.
Metadata that has been read holds none of these.
-/

namespace PodIsolation

open Json Json.Reader Json.Record

/-!
# Parts of metadata
-/

theorem readsBack_int64 (n : Int64) (p : Place) : int64.ReadsBack p Metadata.encodeInt64 n := by
  have hlow : Int64.minValue.toInt ≤ n.toInt := n.le_toInt
  have hhigh : n.toInt ≤ Int64.maxValue.toInt := n.toInt_le
  unfold ReadsBack int64 Metadata.encodeInt64
  rw [Draft.ofJson, Reader.int, if_pos ⟨hlow, hhigh⟩]
  exact congrArg Except.ok (Int64.ofInt_toInt n)

theorem readsBack_timestamp (t : Timestamp) (p : Place) :
    Metadata.timestampReader.ReadsBack p Metadata.encodeTimestamp t := by
  unfold ReadsBack Metadata.timestampReader Metadata.encodeTimestamp filterMap
  simp only [Draft.ofJson, Reader.string, Timestamp.ofText?_text]

theorem readsBack_labels (labels : Labels) (p : Place) :
    Metadata.labelsReader.ReadsBack p Metadata.encodeLabels labels :=
  ReadsBack.dictionary fun entry _ => readsBack_string entry.2

theorem readsBack_bool (b : Bool) (p : Place) : Reader.bool.ReadsBack p .bool b :=
  rfl

theorem OwnerReference.readsBack (owner : OwnerReference) (p : Place) :
    Metadata.ownerReader.ReadsBack p Metadata.encodeOwner owner := by
  refine object_readsBack rfl rfl ?_
  refine Takes.append
    (?_ : Takes _ _ _ _ { owner with kind := "", name := "", uid := "" }) ?_
  · refine Takes.member? rfl ?_ (fun _ _ => Json.noConfusion)
      (fun b _ => readsBack_bool b _) rfl rfl
    refine Takes.member? rfl ?_ (fun _ _ => Json.noConfusion)
      (fun b _ => readsBack_bool b _) rfl rfl
    exact Takes.given rfl Json.noConfusion (readsBack_string _) (Takes.nil _)
  · refine Takes.given rfl Json.noConfusion (readsBack_string _) ?_
    refine Takes.given rfl Json.noConfusion (readsBack_string _) ?_
    refine Takes.given rfl Json.noConfusion (readsBack_string _) ?_
    exact Takes.nil _

/-- The raw document of a manager can be read back. -/
def ManagedFields.IsPlain (levels : Nat) (f : ManagedFields) : Prop :=
  forall j, f.fieldsV1 = some j -> j ≠ .null ∧ j.Fits levels

theorem ManagedFields.IsPlain.readsBack {f : ManagedFields} {p : Place}
    (h : f.IsPlain p.inner.levels) :
    Metadata.managedReader.ReadsBack p Metadata.encodeManaged f := by
  refine object_readsBack rfl rfl ?_
  refine Takes.member? rfl ?_ (fun _ _ => Json.noConfusion)
    (fun t _ => readsBack_timestamp t _) rfl rfl
  refine Takes.member? rfl ?_ (fun _ _ => Json.noConfusion)
    (fun text _ => readsBack_string text) rfl rfl
  refine Takes.member? rfl ?_ (fun _ _ => Json.noConfusion)
    (fun text _ => readsBack_string text) rfl rfl
  refine Takes.member? rfl ?_ (fun _ _ => Json.noConfusion)
    (fun text _ => readsBack_string text) rfl rfl
  refine Takes.member? rfl ?_ (fun j hj => (h j hj).left) (fun j hj => any_ofJson (h j hj).right)
    rfl rfl
  refine Takes.member? rfl ?_ (fun _ _ => Json.noConfusion)
    (fun text _ => readsBack_string text) rfl rfl
  refine Takes.first (Takes.member? rfl ?_ (fun _ _ => Json.noConfusion)
    (fun text _ => readsBack_string text) rfl rfl)
  exact Takes.nil _

/-!
# Whole metadata
-/

namespace Metadata

/-- The raw documents of all managers can be read back. -/
def IsPlain (levels : Nat) (m : Metadata) : Prop :=
  forall managers, m.managedFields = some managers ->
    forall f, f ∈ managers -> f.IsPlain levels

theorem readsBack {m : Metadata} {p : Place} (h : m.IsPlain p.inner.inner.inner.levels) :
    reader.ReadsBack p encode m := by
  have htext : forall {v : Option String} text, v = some text ->
      Reader.string.ReadsBack p.inner .string text := fun text _ => readsBack_string text
  have htime : forall {v : Option Timestamp} t, v = some t ->
      timestampReader.ReadsBack p.inner encodeTimestamp t := fun t _ => readsBack_timestamp t _
  have hnumber : forall {v : Option Int64} n, v = some n ->
      int64.ReadsBack p.inner encodeInt64 n := fun n _ => readsBack_int64 n _
  have hlabels : forall {v : Option Labels} labels, v = some labels ->
      labelsReader.ReadsBack p.inner encodeLabels labels :=
    fun labels _ => readsBack_labels labels _
  refine object_readsBack rfl rfl ?_
  refine Takes.member? rfl ?_ (fun _ _ => Json.noConfusion) htext rfl rfl
  refine Takes.member? rfl ?_ (fun _ _ => Json.noConfusion) htext rfl rfl
  refine Takes.member? rfl ?_ (fun _ _ => Json.noConfusion) htext rfl rfl
  refine Takes.member? rfl ?_ (fun _ _ => Json.noConfusion)
    (fun _ _ => .list fun owner _ => owner.readsBack _) rfl rfl
  refine Takes.member? rfl ?_ (fun _ _ => Json.noConfusion) htext rfl rfl
  refine Takes.member? rfl ?_ (fun _ _ => Json.noConfusion) htext rfl rfl
  refine Takes.member? rfl ?_ (fun _ _ => Json.noConfusion)
    (fun managers hmanagers => .list fun f hf => (h managers hmanagers f hf).readsBack) rfl rfl
  refine Takes.member? rfl ?_ (fun _ _ => Json.noConfusion) hlabels rfl rfl
  refine Takes.member? rfl ?_ (fun _ _ => Json.noConfusion) hnumber rfl rfl
  refine Takes.member? rfl ?_ (fun _ _ => Json.noConfusion) htext rfl rfl
  refine Takes.member? rfl ?_ (fun _ _ => Json.noConfusion)
    (fun _ _ => .list fun text _ => readsBack_string text) rfl rfl
  refine Takes.member? rfl ?_ (fun _ _ => Json.noConfusion) htime rfl rfl
  refine Takes.member? rfl ?_ (fun _ _ => Json.noConfusion) hnumber rfl rfl
  refine Takes.member? rfl ?_ (fun _ _ => Json.noConfusion) htime rfl rfl
  refine Takes.first (Takes.member? rfl ?_ (fun _ _ => Json.noConfusion) hlabels rfl rfl)
  exact Takes.nil _

/-!
# Metadata that has been read
-/

theorem isPlain_of_managedReader {f : ManagedFields} {p : Place} {d : Draft}
    (hheld : p.held = false) (h : managedReader p d = .ok f) : f.IsPlain p.inner.levels := by
  have hempty : ({} : ManagedFields).IsPlain p.inner.levels := by
    intro j hj
    cases hj
  have hpart : forall s s' : ManagedFields, s'.fieldsV1 = s.fieldsV1 ->
      s.IsPlain p.inner.levels -> s'.IsPlain p.inner.levels := by
    intro s s' heq hs j hj
    exact hs j (heq ▸ hj)
  have hinner : p.inner.held = false := hheld
  refine object_keeps hempty ?_ h
  simp only [List.forall_mem_cons]
  refine ⟨Field.optional_keeps_of_eq hpart fun _ _ => rfl,
    Field.optional_keeps_of_eq hpart fun _ _ => rfl, ?_,
    Field.optional_keeps_of_eq hpart fun _ _ => rfl,
    Field.optional_keeps_of_eq hpart fun _ _ => rfl,
    Field.optional_keeps_of_eq hpart fun _ _ => rfl,
    Field.optional_keeps_of_eq hpart fun _ _ => rfl, fun _ h => nomatch h⟩
  apply Field.optional_keeps
  intro d v s hv _ j hj
  cases hj
  rcases nullable_eq_some hv with ⟨hd, hread⟩
  rcases any_eq_ok hinner hread with ⟨hfault, rfl⟩
  exact ⟨Draft.toJson_ne_null hd hfault, Draft.fits_toJson _ d hfault⟩

theorem isPlain_of_reader {m : Metadata} {p : Place} {d : Draft} (hheld : p.held = false)
    (h : reader p d = .ok m) : m.IsPlain p.inner.inner.inner.levels := by
  have hempty : ({} : Metadata).IsPlain p.inner.inner.inner.levels := by
    intro managers hmanagers
    cases hmanagers
  have hpart : forall s s' : Metadata, s'.managedFields = s.managedFields ->
      s.IsPlain p.inner.inner.inner.levels -> s'.IsPlain p.inner.inner.inner.levels := by
    intro s s' heq hs managers hmanagers
    exact hs managers (heq ▸ hmanagers)
  have hinner : p.inner.inner.held = false := hheld
  have hkept : forall {name : String} {U : Type} {r : Reader U}
      {set : Option U -> Metadata -> Metadata},
      (forall v s, (set v s).managedFields = s.managedFields) ->
        (Field.optional name r set).Keeps (IsPlain p.inner.inner.inner.levels) p.inner :=
    Field.optional_keeps_of_eq hpart
  refine object_keeps hempty ?_ h
  simp only [List.forall_mem_cons]
  refine ⟨hkept fun _ _ => rfl, hkept fun _ _ => rfl, hkept fun _ _ => rfl,
    hkept fun _ _ => rfl, hkept fun _ _ => rfl, hkept fun _ _ => rfl, hkept fun _ _ => rfl,
    hkept fun _ _ => rfl, ?_, hkept fun _ _ => rfl, hkept fun _ _ => rfl,
    hkept fun _ _ => rfl, hkept fun _ _ => rfl, hkept fun _ _ => rfl, hkept fun _ _ => rfl,
    fun _ h => nomatch h⟩
  apply Field.optional_keeps
  intro d v s hv _ managers hmanagers
  cases hmanagers
  rcases nullable_eq_some hv with ⟨-, hread⟩
  exact list_keeps (fun d f hf => isPlain_of_managedReader hinner hf) hread

end Metadata

end PodIsolation
