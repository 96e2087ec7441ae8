import PodIsolation.Watch.Basic

/-!
# Deliveries of a watch

## What a watch hands on

A watch hands the resources of its stream to its handler, each once and in the
order of the stream, up to the first fatal error.  It ends with that error, or
without one where the stream ends.  Events around a listing and benign errors
leave no trace, wherever they stand.
-/

namespace PodIsolation

/-!
# Benign errors
-/

/-- The version asked for is gone, as the code or the reason says. -/
def ApiStatus.Gone (status : ApiStatus) : Prop :=
  status.code = 410 ∨ status.reason = "Expired" ∨ status.reason = "Gone"

/-- A request was interrupted without harm. -/
inductive ClientError.Interrupted : ClientError -> Prop where
  | gone {status : ApiStatus} : status.Gone -> Interrupted (.api status)
  | ended : Interrupted (.readEvents "UnexpectedEof")

inductive WatchError.Benign : WatchError -> Prop where
  | reported {status : ApiStatus} : status.Gone -> Benign (.reported status)
  | listFailed {cause : ClientError} : cause.Interrupted -> Benign (.listFailed cause)
  | startFailed {cause : ClientError} : cause.Interrupted -> Benign (.startFailed cause)
  | readFailed {cause : ClientError} : cause.Interrupted -> Benign (.readFailed cause)

theorem ApiStatus.isExpired_iff {status : ApiStatus} :
    status.isExpired = true <-> status.Gone := by
  simp [isExpired, Gone, or_assoc]

theorem ClientError.isBenign_iff {cause : ClientError} :
    cause.isBenign = true <-> cause.Interrupted := by
  constructor
  · intro h
    cases cause with
    | api status => exact .gone (ApiStatus.isExpired_iff.mp h)
    | readEvents kind =>
        rw [eq_of_beq h]
        exact .ended
    | malformed | service | other => cases h
  · intro h
    cases h with
    | gone hstatus => exact ApiStatus.isExpired_iff.mpr hstatus
    | ended => rfl

theorem WatchError.isBenign_iff {e : WatchError} : e.isBenign = true <-> e.Benign := by
  constructor
  · intro h
    cases e with
    | reported status => exact .reported (ApiStatus.isExpired_iff.mp h)
    | noResourceVersion => cases h
    | listFailed cause => exact .listFailed (ClientError.isBenign_iff.mp h)
    | startFailed cause => exact .startFailed (ClientError.isBenign_iff.mp h)
    | readFailed cause => exact .readFailed (ClientError.isBenign_iff.mp h)
  · intro h
    cases h with
    | reported hstatus => exact ApiStatus.isExpired_iff.mpr hstatus
    | listFailed hcause | startFailed hcause | readFailed hcause =>
        exact ClientError.isBenign_iff.mpr hcause

/-!
# Streams
-/

/-- What a handler is asked to do for an event. -/
def WatchEvent.delivery? : WatchEvent T -> Option (Delivery T)
  | .init => none
  | .initDone => none
  | .apply resource => some (.apply resource)
  | .initApply resource => some (.apply resource)
  | .delete resource => some (.delete resource)

namespace Notice

/-- What a handler is asked to do for the events of a stream, one after the other. -/
def deliveries (notices : List (Notice T)) : List (Delivery T) :=
  notices.filterMap fun n => n.toOption.bind WatchEvent.delivery?

/-- All errors of the stream are benign. -/
def Harmless (notices : List (Notice T)) : Prop :=
  forall e, .error e ∈ notices -> e.Benign

/-- The notice asks nothing of a handler. -/
inductive Passed : Notice T -> Prop where
  | init : Passed (.ok .init)
  | initDone : Passed (.ok .initDone)
  | error {e : WatchError} : e.Benign -> Passed (.error e)

/-- The second stream is the first one with notices in between that ask nothing of a
handler. -/
inductive Padded : List (Notice T) -> List (Notice T) -> Prop where
  | nil : Padded [] []
  | keep (n : Notice T) {notices padded : List (Notice T)} :
      Padded notices padded -> Padded (n :: notices) (n :: padded)
  | insert {n : Notice T} {notices padded : List (Notice T)} :
      n.Passed -> Padded notices padded -> Padded notices (n :: padded)

variable {n : Notice T} {notices : List (Notice T)}

theorem reaction_ok (event : WatchEvent T) :
    Notice.reaction (.ok event) = event.delivery?.elim .pass .deliver := by
  cases event <;> rfl

theorem Passed.reaction (h : n.Passed) : n.reaction = .pass := by
  cases h with
  | init => rfl
  | initDone => rfl
  | error he => exact if_pos (WatchError.isBenign_iff.mpr he)

theorem reaction_fatal {e : WatchError} (h : ¬ e.Benign) :
    Notice.reaction (T := T) (.error e) = .fail e :=
  if_neg fun hbenign => h (WatchError.isBenign_iff.mp hbenign)

theorem Harmless.tail (h : Harmless (n :: notices)) : Harmless notices :=
  fun e he => h e (List.mem_cons_of_mem n he)

/-- A stream has a first fatal error, or none. -/
theorem harmless_or_exists_fatal (notices : List (Notice T)) :
    Harmless notices ∨ exists before e rest, notices = before ++ .error e :: rest ∧
      Harmless before ∧ ¬ e.Benign := by
  induction notices with
  | nil => exact Or.inl fun _ h => absurd h List.not_mem_nil
  | cons n notices ih =>
      by_cases hn : exists e, n = .error e ∧ ¬ e.Benign
      · rcases hn with ⟨e, rfl, he⟩
        exact Or.inr ⟨[], e, notices, rfl, fun _ h => absurd h List.not_mem_nil, he⟩
      · have hbenign : forall e, .error e = n -> e.Benign :=
          fun e he => Classical.byContradiction fun hnot => hn ⟨e, he.symm, hnot⟩
        rcases ih with hrest | ⟨before, e, rest, rfl, hbefore, he⟩
        · left
          intro e he
          rcases List.mem_cons.mp he with he | he
          · exact hbenign e he
          · exact hrest e he
        · right
          refine ⟨n :: before, e, rest, rfl, ?_, he⟩
          intro e' he'
          rcases List.mem_cons.mp he' with he' | he'
          · exact hbenign e' he'
          · exact hbefore e' he'

end Notice

/-!
# Runs of a watch
-/

section Watch

variable {S : Type} {handle : S -> Delivery T -> S} {s : S} {notices before : List (Notice T)}

theorem watch_passed {n : Notice T} (h : n.reaction = .pass) :
    watch handle s (n :: notices) = watch handle s notices := by
  simp only [watch, h]

theorem watch_fatal {e : WatchError} (h : ¬ e.Benign) :
    watch handle s (.error e :: notices) = { state := s, error := some e, left := notices } := by
  simp only [watch, Notice.reaction_fatal h]

/-- A watch goes on behind what is harmless, with all that was delivered handled. -/
theorem watch_append (h : Notice.Harmless before) (rest : List (Notice T)) :
    watch handle s (before ++ rest) =
      watch handle ((Notice.deliveries before).foldl handle s) rest := by
  induction before generalizing s with
  | nil => rfl
  | cons n before ih =>
      rw [List.cons_append]
      cases n with
      | error e =>
          have hpassed : Notice.Passed (T := T) (.error e) := .error (h e List.mem_cons_self)
          rw [watch_passed hpassed.reaction, ih h.tail]
          rfl
      | ok event =>
          simp only [watch, Notice.reaction_ok]
          cases hdelivery : event.delivery? with
          | none =>
              have hnone : Notice.deliveries (.ok event :: before) = Notice.deliveries before := by
                simp [Notice.deliveries, Except.toOption, hdelivery]
              rw [hnone]
              exact ih h.tail
          | some d =>
              have hsome : Notice.deliveries (.ok event :: before) =
                  d :: Notice.deliveries before := by
                simp [Notice.deliveries, Except.toOption, hdelivery]
              rw [hsome]
              exact ih h.tail

theorem watch_harmless (h : Notice.Harmless notices) :
    watch handle s notices =
      { state := (Notice.deliveries notices).foldl handle s, error := none, left := [] } := by
  have happend : watch handle s (notices ++ []) =
      watch handle ((Notice.deliveries notices).foldl handle s) [] := watch_append h []
  rw [List.append_nil] at happend
  rw [happend]
  rfl

theorem watch_padded {padded : List (Notice T)} (h : Notice.Padded notices padded) :
    (watch handle s padded).state = (watch handle s notices).state ∧
      (watch handle s padded).error = (watch handle s notices).error := by
  induction h generalizing s with
  | nil => exact ⟨rfl, rfl⟩
  | keep n _ ih =>
      simp only [watch]
      cases n.reaction with
      | deliver d => exact ih
      | pass => exact ih
      | fail e => exact ⟨rfl, rfl⟩
  | insert hn _ ih =>
      rw [watch_passed hn.reaction]
      exact ih

end Watch

/-- A watch hands on what a stream delivers before its first fatal error, in order,
and ends with this error; what follows it stays in the stream.  Without a fatal
error all is delivered, and the watch ends where the stream does.  What a watch has
handed on while its stream goes on is what the stream has delivered by then.
Notices that ask nothing of a handler can come and go anywhere. -/
theorem watch_delivers {S T : Type} (handle : S -> Delivery T -> S) (s : S)
    (notices : List (Notice T)) :
    (forall before e rest, notices = before ++ .error e :: rest -> Notice.Harmless before ->
      ¬ e.Benign -> watch handle s notices =
        { state := (Notice.deliveries before).foldl handle s, error := some e, left := rest }) ∧
    (Notice.Harmless notices -> watch handle s notices =
      { state := (Notice.deliveries notices).foldl handle s, error := none, left := [] }) ∧
    (forall e, (watch handle s notices).error = some e <->
      exists before rest, notices = before ++ .error e :: rest ∧ Notice.Harmless before ∧
        ¬ e.Benign) ∧
    ((watch handle s notices).error = none <-> Notice.Harmless notices) ∧
    (forall before rest, notices = before ++ rest -> Notice.Harmless before ->
      watch handle s notices =
        watch handle ((Notice.deliveries before).foldl handle s) rest) ∧
    (forall padded, Notice.Padded notices padded ->
      (watch handle s padded).state = (watch handle s notices).state ∧
      (watch handle s padded).error = (watch handle s notices).error) := by
  have hfatal : forall before e rest, notices = before ++ .error e :: rest ->
      Notice.Harmless before -> ¬ e.Benign -> watch handle s notices =
        { state := (Notice.deliveries before).foldl handle s, error := some e, left := rest } := by
    rintro before e rest rfl hbefore he
    rw [watch_append hbefore, watch_fatal he]
  refine ⟨hfatal, watch_harmless, ?_, ?_, ?_, fun _ => watch_padded⟩
  · intro e
    constructor
    · intro herror
      rcases Notice.harmless_or_exists_fatal notices with h | ⟨before, e', rest, hsplit, h, he'⟩
      · rw [watch_harmless h] at herror
        cases herror
      · rw [hfatal before e' rest hsplit h he'] at herror
        cases herror
        exact ⟨before, rest, hsplit, h, he'⟩
    · rintro ⟨before, rest, hsplit, h, he⟩
      rw [hfatal before e rest hsplit h he]
  · constructor
    · intro herror
      rcases Notice.harmless_or_exists_fatal notices with h | ⟨before, e, rest, hsplit, h, he⟩
      · exact h
      · rw [hfatal before e rest hsplit h he] at herror
        cases herror
    · intro h
      rw [watch_harmless h]
  · rintro before rest rfl hbefore
    exact watch_append hbefore rest

/-- A watch goes on where the connection breaks off, until the server denies it. -/
theorem watch_delivers_across_interruption :
    let before : List (Notice String) :=
      [.ok .init, .ok (.initApply "a"), .ok .initDone,
        .error (.readFailed (.readEvents "UnexpectedEof")), .ok (.apply "b"), .ok (.delete "a")]
    let denied : WatchError := .reported { code := 403, reason := "Forbidden" }
    let record : List (Delivery String) -> Delivery String -> List (Delivery String) :=
      fun handled d => handled ++ [d]
    Notice.Harmless before ∧ ¬ denied.Benign ∧
      watch record [] (before ++ [.error denied, .ok (.apply "c")]) =
        { state := [.apply "a", .apply "b", .delete "a"], error := some denied,
          left := [.ok (.apply "c")] } := by
  intro before denied record
  have hbefore : Notice.Harmless before := by
    intro e he
    have hread : e = .readFailed (.readEvents "UnexpectedEof") := by simpa [before] using he
    rw [hread]
    exact .readFailed .ended
  have hdenied : ¬ denied.Benign := by
    rw [← WatchError.isBenign_iff]
    decide
  exact ⟨hbefore, hdenied,
    (watch_delivers record [] _).left before denied [.ok (.apply "c")] rfl hbefore hdenied⟩

end PodIsolation
