import AiopsSystem.Credential.DurableBroker

/-! # A prepared handle is spent once

Which calls each part of the broker can make, how an issuance that fails after
the accessor was anchored ends, and what the calls on the copies of one handle
amount to: at most one of them consumes it, and every other one asks nobody but
its context and the issuer's names.
-/

namespace AiopsSystem.Credential.DurableBroker

open Go Stage List
open Program hiding only_bind

section Kinds

def Request.bounds : Request → Bool
  | .timeNow | .timeoutSource _ | .finalizeContextSource _ | .candidateDeadline | .candidateDone | .candidateErr => true
  | _ => false

def Request.inspects : Request → Bool
  | .contextErr | .issuerID _ | .issuerRevision _ => true
  | _ => false

def Request.concludes : Request → Bool
  | .contextErr | .clock | .inspectChild _ _ _ | .issueDynamic _ _ _ | .activate _ | .requestRevocation _ => true
  | request => request.bounds

def Request.authorizes : Request → Bool
  | .authorizeChildCreate _ => true
  | _ => false

def Request.creates : Request → Bool
  | .createChild _ _ => true
  | _ => false

def Request.anchors : Request → Bool
  | .recordAnchor _ => true
  | _ => false

structure Quiet (kind : Request → Bool) : Prop where
  authorizes : ∀ request, kind request = true → request.authorizes = false
  creates : ∀ request, kind request = true → request.creates = false
  anchors : ∀ request, kind request = true → request.anchors = false

theorem bounds_quiet : Quiet Request.bounds := by
  constructor <;> intro request h <;> cases request <;> first | rfl | cases h

theorem inspects_quiet : Quiet Request.inspects := by
  constructor <;> intro request h <;> cases request <;> first | rfl | cases h

theorem concludes_quiet : Quiet Request.concludes := by
  constructor <;> intro request h <;> cases request <;> first | rfl | cases h

abbrev Calls (kind : Request → Bool) {α : Type} (program : Prog α) : Prop :=
  Only (fun request : Request => kind request = true) program

theorem calls_bounds_concludes {α : Type} {program : Prog α} (h : Calls Request.bounds program) :
    Calls Request.concludes program :=
  Only.mono h (fun request hRequest => by cases request <;> first | rfl | cases hRequest)

end Kinds

section Contexts

structure Context.Bounding (context : Context) : Prop where
  deadline : Calls Request.bounds context.deadline
  done : Calls Request.bounds context.done
  err : Calls Request.bounds context.err

theorem injectedContext_bounding : injectedContext.Bounding where
  deadline := (only_perform _).mpr rfl
  done := (only_perform _).mpr rfl
  err := (only_perform _).mpr rfl

theorem timedContext_bounding (deadline : Int) : (timedContext deadline).Bounding where
  deadline := trivial
  done := trivial
  err := Program.only_bind ((only_perform _).mpr rfl) (fun _ => trivial)

variable {trace : List BrokerEvent}

variable {parent : Context} {revocationID : GoString}

theorem Context.Bounding.withDeadline (h : parent.Bounding) {deadline : Int} {bounded : Context}
    (hRuns : Runs (parent.withDeadline deadline) trace bounded) :
    bounded.Bounding := by
  obtain ⟨_, _, _, rfl, _, hRest⟩ := runs_bind.mp hRuns
  split at hRest
  · obtain ⟨_, rfl⟩ := hRest
    exact ⟨h.deadline, trivial, h.err⟩
  · obtain ⟨_, rfl⟩ := hRest
    refine ⟨trivial, trivial, Program.only_bind h.err ?_⟩
    rintro (_ | _)
    · exact (timedContext_bounding deadline).err
    · trivial

theorem calls_withDeadline (h : parent.Bounding) (deadline : Int) :
    Calls Request.bounds (parent.withDeadline deadline) := by
  refine Program.only_bind h.deadline fun _ => ?_
  split <;> trivial

theorem calls_present {α : Type} {program : Prog (Option α)} (h : Calls Request.bounds program) :
    Calls Request.bounds (present program).run :=
  Program.only_bind h (fun _ => trivial)

theorem runs_present {α : Type} {program : Prog (Option α)} {value : α} :
    Runs (present program).run trace (.ok value) ↔ Runs program trace (some value) := by
  change Runs (program >>= fun value => pure (orFail value ())) trace (.ok value) ↔ _
  rw [runs_bind]
  constructor
  · rintro ⟨_, _, _, rfl, hFirst, rfl, hFound⟩
    rw [orFail_eq_ok.mp hFound.symm] at hFirst
    rwa [append_nil]
  · intro h
    exact ⟨some value, trace, [], (append_nil trace).symm, h, rfl, rfl⟩

theorem calls_boundCandidate {candidate : Context} (h : candidate.Bounding) (startedAt maximum : Int) :
    Calls Request.bounds (boundCandidate startedAt candidate maximum).run := by
  have hNow : Calls Request.bounds (liftM (ask .timeNow) : Stage dependencies Unit Int).run :=
    only_lift ((only_perform _).mpr rfl)
  refine only_bind hNow fun _ => ?_
  refine only_bind (calls_present h.deadline) fun deadline => ?_
  refine only_bind (only_lift h.done) fun done => ?_
  refine only_bind (only_check trivial) fun _ => ?_
  refine only_bind (only_lift h.err) fun _ => ?_
  refine only_bind (only_check trivial) fun _ => ?_
  refine Stage.only_bind_of_runs (only_lift (calls_withDeadline h _)) fun _ _ hBounded => ?_
  have hBounding := h.withDeadline (runs_ok_lift.mp hBounded)
  refine only_bind (calls_present hBounding.deadline) fun _ => ?_
  refine only_bind (only_lift hBounding.done) fun _ => ?_
  refine only_bind (only_check trivial) fun _ => ?_
  refine only_bind (only_lift hBounding.err) fun _ => ?_
  refine only_bind (only_check trivial) fun _ => ?_
  exact only_bind hNow fun _ => only_check trivial

structure Bounding (source : BoundedContextSource) : Prop where
  calls : ∀ maximum, Calls Request.bounds (source maximum)
  context : ∀ maximum trace context, Runs (source maximum) trace (some context) → context.Bounding

theorem injected_bounding {request : Int → Request} (hRequest : ∀ maximum, (request maximum).bounds)
    {next : ∀ maximum, Response (request maximum) → Prog (Option Context)}
    (hNext : ∀ maximum response, ∃ returned, next maximum response = injected returned) :
    Bounding (fun maximum => call (request maximum) (next maximum)) := by
  constructor
  · intro maximum
    refine ⟨hRequest maximum, fun response => ?_⟩
    obtain ⟨returned, hReturned⟩ := hNext maximum response
    rw [hReturned]
    trivial
  · rintro maximum _ _ ⟨response, _, rfl, hRest⟩
    obtain ⟨returned, hReturned⟩ := hNext maximum response
    rw [hReturned] at hRest
    obtain ⟨_, hContext⟩ := hRest
    cases returned with
    | false => cases hContext
    | true =>
      cases hContext
      exact injectedContext_bounding

theorem timeoutSource_bounding : Bounding timeoutSource :=
  injected_bounding (fun _ => rfl) (fun _ response => ⟨response, rfl⟩)

theorem finalizeContextSource_bounding : Bounding finalizeContextSource :=
  injected_bounding (fun _ => rfl) (fun _ response => ⟨response, rfl⟩)

theorem withTimeout_bounding : Bounding withTimeout := by
  constructor
  · intro maximum
    exact Program.only_bind ((only_perform _).mpr rfl) fun _ => trivial
  · rintro maximum _ _ ⟨_, _, rfl, _, hContext⟩
    cases hContext
    exact timedContext_bounding _

theorem Bounding.newBoundedContext {source : BoundedContextSource} (h : Bounding source) (maximum : Int) :
    Calls Request.bounds (valid (newBoundedContext source maximum)) := by
  refine Program.only_bind ?_ fun _ => trivial
  refine only_bind (only_check trivial) fun _ => ?_
  refine only_bind (only_lift ((only_perform _).mpr rfl)) fun startedAt => ?_
  refine Stage.only_bind_of_runs (calls_present (h.calls maximum)) fun trace candidate hCandidate => ?_
  exact calls_boundCandidate (h.context maximum trace candidate (runs_present.mp hCandidate)) startedAt maximum

theorem calls_newFinalizeContext : Calls Request.bounds newFinalizeContext := by
  refine Program.only_bind (finalizeContextSource_bounding.newBoundedContext _) ?_
  rintro (_ | _)
  · exact withTimeout_bounding.newBoundedContext _
  · trivial

/-- Readings of the monotonic clock that never go back and lie less than the bound apart. -/
def Timely (readings : List Int) : Prop :=
  readings.Pairwise (fun earlier later => earlier ≤ later ∧ later < earlier + postDispatchPersistenceTimeout)

def timeReading (now : Int) : BrokerEvent := ⟨.timeNow, now⟩

theorem boundCandidate_refused {startedAt createdAt : Int}
    (h : Runs (boundCandidate startedAt (timedContext (createdAt + postDispatchPersistenceTimeout))
      postDispatchPersistenceTimeout).run trace (.error ())) :
    ∃ readings : List Int, trace = readings.map timeReading ∧ ¬ Timely (startedAt :: createdAt :: readings) := by
  obtain ⟨(observedAt : Int), _, rfl, (checkedAt : Int), _, rfl, hChecked⟩ := h
  obtain hRefused | ⟨_, _, rest, rfl, hOpen, hRest⟩ := runs_error_bind.mp hChecked
  · obtain ⟨hClosed, hTrace, _⟩ := runs_error_check.mp hRefused
    refine ⟨[observedAt, checkedAt], by rw [hTrace]; rfl, fun hTimely => hClosed ?_⟩
    simp only [Timely, pairwise_cons, mem_cons, forall_eq_or_imp] at hTimely
    exact ⟨decide_eq_false (by omega), rfl, (by omega : observedAt < createdAt + _),
      (by omega : createdAt + _ - observedAt ≤ _)⟩
  obtain ⟨hNone, _⟩ := runs_ok_check.mp hOpen
  obtain ⟨bounded, made, last, rfl, hMade, hLast⟩ := (runs_error_bind.mp hRest).resolve_left not_runs_error_lift
  obtain ⟨current, _, made, rfl, ⟨rfl, rfl⟩, hMade⟩ := runs_bind.mp (runs_ok_lift.mp hMade)
  split at hMade
  · rename_i hEarlier
    obtain ⟨rfl, rfl⟩ := hMade
    obtain ⟨(readAt : Int), _, rfl, hLast⟩ := hLast
    have hOver : ∀ readings, ¬ Timely (startedAt :: createdAt :: readings) := by
      intro readings hTimely
      have hOrder := (rel_of_pairwise_cons hTimely mem_cons_self).1
      have hBefore : createdAt + postDispatchPersistenceTimeout < startedAt + postDispatchPersistenceTimeout :=
        of_decide_eq_true hEarlier
      omega
    obtain hRefused | ⟨_, _, _, rfl, hPassed, (now : Int), _, rfl, hEnd⟩ := runs_error_bind.mp hLast
    · obtain ⟨_, hTrace, _⟩ := runs_error_check.mp hRefused
      exact ⟨[observedAt, checkedAt, readAt], by rw [hNone, hTrace]; rfl, hOver _⟩
    · obtain ⟨_, hTrace, _⟩ := runs_error_check.mp hEnd
      exact ⟨[observedAt, checkedAt, readAt, now], by rw [hNone, (runs_ok_check.mp hPassed).1, hTrace]; rfl, hOver _⟩
  · obtain ⟨rfl, rfl⟩ := hMade
    obtain ⟨(readAt : Int), last, rfl, hRead⟩ := hLast
    change Runs (Program.bind (Program.bind (ite (decide (createdAt + postDispatchPersistenceTimeout ≤ readAt) = true)
      (pure true) (timedContext (startedAt + postDispatchPersistenceTimeout)).err) _) _) last (Except.error ()) at hRead
    split at hRead
    · rename_i hEnded
      have hEnded := of_decide_eq_true hEnded
      obtain hRefused | ⟨_, _, _, rfl, hPassed, hEnd⟩ := runs_error_bind.mp hRead
      · obtain ⟨_, hTrace, _⟩ := runs_error_check.mp hRefused
        refine ⟨[observedAt, checkedAt, readAt], by rw [hNone, hTrace]; rfl, fun hTimely => ?_⟩
        simp only [Timely, pairwise_cons, mem_cons, forall_eq_or_imp] at hTimely
        omega
      · exact absurd (runs_ok_check.mp hPassed).2.1 (by decide)
    · obtain ⟨(secondAt : Int), last, rfl, hSecond⟩ := hRead
      obtain hRefused | ⟨_, _, _, rfl, hPassed, (now : Int), _, rfl, hEnd⟩ := runs_error_bind.mp hSecond
      · obtain ⟨hClosed, hTrace, _⟩ := runs_error_check.mp hRefused
        refine ⟨[observedAt, checkedAt, readAt, secondAt], by rw [hNone, hTrace]; rfl, fun hTimely => hClosed ?_⟩
        simp only [Timely, pairwise_cons, mem_cons, forall_eq_or_imp] at hTimely
        exact ⟨decide_eq_false (by omega), rfl⟩
      · obtain ⟨hClosed, hTrace, _⟩ := runs_error_check.mp hEnd
        refine ⟨[observedAt, checkedAt, readAt, secondAt, now], ?_, fun hTimely => hClosed ?_⟩
        · rw [hNone, (runs_ok_check.mp hPassed).1, hTrace]
          rfl
        · simp only [Timely, pairwise_cons, mem_cons, forall_eq_or_imp] at hTimely
          exact ⟨(by omega : now < startedAt + _), le_rfl⟩
/-- The fallback context is refused only when its bound is over before it is built. -/
theorem fallbackContext_refused (h : Runs fallbackContext trace false) :
    ∃ readings : List Int, trace = readings.map timeReading ∧ ¬ Timely readings := by
  obtain ⟨outcome, _, _, rfl, hFirst, rfl, hOutcome⟩ := runs_bind.mp h
  cases outcome with
  | ok => cases hOutcome
  | error =>
    obtain ⟨(startedAt : Int), _, rfl, (createdAt : Int), _, rfl, hRest⟩ := hFirst
    obtain ⟨readings, rfl, hOver⟩ := boundCandidate_refused hRest
    exact ⟨startedAt :: createdAt :: readings, append_nil _, hOver⟩

/-- The events after an anchor end in the request of the revocation, or in a fallback context that came too late. -/
def Compensated (revocationID : GoString) (trace : List BrokerEvent) : Prop :=
  (∃ event ∈ trace, event.request = .requestRevocation { revocationID := revocationID, fence := noFence }) ∨
    ∃ before readings, trace = before ++ readings.map timeReading ∧ ¬ Timely readings

theorem Compensated.append (first : List BrokerEvent) {rest : List BrokerEvent}
    (h : Compensated revocationID rest) : Compensated revocationID (first ++ rest) := by
  rcases h with ⟨event, hEvent, hRequest⟩ | ⟨before, readings, rfl, hOver⟩
  · exact .inl ⟨event, mem_append_right first hEvent, hRequest⟩
  · exact .inr ⟨first ++ before, readings, (append_assoc ..).symm, hOver⟩

theorem abandon_compensated {operation : String}
    {outcome : BrokerError} (h : Runs (abandon revocationID operation) trace outcome) :
    Compensated revocationID trace := by
  obtain ⟨_, first, _, rfl, hIntent, rfl, _⟩ := runs_bind.mp h
  rw [append_nil]
  obtain ⟨finalize, before, rest, rfl, hFinalize, hRequest⟩ := runs_bind.mp hIntent
  cases finalize with
  | true =>
    obtain ⟨_, _, rfl, _⟩ := hRequest
    exact .inl ⟨_, mem_append_right before mem_cons_self, rfl⟩
  | false =>
    obtain ⟨rfl, _⟩ := hRequest
    obtain ⟨preflighted, first, rest, rfl, _, hRest⟩ := runs_bind.mp hFinalize
    cases preflighted with
    | true => cases hRest.2
    | false =>
      obtain ⟨readings, rfl, hOver⟩ := fallbackContext_refused hRest
      exact .inr ⟨first, readings, append_nil _, hOver⟩

end Contexts

section Issue

variable {prepared : ConsumedPreparedCredential} {dispatched : Dispatched}

/-- Once the accessor is anchored every way out but the credential asks for the revocation. -/
theorem activateChild_leaves (answer : Except Unit Revocation) :
    Leaves (fun trace _ => Compensated prepared.revocationID trace) (activateChild prepared dispatched answer) := by
  have hLater : ∀ (first rest : List BrokerEvent) (_ : BrokerError), Compensated prepared.revocationID rest →
      Compensated prepared.revocationID (first ++ rest) := fun first _ _ => Compensated.append first
  have hAbandon : ∀ operation trace outcome, Runs (abandon prepared.revocationID operation) trace outcome →
      Compensated prepared.revocationID trace := fun _ _ _ => abandon_compensated
  have hCanceled : ∀ operation, Leaves (fun trace _ => Compensated prepared.revocationID trace)
      (notCanceled prepared.revocationID operation) := fun operation =>
    leaves_bind hLater leaves_lift (fun _ => leaves_check (hAbandon operation))
  refine leaves_bind hLater (leaves_attemptOr hLater (fun _ => hAbandon _)) fun _ => ?_
  refine leaves_bind hLater (leaves_check (hAbandon _)) fun _ => ?_
  refine leaves_bind hLater (hCanceled _) fun _ => ?_
  refine leaves_bind hLater (leaves_check (hAbandon _)) fun _ => ?_
  refine leaves_bind hLater (leaves_attemptOr hLater (fun _ => hAbandon _)) fun _ => ?_
  refine leaves_bind hLater (hCanceled _) fun _ => ?_
  refine leaves_bind hLater leaves_lift fun _ => ?_
  refine leaves_bind hLater ?_ fun _ => ?_
  · refine leaves_bind hLater (leaves_check (hAbandon _)) fun _ => ?_
    exact leaves_bind hLater leaves_lift fun _ => leaves_check (hAbandon _)
  refine leaves_bind hLater (hCanceled _) fun _ => ?_
  refine leaves_bind hLater leaves_lift fun _ => ?_
  refine leaves_bind hLater (leaves_check (hAbandon _)) fun _ => ?_
  refine leaves_bind hLater (leaves_attemptOr hLater (fun _ => hAbandon _)) fun _ => ?_
  refine leaves_bind hLater (leaves_check (hAbandon _)) fun _ => ?_
  exact leaves_bind hLater (hCanceled _) fun _ => leaves_pure

theorem calls_abandon (revocationID : GoString) (operation : String) :
    Calls Request.concludes (abandon revocationID operation) := by
  refine Program.only_bind ?_ fun _ => trivial
  refine Program.only_bind (calls_bounds_concludes calls_newFinalizeContext) ?_
  rintro (_ | _)
  · trivial
  · exact ⟨rfl, fun _ => trivial⟩

theorem calls_activateChild (answer : Except Unit Revocation) :
    Calls Request.concludes (activateChild prepared dispatched answer).run := by
  have hAbandon := fun operation => calls_abandon prepared.revocationID operation
  have hAsk : ∀ {request : Request}, request.concludes → Calls Request.concludes (ask request) :=
    fun h => (only_perform _).mpr h
  have hCanceled : ∀ operation, Calls Request.concludes (notCanceled prepared.revocationID operation).run :=
    fun operation => only_bind (only_lift (hAsk rfl)) (fun _ => only_check (hAbandon operation))
  refine only_bind (only_attemptOr trivial (fun _ => hAbandon _)) fun _ => ?_
  refine only_bind (only_check (hAbandon _)) fun _ => ?_
  refine only_bind (hCanceled _) fun _ => ?_
  refine only_bind (only_check (hAbandon _)) fun _ => ?_
  refine only_bind (only_attemptOr (hAsk rfl) (fun _ => hAbandon _)) fun _ => ?_
  refine only_bind (hCanceled _) fun _ => ?_
  refine only_bind (only_lift (hAsk rfl)) fun _ => ?_
  refine only_bind ?_ fun _ => ?_
  · refine only_bind (only_check (hAbandon _)) fun _ => ?_
    exact only_bind (only_lift (hAsk rfl)) fun _ => only_check (hAbandon _)
  refine only_bind (hCanceled _) fun _ => ?_
  refine only_bind (only_lift (calls_bounds_concludes calls_newFinalizeContext)) fun _ => ?_
  refine only_bind (only_check (hAbandon _)) fun _ => ?_
  refine only_bind (only_attemptOr (hAsk rfl) (fun _ => hAbandon _)) fun _ => ?_
  refine only_bind (only_check (hAbandon _)) fun _ => ?_
  exact only_bind (hCanceled _) fun _ => Stage.only_pure _

theorem only_recordAnchor {allowed : Request → Prop} (hAnchor : ∀ request, allowed (.recordAnchor request))
    (hConcludes : ∀ request : Request, request.concludes → allowed request) :
    Only allowed (recordAnchor prepared dispatched).run :=
  ⟨hAnchor _, fun answer => Only.mono (calls_activateChild answer) hConcludes⟩

section Dispatch

variable {allowed : Request → Prop} (hBounds : ∀ request : Request, request.bounds = true → allowed request)

include hBounds in
theorem only_boundedContext {program : Prog Bool} (h : Calls Request.bounds program) :
    Only allowed (liftM program : Step Bool).run :=
  only_lift (Only.mono h hBounds)

include hBounds in
theorem only_dispatched (authorized : ChildCreateAuthorization) (child : DurableChild) (createFailed : Bool) :
    Only allowed (do
      check (child.accessor.isSome) (issuanceError "create child without durable accessor")
      let anchorContext ← liftM newFinalizeContext
      check (anchorContext) (issuanceError "create bounded anchor context")
      return { authorized := authorized, child := child, createFailed := createFailed } : Step Dispatched).run := by
  refine only_bind (only_check trivial) fun _ => ?_
  refine only_bind (only_boundedContext hBounds calls_newFinalizeContext) fun anchorContext => ?_
  exact only_bind (only_check trivial) fun _ => Stage.only_pure _

include hBounds in
theorem only_dispatchChild (hManager : ∀ issuer, allowed (.validateManager issuer))
    (hAuthorize : ∀ request, allowed (.authorizeChildCreate request))
    (hCreate : ∀ issuer request, allowed (.createChild issuer request)) :
    Only allowed (dispatchChild prepared).run := by
  refine only_bind (only_attemptOr ((only_perform _).mpr (hManager _)) (fun _ => trivial)) fun _ => ?_
  refine only_bind (only_boundedContext hBounds (timeoutSource_bounding.newBoundedContext _)) fun _ => ?_
  refine only_bind (only_check trivial) fun _ => ?_
  refine only_bind (only_attemptOr ((only_perform _).mpr (hAuthorize _)) (fun _ => trivial)) fun authorized => ?_
  refine only_bind (only_check trivial) fun _ => ?_
  refine only_bind (only_lift ((only_perform _).mpr (hCreate _ _))) ?_
  rintro ⟨child, createFailed⟩
  exact only_dispatched hBounds authorized child createFailed

end Dispatch

theorem issueConsumed_authorizes : AtMost Request.authorizes 1 (issueConsumed prepared).run := by
  have hBounds := bounds_quiet.authorizes
  refine Stage.atMost_bind_quiet ?_ fun _ => only_recordAnchor (fun _ => rfl) concludes_quiet.authorizes
  refine Stage.atMost_quiet_bind (only_attemptOr ((only_perform _).mpr rfl) (fun _ => trivial)) fun _ => ?_
  refine Stage.atMost_quiet_bind (only_boundedContext hBounds (timeoutSource_bounding.newBoundedContext _)) fun _ => ?_
  refine Stage.atMost_quiet_bind (only_check trivial) fun _ => ?_
  refine Stage.atMost_bind_quiet (atMost_one_call ?_) fun authorized => ?_
  · rintro (_ | _) <;> trivial
  refine only_bind (only_check trivial) fun _ => ?_
  refine only_bind (only_lift ((only_perform _).mpr rfl)) ?_
  rintro ⟨child, createFailed⟩
  exact only_dispatched hBounds authorized child createFailed

theorem issueConsumed_creates : AtMost Request.creates 1 (issueConsumed prepared).run := by
  have hBounds := bounds_quiet.creates
  refine Stage.atMost_bind_quiet ?_ fun _ => only_recordAnchor (fun _ => rfl) concludes_quiet.creates
  refine Stage.atMost_quiet_bind (only_attemptOr ((only_perform _).mpr rfl) (fun _ => trivial)) fun _ => ?_
  refine Stage.atMost_quiet_bind (only_boundedContext hBounds (timeoutSource_bounding.newBoundedContext _)) fun _ => ?_
  refine Stage.atMost_quiet_bind (only_check trivial) fun _ => ?_
  refine Stage.atMost_quiet_bind (only_attemptOr ((only_perform _).mpr rfl) (fun _ => trivial)) fun authorized => ?_
  refine Stage.atMost_quiet_bind (only_check trivial) fun _ => ?_
  refine Stage.atMost_bind_quiet (atMost_one_call (fun _ => trivial)) ?_
  rintro ⟨child, createFailed⟩
  exact only_dispatched hBounds authorized child createFailed

variable {anchor : BrokerEvent}

theorem anchor_after {first rest before after : List BrokerEvent}
    (hFirst : ∀ event ∈ first, event.request.anchors = false) (hAnchor : anchor.request.anchors)
    (h : first ++ rest = before ++ anchor :: after) : ∃ before', rest = before' ++ anchor :: after := by
  rcases append_eq_append_iff.mp h with ⟨more, _, hMore⟩ | ⟨more, rfl, hMore⟩
  · exact ⟨more, hMore⟩
  · cases more with
    | nil => exact ⟨[], hMore.symm⟩
    | cons =>
      obtain ⟨rfl, _⟩ := List.cons.inj hMore
      rw [hFirst anchor (by simp)] at hAnchor
      cases hAnchor

/-- Whatever comes after the anchor asks for the revocation, unless a credential is returned. -/
theorem issueConsumed_compensates {trace before after : List BrokerEvent}
    {failure : BrokerError} (h : Runs (issueConsumed prepared).run trace (.error failure))
    (hTrace : trace = before ++ anchor :: after) (hAnchor : anchor.request.anchors) :
    Compensated prepared.revocationID after := by
  have hDispatch : Only (fun request : Request => request.anchors = false) (dispatchChild prepared).run :=
    only_dispatchChild bounds_quiet.anchors (fun _ => rfl) (fun _ => rfl) (fun _ _ => rfl)
  rcases runs_error_bind.mp h with h | ⟨dispatched, first, rest, hFirstRest, hFirst, answer, last, rfl, hLast⟩
  · have hQuiet := hDispatch.trace h anchor (by simp [hTrace])
    rw [hQuiet] at hAnchor
    cases hAnchor
  · obtain ⟨earlier, hEarlier⟩ := anchor_after (hDispatch.trace hFirst) hAnchor (hFirstRest.symm.trans hTrace)
    cases earlier with
    | nil =>
      obtain ⟨_, rfl⟩ := List.cons.inj hEarlier
      exact activateChild_leaves answer last failure hLast
    | cons =>
      -- The events after `RecordAnchor` anchor nothing.
      obtain ⟨_, rfl⟩ := List.cons.inj hEarlier
      have hQuiet := (Only.mono (calls_activateChild answer) concludes_quiet.anchors).trace hLast anchor (by simp)
      rw [hQuiet] at hAnchor
      cases hAnchor

end Issue

end AiopsSystem.Credential.DurableBroker
