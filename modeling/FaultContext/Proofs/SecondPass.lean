import FaultContext.Proofs.AddedBodies

/-!
# A second pass

A span that has its details already is enriched again like any other. The details of an event are none of
what makes it an exception, nor its trace, so the second pass reads the same frames as the first one and
writes the same records over them. The session is another one by then, and remembers more, but in a sound
session a span comes out as it does without a memory.
-/

namespace FaultContext

set_option autoImplicit false

open Files (Disk)
open Origin (Answer TypeOrigin)
open FaultContext.Span (AttributeValue Event Exported)
open Trace (Frame)

namespace Span.Event

theorem is_exception_with_details (event : Event) (value : AttributeValue) :
    (event.withAttribute exceptionStackDetails value).isException = event.isException := by
  have apart : exceptionType ≠ exceptionStackDetails := by decide
  unfold isException Dictionary.contains withAttribute
  rw [Dictionary.get_insert_other _ _ _ _ apart]

theorem stacktrace_with_details (event : Event) (value : AttributeValue) :
    (event.withAttribute exceptionStackDetails value).stacktrace? = event.stacktrace? := by
  have apart : exceptionStacktrace ≠ exceptionStackDetails := by decide
  unfold stacktrace? textAttribute? withAttribute
  rw [Dictionary.get_insert_other _ _ _ _ apart]

theorem with_attribute_again (event : Event) (key : Text) (value later : AttributeValue) :
    (event.withAttribute key value).withAttribute key later = event.withAttribute key later := by
  unfold withAttribute
  rw [Dictionary.insert_again]

end Span.Event

theorem Span.Exported.events_of_to_span (exported : Exported) :
    exported.toSpan.events = exported.events := by
  cases exported <;> rfl

namespace Detail.Enricher

variable {σ : Type} {enricher : Enricher σ} {disk : Disk}

theorem parsed_with_details (event : Event) (value : AttributeValue) :
    enricher.parsedForEvent (event.withAttribute Span.exceptionStackDetails value) =
      enricher.parsedForEvent event := by
  unfold parsedForEvent
  rw [Event.is_exception_with_details, Event.stacktrace_with_details]

/-- The details of some frames, written without any memory. -/
def plainDetails (enricher : Enricher σ) (disk : Disk)
    (origins : Text → Except ResolveError TypeOrigin) (frames : List Frame) : AttributeValue :=
  .text (Record.serialize (frames.map fun frame => enricher.recordAs disk frame
    (Origin.referenceExternal enricher.classifier.externalPackages origins frame.qualifiedType)))

/-- An event with its details, made without any memory. -/
def plainEvent? (enricher : Enricher σ) (disk : Disk)
    (origins : Text → Except ResolveError TypeOrigin) (event : Event) : Option Event :=
  if enricher.parsedForEvent event = [] then none
  else some (event.withAttribute Span.exceptionStackDetails
    (enricher.plainDetails disk origins (enricher.parsedForEvent event)))

/-- An event as a view shows it, made without any memory. -/
def plainShown (enricher : Enricher σ) (disk : Disk)
    (origins : Text → Except ResolveError TypeOrigin) (event : Event) : Event :=
  (enricher.plainEvent? disk origins event).getD event

/-- A span on its way out, made without any memory. -/
def plainSpan (enricher : Enricher σ) (disk : Disk)
    (origins : Text → Except ResolveError TypeOrigin) (span : Span) : Exported :=
  if span.events.any fun event => (enricher.plainEvent? disk origins event).isSome then
    .enriched span (span.events.map (enricher.plainShown disk origins))
  else .plain span

section Origins

variable (origins : Text → Except ResolveError TypeOrigin)

theorem event_settles_by_origins (event : Event)
    (unmarked : ∀ frame ∈ enricher.parsedForEvent event, Unmarked frame) :
    Settles enricher disk (fun name => .ofOrigin (origins name)) (enricher.enrichEvent disk event)
      (.ok (enricher.plainEvent? disk origins event)) := by
  intro session sound
  by_cases worth : Enrichable enricher.options event
  · obtain ⟨frames, carried⟩ := worth
    have parsed : enricher.parsedForEvent event = frames := parsed_for_event carried
    rw [parsed] at unmarked
    obtain ⟨made, next⟩ := records_settle_by_origins origins frames unmarked session sound
    have framed : frames ≠ [] := by
      obtain ⟨-, -, -, -, -, framed⟩ := carried
      exact framed
    rw [enrich_event_and_then carried, Step.and_then_ok _ (Prod.ext made rfl), plainEvent?, parsed,
      if_neg framed]
    exact ⟨rfl, sound_counted next _⟩
  · rw [enrich_event_without_frames enricher disk event session worth, plainEvent?,
      parsed_for_event_bare worth, if_pos rfl]
    exact ⟨rfl, sound⟩

theorem events_settle_by_origins (events : List Event)
    (unmarked : ∀ event ∈ events, ∀ frame ∈ enricher.parsedForEvent event, Unmarked frame) :
    Settles enricher disk (fun name => .ofOrigin (origins name)) (enricher.enrichEvents disk events)
      (.ok (events.any fun event => (enricher.plainEvent? disk origins event).isSome,
        events.map (enricher.plainShown disk origins))) := by
  induction events with
  | nil => exact settles_return _
  | cons event events ih =>
      obtain ⟨first, rest⟩ := List.forall_mem_cons.1 unmarked
      intro session sound
      obtain ⟨one, next⟩ := event_settles_by_origins origins event first session sound
      obtain ⟨others, last⟩ := ih rest _ next
      rw [enrich_events_cons, Step.and_then_ok _ (Prod.ext one rfl),
        Step.and_then_ok _ (Prod.ext others rfl)]
      exact ⟨rfl, last⟩

theorem plain_event_of_no_exception {event : Event} (other : event.isException = false) :
    enricher.plainEvent? disk origins event = none := by
  have none : enricher.parsedForEvent event = [] := by
    unfold parsedForEvent
    rw [other]
    rfl
  rw [plainEvent?, if_pos none]

theorem span_settles_by_origins (span : Span)
    (unmarked : ∀ event ∈ span.events, ∀ frame ∈ enricher.parsedForEvent event, Unmarked frame) :
    Settles enricher disk (fun name => .ofOrigin (origins name)) (enricher.enrichSpan disk span)
      (.ok (enricher.plainSpan disk origins span)) := by
  intro session sound
  by_cases closed : (!span.needsEnrichment) = true
  · have bare : (span.events.any fun event => (enricher.plainEvent? disk origins event).isSome) =
        false := by
      rw [List.any_eq_false]
      intro event member
      have other : event.isException = false := by
        by_contra shaped
        have opened := needs_enrichment_of_exception span event member (by simpa using shaped)
        simp [opened] at closed
      rw [plain_event_of_no_exception origins other]
      exact Bool.false_ne_true
    rw [enrichSpan, if_pos closed, plainSpan, bare]
    exact ⟨rfl, sound⟩
  · obtain ⟨shown, next⟩ := events_settle_by_origins origins span.events unmarked session sound
    rw [enrich_span_and_then closed, Step.and_then_ok _ (Prod.ext shown rfl)]
    exact ⟨rfl, next⟩

theorem parsed_when_shown (event : Event) :
    enricher.parsedForEvent (enricher.plainShown disk origins event) =
      enricher.parsedForEvent event := by
  unfold plainShown plainEvent?
  split_ifs
  · rfl
  · exact parsed_with_details event _

/-- An event that is shown with its details is shown like that again. -/
theorem plain_event_again (event : Event) :
    enricher.plainEvent? disk origins (enricher.plainShown disk origins event) =
      enricher.plainEvent? disk origins event := by
  rw [plainEvent?, parsed_when_shown, plainEvent?]
  split_ifs with framed
  · rfl
  · rw [plainShown, plainEvent?, if_neg framed, Option.getD_some, Event.with_attribute_again]

theorem plain_shown_again (event : Event) :
    enricher.plainShown disk origins (enricher.plainShown disk origins event) =
      enricher.plainShown disk origins event := by
  rw [plainShown, plain_event_again]
  cases made : enricher.plainEvent? disk origins event with
  | none =>
      rw [plainShown, made]
      rfl
  | some shown =>
      rw [plainShown, made]
      rfl

theorem plain_span_enriched (span : Span) :
    (enricher.plainSpan disk origins span).isEnriched =
      span.events.any fun event => (enricher.plainEvent? disk origins event).isSome := by
  unfold plainSpan
  split_ifs with worth
  · exact worth.symm
  · exact (Bool.eq_false_iff.2 worth).symm

/-- Also a span that goes out as it came in shows its events like that, as none of them has details. -/
theorem plain_span_events (span : Span) :
    (enricher.plainSpan disk origins span).toSpan.events =
      span.events.map (enricher.plainShown disk origins) := by
  unfold plainSpan
  split_ifs with worth
  · rfl
  · have bare : ∀ event ∈ span.events, enricher.plainShown disk origins event = event := by
      intro event member
      have none : enricher.plainEvent? disk origins event = none := by
        by_contra made
        exact worth (List.any_eq_true.2 ⟨event, member, Option.isSome_iff_ne_none.2 made⟩)
      rw [plainShown, none]
      rfl
    exact ((List.map_congr_left bare).trans (List.map_id' span.events)).symm

theorem plain_span_again (span : Span) :
    let first := enricher.plainSpan disk origins span
    let second := enricher.plainSpan disk origins first.toSpan
    second.toSpan.events = first.toSpan.events ∧ second.isEnriched = first.isEnriched := by
  intro first second
  constructor
  · calc
      second.toSpan.events = first.toSpan.events.map (enricher.plainShown disk origins) :=
        plain_span_events origins first.toSpan
      _ = (span.events.map (enricher.plainShown disk origins)).map
          (enricher.plainShown disk origins) := by rw [plain_span_events]
      _ = span.events.map (enricher.plainShown disk origins) := by
        simp only [List.map_map, Function.comp_def, plain_shown_again]
      _ = first.toSpan.events := (plain_span_events origins span).symm
  · calc
      second.isEnriched =
          first.toSpan.events.any fun event => (enricher.plainEvent? disk origins event).isSome :=
        plain_span_enriched origins first.toSpan
      _ = span.events.any fun event => (enricher.plainEvent? disk origins event).isSome := by
        simp only [first, plain_span_events, List.any_map, Function.comp_def, plain_event_again]
      _ = first.isEnriched := (plain_span_enriched origins span).symm

end Origins

/-- A span that was enriched and made into a span of its own is enriched by the same enricher to a view
with the same events, and to a view only if it was one the first time. -/
theorem enriched_again_alike (enricher : Enricher σ) (disk : Disk) (memory : σ)
    (origins : Text → Except ResolveError TypeOrigin)
    (answers : enricher.classifier.resolver.AnswersBy disk memory fun name => .ofOrigin (origins name))
    (span : Span)
    (unmarked : ∀ event ∈ span.events, ∀ frame ∈ enricher.parsedForEvent event,
      '#' ∉ frame.qualifiedType) :
    ∃ first after second last,
      enricher.enrichSpan disk span (enricher.start memory) = (.ok first, after) ∧
      enricher.enrichSpan disk first.toSpan after = (.ok second, last) ∧
      second.events = first.events ∧ second.isEnriched = first.isEnriched := by
  have start := sound_start memory answers
  obtain ⟨made, next⟩ := span_settles_by_origins origins span unmarked _ start
  have unmarkedAgain : ∀ event ∈ (enricher.plainSpan disk origins span).toSpan.events,
      ∀ frame ∈ enricher.parsedForEvent event, Unmarked frame := by
    rw [plain_span_events]
    intro event member
    obtain ⟨source, inside, rfl⟩ := List.mem_map.1 member
    rw [parsed_when_shown]
    exact unmarked source inside
  obtain ⟨again, -⟩ := span_settles_by_origins origins _ unmarkedAgain _ next
  obtain ⟨sameEvents, sameKind⟩ := plain_span_again origins span
  rw [Exported.events_of_to_span, Exported.events_of_to_span] at sameEvents
  exact ⟨_, _, _, _, Prod.ext made rfl, Prod.ext again rfl, sameEvents, sameKind⟩

/-- A log entry, an exception whose trace has three frames, and one with details of an earlier run. -/
def tracedSpan : Span where
  traceId := "t".toList
  spanId := "s".toList
  name := "GET /orders".toList
  events :=
    [⟨"cache.miss".toList, 1, .empty⟩, .exception 2 "E".toList "m".toList threeFrames, staleEvent]

theorem enriched_again_alike_traced :
    let enricher := { sourceless .ignorant with places := ⟨["/w".toList], [], false, [], [], 0⟩ }
    let origins : Text → Except ResolveError TypeOrigin := fun name => .error (.notFound name)
    enricher.classifier.resolver.AnswersBy oneLineDisk () (fun name => .ofOrigin (origins name)) ∧
      (∀ event ∈ tracedSpan.events, ∀ frame ∈ enricher.parsedForEvent event,
        '#' ∉ frame.qualifiedType) ∧
      ∃ first after second last,
        enricher.enrichSpan oneLineDisk tracedSpan (enricher.start ()) = (.ok first, after) ∧
        enricher.enrichSpan oneLineDisk first.toSpan after = (.ok second, last) ∧
        second.events = first.events ∧ second.isEnriched = true := by
  intro enricher origins
  have answers : enricher.classifier.resolver.AnswersBy oneLineDisk ()
      fun name => .ofOrigin (origins name) := fun _ _ => rfl
  have unmarked : ∀ event ∈ tracedSpan.events, ∀ frame ∈ enricher.parsedForEvent event,
      '#' ∉ frame.qualifiedType := by
    decide +kernel
  have enriched : ((enricher.enrichSpan oneLineDisk tracedSpan (enricher.start ())).1.toOption.map
      Exported.isEnriched) = some true := by
    decide +kernel
  obtain ⟨first, after, second, last, made, again, sameEvents, sameKind⟩ :=
    enriched_again_alike enricher oneLineDisk () origins answers tracedSpan unmarked
  rw [made] at enriched
  exact ⟨answers, unmarked, first, after, second, last, made, again, sameEvents,
    sameKind.trans (Option.some.inj enriched)⟩

end Detail.Enricher

end FaultContext
