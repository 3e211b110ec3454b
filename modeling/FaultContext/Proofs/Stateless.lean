import FaultContext.Proofs.Classification
import FaultContext.Proofs.EventDetails
import FaultContext.Proofs.SourceCache

/-!
# Enrichment without a memory

The two memories of a session, of classifications and of sources, change no outcome: in every sound
session a step comes out the same, and leaves a sound session behind even where the resolver breaks it
off. The condition on the names of types is the one that keeps the keys of the source cache apart.
-/

namespace FaultContext.Detail

set_option autoImplicit false

open Files (Disk)
open Origin (Abort Answer)
open FaultContext.Span (Event Exported)
open Trace (Frame)

/-- A frame whose type cannot be mistaken for another one in a key of the source cache. -/
def Unmarked (frame : Frame) : Prop := '#' ∉ frame.qualifiedType

namespace Step

variable {σ α β : Type}

/-- A step, and another one behind it unless the first is broken off. -/
def andThen (step : Step σ α) (next : α → Step σ β) : Step σ β := fun session =>
  match step session with
  | (.error abort, session) => (.error abort, session)
  | (.ok value, session) => next value session

theorem and_then_error {step : Step σ α} {session reached : Session σ} {abort : Abort}
    (next : α → Step σ β) (broken : step session = (.error abort, reached)) :
    step.andThen next session = (.error abort, reached) := by
  rw [andThen, broken]

theorem and_then_ok {step : Step σ α} {session reached : Session σ} {value : α}
    (next : α → Step σ β) (made : step session = (.ok value, reached)) :
    step.andThen next session = next value reached := by
  rw [andThen, made]

end Step

namespace Enricher

variable {σ α β : Type}

/-- A session that remembers nothing but what would be found again without it. -/
structure Sound (enricher : Enricher σ) (disk : Disk) (answer : Text → Answer) (session : Session σ) :
    Prop where
  classifier : enricher.classifier.Consistent disk answer
    ⟨session.resolver, session.memo, session.tally⟩
  cache : Lookup.Faithful enricher.places disk (fun qualifiedType _ => '#' ∉ qualifiedType)
    session.cache

/-- In every sound session the step comes out like this, and leaves a sound session behind. -/
def Settles (enricher : Enricher σ) (disk : Disk) (answer : Text → Answer) (step : Step σ α)
    (outcome : Except Abort α) : Prop :=
  ∀ session, Sound enricher disk answer session →
    (step session).1 = outcome ∧ Sound enricher disk answer (step session).2

/-- The excerpt for a frame, from the source that a search comes to. -/
def plainExcerpt (enricher : Enricher σ) (disk : Disk) (frame : Frame) : Option Code.Excerpt :=
  match frame.fileName, frame.line with
  | some fileName, some line =>
      let lines := Lookup.sourceOf enricher.places disk frame.qualifiedType fileName
      if lines.isEmpty then none
      else Code.extract enricher.contextLines lines line frame.functionName frame.simpleTypeName
  | _, _ => none

/-- The record of a frame that is known to be external or not, made without any memory. -/
def recordAs (enricher : Enricher σ) (disk : Disk) (frame : Frame) (external : Bool) : Record :=
  if external && !enricher.extractExternal then .skipped frame enricher.language
  else
    match enricher.plainExcerpt disk frame with
    | some excerpt => .extracted frame enricher.language external excerpt
    | none => .extractionFailed frame enricher.language external

/-- The record of a frame, made without any memory. -/
def plainRecord (enricher : Enricher σ) (disk : Disk) (answer : Text → Answer) (frame : Frame) :
    Except Abort Record := do
  let external ←
    Origin.plainExternal enricher.classifier.externalPackages answer frame.qualifiedType
  return enricher.recordAs disk frame external

variable {enricher : Enricher σ} {disk : Disk} {answer : Text → Answer}

theorem sound_start (memory : σ)
    (answers : enricher.classifier.resolver.AnswersBy disk memory answer) :
    Sound enricher disk answer (enricher.start memory) := by
  refine ⟨⟨answers, ?_⟩, ?_⟩
  · intro name external found
    cases found
  · intro entry member
    cases member

/-- What is counted is no part of what is remembered. -/
theorem sound_counted {session : Session σ} (sound : Sound enricher disk answer session)
    (tally : Metrics.Tally) : Sound enricher disk answer { session with tally := tally } :=
  ⟨⟨sound.classifier.answers, sound.classifier.remembered⟩, sound.cache⟩

theorem sound_clear_cache {session : Session σ} (sound : Sound enricher disk answer session) :
    Sound enricher disk answer (clearCache session) := by
  refine ⟨⟨sound.classifier.answers, sound.classifier.remembered⟩, ?_⟩
  intro entry member
  cases member

theorem is_external_settles (name : Text) :
    Settles enricher disk answer (enricher.isExternal disk name)
      (Origin.plainExternal enricher.classifier.externalPackages answer name) := by
  intro session sound
  obtain ⟨said, next⟩ := Origin.Classifier.is_external_spec sound.classifier name
  exact ⟨said, ⟨next.answers, next.remembered⟩, sound.cache⟩

theorem find_source_settles (qualifiedType fileName : Text) (unmarked : '#' ∉ qualifiedType)
    (session : Session σ) (sound : Sound enricher disk answer session) :
    (enricher.findSource disk qualifiedType fileName session).1 =
        Lookup.sourceOf enricher.places disk qualifiedType fileName ∧
      Sound enricher disk answer (enricher.findSource disk qualifiedType fileName session).2 := by
  obtain ⟨found, next⟩ := Lookup.find_source_spec enricher.places disk _
    Lookup.keys_apart_without_mark qualifiedType fileName unmarked ⟨session.cache, session.tally⟩
    sound.cache
  exact ⟨found, ⟨sound.classifier.answers, sound.classifier.remembered⟩, next⟩

theorem excerpt_settles (frame : Frame) (unmarked : Unmarked frame) (session : Session σ)
    (sound : Sound enricher disk answer session) :
    (enricher.excerpt disk frame session).1 = enricher.plainExcerpt disk frame ∧
      Sound enricher disk answer (enricher.excerpt disk frame session).2 := by
  rw [excerpt, plainExcerpt]
  cases named : frame.fileName with
  | none => exact ⟨rfl, sound⟩
  | some fileName =>
      cases numbered : frame.line with
      | none => exact ⟨rfl, sound⟩
      | some line =>
          obtain ⟨found, next⟩ :=
            find_source_settles frame.qualifiedType fileName unmarked session sound
          dsimp only
          rw [← found]
          split_ifs
          · exact ⟨rfl, next⟩
          · exact ⟨rfl, sound_counted next _⟩

theorem settles_return (outcome : Except Abort α) :
    Settles enricher disk answer (fun session => (outcome, session)) outcome :=
  fun _ sound => ⟨rfl, sound⟩

theorem settles_counted (outcome : Except Abort α) (count : Metrics.Tally → Metrics.Tally) :
    Settles enricher disk answer
      (fun session => (outcome, { session with tally := count session.tally })) outcome :=
  fun _ sound => ⟨rfl, sound_counted sound _⟩

/-- Where the first step is broken off the second is never made, so nothing is asked of it there. -/
theorem settles_and_then {step : Step σ α} {next : α → Step σ β} {outcome : Except Abort α}
    (first : Settles enricher disk answer step outcome)
    (second : ∀ value, outcome = .ok value → ∃ later, Settles enricher disk answer (next value) later) :
    ∃ result, Settles enricher disk answer (step.andThen next) result := by
  cases outcome with
  | error abort =>
      refine ⟨.error abort, ?_⟩
      intro session sound
      obtain ⟨said, reached⟩ := first session sound
      rw [Step.and_then_error next (Prod.ext said rfl)]
      exact ⟨rfl, reached⟩
  | ok value =>
      obtain ⟨later, settles⟩ := second value rfl
      refine ⟨later, ?_⟩
      intro session sound
      obtain ⟨said, reached⟩ := first session sound
      rw [Step.and_then_ok next (Prod.ext said rfl)]
      exact settles _ reached

theorem record_settles (frame : Frame) (unmarked : Unmarked frame) :
    Settles enricher disk answer (enricher.record disk frame)
      (enricher.plainRecord disk answer frame) := by
  intro session sound
  obtain ⟨said, asked⟩ := is_external_settles frame.qualifiedType session sound
  rw [record, plainRecord, ← said]
  split
  · rename_i abort next broken
    rw [broken] at asked ⊢
    exact ⟨rfl, asked⟩
  · rename_i external next told
    rw [told] at asked ⊢
    obtain ⟨found, last⟩ := excerpt_settles frame unmarked next asked
    dsimp only [bind, Except.bind, pure, Except.pure]
    rw [recordAs, ← found]
    split_ifs
    · exact ⟨rfl, asked⟩
    · split <;> rename_i shown <;> rw [shown] at last ⊢ <;> exact ⟨rfl, last⟩

theorem records_cons (frame : Frame) (frames : List Frame) :
    enricher.records disk (frame :: frames) =
      (enricher.record disk frame).andThen fun first =>
        Step.andThen (enricher.records disk frames) fun others session =>
          (.ok (first :: others), session) := by
  funext session
  rw [records]
  split <;> rename_i one
  · rw [Step.and_then_error _ one]
  · rw [Step.and_then_ok _ one]
    split <;> rename_i rest
    · rw [Step.and_then_error _ rest]
    · rw [Step.and_then_ok _ rest]

theorem records_settle (frames : List Frame) (unmarked : ∀ frame ∈ frames, Unmarked frame) :
    ∃ outcome, Settles enricher disk answer (enricher.records disk frames) outcome := by
  induction frames with
  | nil => exact ⟨.ok [], settles_return _⟩
  | cons frame frames ih =>
      obtain ⟨first, rest⟩ := List.forall_mem_cons.1 unmarked
      obtain ⟨others, settles⟩ := ih rest
      rw [records_cons]
      refine settles_and_then (record_settles frame first) fun one _ => ?_
      exact settles_and_then settles fun more _ => ⟨_, settles_return _⟩

/-- The frames that are parsed for an event. -/
def parsedForEvent (enricher : Enricher σ) (event : Event) : List Frame :=
  match if event.isException then event.stacktrace? else none with
  | none => []
  | some trace => Trace.frames enricher.options trace

/-- The frames that are parsed for some events, of which the last is the one that is broken off. -/
def parsedForEvents (enricher : Enricher σ) (disk : Disk) : List Event → Session σ → List Frame
  | [], _ => []
  | event :: events, session =>
      enricher.parsedForEvent event ++
        match enricher.enrichEvent disk event session with
        | (.error _, _) => []
        | (.ok _, session) => enricher.parsedForEvents disk events session

theorem parsed_for_event {event : Event} {frames : List Frame}
    (carried : CarriesFrames enricher.options event frames) :
    enricher.parsedForEvent event = frames := by
  obtain ⟨shaped, trace, held, filled, rfl, -⟩ := carried
  rw [parsedForEvent, if_pos shaped, (stacktrace_eq_some_iff event trace).2 ⟨held, filled⟩]

theorem parsed_for_event_bare {event : Event} (bare : ¬Enrichable enricher.options event) :
    enricher.parsedForEvent event = [] := by
  unfold parsedForEvent
  split
  · rfl
  · rename_i trace found
    split_ifs at found with shaped
    exact frameless_of_bare bare shaped found

theorem enrich_event_and_then {event : Event} {frames : List Frame}
    (carried : CarriesFrames enricher.options event frames) :
    enricher.enrichEvent disk event =
      Step.andThen (enricher.records disk frames) fun records session =>
        (.ok (some (event.withAttribute Span.exceptionStackDetails (.text (Record.serialize records)))),
          { session with tally := session.tally.performed .serialize }) := by
  funext session
  rw [enrich_event_with_frames enricher disk event frames session carried]
  split <;> rename_i made
  · rw [Step.and_then_error _ made]
  · rw [Step.and_then_ok _ made]

theorem event_settles (disk : Disk) (answer : Text → Answer) (event : Event)
    (unmarked : ∀ frame ∈ enricher.parsedForEvent event, Unmarked frame) :
    ∃ outcome, Settles enricher disk answer (enricher.enrichEvent disk event) outcome := by
  by_cases worth : Enrichable enricher.options event
  · obtain ⟨frames, carried⟩ := worth
    rw [parsed_for_event carried] at unmarked
    obtain ⟨outcome, settles⟩ :
        ∃ outcome, Settles enricher disk answer (enricher.records disk frames) outcome :=
      records_settle frames unmarked
    rw [enrich_event_and_then carried]
    exact settles_and_then settles fun records _ =>
      ⟨_, settles_counted _ fun tally => tally.performed .serialize⟩
  · refine ⟨.ok none, ?_⟩
    intro session sound
    rw [enrich_event_without_frames enricher disk event session worth]
    exact ⟨rfl, sound⟩

theorem enrich_events_cons (event : Event) (events : List Event) :
    enricher.enrichEvents disk (event :: events) =
      (enricher.enrichEvent disk event).andThen fun enriched =>
        Step.andThen (enricher.enrichEvents disk events) fun shown session =>
          (.ok (enriched.isSome || shown.1, enriched.getD event :: shown.2), session) := by
  funext session
  rw [enrichEvents]
  split <;> rename_i one
  · rw [Step.and_then_error _ one]
  · rw [Step.and_then_ok _ one]
    split <;> rename_i rest
    · rw [Step.and_then_error _ rest]
    · rw [Step.and_then_ok _ rest]

/-- What is parsed in one sound session decides for all of them, as each event is broken off in all of
them or in none. -/
theorem events_settle (events : List Event) (session : Session σ)
    (sound : Sound enricher disk answer session)
    (unmarked : ∀ frame ∈ enricher.parsedForEvents disk events session, Unmarked frame) :
    ∃ outcome, Settles enricher disk answer (enricher.enrichEvents disk events) outcome := by
  induction events generalizing session with
  | nil => exact ⟨.ok (false, []), settles_return _⟩
  | cons event events ih =>
      rw [parsedForEvents] at unmarked
      rw [enrich_events_cons]
      obtain ⟨first, one⟩ := event_settles disk answer event
        fun frame member => unmarked frame (List.mem_append_left _ member)
      obtain ⟨said, next⟩ := one session sound
      cases ran : enricher.enrichEvent disk event session with
      | mk outcome reached =>
          rw [ran] at said next unmarked
          subst said
          refine settles_and_then one fun enriched made => ?_
          subst made
          obtain ⟨others, settles⟩ := ih reached next
            fun frame member => unmarked frame (List.mem_append_right _ member)
          exact settles_and_then settles fun shown _ => ⟨_, settles_return _⟩

/-- The frames that are parsed for a span. -/
def parsedForSpan (enricher : Enricher σ) (disk : Disk) (span : Span) (session : Session σ) :
    List Frame :=
  if !span.needsEnrichment then [] else enricher.parsedForEvents disk span.events session

theorem enrich_span_and_then {span : Span} (opened : ¬(!span.needsEnrichment) = true) :
    enricher.enrichSpan disk span =
      Step.andThen (enricher.enrichEvents disk span.events) fun shown session =>
        (.ok (if shown.1 then .enriched span shown.2 else .plain span), session) := by
  funext session
  rw [enrichSpan, if_neg opened]
  split <;> rename_i ran
  · rw [Step.and_then_error _ ran]
  · rw [Step.and_then_ok _ ran]

theorem span_settles (span : Span) (session : Session σ) (sound : Sound enricher disk answer session)
    (unmarked : ∀ frame ∈ enricher.parsedForSpan disk span session, Unmarked frame) :
    ∃ outcome, Settles enricher disk answer (enricher.enrichSpan disk span) outcome := by
  by_cases closed : (!span.needsEnrichment) = true
  · refine ⟨.ok (.plain span), ?_⟩
    intro other otherSound
    rw [enrichSpan, if_pos closed]
    exact ⟨rfl, otherSound⟩
  · rw [parsedForSpan, if_neg closed] at unmarked
    obtain ⟨shown, settles⟩ := events_settle span.events session sound unmarked
    rw [enrich_span_and_then closed]
    exact settles_and_then settles fun outcome _ => ⟨_, settles_return _⟩

end Enricher

end FaultContext.Detail
