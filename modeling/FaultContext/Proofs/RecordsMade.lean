import FaultContext.Proofs.FrameRecords
import FaultContext.Proofs.Stateless

/-!
# The records of a span

Which records the work on a span makes, also where the resolver breaks it off. When it comes to its end
there is a record for every frame, and event by event they are what the details of the event tell. So
what is counted by records is counted by what goes out.
-/

namespace FaultContext.Detail.Enricher

set_option autoImplicit false

open Files (Disk)
open FaultContext.Span (Event Exported)
open Trace (Frame)

variable {σ : Type} {enricher : Enricher σ} {disk : Disk} {session after : Session σ}

/-- The frames that get a record, with their records. Where the resolver breaks off they end. -/
def recordsMade (enricher : Enricher σ) (disk : Disk) :
    List Frame → Session σ → List (Frame × Record)
  | [], _ => []
  | frame :: frames, session =>
      match enricher.record disk frame session with
      | (.error _, _) => []
      | (.ok record, session) => (frame, record) :: enricher.recordsMade disk frames session

def recordsForEvents (enricher : Enricher σ) (disk : Disk) :
    List Event → Session σ → List (Frame × Record)
  | [], _ => []
  | event :: events, session =>
      enricher.recordsMade disk (enricher.parsedForEvent event) session ++
        match enricher.enrichEvent disk event session with
        | (.error _, _) => []
        | (.ok _, session) => enricher.recordsForEvents disk events session

def recordsForSpan (enricher : Enricher σ) (disk : Disk) (span : Span) (session : Session σ) :
    List (Frame × Record) :=
  if !span.needsEnrichment then [] else enricher.recordsForEvents disk span.events session

/-- Unless the resolver breaks off, each frame has its record. -/
theorem records_made_zip {frames : List Frame} {records : List Record}
    (made : enricher.records disk frames session = (.ok records, after)) :
    enricher.recordsMade disk frames session = frames.zip records := by
  induction frames generalizing session records with
  | nil => rfl
  | cons frame frames ih =>
      obtain ⟨first, next, others, one, rest, rfl⟩ := records_ok_cons made
      rw [recordsMade, one, List.zip_cons_cons]
      exact congrArg _ (ih rest)

/-- These are the frames of the event, and the details of what is shown of it are their records. -/
structure EventTold (enricher : Enricher σ) (event shown : Event) (made : List (Frame × Record)) :
    Prop where
  frames : made.map Prod.fst = enricher.parsedForEvent event
  details : made ≠ [] → shown.attributes.get? Span.exceptionStackDetails =
    some (.text (Record.serialize (made.map Prod.snd)))

/-- The same of some events one after the other. -/
inductive EventsTold (enricher : Enricher σ) :
    List Event → List Event → List (Frame × Record) → Prop where
  | nil : EventsTold enricher [] [] []
  | cons {event shown : Event} {events others : List Event} {made rest : List (Frame × Record)}
      (told : EventTold enricher event shown made) (behind : EventsTold enricher events others rest) :
      EventsTold enricher (event :: events) (shown :: others) (made ++ rest)

theorem event_told {event : Event} {enriched : Option Event}
    (done : enricher.enrichEvent disk event session = (.ok enriched, after)) :
    EventTold enricher event (enriched.getD event)
      (enricher.recordsMade disk (enricher.parsedForEvent event) session) := by
  by_cases worth : Enrichable enricher.options event
  · obtain ⟨frames, carried⟩ := worth
    rw [enrich_event_with_frames enricher disk event frames session carried] at done
    split at done
    · cases done
    · rename_i records reached made
      cases done
      have shape := (records_speak_of enricher disk frames session reached records made).length_eq
      rw [parsed_for_event carried, records_made_zip made]
      constructor
      · rw [parsed_for_event carried, List.map_fst_zip (Nat.le_of_eq shape)]
      · intro _
        rw [List.map_snd_zip (Nat.le_of_eq shape.symm)]
        exact Dictionary.get_insert_self event.attributes _ _
  · have frameless : enricher.parsedForEvent event = [] := parsed_for_event_bare worth
    rw [frameless]
    exact ⟨frameless.symm, fun filled => absurd rfl filled⟩

theorem events_told {events shown : List Event} {changed : Bool}
    (done : enricher.enrichEvents disk events session = (.ok (changed, shown), after)) :
    EventsTold enricher events shown (enricher.recordsForEvents disk events session) := by
  induction events generalizing session changed shown with
  | nil =>
      cases done
      exact .nil
  | cons event events ih =>
      rw [Enricher.enrichEvents] at done
      split at done
      · cases done
      · rename_i enriched next one
        split at done
        · cases done
        · rename_i restChanged others last rest
          cases done
          rw [recordsForEvents, one]
          exact .cons (event_told one) (ih rest)

theorem bare_events_told {events : List Event}
    (bare : ∀ event ∈ events, ¬Enrichable enricher.options event) :
    EventsTold enricher events events [] := by
  induction events with
  | nil => exact .nil
  | cons event events ih =>
      obtain ⟨first, others⟩ := List.forall_mem_cons.1 bare
      have frameless : EventTold enricher event event [] :=
        ⟨(parsed_for_event_bare first).symm, fun filled => absurd rfl filled⟩
      exact .cons frameless (ih others)

theorem records_for_bare_events {events : List Event}
    (bare : ∀ event ∈ events, ¬Enrichable enricher.options event) :
    enricher.recordsForEvents disk events session = [] := by
  induction events with
  | nil => rfl
  | cons event events ih =>
      obtain ⟨first, others⟩ := List.forall_mem_cons.1 bare
      rw [recordsForEvents, enrich_event_without_frames enricher disk event session first,
        parsed_for_event_bare first]
      exact ih others

/-- What a span goes out with tells all the records that were made of it. -/
theorem span_told {span : Span} {result : Exported}
    (done : enricher.enrichSpan disk span session = (.ok result, after)) :
    EventsTold enricher span.events result.events (enricher.recordsForSpan disk span session) := by
  rw [recordsForSpan]
  obtain ⟨rfl, bare⟩ | ⟨events, rfl, ran⟩ :=
    enrich_span_cases enricher disk span session after result done
  · rw [records_for_bare_events bare, ite_self]
    exact bare_events_told bare
  · split_ifs with closed
    · rw [Enricher.enrichSpan, if_pos closed] at done
      cases done
    · exact events_told ran

end FaultContext.Detail.Enricher
