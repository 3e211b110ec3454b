import Mathlib.Data.List.Forall2
import FaultContext.Detail.Enricher
import FaultContext.Proofs.Dictionaries

/-!
# What enrichment does to a span

An event gets details exactly when it is shaped like an exception, carries a text that is no empty
one as its trace, and the trace has a frame under the options of the enricher. The gate in front of a
span asks for less than that, so it never keeps details away. Everything is said of runs that no
resolver breaks off; the session in which an event is reached is the one behind the events before it.
-/

namespace FaultContext

set_option autoImplicit false

namespace Detail

open Files (Disk)
open Origin (Abort)
open FaultContext.Span (Event Exported)
open Trace (Frame)

/-- The event is shaped like an exception, and these are the frames of its trace, at least one. -/
def CarriesFrames (options : Trace.Options) (event : Event) (frames : List Frame) : Prop :=
  event.isException = true ∧
    ∃ trace, event.attributes.get? Span.exceptionStacktrace = some (.text trace) ∧ trace ≠ [] ∧
      Trace.frames options trace = frames ∧ frames ≠ []

/-- The event has something to say about its frames. -/
def Enrichable (options : Trace.Options) (event : Event) : Prop :=
  ∃ frames, CarriesFrames options event frames

/-- A record that speaks of this frame. -/
def SpeaksOf (frame : Frame) (record : Record) : Prop :=
  record.functionName = frame.functionName ∧ record.file = frame.fileName ∧
    record.line = frame.lineOrUnknown

theorem stacktrace_eq_some_iff (event : Event) (trace : Text) :
    event.stacktrace? = some trace ↔
      event.attributes.get? Span.exceptionStacktrace = some (.text trace) ∧ trace ≠ [] := by
  rw [Event.stacktrace?, Event.textAttribute?, Option.filter_eq_some_iff]
  constructor
  · rintro ⟨found, filled⟩
    obtain ⟨value, held, text⟩ := Option.bind_eq_some_iff.1 found
    cases value <;> simp [Span.AttributeValue.asText?] at text
    subst text
    exact ⟨held, by simpa using filled⟩
  · rintro ⟨held, filled⟩
    refine ⟨Option.bind_eq_some_iff.2 ⟨_, held, rfl⟩, by simpa using filled⟩

theorem carries_frames_unique {options : Trace.Options} {event : Event} {frames others : List Frame}
    (these : CarriesFrames options event frames) (those : CarriesFrames options event others) :
    frames = others := by
  obtain ⟨-, trace, held, -, rfl, -⟩ := these
  obtain ⟨-, other, found, -, rfl, -⟩ := those
  rw [held] at found
  cases found
  rfl

namespace Enricher

variable {σ : Type}

/-- The ways in which the work on a frame can go, with the session behind it. -/
inductive Recording (enricher : Enricher σ) (disk : Disk) (frame : Frame) (session : Session σ) :
    Except Abort Record × Session σ → Prop where
  | brokenOff {abort : Abort} {next : Session σ}
      (told : enricher.isExternal disk frame.qualifiedType session = (.error abort, next)) :
      Recording enricher disk frame session (.error abort, next)
  | skipped {external : Bool} {next : Session σ}
      (told : enricher.isExternal disk frame.qualifiedType session = (.ok external, next))
      (leave : (external && !enricher.extractExternal) = true) :
      Recording enricher disk frame session (.ok (.skipped frame enricher.language), next)
  | failed {external : Bool} {next last : Session σ}
      (told : enricher.isExternal disk frame.qualifiedType session = (.ok external, next))
      (tried : (external && !enricher.extractExternal) = false)
      (cut : enricher.excerpt disk frame next = (none, last)) :
      Recording enricher disk frame session
        (.ok (.extractionFailed frame enricher.language external), last)
  | extracted {external : Bool} {next last : Session σ} {excerpt : Code.Excerpt}
      (told : enricher.isExternal disk frame.qualifiedType session = (.ok external, next))
      (tried : (external && !enricher.extractExternal) = false)
      (cut : enricher.excerpt disk frame next = (some excerpt, last)) :
      Recording enricher disk frame session
        (.ok (.extracted frame enricher.language external excerpt), last)

theorem record_recording (enricher : Enricher σ) (disk : Disk) (frame : Frame)
    (session : Session σ) :
    Recording enricher disk frame session (enricher.record disk frame session) := by
  rw [Enricher.record]
  split
  · exact .brokenOff ‹_›
  · split_ifs with leave
    · exact .skipped ‹_› leave
    · have tried := Bool.eq_false_iff.2 leave
      split
      · exact .extracted ‹_› tried ‹_›
      · exact .failed ‹_› tried ‹_›

theorem record_speaks_of (enricher : Enricher σ) (disk : Disk) (frame : Frame)
    (session after : Session σ) (record : Record)
    (made : enricher.record disk frame session = (.ok record, after)) : SpeaksOf frame record := by
  have way := record_recording enricher disk frame session
  rw [made] at way
  cases way <;> exact ⟨rfl, rfl, rfl⟩

/-- One record for each frame, in the order of the frames. -/
theorem records_speak_of (enricher : Enricher σ) (disk : Disk) (frames : List Frame)
    (session after : Session σ) (records : List Record)
    (made : enricher.records disk frames session = (.ok records, after)) :
    List.Forall₂ SpeaksOf frames records := by
  induction frames generalizing session records with
  | nil =>
      cases made
      exact .nil
  | cons frame frames ih =>
      rw [Enricher.records] at made
      split at made
      · cases made
      · rename_i first next one
        split at made
        · cases made
        · rename_i others last rest
          cases made
          exact .cons (record_speaks_of enricher disk frame session next first one)
            (ih next others rest)

theorem frameless_of_bare {options : Trace.Options} {event : Event} {trace : Text}
    (bare : ¬Enrichable options event) (shaped : event.isException = true)
    (found : event.stacktrace? = some trace) : Trace.frames options trace = [] := by
  obtain ⟨held, filled⟩ := (stacktrace_eq_some_iff event trace).1 found
  by_contra framed
  exact bare ⟨_, shaped, trace, held, filled, rfl, framed⟩

theorem enrich_event_without_frames (enricher : Enricher σ) (disk : Disk) (event : Event)
    (session : Session σ) (bare : ¬Enrichable enricher.options event) :
    enricher.enrichEvent disk event session = (.ok none, session) := by
  rw [Enricher.enrichEvent]
  split
  · rfl
  · rename_i trace found
    split_ifs at found with shaped
    have frameless := frameless_of_bare bare shaped found
    simp [Enricher.stackDetailsJson, Enricher.stackDetails, frameless, Enricher.records]

theorem enrich_event_with_frames (enricher : Enricher σ) (disk : Disk) (event : Event)
    (frames : List Frame) (session : Session σ)
    (carried : CarriesFrames enricher.options event frames) :
    enricher.enrichEvent disk event session =
      match enricher.records disk frames session with
      | (.error abort, reached) => (.error abort, reached)
      | (.ok records, reached) =>
          (.ok (some (event.withAttribute Span.exceptionStackDetails
              (.text (Record.serialize records)))),
            { reached with tally := reached.tally.performed .serialize }) := by
  obtain ⟨shaped, trace, held, filled, rfl, framed⟩ := carried
  have found : event.stacktrace? = some trace :=
    (stacktrace_eq_some_iff event trace).2 ⟨held, filled⟩
  simp only [Enricher.enrichEvent, shaped, found, if_true, Enricher.stackDetailsJson,
    Enricher.stackDetails]
  cases made : enricher.records disk (Trace.frames enricher.options trace) session with
  | mk outcome reached =>
      cases outcome with
      | error abort => rfl
      | ok records =>
          -- As many records as frames, so the list that is written is never the empty one.
          have shape := (records_speak_of enricher disk _ session reached records made).length_eq
          have written : records.isEmpty = false := by
            cases records with
            | nil => exact absurd (List.eq_nil_of_length_eq_zero shape) framed
            | cons first others => rfl
          simp [written, Enricher.serialize]

/-- How an event that is reached in this session is shown. -/
structure Shows (enricher : Enricher σ) (disk : Disk) (session : Session σ) (event shown : Event) :
    Prop where
  kept : ¬Enrichable enricher.options event → shown = event
  detailed : ∀ frames, CarriesFrames enricher.options event frames →
    shown.name = event.name ∧ shown.time = event.time ∧
      (∀ key, key ≠ Span.exceptionStackDetails →
        shown.attributes.get? key = event.attributes.get? key) ∧
      ∃ records, (enricher.records disk frames session).1 = .ok records ∧
        List.Forall₂ SpeaksOf frames records ∧
        shown.attributes.get? Span.exceptionStackDetails = some (.text (Record.serialize records))

theorem enrich_event_shows (enricher : Enricher σ) (disk : Disk) (event : Event)
    (session after : Session σ) (enriched : Option Event)
    (done : enricher.enrichEvent disk event session = (.ok enriched, after)) :
    (enriched.isSome = true ↔ Enrichable enricher.options event) ∧
      Shows enricher disk session event (enriched.getD event) := by
  by_cases worth : Enrichable enricher.options event
  · obtain ⟨frames, carried⟩ := worth
    rw [enrich_event_with_frames enricher disk event frames session carried] at done
    split at done
    · cases done
    · rename_i records reached made
      cases done
      refine ⟨⟨fun _ => ⟨frames, carried⟩, fun _ => rfl⟩,
        fun bare => absurd ⟨frames, carried⟩ bare, ?_⟩
      intro others those
      obtain rfl := carries_frames_unique carried those
      refine ⟨rfl, rfl, ?_, records, by rw [made], ?_, ?_⟩
      · intro key different
        exact Dictionary.get_insert_other event.attributes _ key _ different
      · exact records_speak_of enricher disk frames session reached records made
      · exact Dictionary.get_insert_self event.attributes _ _
  · rw [enrich_event_without_frames enricher disk event session worth] at done
    cases done
    exact ⟨⟨fun found => absurd found (by simp), fun found => absurd found worth⟩,
      fun _ => rfl, fun frames carried => absurd ⟨frames, carried⟩ worth⟩

theorem enrich_events_reach (enricher : Enricher σ) (disk : Disk) (event : Event)
    (events : List Event) (session next : Session σ) (enriched : Option Event)
    (one : enricher.enrichEvent disk event session = (.ok enriched, next)) :
    (enricher.enrichEvents disk (event :: events) session).2 =
      (enricher.enrichEvents disk events next).2 := by
  rw [Enricher.enrichEvents, one]
  dsimp only
  split <;> rename_i others <;> rw [others]

/-- The induction over the events carries the session along, so each event is met in the session that
the events before it leave. -/
theorem enrich_events_show (enricher : Enricher σ) (disk : Disk) (events shown : List Event)
    (session after : Session σ) (changed : Bool)
    (done : enricher.enrichEvents disk events session = (.ok (changed, shown), after)) :
    shown.length = events.length ∧
      (changed = true ↔ ∃ event ∈ events, Enrichable enricher.options event) ∧
      ∀ index event, events[index]? = some event → ∃ output, shown[index]? = some output ∧
        Shows enricher disk (enricher.enrichEvents disk (events.take index) session).2 event output := by
  induction events generalizing session changed shown with
  | nil =>
      cases done
      exact ⟨rfl, by simp, by simp⟩
  | cons event events ih =>
      rw [Enricher.enrichEvents] at done
      split at done
      · cases done
      · rename_i enriched next one
        split at done
        · cases done
        · rename_i restChanged others last rest
          cases done
          obtain ⟨worth, first⟩ := enrich_event_shows enricher disk event session next enriched one
          obtain ⟨sameLength, restWorth, restShows⟩ := ih others next restChanged rest
          refine ⟨by simp [sameLength], ?_, ?_⟩
          · rw [Bool.or_eq_true, worth, restWorth, List.exists_mem_cons_iff]
          · intro index met found
            cases index with
            | zero =>
                cases found
                exact ⟨_, rfl, first⟩
            | succ index =>
                obtain ⟨output, placed, view⟩ := restShows index met found
                refine ⟨output, placed, ?_⟩
                rw [List.take_succ_cons, enrich_events_reach enricher disk event _ session next
                  enriched one]
                exact view

theorem needs_enrichment_of_exception (span : Span) (event : Event) (member : event ∈ span.events)
    (shaped : event.isException = true) : span.needsEnrichment = true := by
  rw [Span.needsEnrichment, Bool.or_eq_true]
  exact Or.inr (List.any_eq_true.2 ⟨event, member, shaped⟩)

/-- Either no event is worth it and the span is left as it is, or some event is and the view shows what
came of all of them. -/
theorem enrich_span_cases (enricher : Enricher σ) (disk : Disk) (span : Span)
    (session after : Session σ) (result : Exported)
    (done : enricher.enrichSpan disk span session = (.ok result, after)) :
    (result = .plain span ∧ ∀ event ∈ span.events, ¬Enrichable enricher.options event) ∨
      ∃ events, result = .enriched span events ∧
        enricher.enrichEvents disk span.events session = (.ok (true, events), after) := by
  rw [Enricher.enrichSpan] at done
  split_ifs at done with closed
  · cases done
    refine Or.inl ⟨rfl, ?_⟩
    rintro event member ⟨frames, shaped, -⟩
    have opened := needs_enrichment_of_exception span event member shaped
    simp [opened] at closed
  · split at done
    · cases done
    · rename_i changed events reached ran
      cases changed with
      | true =>
          cases done
          exact Or.inr ⟨events, rfl, ran⟩
      | false =>
          cases done
          obtain ⟨-, worth, -⟩ :=
            enrich_events_show enricher disk span.events events session after false ran
          refine Or.inl ⟨rfl, fun event member enrichable => ?_⟩
          exact absurd (worth.2 ⟨event, member, enrichable⟩) (by simp)

theorem enrich_span_source (enricher : Enricher σ) (disk : Disk) (span : Span)
    (session after : Session σ) (result : Exported)
    (done : enricher.enrichSpan disk span session = (.ok result, after)) : result.source = span := by
  rcases enrich_span_cases enricher disk span session after result done with
    ⟨rfl, -⟩ | ⟨events, rfl, -⟩ <;> rfl

theorem enrich_span_enriched_iff (enricher : Enricher σ) (disk : Disk) (span : Span)
    (session after : Session σ) (result : Exported)
    (done : enricher.enrichSpan disk span session = (.ok result, after)) :
    result.isEnriched = true ↔ ∃ event ∈ span.events, Enrichable enricher.options event := by
  rcases enrich_span_cases enricher disk span session after result done with
    ⟨rfl, bare⟩ | ⟨events, rfl, ran⟩
  · constructor
    · intro enriched
      cases enriched
    · rintro ⟨event, member, enrichable⟩
      exact absurd enrichable (bare event member)
  · obtain ⟨-, worth, -⟩ := enrich_events_show enricher disk span.events events session after true ran
    exact ⟨fun _ => worth.1 rfl, fun _ => rfl⟩

/-- An enricher that knows no sources, with a resolver. -/
def sourceless (resolver : Origin.Resolver σ) : Enricher σ where
  classifier := ⟨resolver, []⟩
  places := ⟨[], [], false, [], [], 100⟩
  contextLines := 5
  language := "java".toList
  extractExternal := false
  options := {}
  cachePolicy := .lru
  cacheCapacity := 100

def emptyDisk : Disk := ⟨.directory [], "/w".toList⟩

def staleTrace : Text := "E: m\n\tat com.acme.Foo.bar(Foo.java:10)".toList

/-- An exception with details of an earlier run. -/
def staleEvent : Event :=
  (Event.exception 2 "E".toList "m".toList staleTrace).withAttribute Span.exceptionStackDetails
    (.text "stale".toList)

/-- The stale exception between a log entry and an error whose trace is no text. -/
def mixedSpan : Span where
  traceId := "t".toList
  spanId := "s".toList
  name := "GET /orders".toList
  events :=
    [⟨"cache.miss".toList, 1, .empty⟩, staleEvent,
      (⟨"error".toList, 3, .empty⟩ : Event).withAttribute Span.exceptionStacktrace (.bool true)]

end Enricher

end Detail

end FaultContext
