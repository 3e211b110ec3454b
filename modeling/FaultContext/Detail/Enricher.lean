import FaultContext.Detail.Record
import FaultContext.Lookup.Search
import FaultContext.Origin.Classification
import FaultContext.Origin.Resolver
import FaultContext.Span.Basic
import FaultContext.Trace.Frame

/-!
# Enriching spans

The way from a printed trace to records, and from records to an attribute of the event that carries
the trace. An enricher remembers classifications and sources from span to span. When the resolver
aborts, the work on that span ends there, and what was remembered until then stays.
-/

namespace FaultContext.Detail

set_option autoImplicit false

open Config (Settings)
open Files (Disk)
open Metrics (Tally)
open Origin (Abort Classifier Resolver)
open FaultContext.Span (Event Exported)
open Trace (Frame)

structure Enricher (σ : Type) where
  classifier : Classifier σ
  places : Lookup.Places
  contextLines : Nat
  language : Text
  extractExternal : Bool
  options : Trace.Options
  cachePolicy : Lookup.CachePolicy
  cacheCapacity : Nat

structure Session (σ : Type) where
  resolver : σ
  memo : List (Text × Bool)
  cache : Lookup.Cache
  tally : Tally

/-- The outcome of a step that the resolver may break off, and what is remembered after it. -/
abbrev Step (σ α : Type) := Session σ → Except Abort α × Session σ

namespace Enricher

variable {σ : Type}

/-- The enricher that some settings ask for, with a resolver, on a machine with this room. -/
def ofSettings (room : Lookup.Room) (settings : Settings) (resolver : Resolver σ) :
    Except StartError (Enricher σ) :=
  match Lookup.Places.ofSettings settings with
  | .error error => .error (.config error)
  | .ok places =>
      match Lookup.Cache.create? room settings.cachePolicy settings.cacheSize with
      | none => .error .noRoom
      | some cache =>
          .ok
            { classifier := ⟨resolver, settings.externalPackages⟩
              places := places
              contextLines := settings.contextLines
              language := settings.language
              extractExternal := settings.extractExternal
              options := ⟨settings.includeCauseFrames, settings.maxFrames⟩
              cachePolicy := cache.policy
              cacheCapacity := cache.capacity }

/-- The class path that the settings ask for. An empty one resolves nothing. -/
def classPath (settings : Settings) : Origin.ClassPath :=
  .ofEntries settings.resolvedClassPath settings.resolvedPlatformClassPath

def start (enricher : Enricher σ) (memory : σ) : Session σ where
  resolver := memory
  memo := []
  cache := { policy := enricher.cachePolicy, capacity := enricher.cacheCapacity }
  tally := {}

def isExternal (enricher : Enricher σ) (disk : Disk) (name : Text) : Step σ Bool := fun session =>
  let (outcome, state) :=
    enricher.classifier.isExternal disk name ⟨session.resolver, session.memo, session.tally⟩
  (outcome, { session with resolver := state.resolver, memo := state.memo, tally := state.tally })

def findSource (enricher : Enricher σ) (disk : Disk) (qualifiedType fileName : Text)
    (session : Session σ) : Lookup.Lines × Session σ :=
  let (lines, state) :=
    Lookup.findSource enricher.places disk qualifiedType fileName ⟨session.cache, session.tally⟩
  (lines, { session with cache := state.cache, tally := state.tally })

def excerpt (enricher : Enricher σ) (disk : Disk) (frame : Frame) (session : Session σ) :
    Option Code.Excerpt × Session σ :=
  match frame.fileName, frame.line with
  | some fileName, some line =>
      let (lines, session) := enricher.findSource disk frame.qualifiedType fileName session
      if lines.isEmpty then (none, session)
      else
        (Code.extract enricher.contextLines lines line frame.functionName frame.simpleTypeName,
          { session with tally := session.tally.performed .extract })
  | _, _ => (none, session)

def record (enricher : Enricher σ) (disk : Disk) (frame : Frame) : Step σ Record := fun session =>
  match enricher.isExternal disk frame.qualifiedType session with
  | (.error abort, session) => (.error abort, session)
  | (.ok external, session) =>
      if external && !enricher.extractExternal then (.ok (.skipped frame enricher.language), session)
      else
        match enricher.excerpt disk frame session with
        | (some excerpt, session) =>
            (.ok (.extracted frame enricher.language external excerpt), session)
        | (none, session) => (.ok (.extractionFailed frame enricher.language external), session)

def records (enricher : Enricher σ) (disk : Disk) : List Frame → Step σ (List Record)
  | [], session => (.ok [], session)
  | frame :: frames, session =>
      match enricher.record disk frame session with
      | (.error abort, session) => (.error abort, session)
      | (.ok first, session) =>
          match enricher.records disk frames session with
          | (.error abort, session) => (.error abort, session)
          | (.ok others, session) => (.ok (first :: others), session)

def stackDetails (enricher : Enricher σ) (disk : Disk) (trace : Text) : Step σ (List Record) :=
  enricher.records disk (Trace.frames enricher.options trace)

/-- Records as one line of JSON, counted as work. -/
def serialize (records : List Record) (session : Session σ) : Text × Session σ :=
  (Record.serialize records, { session with tally := session.tally.performed .serialize })

/-- The records of a printed trace as one line of JSON, unless it has no frames. -/
def stackDetailsJson (enricher : Enricher σ) (disk : Disk) (trace : Text) : Step σ (Option Text) :=
  fun session =>
    match enricher.stackDetails disk trace session with
    | (.error abort, session) => (.error abort, session)
    | (.ok records, session) =>
        if records.isEmpty then (.ok none, session)
        else
          let (json, session) := serialize records session
          (.ok (some json), session)

/-- An exception event with its details, if its trace has any frames. -/
def enrichEvent (enricher : Enricher σ) (disk : Disk) (event : Event) : Step σ (Option Event) :=
  fun session =>
    match if event.isException then event.stacktrace? else none with
    | none => (.ok none, session)
    | some trace =>
        match enricher.stackDetailsJson disk trace session with
        | (.error abort, session) => (.error abort, session)
        | (.ok json, session) =>
            (.ok (json.map fun details => event.withAttribute Span.exceptionStackDetails (.text details)),
              session)

/-- Some events, each with its details if it has any, and whether any of them has. -/
def enrichEvents (enricher : Enricher σ) (disk : Disk) : List Event → Step σ (Bool × List Event)
  | [], session => (.ok (false, []), session)
  | event :: events, session =>
      match enricher.enrichEvent disk event session with
      | (.error abort, session) => (.error abort, session)
      | (.ok enriched, session) =>
          match enricher.enrichEvents disk events session with
          | (.error abort, session) => (.error abort, session)
          | (.ok (changed, others), session) =>
              (.ok (enriched.isSome || changed, enriched.getD event :: others), session)

/-- A span, as a view with details if any of its events got some. -/
def enrichSpan (enricher : Enricher σ) (disk : Disk) (span : Span) : Step σ Exported := fun session =>
  if !span.needsEnrichment then (.ok (.plain span), session)
  else
    match enricher.enrichEvents disk span.events session with
    | (.error abort, session) => (.error abort, session)
    | (.ok (changed, events), session) =>
        (.ok (if changed then .enriched span events else .plain span), session)

def clearCache (session : Session σ) : Session σ := { session with cache := session.cache.clear }

/-- A span on its way out. One that is a view already stays as it is, and one whose enrichment is broken
off goes out as it came in. -/
def enrichOne (enricher : Enricher σ) (disk : Disk) (exported : Exported) (session : Session σ) :
    Exported × Session σ :=
  let session := { session with tally := session.tally.spanProcessed }
  match exported with
  | .enriched span events => (.enriched span events, session)
  | .plain span =>
      match enricher.enrichSpan disk span session with
      | (.error _, session) =>
          (.plain span, { session with tally := session.tally.enrichmentFailed })
      | (.ok result, session) =>
          (result,
            if result.isEnriched then { session with tally := session.tally.spanEnriched } else session)

def enrichBatch (enricher : Enricher σ) (disk : Disk) :
    List Exported → Session σ → List Exported × Session σ
  | [], session => ([], session)
  | exported :: batch, session =>
      let (first, session) := enricher.enrichOne disk exported session
      let (others, session) := enricher.enrichBatch disk batch session
      (first :: others, session)

end Enricher

end FaultContext.Detail
