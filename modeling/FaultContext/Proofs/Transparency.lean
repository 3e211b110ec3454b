import FaultContext.Export
import FaultContext.Proofs.EventDetails

/-!
# The enriching sink is transparent

What stands behind an enriching sink cannot tell it from a caller of its own: it receives the same
calls in the same order, each batch with a span for each span, and its answers go back unchanged. What
the sink behind receives is read off a sink that writes its calls down.
-/

namespace FaultContext.Export

set_option autoImplicit false

open Detail (Enricher Session Enrichable)
open Files (Disk)
open FaultContext.Span (Exported)

variable {σ δ : Type}

/-- A sink that also writes down the calls it receives. -/
def Sink.recording (sink : Sink δ) : Sink (List Call × δ) where
  deliver := fun disk batch state =>
    let (reply, next) := sink.deliver disk batch state.2
    (reply, state.1 ++ [.deliver disk batch], next)
  flush := fun state =>
    let (reply, next) := sink.flush state.2
    (reply, state.1 ++ [.flush], next)
  shutdown := fun state =>
    let (reply, next) := sink.shutdown state.2
    (reply, state.1 ++ [.shutdown], next)

theorem recording_call (sink : Sink δ) (call : Call) (log : List Call) (state : δ) :
    sink.recording.call call (log, state) =
      ((sink.call call state).1, log ++ [call], (sink.call call state).2) := by
  cases call <;> rfl

theorem recording_run (sink : Sink δ) (calls log : List Call) (state : δ) :
    sink.recording.run calls (log, state) =
      ((sink.run calls state).1, log ++ calls, (sink.run calls state).2) := by
  induction calls generalizing log state with
  | nil => simp [Sink.run]
  | cons call calls ih =>
      simp only [Sink.run, recording_call, ih]
      simp

/-- The work on this span was broken off by the resolver at some time. -/
def BrokenOff (enricher : Enricher σ) (disk : Disk) (span : Span) : Prop :=
  ∃ before after abort, enricher.enrichSpan disk span before = (.error abort, after)

/-- How a span may arrive behind the enriching sink. -/
structure Arrives (enricher : Enricher σ) (disk : Disk) (input passed : Exported) : Prop where
  source : passed.source = input.source
  view : input.isEnriched = true → passed = input
  enriched : ∀ span, input = .plain span →
    (passed.isEnriched = true ↔ ∃ event ∈ span.events, Enrichable enricher.options event) ∨
      (passed = .plain span ∧ BrokenOff enricher disk span)

/-- A call, and what becomes of it behind the enriching sink. -/
inductive Forwards (enricher : Enricher σ) : Call → Call → Prop
  | deliver {disk : Disk} {batch passed : List Exported}
      (arrives : List.Forall₂ (Arrives enricher disk) batch passed) :
      Forwards enricher (.deliver disk batch) (.deliver disk passed)
  | flush : Forwards enricher .flush .flush
  | shutdown : Forwards enricher .shutdown .shutdown

namespace Enriching

theorem enrich_one_arrives (enricher : Enricher σ) (disk : Disk) (exported : Exported)
    (session : Session σ) :
    Arrives enricher disk exported (enricher.enrichOne disk exported session).1 := by
  cases exported with
  | enriched span events =>
      exact ⟨rfl, fun _ => rfl, fun other impossible => by cases impossible⟩
  | plain span =>
      rw [Enricher.enrichOne]
      split
      · rename_i abort after broken
        refine ⟨rfl, fun view => absurd view (by simp [Exported.isEnriched]), ?_⟩
        intro other same
        cases same
        exact Or.inr ⟨rfl, _, after, abort, broken⟩
      · rename_i result after ran
        refine ⟨Enricher.enrich_span_source enricher disk span _ after result ran,
          fun view => absurd view (by simp [Exported.isEnriched]), ?_⟩
        intro other same
        cases same
        exact Or.inl (Enricher.enrich_span_enriched_iff enricher disk span _ after result ran)

theorem enrich_batch_arrives (enricher : Enricher σ) (disk : Disk) (batch : List Exported)
    (session : Session σ) :
    List.Forall₂ (Arrives enricher disk) batch (enricher.enrichBatch disk batch session).1 := by
  induction batch generalizing session with
  | nil => exact .nil
  | cons exported batch ih =>
      exact .cons (enrich_one_arrives enricher disk exported session) (ih _)

/-- What a call is turned into, and the session after it. -/
def passOn (enricher : Enricher σ) (call : Call) (session : Session σ) : Call × Session σ :=
  match call with
  | .deliver disk batch =>
      let (passed, session) := enricher.enrichBatch disk batch session
      (.deliver disk passed, { session with tally := session.tally.performed .batchExport })
  | .flush => (.flush, session)
  | .shutdown => (.shutdown, Enricher.clearCache session)

/-- What calls are turned into one after the other, and the session after them. -/
def passAllOn (enricher : Enricher σ) : List Call → Session σ → List Call × Session σ
  | [], session => ([], session)
  | call :: calls, session =>
      let (first, session) := passOn enricher call session
      let (others, session) := passAllOn enricher calls session
      (first :: others, session)

theorem pass_on_forwards (enricher : Enricher σ) (call : Call) (session : Session σ) :
    Forwards enricher call (passOn enricher call session).1 := by
  cases call with
  | deliver disk batch => exact .deliver (enrich_batch_arrives enricher disk batch session)
  | flush => exact .flush
  | shutdown => exact .shutdown

theorem pass_all_on_forwards (enricher : Enricher σ) (calls : List Call) (session : Session σ) :
    List.Forall₂ (Forwards enricher) calls (passAllOn enricher calls session).1 := by
  induction calls generalizing session with
  | nil => exact .nil
  | cons call calls ih => exact .cons (pass_on_forwards enricher call session) (ih _)

theorem pass_all_on_append (enricher : Enricher σ) (earlier later : List Call)
    (session : Session σ) :
    passAllOn enricher (earlier ++ later) session =
      ((passAllOn enricher earlier session).1 ++
          (passAllOn enricher later (passAllOn enricher earlier session).2).1,
        (passAllOn enricher later (passAllOn enricher earlier session).2).2) := by
  induction earlier generalizing session with
  | nil => rfl
  | cons call earlier ih => simp only [List.cons_append, passAllOn, ih]

theorem pass_all_on_length (enricher : Enricher σ) (calls : List Call) (session : Session σ) :
    (passAllOn enricher calls session).1.length = calls.length :=
  (pass_all_on_forwards enricher calls session).length_eq.symm

theorem sink_call (enricher : Enricher σ) (behind : Sink δ) (call : Call) (session : Session σ)
    (state : δ) :
    (sink enricher behind).call call ⟨session, state⟩ =
      ((behind.call (passOn enricher call session).1 state).1,
        ⟨(passOn enricher call session).2, (behind.call (passOn enricher call session).1 state).2⟩) := by
  cases call <;> rfl

/-- A run of the enriching sink is a run of the sink behind on what was passed on. -/
theorem sink_run (enricher : Enricher σ) (behind : Sink δ) (calls : List Call) (session : Session σ)
    (state : δ) :
    (sink enricher behind).run calls ⟨session, state⟩ =
      ((behind.run (passAllOn enricher calls session).1 state).1,
        ⟨(passAllOn enricher calls session).2,
          (behind.run (passAllOn enricher calls session).1 state).2⟩) := by
  induction calls generalizing session state with
  | nil => rfl
  | cons call calls ih => simp only [Sink.run, passAllOn, sink_call, ih]

theorem recorded_calls (enricher : Enricher σ) (behind : Sink δ) (calls : List Call)
    (session : Session σ) (state : δ) :
    ((sink enricher behind.recording).run calls ⟨session, [], state⟩).2.behind.1 =
      (passAllOn enricher calls session).1 := by
  rw [sink_run, recording_run, List.nil_append]

/-- The session in which a call is made after the earlier ones, whatever stands behind. -/
theorem session_after (enricher : Enricher σ) (behind : Sink δ) (calls : List Call)
    (session : Session σ) (state : δ) :
    ((sink enricher behind).run calls ⟨session, state⟩).2.session =
      (passAllOn enricher calls session).2 := by
  rw [sink_run]

theorem cache_empty_after_shutdown (enricher : Enricher σ) (earlier : List Call)
    (session : Session σ) :
    (passAllOn enricher (earlier ++ [.shutdown]) session).2.cache.entries = [] := by
  rw [pass_all_on_append]
  rfl

theorem passed_on_at (enricher : Enricher σ) (earlier later : List Call) (call : Call)
    (session : Session σ) :
    (passAllOn enricher (earlier ++ call :: later) session).1[earlier.length]? =
      some (passOn enricher call (passAllOn enricher earlier session).2).1 := by
  rw [pass_all_on_append]
  dsimp only
  have size := pass_all_on_length enricher earlier session
  rw [List.getElem?_append_right (Nat.le_of_eq size), size, Nat.sub_self]
  rfl

/-- The sink behind receives the calls in their order, each batch with a view of the same span at each
place, and gives the answers, as if it had been called with what it received; that it writes down
what it receives changes nothing. A shutdown leaves no source in the cache, and a batch that comes
after it is enriched in the session of that time and passed on like any other. -/
theorem enriching_sink_transparent (enricher : Enricher σ) (behind : Sink δ) (calls : List Call)
    (session : Session σ) (state : δ) :
    let recorded := (sink enricher behind.recording).run calls ⟨session, [], state⟩
    let received := recorded.2.behind.1
    let direct := (sink enricher behind).run calls ⟨session, state⟩
    List.Forall₂ (Forwards enricher) calls received ∧
      direct.1 = (behind.run received state).1 ∧ direct.2.behind = (behind.run received state).2 ∧
      recorded.1 = direct.1 ∧ recorded.2.behind.2 = direct.2.behind ∧
      (∀ earlier later, calls = earlier ++ .shutdown :: later →
        ((sink enricher behind).run (earlier ++ [.shutdown]) ⟨session, state⟩).2.session.cache.size =
          0) ∧
      ∀ earlier between disk batch later,
        calls = earlier ++ .shutdown :: (between ++ .deliver disk batch :: later) →
          let reached := ((sink enricher behind).run (earlier ++ .shutdown :: between)
            ⟨session, state⟩).2.session
          received[(earlier ++ .shutdown :: between).length]? =
              some (.deliver disk (enricher.enrichBatch disk batch reached).1) ∧
            List.Forall₂ (Arrives enricher disk) batch (enricher.enrichBatch disk batch reached).1 := by
  intro recorded received direct
  have log : received = (passAllOn enricher calls session).1 :=
    recorded_calls enricher behind calls session state
  refine ⟨?_, ?_, ?_, ?_, ?_, ?_, ?_⟩
  · rw [log]
    exact pass_all_on_forwards enricher calls session
  · rw [log]
    exact congrArg Prod.fst (sink_run enricher behind calls session state)
  · rw [log]
    exact congrArg (fun outcome => outcome.2.behind) (sink_run enricher behind calls session state)
  · simp only [recorded, direct, sink_run, recording_run]
  · simp only [recorded, direct, sink_run, recording_run]
  · intro earlier later _
    rw [session_after, Lookup.Cache.size, cache_empty_after_shutdown]
    rfl
  · intro earlier between disk batch later shape reached
    refine ⟨?_, enrich_batch_arrives enricher disk batch reached⟩
    have place := passed_on_at enricher (earlier ++ .shutdown :: between) later (.deliver disk batch)
      session
    rw [List.append_assoc, List.cons_append, ← shape, ← log] at place
    rw [place, passOn, ← session_after enricher behind _ session state]

open Detail.Enricher (sourceless emptyDisk mixedSpan)

/-- A batch, a shutdown, and the batch again. -/
def lateCalls : List Call :=
  [.deliver emptyDisk [.plain mixedSpan], .shutdown, .deliver emptyDisk [.plain mixedSpan]]

theorem enriching_sink_transparent_late :
    let enricher := sourceless .ignorant
    let behind := Memory.sink none
    let received := ((sink enricher behind.recording).run lateCalls ⟨enricher.start (), [], {}⟩).2.behind.1
    ((sink enricher behind).run (lateCalls.take 2) ⟨enricher.start (), {}⟩).2.session.cache.size = 0 ∧
      ∃ passed, received[2]? = some (.deliver emptyDisk passed) ∧
        List.Forall₂ (Arrives enricher emptyDisk) [.plain mixedSpan] passed := by
  intro enricher behind received
  obtain ⟨-, -, -, -, -, empty, late⟩ :=
    enriching_sink_transparent enricher behind lateCalls (enricher.start ()) {}
  refine ⟨empty [.deliver emptyDisk [.plain mixedSpan]] [.deliver emptyDisk [.plain mixedSpan]] rfl, ?_⟩
  obtain ⟨place, arrives⟩ :=
    late [.deliver emptyDisk [.plain mixedSpan]] [] emptyDisk [.plain mixedSpan] [] rfl
  exact ⟨_, place, arrives⟩

end Enriching

end FaultContext.Export
