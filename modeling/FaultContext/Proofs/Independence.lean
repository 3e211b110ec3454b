import FaultContext.Proofs.Stateless
import FaultContext.Proofs.Transparency

/-!
# Spans are enriched independently

What becomes of a span does not depend on what was exported before it or beside it. Each call keeps the
session sound, also one in which the resolver breaks off the work on a span, and in a sound session a
span comes out as from an exporter that has just been built.
-/

namespace FaultContext

set_option autoImplicit false

open Files (Disk)
open Origin (Abort Answer)
open FaultContext.Span (Event Exported)
open Trace (Frame)

namespace Detail.Enricher

variable {σ : Type}

/-- The frames that are parsed for a span on its way out. None are parsed for a view. -/
def parsedFor (enricher : Enricher σ) (disk : Disk) (exported : Exported) (session : Session σ) :
    List Frame :=
  match exported with
  | .enriched _ _ => []
  | .plain span =>
      enricher.parsedForSpan disk span { session with tally := session.tally.spanProcessed }

def parsedForBatch (enricher : Enricher σ) (disk : Disk) : List Exported → Session σ → List Frame
  | [], _ => []
  | exported :: batch, session =>
      enricher.parsedFor disk exported session ++
        enricher.parsedForBatch disk batch (enricher.enrichOne disk exported session).2

/-- What comes of a span that is the first and only one. -/
def alone (enricher : Enricher σ) (disk : Disk) (memory : σ) (exported : Exported) : Exported :=
  (enricher.enrichOne disk exported (enricher.start memory)).1

/-- The work on the span has the same outcome in every sound session. -/
def Settled (enricher : Enricher σ) (disk : Disk) (answer : Text → Answer) (exported : Exported) :
    Prop :=
  ∀ span, exported = .plain span →
    ∃ outcome, Settles enricher disk answer (enricher.enrichSpan disk span) outcome

variable {enricher : Enricher σ} {disk : Disk} {memory : σ} {answer : Text → Answer}

theorem enrich_one_plain (span : Span) (session : Session σ) :
    (enricher.enrichOne disk (.plain span) session).1 =
      (enricher.enrichSpan disk span { session with tally := session.tally.spanProcessed }).1.toOption.getD
        (.plain span) := by
  rw [enrichOne]
  split <;> rename_i ended <;> rw [ended] <;> rfl

theorem settled_of_parsed (exported : Exported) (session : Session σ)
    (sound : Sound enricher disk answer session)
    (unmarked : ∀ frame ∈ enricher.parsedFor disk exported session, Unmarked frame) :
    Settled enricher disk answer exported := by
  rintro span rfl
  exact span_settles span _ (sound_counted sound session.tally.spanProcessed) unmarked

theorem enrich_one_keeps_sound (exported : Exported) (settled : Settled enricher disk answer exported)
    (session : Session σ) (sound : Sound enricher disk answer session) :
    Sound enricher disk answer (enricher.enrichOne disk exported session).2 := by
  cases exported with
  | enriched span events => exact sound_counted sound _
  | plain span =>
      obtain ⟨outcome, settles⟩ := settled span rfl
      obtain ⟨-, next⟩ := settles _ (sound_counted sound session.tally.spanProcessed)
      rw [enrichOne]
      split
      · rename_i abort reached broken
        rw [broken] at next
        exact sound_counted next _
      · rename_i result reached made
        rw [made] at next
        dsimp only
        split_ifs
        · exact sound_counted next _
        · exact next

theorem enrich_one_alone (answers : enricher.classifier.resolver.AnswersBy disk memory answer)
    (exported : Exported) (settled : Settled enricher disk answer exported) (session : Session σ)
    (sound : Sound enricher disk answer session) :
    (enricher.enrichOne disk exported session).1 = enricher.alone disk memory exported := by
  cases exported with
  | enriched span events => rfl
  | plain span =>
      obtain ⟨outcome, settles⟩ := settled span rfl
      obtain ⟨here, -⟩ := settles _ (sound_counted sound session.tally.spanProcessed)
      obtain ⟨fresh, -⟩ := settles _ (sound_counted (sound_start memory answers)
        (enricher.start memory).tally.spanProcessed)
      rw [alone, enrich_one_plain, enrich_one_plain, here, fresh]

theorem batch_settled_of_parsed (batch : List Exported) (session : Session σ)
    (sound : Sound enricher disk answer session)
    (unmarked : ∀ frame ∈ enricher.parsedForBatch disk batch session, Unmarked frame) :
    ∀ exported ∈ batch, Settled enricher disk answer exported := by
  induction batch generalizing session with
  | nil =>
      intro exported member
      cases member
  | cons exported batch ih =>
      rw [parsedForBatch] at unmarked
      have first : Settled enricher disk answer exported :=
        settled_of_parsed exported session sound
          fun frame member => unmarked frame (List.mem_append_left _ member)
      have others := ih _ (enrich_one_keeps_sound exported first session sound)
        fun frame member => unmarked frame (List.mem_append_right _ member)
      exact List.forall_mem_cons.2 ⟨first, others⟩

/-- In a sound session each span of a batch comes out as if it were the only one. -/
theorem enrich_batch_alone (answers : enricher.classifier.resolver.AnswersBy disk memory answer)
    (batch : List Exported) (settled : ∀ exported ∈ batch, Settled enricher disk answer exported)
    (session : Session σ) (sound : Sound enricher disk answer session) :
    (enricher.enrichBatch disk batch session).1 = batch.map (enricher.alone disk memory) ∧
      Sound enricher disk answer (enricher.enrichBatch disk batch session).2 := by
  induction batch generalizing session with
  | nil => exact ⟨rfl, sound⟩
  | cons exported batch ih =>
      obtain ⟨first, rest⟩ := List.forall_mem_cons.1 settled
      obtain ⟨others, last⟩ := ih rest _ (enrich_one_keeps_sound exported first session sound)
      rw [enrichBatch, List.map_cons, ← enrich_one_alone answers exported first session sound, ← others]
      exact ⟨rfl, last⟩

end Detail.Enricher

namespace Export.Enriching

open Detail (Enricher Session Unmarked)
open Detail.Enricher (Sound Settled sound_start sound_counted sound_clear_cache batch_settled_of_parsed
  enrich_batch_alone alone)

variable {σ δ : Type} {enricher : Enricher σ} {disk : Disk} {memory : σ} {answer : Text → Answer}

/-- The frames that are parsed during a call. -/
def parsedInCall (enricher : Enricher σ) (call : Call) (session : Session σ) : List Frame :=
  match call with
  | .deliver disk batch => enricher.parsedForBatch disk batch session
  | .flush | .shutdown => []

/-- The frames that are parsed during some calls one after the other. -/
def parsedInCalls (enricher : Enricher σ) : List Call → Session σ → List Frame
  | [], _ => []
  | call :: calls, session =>
      parsedInCall enricher call session ++ parsedInCalls enricher calls (passOn enricher call session).2

theorem parsed_in_calls_append (earlier later : List Call) (session : Session σ) :
    parsedInCalls enricher (earlier ++ later) session =
      parsedInCalls enricher earlier session ++
        parsedInCalls enricher later (passAllOn enricher earlier session).2 := by
  induction earlier generalizing session with
  | nil => rfl
  | cons call earlier ih => simp only [List.cons_append, parsedInCalls, passAllOn, ih, List.append_assoc]

theorem pass_on_keeps_sound (answers : enricher.classifier.resolver.AnswersBy disk memory answer)
    (call : Call) (static : ∀ seen batch, call = .deliver seen batch → seen = disk)
    (session : Session σ) (sound : Sound enricher disk answer session)
    (unmarked : ∀ frame ∈ parsedInCall enricher call session, Unmarked frame) :
    Sound enricher disk answer (passOn enricher call session).2 := by
  cases call with
  | deliver seen batch =>
      obtain rfl := static seen batch rfl
      have settled := batch_settled_of_parsed batch session sound unmarked
      exact sound_counted (enrich_batch_alone answers batch settled session sound).2 _
  | flush => exact sound
  | shutdown => exact sound_clear_cache sound

theorem pass_all_on_keeps_sound (answers : enricher.classifier.resolver.AnswersBy disk memory answer)
    (calls : List Call) (static : ∀ seen batch, .deliver seen batch ∈ calls → seen = disk)
    (session : Session σ) (sound : Sound enricher disk answer session)
    (unmarked : ∀ frame ∈ parsedInCalls enricher calls session, Unmarked frame) :
    Sound enricher disk answer (passAllOn enricher calls session).2 := by
  induction calls generalizing session with
  | nil => exact sound
  | cons call calls ih =>
      rw [parsedInCalls] at unmarked
      have next := pass_on_keeps_sound answers call
        (fun seen batch same => static seen batch (same ▸ List.mem_cons_self)) session sound
        fun frame member => unmarked frame (List.mem_append_left _ member)
      exact ih (fun seen batch member => static seen batch (List.mem_cons_of_mem call member)) _ next
        fun frame member => unmarked frame (List.mem_append_right _ member)

/-- However spans are cut into batches, each is passed on as if it were the only one. -/
theorem batches_passed_on_alone (answers : enricher.classifier.resolver.AnswersBy disk memory answer)
    (batches : List (List Exported))
    (settled : ∀ batch ∈ batches, ∀ exported ∈ batch, Settled enricher disk answer exported)
    (session : Session σ) (sound : Sound enricher disk answer session) :
    (passAllOn enricher (batches.map (.deliver disk)) session).1 =
      batches.map fun batch => .deliver disk (batch.map (enricher.alone disk memory)) := by
  induction batches generalizing session with
  | nil => rfl
  | cons batch batches ih =>
      obtain ⟨first, rest⟩ := List.forall_mem_cons.1 settled
      obtain ⟨passed, next⟩ := enrich_batch_alone answers batch first session sound
      have others := ih rest _ (sound_counted next
        ((enricher.enrichBatch disk batch session).2.tally.performed .batchExport))
      rw [List.map_cons, List.map_cons, ← others, ← passed]
      rfl

/-- After any history of calls each span of a batch comes out as from an exporter that has just been
built, and the resolver breaks off the same spans, which come out as they went in. Neither the order of
the spans nor the way they are cut into batches matters. -/
theorem spans_enriched_independently (enricher : Enricher σ) (behind : Sink δ) (disk : Disk)
    (memory : σ) (answer : Text → Answer)
    (answers : enricher.classifier.resolver.AnswersBy disk memory answer)
    (history : List Call) (state : δ) (spans : List Span)
    (static : ∀ seen batch, .deliver seen batch ∈ history → seen = disk)
    (unmarked : ∀ frame ∈ parsedInCalls enricher (history ++ [.deliver disk (spans.map .plain)])
      (enricher.start memory), '#' ∉ frame.qualifiedType) :
    let reached := ((sink enricher behind).run history ⟨enricher.start memory, state⟩).2.session
    let fresh := fun span => enricher.alone disk memory (.plain span)
    (enricher.enrichBatch disk (spans.map .plain) reached).1 = spans.map fresh ∧
      (∀ index span, spans[index]? = some span →
        let met := (enricher.enrichBatch disk ((spans.take index).map .plain) reached).2
        (enricher.enrichSpan disk span met).1 =
            (enricher.enrichSpan disk span (enricher.start memory)).1 ∧
          ∀ abort, (enricher.enrichSpan disk span met).1 = .error abort → fresh span = .plain span) ∧
      ∀ (batches : List (List Span)) (next : δ), batches.flatten.Perm spans →
        ((sink enricher behind.recording).run
            (batches.map fun batch => .deliver disk (batch.map .plain)) ⟨reached, [], next⟩).2.behind.1 =
          batches.map fun batch => .deliver disk (batch.map fresh) := by
  intro reached fresh
  rw [parsed_in_calls_append] at unmarked
  have start := sound_start memory answers
  have sound : Sound enricher disk answer (passAllOn enricher history (enricher.start memory)).2 :=
    pass_all_on_keeps_sound answers history static _ start
      fun frame member => unmarked frame (List.mem_append_left _ member)
  have all : ∀ exported ∈ spans.map Exported.plain, Settled enricher disk answer exported :=
    batch_settled_of_parsed _ _ sound fun frame member => unmarked frame
      (List.mem_append_right _ (List.mem_append_left _ member))
  have each : ∀ span ∈ spans, Settled enricher disk answer (.plain span) :=
    List.forall_mem_map.1 all
  have after : reached = (passAllOn enricher history (enricher.start memory)).2 :=
    session_after enricher behind history (enricher.start memory) state
  rw [← after] at sound
  refine ⟨?_, ?_, ?_⟩
  · rw [(enrich_batch_alone answers _ all reached sound).1, List.map_map]
    rfl
  · intro index span found met
    have before : ∀ exported ∈ (spans.take index).map Exported.plain,
        Settled enricher disk answer exported :=
      List.forall_mem_map.2 fun other member => each other (List.mem_of_mem_take member)
    have metSound := (enrich_batch_alone answers _ before reached sound).2
    obtain ⟨outcome, settles⟩ := each span (List.mem_of_getElem? found) span rfl
    have here := (settles met metSound).1
    refine ⟨here.trans (settles _ start).1.symm, ?_⟩
    intro abort broken
    have first := (settles _ (sound_counted start (enricher.start memory).tally.spanProcessed)).1
    dsimp only [fresh]
    rw [alone, Enricher.enrich_one_plain, first, ← here, broken]
    rfl
  · intro batches next same
    have within : ∀ batch ∈ batches.map (List.map Exported.plain), ∀ exported ∈ batch,
        Settled enricher disk answer exported := by
      refine List.forall_mem_map.2 fun batch chosen => List.forall_mem_map.2 fun span inside => ?_
      exact each span (same.mem_iff.1 (List.mem_flatten.2 ⟨batch, chosen, inside⟩))
    have passed := batches_passed_on_alone answers _ within reached sound
    rw [List.map_map, List.map_map] at passed
    rw [recorded_calls]
    simpa [Function.comp_def] using passed

open Detail.Enricher (sourceless emptyDisk mixedSpan)

def badName : Text := "com.acme.Bad".toList

/-- Breaks off at one name and knows nothing of the others. -/
def touchy : Text → Answer := fun name =>
  if name = badName then .abort "boom".toList else .unknown (.notFound name)

def badSpan : Span where
  traceId := "t".toList
  spanId := "b".toList
  name := "GET /bad".toList
  events := [.exception 1 "E".toList "m".toList "E: m\n\tat com.acme.Bad.run(Bad.java:3)".toList]

/-- A span that is broken off, beside a view, and then a flush and a shutdown. -/
def brokenHistory : List Call :=
  [.deliver emptyDisk [.plain badSpan, .enriched mixedSpan []], .flush, .shutdown]

theorem spans_enriched_independently_broken :
    let enricher := sourceless (.ofFunction touchy)
    let reached := ((sink enricher (Memory.sink none)).run brokenHistory ⟨enricher.start (), {}⟩).2.session
    (enricher.enrichBatch emptyDisk [.plain mixedSpan, .plain badSpan] reached).1 =
        [enricher.alone emptyDisk () (.plain mixedSpan), .plain badSpan] ∧
      (enricher.alone emptyDisk () (.plain mixedSpan)).isEnriched = true := by
  intro enricher reached
  have static : ∀ seen batch, .deliver seen batch ∈ brokenHistory → seen = emptyDisk := by
    intro seen batch member
    simp only [brokenHistory, List.mem_cons, Call.deliver.injEq, reduceCtorEq, List.not_mem_nil,
      or_false] at member
    exact member.1
  obtain ⟨batch, each, -⟩ :=
    spans_enriched_independently enricher (Memory.sink none) emptyDisk () touchy
      (Origin.Resolver.answers_by_function touchy emptyDisk) brokenHistory {} [mixedSpan, badSpan]
      static (by decide +kernel)
  obtain ⟨same, untouched⟩ := each 1 badSpan rfl
  have broken : (enricher.enrichSpan emptyDisk badSpan (enricher.start ())).1 =
      .error ⟨"boom".toList⟩ := by
    decide +kernel
  refine ⟨?_, by decide +kernel⟩
  exact batch.trans (congrArg (fun last => [_, last]) (untouched _ (same.trans broken)))

end Export.Enriching

end FaultContext
