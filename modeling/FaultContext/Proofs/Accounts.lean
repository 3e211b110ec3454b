import FaultContext.Proofs.CacheInclusion
import FaultContext.Proofs.Independence
import FaultContext.Proofs.RecordsMade

/-!
# The accounts of a run

What a pipeline has counted, against the spans that it met. Counts are taken at different depths: a span
is counted before the work on it begins and again when it is over, and lookups of sources in between,
also on a span whose enrichment is then broken off. So an account is kept of every stretch of work, and the
accounts of a run are those of its spans one after the other.
-/

namespace FaultContext

set_option autoImplicit false

open Files (Disk)
open Metrics (Tally)
open Origin (Abort)
open FaultContext.Span (Event Exported)
open Trace (Frame)

namespace Metrics

/-- Between these two tallies sources were looked up so many times, and no span was counted. -/
structure Tally.Looked (before after : Tally) (count : Nat) : Prop where
  processed : after.processed = before.processed
  enriched : after.enriched = before.enriched
  failures : after.failures = before.failures
  lookups : after.source.hits + after.source.misses =
    before.source.hits + before.source.misses + count

namespace Tally

variable {before between after : Tally} {count others : Nat}

theorem looked_refl (tally : Tally) : Looked tally tally 0 := ⟨rfl, rfl, rfl, rfl⟩

theorem looked_trans (first : Looked before between count) (second : Looked between after others) :
    Looked before after (count + others) := by
  constructor
  · rw [second.processed, first.processed]
  · rw [second.enriched, first.enriched]
  · rw [second.failures, first.failures]
  · rw [second.lookups, first.lookups, Nat.add_assoc]

theorem looked_performed (looked : Looked before after count) (operation : Operation) :
    Looked before (after.performed operation) count :=
  ⟨looked.processed, looked.enriched, looked.failures, looked.lookups⟩

end Tally

end Metrics

namespace Origin.Classifier

variable {σ : Type} {classifier : Classifier σ} {disk : Disk} {name : Text} {state next : State σ}
  {result : Except Abort Bool × State σ} {events : List Event}

theorem own_verdict_looked {told : Except Abort Verdict}
    (own : classifier.ownVerdict disk name (state.asked false) = (told, next)) :
    Tally.Looked state.tally next.tally 0 := by
  rw [(own_verdict_keeps own).2]
  exact ⟨rfl, rfl, rfl, rfl⟩

theorem remember_looked {before : Tally} {count : Nat} (looked : Tally.Looked before state.tally count)
    (external : Bool) : Tally.Looked before (state.remember name external).tally count :=
  Tally.looked_performed looked .classify

/-- No question about a type has any source looked up. -/
theorem unfolds_looked (told : Unfolds classifier disk name state result events) :
    Tally.Looked state.tally result.2.tally 0 := by
  induction told with
  | recalled found => exact ⟨rfl, rfl, rfl, rfl⟩
  | brokenOff unknown own => exact own_verdict_looked own
  | decided unknown own decision => exact remember_looked (own_verdict_looked own) _
  | outermost unknown own undecided alone => exact remember_looked (own_verdict_looked own) false
  | nestedBroken unknown own undecided nested inner ih =>
      exact Tally.looked_trans (own_verdict_looked own) ih
  | nestedAnswered unknown own undecided nested inner ih =>
      apply remember_looked
      exact Tally.looked_trans (own_verdict_looked own) ih

end Origin.Classifier

namespace Lookup

/-- A lookup is a hit or a miss, and never both. -/
theorem find_source_looked (places : Places) (disk : Disk) (qualifiedType fileName : Text)
    (state : FinderState) :
    Tally.Looked state.tally (findSource places disk qualifiedType fileName state).2.tally 1 := by
  rw [findSource]
  split
  · exact ⟨rfl, rfl, rfl, Nat.add_right_comm state.tally.source.hits 1 state.tally.source.misses⟩
  · exact ⟨rfl, rfl, rfl, rfl⟩

end Lookup

namespace Detail.Enricher

variable {σ : Type} {enricher : Enricher σ} {disk : Disk} {frame : Frame} {session after : Session σ}
  {record : Record} {abort : Abort}

/-- The frame was not skipped as an external one, and it tells its file and its line. -/
def wantsSource (enricher : Enricher σ) (made : Frame × Record) : Bool :=
  made.2 != .skipped made.1 enricher.language && made.1.fileName.isSome && made.1.line.isSome

theorem is_external_looked (enricher : Enricher σ) (disk : Disk) (name : Text) (session : Session σ) :
    Tally.Looked session.tally (enricher.isExternal disk name session).2.tally 0 :=
  Origin.Classifier.unfolds_looked
    (Origin.Classifier.is_external_unfolds enricher.classifier disk name
      ⟨session.resolver, session.memo, session.tally⟩)

theorem find_source_looked (enricher : Enricher σ) (disk : Disk) (qualifiedType fileName : Text)
    (session : Session σ) :
    Tally.Looked session.tally
      (enricher.findSource disk qualifiedType fileName session).2.tally 1 := by
  exact Lookup.find_source_looked enricher.places disk qualifiedType fileName
    ⟨session.cache, session.tally⟩

theorem excerpt_looked (enricher : Enricher σ) (disk : Disk) (frame : Frame) (session : Session σ) :
    Tally.Looked session.tally (enricher.excerpt disk frame session).2.tally
      (if frame.fileName.isSome && frame.line.isSome then 1 else 0) := by
  unfold excerpt
  cases named : frame.fileName with
  | none => exact Tally.looked_refl session.tally
  | some fileName =>
      cases numbered : frame.line with
      | none => exact Tally.looked_refl session.tally
      | some line =>
          have looked := find_source_looked enricher disk frame.qualifiedType fileName session
          dsimp only [Option.isSome_some, Bool.and_self]
          split
          · exact looked
          · exact Tally.looked_performed looked .extract

theorem wants_source_filled (filled : record.functionBody ≠ []) :
    enricher.wantsSource (frame, record) = (frame.fileName.isSome && frame.line.isSome) := by
  have kept : (record != .skipped frame enricher.language) = true := by
    rw [bne_iff_ne]
    rintro rfl
    exact filled rfl
  rw [wantsSource, kept, Bool.true_and]

theorem tried_looked {external : Bool} {next last : Session σ} {cut : Option Code.Excerpt}
    (told : enricher.isExternal disk frame.qualifiedType session = (.ok external, next))
    (tried : enricher.excerpt disk frame next = (cut, last)) (filled : record.functionBody ≠ []) :
    Tally.Looked session.tally last.tally (if enricher.wantsSource (frame, record) then 1 else 0) := by
  have asked := is_external_looked enricher disk frame.qualifiedType session
  have looked := excerpt_looked enricher disk frame next
  rw [told] at asked
  rw [tried] at looked
  rw [wants_source_filled filled]
  simpa only [Nat.zero_add] using Tally.looked_trans asked looked

/-- A source is looked up for a frame exactly where its record will tell so. -/
theorem record_looked (made : enricher.record disk frame session = (.ok record, after)) :
    Tally.Looked session.tally after.tally (if enricher.wantsSource (frame, record) then 1 else 0) := by
  have bodiless := (well_formed_of_recorded (recorded_of_record made)).bodiless
  have way := record_recording enricher disk frame session
  rw [made] at way
  cases way with
  | skipped told leave =>
      have asked := is_external_looked enricher disk frame.qualifiedType session
      rw [told] at asked
      simpa [wantsSource] using asked
  | @failed external next last told tried cut =>
      have wanted : ¬(external = true ∧ enricher.extractExternal = false) := by simpa using tried
      exact tried_looked told cut (mt bodiless.1 wanted)
  | @extracted external next last excerpt told tried cut =>
      have wanted : ¬(external = true ∧ enricher.extractExternal = false) := by simpa using tried
      exact tried_looked told cut (mt bodiless.1 wanted)

theorem broken_looked (broken : enricher.record disk frame session = (.error abort, after)) :
    Tally.Looked session.tally after.tally 0 := by
  have asked := is_external_looked enricher disk frame.qualifiedType session
  have way := record_recording enricher disk frame session
  rw [broken] at way
  cases way with
  | brokenOff told =>
      rw [told] at asked
      exact asked

theorem records_looked (enricher : Enricher σ) (disk : Disk) (frames : List Frame)
    (session : Session σ) :
    Tally.Looked session.tally (enricher.records disk frames session).2.tally
      ((enricher.recordsMade disk frames session).countP enricher.wantsSource) := by
  induction frames generalizing session with
  | nil => exact Tally.looked_refl session.tally
  | cons frame frames ih =>
      rw [recordsMade]
      cases ran : enricher.record disk frame session with
      | mk outcome next =>
          cases outcome with
          | error abort =>
              rw [Enricher.records, ran]
              exact broken_looked ran
          | ok record =>
              rw [records_reach frames ran, List.countP_cons, Nat.add_comm]
              exact Tally.looked_trans (record_looked ran) (ih next)

theorem event_looked (enricher : Enricher σ) (disk : Disk) (event : Event) (session : Session σ) :
    Tally.Looked session.tally (enricher.enrichEvent disk event session).2.tally
      ((enricher.recordsMade disk (enricher.parsedForEvent event) session).countP
        enricher.wantsSource) := by
  by_cases worth : Enrichable enricher.options event
  · obtain ⟨frames, carried⟩ := worth
    have looked := records_looked enricher disk frames session
    rw [enrich_event_with_frames enricher disk event frames session carried, parsed_for_event carried]
    split <;> rename_i made <;> rw [made] at looked
    · exact looked
    · exact Tally.looked_performed looked .serialize
  · rw [enrich_event_without_frames enricher disk event session worth, parsed_for_event_bare worth]
    exact Tally.looked_refl session.tally

theorem events_looked (enricher : Enricher σ) (disk : Disk) (events : List Event)
    (session : Session σ) :
    Tally.Looked session.tally (enricher.enrichEvents disk events session).2.tally
      ((enricher.recordsForEvents disk events session).countP enricher.wantsSource) := by
  induction events generalizing session with
  | nil => exact Tally.looked_refl session.tally
  | cons event events ih =>
      have first := event_looked enricher disk event session
      rw [recordsForEvents, List.countP_append]
      cases ran : enricher.enrichEvent disk event session with
      | mk outcome next =>
          rw [ran] at first
          cases outcome with
          | error abort =>
              rw [Enricher.enrichEvents, ran]
              exact first
          | ok enriched =>
              rw [enrich_events_reach enricher disk event events session next enriched ran]
              exact Tally.looked_trans first (ih next)

theorem span_looked (enricher : Enricher σ) (disk : Disk) (span : Span) (session : Session σ) :
    Tally.Looked session.tally (enricher.enrichSpan disk span session).2.tally
      ((enricher.recordsForSpan disk span session).countP enricher.wantsSource) := by
  have looked := events_looked enricher disk span.events session
  rw [Enricher.enrichSpan, recordsForSpan]
  split_ifs
  · exact Tally.looked_refl session.tally
  · split <;> rename_i ran <;> rw [ran] at looked <;> exact looked

/-- A span as it is met on its way out. -/
structure Meeting (σ : Type) where
  disk : Disk
  exported : Exported
  session : Session σ

namespace Meeting

/-- The session in which the work on the span begins. -/
def begun (met : Meeting σ) : Session σ :=
  { met.session with tally := met.session.tally.spanProcessed }

/-- What the span is passed on as. -/
def passed (enricher : Enricher σ) (met : Meeting σ) : Exported :=
  (enricher.enrichOne met.disk met.exported met.session).1

/-- The span came in as it was and goes out as a view. -/
def getsDetails (enricher : Enricher σ) (met : Meeting σ) : Bool :=
  !met.exported.isEnriched && (met.passed enricher).isEnriched

/-- The resolver breaks off the work on the span. -/
def breaksOff (enricher : Enricher σ) (met : Meeting σ) : Bool :=
  match met.exported with
  | .enriched _ _ => false
  | .plain span =>
      match (enricher.enrichSpan met.disk span met.begun).1 with
      | .error _ => true
      | .ok _ => false

/-- The frames of the span that get a record, with their records. -/
def records (enricher : Enricher σ) (met : Meeting σ) : List (Frame × Record) :=
  match met.exported with
  | .enriched _ _ => []
  | .plain span => enricher.recordsForSpan met.disk span met.begun

/-- The records of the span are those that its details tell. A span that came in as a view has none. -/
def Told (enricher : Enricher σ) (met : Meeting σ) : Prop :=
  match met.exported with
  | .enriched _ _ => met.records enricher = []
  | .plain span =>
      EventsTold enricher span.events (met.passed enricher).events (met.records enricher)

end Meeting

/-- Between these two tallies the work on these spans was done. -/
structure Accounts (enricher : Enricher σ) (before after : Tally) (met : List (Meeting σ)) : Prop where
  processed : after.processed = before.processed + met.length
  enriched : after.enriched = before.enriched + met.countP (Meeting.getsDetails enricher)
  failures : after.failures = before.failures + met.countP (Meeting.breaksOff enricher)
  lookups : after.source.hits + after.source.misses = before.source.hits + before.source.misses +
    (met.flatMap (Meeting.records enricher)).countP enricher.wantsSource

theorem accounts_refl (enricher : Enricher σ) (tally : Tally) : Accounts enricher tally tally [] :=
  ⟨rfl, rfl, rfl, rfl⟩

theorem accounts_trans {before between after : Tally} {earlier later : List (Meeting σ)}
    (first : Accounts enricher before between earlier) (second : Accounts enricher between after later) :
    Accounts enricher before after (earlier ++ later) := by
  constructor
  · rw [second.processed, first.processed, List.length_append, Nat.add_assoc]
  · rw [second.enriched, first.enriched, List.countP_append, Nat.add_assoc]
  · rw [second.failures, first.failures, List.countP_append, Nat.add_assoc]
  · rw [second.lookups, first.lookups, List.flatMap_append, List.countP_append, Nat.add_assoc]

theorem enrich_one_broken {span : Span}
    (ran : enricher.enrichSpan disk span { session with tally := session.tally.spanProcessed } =
      (.error abort, after)) :
    enricher.enrichOne disk (.plain span) session =
      (.plain span, { after with tally := after.tally.enrichmentFailed }) := by
  rw [enrichOne, ran]

theorem enrich_one_returned {span : Span} {result : Exported}
    (ran : enricher.enrichSpan disk span { session with tally := session.tally.spanProcessed } =
      (.ok result, after)) :
    enricher.enrichOne disk (.plain span) session =
      (result, if result.isEnriched then { after with tally := after.tally.spanEnriched } else after) := by
  rw [enrichOne, ran]

theorem met_broken {span : Span}
    (ran : enricher.enrichSpan disk span (Meeting.begun ⟨disk, .plain span, session⟩) =
      (.error abort, after)) :
    Meeting.breaksOff enricher ⟨disk, .plain span, session⟩ = true ∧
      Meeting.getsDetails enricher ⟨disk, .plain span, session⟩ = false := by
  constructor
  · simp only [Meeting.breaksOff, ran]
  · simp only [Meeting.getsDetails, Meeting.passed, enrich_one_broken ran]
    rfl

theorem met_returned {span : Span} {result : Exported}
    (ran : enricher.enrichSpan disk span (Meeting.begun ⟨disk, .plain span, session⟩) =
      (.ok result, after)) :
    Meeting.breaksOff enricher ⟨disk, .plain span, session⟩ = false ∧
      Meeting.getsDetails enricher ⟨disk, .plain span, session⟩ = result.isEnriched := by
  constructor
  · simp only [Meeting.breaksOff, ran]
  · simp only [Meeting.getsDetails, Meeting.passed, enrich_one_returned ran]
    rfl

theorem not_broken_with_details (enricher : Enricher σ) (met : Meeting σ)
    (broken : met.breaksOff enricher = true) : met.getsDetails enricher = false := by
  obtain ⟨disk, exported, session⟩ := met
  cases exported with
  | enriched span events => cases broken
  | plain span =>
      cases ran : enricher.enrichSpan disk span (Meeting.begun ⟨disk, .plain span, session⟩) with
      | mk outcome reached =>
          cases outcome with
          | error abort => exact (met_broken ran).2
          | ok result =>
              rw [(met_returned ran).1] at broken
              cases broken

theorem told_unless_broken (enricher : Enricher σ) (met : Meeting σ)
    (whole : met.breaksOff enricher = false) : met.Told enricher := by
  obtain ⟨disk, exported, session⟩ := met
  cases exported with
  | enriched span events => rfl
  | plain span =>
      cases ran : enricher.enrichSpan disk span (Meeting.begun ⟨disk, .plain span, session⟩) with
      | mk outcome reached =>
          cases outcome with
          | error abort =>
              rw [(met_broken ran).1] at whole
              cases whole
          | ok result =>
              have passed : Meeting.passed enricher ⟨disk, .plain span, session⟩ = result := by
                rw [Meeting.passed, enrich_one_returned ran]
              rw [Meeting.Told, passed]
              exact span_told ran

/-- The span is counted when it comes in. When the work on it is over it is counted once more where it
got details or was broken off, and never as both. -/
theorem enrich_one_accounts (enricher : Enricher σ) (met : Meeting σ) :
    Accounts enricher met.session.tally
      (enricher.enrichOne met.disk met.exported met.session).2.tally [met] := by
  obtain ⟨disk, exported, session⟩ := met
  cases exported with
  | enriched span events => exact ⟨rfl, rfl, rfl, rfl⟩
  | plain span =>
      have looked := span_looked enricher disk span (Meeting.begun ⟨disk, .plain span, session⟩)
      cases ran : enricher.enrichSpan disk span (Meeting.begun ⟨disk, .plain span, session⟩) with
      | mk outcome reached =>
          rw [ran] at looked
          cases outcome with
          | error abort =>
              obtain ⟨broken, bare⟩ := met_broken ran
              dsimp only
              rw [enrich_one_broken ran]
              constructor
              · exact looked.processed
              · rw [List.countP_singleton, bare]
                exact looked.enriched
              · rw [List.countP_singleton, broken]
                exact congrArg (· + 1) looked.failures
              · rw [List.flatMap_singleton]
                exact looked.lookups
          | ok result =>
              obtain ⟨whole, detailed⟩ := met_returned ran
              dsimp only
              rw [enrich_one_returned ran]
              constructor
              · split_ifs <;> exact looked.processed
              · rw [List.countP_singleton, detailed]
                split_ifs
                · exact congrArg (· + 1) looked.enriched
                · exact looked.enriched
              · rw [List.countP_singleton, whole, if_neg Bool.false_ne_true]
                split_ifs <;> exact looked.failures
              · rw [List.flatMap_singleton]
                split_ifs <;> exact looked.lookups

/-- The spans of a batch one after the other, each as it is met. -/
def meetings (enricher : Enricher σ) (disk : Disk) : List Exported → Session σ → List (Meeting σ)
  | [], _ => []
  | exported :: batch, session =>
      ⟨disk, exported, session⟩ ::
        enricher.meetings disk batch (enricher.enrichOne disk exported session).2

theorem meetings_exported (enricher : Enricher σ) (disk : Disk) (batch : List Exported)
    (session : Session σ) : (enricher.meetings disk batch session).map Meeting.exported = batch := by
  induction batch generalizing session with
  | nil => rfl
  | cons exported batch ih => rw [meetings, List.map_cons, ih]

theorem meetings_passed (enricher : Enricher σ) (disk : Disk) (batch : List Exported)
    (session : Session σ) :
    (enricher.meetings disk batch session).map (Meeting.passed enricher) =
      (enricher.enrichBatch disk batch session).1 := by
  induction batch generalizing session with
  | nil => rfl
  | cons exported batch ih =>
      rw [meetings, List.map_cons, ih]
      rfl

theorem enrich_batch_accounts (enricher : Enricher σ) (disk : Disk) (batch : List Exported)
    (session : Session σ) :
    Accounts enricher session.tally (enricher.enrichBatch disk batch session).2.tally
      (enricher.meetings disk batch session) := by
  induction batch generalizing session with
  | nil => exact accounts_refl enricher session.tally
  | cons exported batch ih =>
      exact accounts_trans (enrich_one_accounts enricher ⟨disk, exported, session⟩) (ih _)

end Detail.Enricher

namespace Export

open Detail (Enricher Session)
open Detail.Enricher (Meeting Accounts meetings)

/-- The spans that come with a call. -/
def Call.spans : Call → List Exported
  | .deliver _ batch => batch
  | .flush => []
  | .shutdown => []

namespace Enriching

variable {σ δ : Type}

/-- The spans that come with a call, each as it is met. -/
def meetingsIn (enricher : Enricher σ) (call : Call) (session : Session σ) : List (Meeting σ) :=
  match call with
  | .deliver disk batch => enricher.meetings disk batch session
  | .flush | .shutdown => []

/-- The spans that come with some calls one after the other, each as it is met. -/
def meetingsOf (enricher : Enricher σ) : List Call → Session σ → List (Meeting σ)
  | [], _ => []
  | call :: calls, session =>
      meetingsIn enricher call session ++ meetingsOf enricher calls (passOn enricher call session).2

theorem meetings_in_exported (enricher : Enricher σ) (call : Call) (session : Session σ) :
    (meetingsIn enricher call session).map Meeting.exported = call.spans := by
  cases call with
  | deliver disk batch => exact Enricher.meetings_exported enricher disk batch session
  | flush => rfl
  | shutdown => rfl

theorem meetings_in_passed (enricher : Enricher σ) (call : Call) (session : Session σ) :
    (meetingsIn enricher call session).map (Meeting.passed enricher) =
      (passOn enricher call session).1.spans := by
  cases call with
  | deliver disk batch => exact Enricher.meetings_passed enricher disk batch session
  | flush => rfl
  | shutdown => rfl

theorem pass_on_accounts (enricher : Enricher σ) (call : Call) (session : Session σ) :
    Accounts enricher session.tally (passOn enricher call session).2.tally
      (meetingsIn enricher call session) := by
  cases call with
  | deliver disk batch =>
      have accounts := Enricher.enrich_batch_accounts enricher disk batch session
      exact ⟨accounts.processed, accounts.enriched, accounts.failures, accounts.lookups⟩
  | flush => exact Enricher.accounts_refl enricher session.tally
  | shutdown => exact Enricher.accounts_refl enricher session.tally

theorem meetings_of_exported (enricher : Enricher σ) (calls : List Call) (session : Session σ) :
    (meetingsOf enricher calls session).map Meeting.exported = calls.flatMap Call.spans := by
  induction calls generalizing session with
  | nil => rfl
  | cons call calls ih =>
      rw [meetingsOf, List.map_append, meetings_in_exported, ih, List.flatMap_cons]

theorem meetings_of_passed (enricher : Enricher σ) (calls : List Call) (session : Session σ) :
    (meetingsOf enricher calls session).map (Meeting.passed enricher) =
      (passAllOn enricher calls session).1.flatMap Call.spans := by
  induction calls generalizing session with
  | nil => rfl
  | cons call calls ih =>
      rw [meetingsOf, List.map_append, meetings_in_passed, ih]
      rfl

theorem pass_all_on_accounts (enricher : Enricher σ) (calls : List Call) (session : Session σ) :
    Accounts enricher session.tally (passAllOn enricher calls session).2.tally
      (meetingsOf enricher calls session) := by
  induction calls generalizing session with
  | nil => exact Enricher.accounts_refl enricher session.tally
  | cons call calls ih =>
      exact Enricher.accounts_trans (pass_on_accounts enricher call session) (ih _)

/-- After any calls the counts are those of the spans that came in, in whatever session each was met: all of
them, those that came in as they were and went out as views, and those that were broken off, which are
others. Sources were looked up once for each record that was made of a frame with a file and a line and
that was not skipped, be it on a span that was broken off later. On a span that was not, the records are
those of all frames of its events, event by event, and the details that the events go out with tell
them. -/
theorem counts_follow_spans (enricher : Enricher σ) (behind : Sink δ) (calls : List Call)
    (memory : σ) (state : δ) :
    let run := (sink enricher behind.recording).run calls ⟨enricher.start memory, [], state⟩
    let counted := run.2.session.tally
    let met := meetingsOf enricher calls (enricher.start memory)
    met.map Meeting.exported = calls.flatMap Call.spans ∧
      met.map (Meeting.passed enricher) = run.2.behind.1.flatMap Call.spans ∧
      counted.processed = (calls.flatMap Call.spans).length ∧
      counted.enriched = met.countP (Meeting.getsDetails enricher) ∧
      counted.failures = met.countP (Meeting.breaksOff enricher) ∧
      (∀ one ∈ met, ¬(one.getsDetails enricher = true ∧ one.breaksOff enricher = true)) ∧
      (∀ one ∈ met, one.breaksOff enricher = false → one.Told enricher) ∧
      counted.source.hits + counted.source.misses =
        (met.flatMap (Meeting.records enricher)).countP enricher.wantsSource := by
  intro run counted met
  have inputs := meetings_of_exported enricher calls (enricher.start memory)
  have received : run.2.behind.1 = (passAllOn enricher calls (enricher.start memory)).1 :=
    recorded_calls enricher behind calls (enricher.start memory) state
  have accounts : Accounts enricher {} counted met := by
    dsimp only [counted, run]
    rw [session_after]
    exact pass_all_on_accounts enricher calls (enricher.start memory)
  refine ⟨inputs, ?_, ?_, ?_, ?_, ?_, ?_, ?_⟩
  · rw [received]
    exact meetings_of_passed enricher calls (enricher.start memory)
  · rw [accounts.processed, ← inputs, List.length_map]
    exact Nat.zero_add _
  · rw [accounts.enriched]
    exact Nat.zero_add _
  · rw [accounts.failures]
    exact Nat.zero_add _
  · intro one _ both
    have bare := Enricher.not_broken_with_details enricher one both.2
    rw [both.1] at bare
    cases bare
  · intro one _ whole
    exact Enricher.told_unless_broken enricher one whole
  · rw [accounts.lookups]
    exact Nat.zero_add _

example :
    let batch := [.plain Detail.Enricher.mixedSpan, .plain badSpan, .enriched badSpan []]
    let enricher := Detail.Enricher.sourceless (.ofFunction touchy)
    let counted := ((sink enricher (Memory.sink none)).run [.deliver Detail.Enricher.emptyDisk batch]
      ⟨enricher.start (), {}⟩).2.session.tally
    (counted.processed, counted.enriched, counted.failures, counted.source) = (3, 1, 1, ⟨0, 1⟩) := by
  decide +kernel

end Enriching

end Export

end FaultContext
