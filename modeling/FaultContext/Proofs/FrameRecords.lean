import FaultContext.Proofs.Chronicle
import FaultContext.Proofs.EventDetails
import FaultContext.Proofs.Excerpts

/-!
# Records of frames

A frame ends up in one of three ways: its source is left alone, it cannot be had, or an excerpt of it is
shown. The three can be told apart by the record. An empty body means that the source was left alone, since
neither the placeholder nor an excerpt is empty, and only an excerpt has a range of lines of its own. All
this holds in any session, so nothing needs to be known about what came before; and there are records
unless the resolver breaks off.
-/

namespace FaultContext

set_option autoImplicit false

open Files (Disk)
open Origin (Abort)
open Trace (Frame)

namespace Origin

variable {σ : Type}

/-- The resolver never breaks off. -/
def Resolver.Steady (resolver : Resolver σ) (disk : Disk) : Prop :=
  ∀ name memory reason, (resolver.ask disk name memory).1 ≠ .abort reason

namespace Classifier

variable {classifier : Classifier σ} {disk : Disk} {name : Text} {state next : State σ}
  {result : Except Abort Bool × State σ} {events : List Event} {abort : Abort}

theorem answer_verdict_broken {answer : Answer} (broken : answerVerdict name answer = .error abort) :
    answer = .abort abort.reason := by
  cases answer with
  | abort reason =>
      cases broken
      rfl
  | unknown error => cases broken
  | known origin =>
      rw [answerVerdict] at broken
      split at broken <;> cases broken

theorem own_verdict_broken (own : classifier.ownVerdict disk name state = (.error abort, next)) :
    (classifier.resolver.ask disk name state.resolver).1 = .abort abort.reason := by
  rw [ownVerdict] at own
  split at own
  · exact answer_verdict_broken (congrArg Prod.fst own)
  · cases own

/-- A question is broken off only where the resolver breaks off, be it for an enclosing type. -/
theorem broken_by_resolver (told : Unfolds classifier disk name state result events)
    (broken : result.1 = .error abort) :
    ∃ asked memory, (classifier.resolver.ask disk asked memory).1 = .abort abort.reason := by
  induction told with
  | recalled found => cases broken
  | brokenOff unknown own =>
      cases broken
      exact ⟨_, _, own_verdict_broken own⟩
  | decided unknown own decision => cases broken
  | outermost unknown own undecided alone => cases broken
  | nestedBroken unknown own undecided nested inner ih => exact ih broken
  | nestedAnswered unknown own undecided nested inner ih => cases broken

theorem is_external_returns (steady : classifier.resolver.Steady disk) (name : Text)
    (state : State σ) : ∃ external, (classifier.isExternal disk name state).1 = .ok external := by
  cases told : (classifier.isExternal disk name state).1 with
  | ok external => exact ⟨external, rfl⟩
  | error abort =>
      obtain ⟨asked, memory, broken⟩ :=
        broken_by_resolver (is_external_unfolds classifier disk name state) told
      exact absurd broken (steady asked memory abort.reason)

end Classifier

end Origin

namespace Detail.Enricher

variable {σ : Type} {enricher : Enricher σ} {disk : Disk} {frame : Frame} {frames : List Frame}
  {session after : Session σ} {record : Record} {records : List Record} {excerpt : Code.Excerpt}

/-- The excerpt that the record of a frame is made from. There is none where the source is left alone
and where it cannot be had. -/
def shownExcerpt? (enricher : Enricher σ) (disk : Disk) (frame : Frame) (session : Session σ) :
    Option Code.Excerpt :=
  match enricher.isExternal disk frame.qualifiedType session with
  | (.ok external, session) =>
      if external && !enricher.extractExternal then none else (enricher.excerpt disk frame session).1
  | (.error _, _) => none

/-- The ways in which a frame gets its record. -/
inductive Recorded (enricher : Enricher σ) (disk : Disk) (frame : Frame) (session : Session σ) :
    Record → Prop where
  | skipped (leftAlone : enricher.extractExternal = false)
      (unseen : enricher.shownExcerpt? disk frame session = none) :
      Recorded enricher disk frame session (.skipped frame enricher.language)
  | failed (external : Bool) (tried : external = true → enricher.extractExternal = true)
      (unseen : enricher.shownExcerpt? disk frame session = none) :
      Recorded enricher disk frame session (.extractionFailed frame enricher.language external)
  | extracted (external : Bool) (excerpt : Code.Excerpt)
      (tried : external = true → enricher.extractExternal = true)
      (seen : enricher.shownExcerpt? disk frame session = some excerpt) :
      Recorded enricher disk frame session (.extracted frame enricher.language external excerpt)

theorem recorded_of_record (made : enricher.record disk frame session = (.ok record, after)) :
    Recorded enricher disk frame session record := by
  have way := record_recording enricher disk frame session
  rw [made] at way
  cases way with
  | skipped told leave =>
      apply Recorded.skipped
      · simpa using (Bool.and_eq_true_iff.1 leave).2
      · rw [shownExcerpt?, told]
        exact if_pos leave
  | failed told tried cut =>
      apply Recorded.failed
      · simpa using tried
      · rw [shownExcerpt?, told]
        dsimp only
        rw [tried, cut]
        rfl
  | extracted told tried cut =>
      apply Recorded.extracted
      · simpa using tried
      · rw [shownExcerpt?, told]
        dsimp only
        rw [tried, cut]
        rfl

theorem excerpt_shows (found : (enricher.excerpt disk frame session).1 = some excerpt) :
    ∃ lines, Code.Shows lines excerpt := by
  rw [Enricher.excerpt] at found
  split at found
  · dsimp only at found
    split_ifs at found
    exact ⟨_, Code.extract_shows found⟩
  · cases found

theorem shown_excerpt_shows (seen : enricher.shownExcerpt? disk frame session = some excerpt) :
    ∃ lines, Code.Shows lines excerpt := by
  rw [shownExcerpt?] at seen
  split at seen
  · split_ifs at seen
    exact excerpt_shows seen
  · cases seen

theorem records_ok_cons
    (made : enricher.records disk (frame :: frames) session = (.ok records, after)) :
    ∃ first next others, enricher.record disk frame session = (.ok first, next) ∧
      enricher.records disk frames next = (.ok others, after) ∧ records = first :: others := by
  rw [Enricher.records] at made
  split at made
  · cases made
  · rename_i first next one
    split at made
    · cases made
    · rename_i others last rest
      cases made
      exact ⟨first, next, others, one, rest, rfl⟩

theorem records_reach (frames : List Frame) {next : Session σ}
    (one : enricher.record disk frame session = (.ok record, next)) :
    (enricher.records disk (frame :: frames) session).2 = (enricher.records disk frames next).2 := by
  rw [Enricher.records, one]
  dsimp only
  split <;> rename_i others <;> rw [others]

/-- Each record is made in the session that the frames before it leave. -/
theorem records_at (made : enricher.records disk frames session = (.ok records, after)) :
    records.length = frames.length ∧
      ∀ index frame, frames[index]? = some frame → ∃ record, records[index]? = some record ∧
        (enricher.record disk frame (enricher.records disk (frames.take index) session).2).1 =
          .ok record := by
  induction frames generalizing session records with
  | nil =>
      cases made
      exact ⟨rfl, by simp⟩
  | cons frame frames ih =>
      obtain ⟨first, next, others, one, rest, rfl⟩ := records_ok_cons made
      obtain ⟨sameLength, each⟩ := ih rest
      refine ⟨by simp [sameLength], ?_⟩
      intro index met found
      cases index with
      | zero =>
          cases found
          refine ⟨first, rfl, ?_⟩
          rw [List.take_zero, Enricher.records, one]
      | succ index =>
          obtain ⟨record, placed, told⟩ := each index met found
          refine ⟨record, placed, ?_⟩
          rw [List.take_succ_cons, records_reach _ one]
          exact told

theorem record_returns (steady : enricher.classifier.resolver.Steady disk) (frame : Frame)
    (session : Session σ) : ∃ record, (enricher.record disk frame session).1 = .ok record := by
  obtain ⟨external, answered⟩ : ∃ external,
      (enricher.isExternal disk frame.qualifiedType session).1 = .ok external :=
    Origin.Classifier.is_external_returns steady frame.qualifiedType
      ⟨session.resolver, session.memo, session.tally⟩
  have way := record_recording enricher disk frame session
  cases ran : enricher.record disk frame session with
  | mk outcome reached =>
      cases outcome with
      | ok record => exact ⟨record, rfl⟩
      | error abort =>
          rw [ran] at way
          cases way with
          | brokenOff told =>
              rw [told] at answered
              cases answered

theorem records_return (steady : enricher.classifier.resolver.Steady disk) (frames : List Frame)
    (session : Session σ) : ∃ records, (enricher.records disk frames session).1 = .ok records := by
  induction frames generalizing session with
  | nil => exact ⟨[], rfl⟩
  | cons frame frames ih =>
      rw [Enricher.records]
      obtain ⟨first, told⟩ := record_returns steady frame session
      split
      · rename_i abort next broken
        rw [broken] at told
        cases told
      · rename_i one next made
        obtain ⟨others, rest⟩ := ih next
        split
        · rename_i abort last broken
          rw [broken] at rest
          cases rest
        · exact ⟨_, rfl⟩

/-- The form of the record that a frame gets in a session. -/
structure WellFormed (enricher : Enricher σ) (disk : Disk) (frame : Frame) (session : Session σ)
    (record : Record) : Prop where
  speaks : SpeaksOf frame record
  bodiless : record.functionBody = [] ↔ record.isExternal = true ∧ enricher.extractExternal = false
  unseen : enricher.shownExcerpt? disk frame session = none →
    (record = .skipped frame enricher.language ∨
        record = .extractionFailed frame enricher.language record.isExternal) ∧
      record.startLine = record.line ∧ record.endLine = record.line
  seen : ∀ excerpt, enricher.shownExcerpt? disk frame session = some excerpt →
    record = .extracted frame enricher.language record.isExternal excerpt ∧
      1 ≤ record.startLine ∧ record.startLine ≤ record.endLine ∧ record.functionBody ≠ [] ∧
      Text.trim record.functionBody = record.functionBody

theorem well_formed_of_recorded (recorded : Recorded enricher disk frame session record) :
    WellFormed enricher disk frame session record := by
  cases recorded with
  | skipped leftAlone unseen =>
      refine ⟨⟨rfl, rfl, rfl⟩, iff_of_true rfl ⟨rfl, leftAlone⟩, ?_, ?_⟩
      · intro _
        exact ⟨.inl rfl, rfl, rfl⟩
      · intro excerpt seen
        rw [unseen] at seen
        cases seen
  | failed external tried unseen =>
      have filled : placeholder ≠ [] := by decide
      refine ⟨⟨rfl, rfl, rfl⟩, iff_of_false filled ?_, ?_, ?_⟩
      · intro leftAlone
        exact absurd (tried leftAlone.1) (by simp [leftAlone.2])
      · intro _
        exact ⟨.inr rfl, rfl, rfl⟩
      · intro excerpt seen
        rw [unseen] at seen
        cases seen
  | extracted external excerpt tried seen =>
      obtain ⟨lines, shows⟩ := shown_excerpt_shows seen
      obtain ⟨shown, -, trimmed⟩ := shows.text
      refine ⟨⟨rfl, rfl, rfl⟩, iff_of_false shows.filled ?_, ?_, ?_⟩
      · intro leftAlone
        exact absurd (tried leftAlone.1) (by simp [leftAlone.2])
      · intro unseen
        rw [unseen] at seen
        cases seen
      · intro other same
        rw [seen] at same
        cases same
        exact ⟨rfl, Int.ofNat_le.2 shows.begins, Int.ofNat_le.2 shows.order, shows.filled,
          Text.trim_of_trimmed trimmed⟩

/-- The records of a trace, in any session: one for each frame in the order of the trace, each of the form
that its frame gets. There are records unless the resolver breaks off. -/
theorem records_well_formed (enricher : Enricher σ) (disk : Disk) (trace : Text)
    (session : Session σ) :
    (enricher.classifier.resolver.Steady disk →
      ∃ records, (enricher.stackDetails disk trace session).1 = .ok records) ∧
    ∀ records, (enricher.stackDetails disk trace session).1 = .ok records →
      let frames := Trace.frames enricher.options trace
      records.length = frames.length ∧
        ∀ index frame, frames[index]? = some frame → ∃ record, records[index]? = some record ∧
          WellFormed enricher disk frame (enricher.records disk (frames.take index) session).2
            record := by
  constructor
  · intro steady
    exact records_return steady (Trace.frames enricher.options trace) session
  · intro records made frames
    obtain ⟨sameLength, each⟩ := records_at (Prod.ext made rfl)
    refine ⟨sameLength, ?_⟩
    intro index frame found
    obtain ⟨record, placed, told⟩ := each index frame found
    refine ⟨record, placed, ?_⟩
    apply well_formed_of_recorded
    exact recorded_of_record (Prod.ext told rfl)

/-- A project with one source of one line. -/
def oneLineDisk : Disk :=
  ⟨.directory [("w".toList, .directory [("B.java".toList, .file ⟨#[120]⟩)])], "/".toList⟩

/-- An application frame with a source, one of the runtime, and one without a line. -/
def threeFrames : Text := "at a.B.run(B.java:1)\nat java.C.go(C.java:2)\nat d.E.get(E.java)".toList

theorem records_well_formed_each_way :
    let enricher := { sourceless .ignorant with places := ⟨["/w".toList], [], false, [], [], 0⟩ }
    enricher.classifier.resolver.Steady oneLineDisk ∧
      ∃ records, (enricher.stackDetails oneLineDisk threeFrames (enricher.start ())).1 = .ok records ∧
        records.length = 3 ∧
        (∃ first, records[0]? = some first ∧
          first.functionBody = "x".toList ∧ first.startLine = 1 ∧ first.endLine = 1) ∧
        (∃ second, records[1]? = some second ∧ second.startLine = 2 ∧ second.endLine = 2) ∧
        ∃ third, records[2]? = some third ∧
          third.file = some "E.java".toList ∧ third.startLine = -1 ∧ third.endLine = -1 := by
  intro enricher
  have steady : enricher.classifier.resolver.Steady oneLineDisk := nofun
  obtain ⟨returns, formed⟩ := records_well_formed enricher oneLineDisk threeFrames (enricher.start ())
  obtain ⟨records, made⟩ := returns steady
  obtain ⟨count, each⟩ := formed records made
  obtain ⟨first, placedFirst, firstForm⟩ := each 0 _ rfl
  obtain ⟨second, placedSecond, secondForm⟩ := each 1 _ rfl
  obtain ⟨third, placedThird, thirdForm⟩ := each 2 _ rfl
  obtain ⟨shown, -⟩ := firstForm.seen ⟨⟨1, 1⟩, "x".toList, .contextWindow⟩ (by decide +kernel)
  obtain ⟨-, secondStart, secondEnd⟩ := secondForm.unseen (by decide +kernel)
  obtain ⟨-, thirdStart, thirdEnd⟩ := thirdForm.unseen (by decide +kernel)
  have secondLine := secondForm.speaks.2.2
  have thirdLine := thirdForm.speaks.2.2
  refine ⟨steady, records, made, count, ⟨first, placedFirst, ?_⟩, ⟨second, placedSecond, ?_⟩, third,
    placedThird, thirdForm.speaks.2.1, ?_⟩
  · rw [shown]
    exact ⟨rfl, rfl, rfl⟩
  · rw [secondStart, secondEnd, secondLine]
    exact ⟨rfl, rfl⟩
  · rw [thirdStart, thirdEnd, thirdLine]
    exact ⟨rfl, rfl⟩

end Detail.Enricher

end FaultContext
