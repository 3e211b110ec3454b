import FaultContext.Proofs.Chronicle

/-!
# What no resolver can upset

A resolver may change its mind from question to question and break off whenever it likes. Still an
answer that was given once is given again, nobody is asked about a name that is remembered, and the
memory grows by the questions that were not broken off. All of it is read off the chronicle, which the
counts of the classifier and the notes of a resolver that writes down bear out.
-/

namespace FaultContext.Origin

set_option autoImplicit false

open Files (Disk)

variable {σ : Type}

/-- A resolver that also writes down the names it is asked about. -/
def Resolver.recording (resolver : Resolver σ) : Resolver (List Text × σ) where
  ask := fun disk name state =>
    let (answer, memory) := resolver.ask disk name state.2
    (answer, state.1 ++ [name], memory)

namespace Classifier

open Event (Replays)

variable {classifier : Classifier σ} {disk : Disk} {name : Text} {state next : State σ}
  {result : Except Abort Bool × State σ} {events : List Event}

/-- The questions that ended from the memory are counted as hits, all others as misses. -/
structure Counts (before : State σ) (events : List Event) (after : State σ) : Prop where
  hits : after.tally.classification.hits =
    before.tally.classification.hits + events.countP Event.isRecalled
  misses : after.tally.classification.misses =
    before.tally.classification.misses + events.countP Event.isAnswered + events.countP Event.isAborted

theorem countP_consulted (classifier : Classifier σ) (name : Text) (kind : Event → Bool)
    (other : kind (.asked name) = false) :
    (classifier.consulted name).countP kind = 0 := by
  rw [consulted]
  split
  · simp [other]
  · rfl

theorem counts_refl (state : State σ) : Counts state [] state := ⟨rfl, rfl⟩

/-- A question that the memory cannot answer adds one miss to what is counted within it. -/
theorem counts_missed {told : Except Abort Verdict} {last after : State σ}
    (own : classifier.ownVerdict disk name (state.asked false) = (told, next))
    (inner : Counts next events last)
    (same : after.tally.classification = last.tally.classification) (outcome : Except Abort Bool) :
    Counts state (classifier.consulted name ++ (events ++ [.ending name outcome])) after := by
  have recalled := countP_consulted classifier name Event.isRecalled rfl
  have answered := countP_consulted classifier name Event.isAnswered rfl
  have aborted := countP_consulted classifier name Event.isAborted rfl
  have hits : next.tally.classification.hits = state.tally.classification.hits := by
    rw [(own_verdict_keeps own).2]
    rfl
  have misses : next.tally.classification.misses = state.tally.classification.misses + 1 := by
    rw [(own_verdict_keeps own).2]
    rfl
  constructor
  · rw [same, inner.hits, hits, List.countP_append, List.countP_append, recalled]
    cases outcome <;> simp [Event.ending, Event.isRecalled]
  · rw [same, inner.misses, misses]
    simp only [List.countP_append, answered, aborted]
    cases outcome <;> simp [Event.ending, Event.isAnswered, Event.isAborted] <;> omega

theorem unfolds_counts (told : Unfolds classifier disk name state result events) :
    Counts state events result.2 := by
  induction told with
  | recalled found => exact ⟨rfl, rfl⟩
  | @brokenOff _ _ next abort unknown own =>
      refine counts_missed own (counts_refl next) ?_ (.error abort)
      rfl
  | @decided _ _ next _ external unknown own decision =>
      refine counts_missed own (counts_refl next) ?_ (.ok external)
      rfl
  | @outermost _ _ next _ unknown own undecided alone =>
      refine counts_missed own (counts_refl next) ?_ (.ok false)
      rfl
  | @nestedBroken _ _ _ _ _ _ abort _ unknown own undecided nested inner ih =>
      refine counts_missed own ih ?_ (.error abort)
      rfl
  | @nestedAnswered _ _ _ _ _ _ external _ unknown own undecided nested inner ih =>
      refine counts_missed own ih ?_ (.ok external)
      rfl

def State.recorded (state : State σ) (log : List Text) : State (List Text × σ) where
  resolver := (log, state.resolver)
  memo := state.memo
  tally := state.tally

def recording (classifier : Classifier σ) : Classifier (List Text × σ) where
  resolver := classifier.resolver.recording
  externalPackages := classifier.externalPackages

theorem own_verdict_recorded {told : Except Abort Verdict} (log : List Text)
    (own : classifier.ownVerdict disk name (state.asked false) = (told, next)) :
    classifier.recording.ownVerdict disk name ((state.recorded log).asked false) =
      (told, next.recorded (log ++ (classifier.consulted name).filterMap Event.asked?)) := by
  rw [ownVerdict] at own ⊢
  rw [consulted]
  cases package : packageVerdict classifier.externalPackages name with
  | inconclusive =>
      simp only [package] at own
      cases own
      simp only [recording, package]
      rfl
  | external =>
      simp only [package] at own
      cases own
      simp only [recording, package]
      simp [State.recorded, State.asked]
  | application =>
      simp only [package] at own
      cases own
      simp only [recording, package]
      simp [State.recorded, State.asked]

theorem remember_recorded (log : List Text) (external : Bool) :
    (state.recorded log).remember name external = (state.remember name external).recorded log :=
  rfl

/-- Writing down changes nothing, and what is written down is what the resolver is asked about. -/
theorem unfolds_recorded (told : Unfolds classifier disk name state result events)
    (log : List Text) :
    classifier.recording.isExternal disk name (state.recorded log) =
      (result.1, result.2.recorded (log ++ events.filterMap Event.asked?)) := by
  have unknown_recorded {state : State σ} {name : Text} (log : List Text)
      (unknown : state.memo.lookup name = none) :
      (state.recorded log).memo.lookup name = none := unknown
  induction told generalizing log with
  | @recalled name state external found =>
      have held : (state.recorded log).memo.lookup name = some external := found
      rw [isExternal, held]
      simp [State.recorded, State.asked, List.filterMap_cons, Event.asked?]
  | brokenOff unknown own =>
      rw [isExternal, unknown_recorded log unknown, own_verdict_recorded log own]
      simp [List.filterMap_cons, Event.asked?]
  | decided unknown own decision =>
      rw [isExternal, unknown_recorded log unknown, own_verdict_recorded log own]
      simp [decision, remember_recorded, List.filterMap_cons, Event.asked?]
  | outermost unknown own undecided alone =>
      rw [is_external_outermost (unknown_recorded log unknown) (own_verdict_recorded log own)
        undecided alone]
      simp [remember_recorded, List.filterMap_cons, Event.asked?]
  | nestedBroken unknown own undecided nested inner ih =>
      rw [is_external_nested (unknown_recorded log unknown) (own_verdict_recorded log own) undecided
        nested, ih]
      simp [List.filterMap_cons, Event.asked?]
  | nestedAnswered unknown own undecided nested inner ih =>
      rw [is_external_nested (unknown_recorded log unknown) (own_verdict_recorded log own) undecided
        nested, ih]
      simp [remember_recorded, List.filterMap_cons, Event.asked?]

theorem ask_all_replays (classifier : Classifier σ) (questions : List (Disk × Text))
    (state : State σ) :
    Replays state.memo (classifier.chronicleAll questions state)
      (classifier.askAll questions state).2.memo := by
  induction questions generalizing state with
  | nil => exact .nil
  | cons question questions ih =>
      obtain ⟨disk, name⟩ := question
      exact Event.replays_append (unfolds_replays (is_external_unfolds classifier disk name state))
        (ih _)

theorem ask_all_counts (classifier : Classifier σ) (questions : List (Disk × Text))
    (state : State σ) :
    Counts state (classifier.chronicleAll questions state) (classifier.askAll questions state).2 := by
  induction questions generalizing state with
  | nil => exact counts_refl state
  | cons question questions ih =>
      obtain ⟨disk, name⟩ := question
      have first := unfolds_counts (is_external_unfolds classifier disk name state)
      have others := ih (classifier.isExternal disk name state).2
      simp only [askAll, chronicleAll]
      constructor
      · rw [others.hits, first.hits, List.countP_append]
        omega
      · rw [others.misses, first.misses, List.countP_append, List.countP_append]
        omega

theorem ask_all_recorded (classifier : Classifier σ) (questions : List (Disk × Text))
    (state : State σ) (log : List Text) :
    classifier.recording.askAll questions (state.recorded log) =
      ((classifier.askAll questions state).1, (classifier.askAll questions state).2.recorded
        (log ++ (classifier.chronicleAll questions state).filterMap Event.asked?)) := by
  induction questions generalizing state log with
  | nil => simp [askAll, chronicleAll]
  | cons question questions ih =>
      obtain ⟨disk, name⟩ := question
      have first := unfolds_recorded (is_external_unfolds classifier disk name state) log
      simp only [askAll, chronicleAll, first, ih, List.filterMap_append, List.append_assoc]

/-- A name that is remembered is answered alike from then on. -/
theorem ask_all_known {external : Bool} (questions : List (Disk × Text)) (state : State σ)
    (known : state.memo.lookup name = some external) :
    ∀ said ∈ (questions.map Prod.snd).zip (classifier.askAll questions state).1,
      said.1 = name → said.2 = .ok external := by
  induction questions generalizing state with
  | nil =>
      intro said member
      cases member
  | cons question questions ih =>
      obtain ⟨disk, asked⟩ := question
      have replayed := unfolds_replays (is_external_unfolds classifier disk asked state)
      refine List.forall_mem_cons.2 ⟨?_, ih _ (Event.replays_keep replayed known)⟩
      rintro rfl
      exact is_external_known known

theorem answers_settle (classifier : Classifier σ) (questions : List (Disk × Text))
    (state : State σ) :
    ((questions.map Prod.snd).zip (classifier.askAll questions state).1).Pairwise
      fun earlier later => ∀ external, earlier = (later.1, .ok external) → later.2 = .ok external := by
  induction questions generalizing state with
  | nil => exact .nil
  | cons question questions ih =>
      obtain ⟨disk, name⟩ := question
      refine List.Pairwise.cons ?_ (ih _)
      intro later member external same
      obtain ⟨named, answered⟩ := Prod.mk.inj same
      exact ask_all_known questions _ (is_external_remembered answered) later member named.symm

theorem asked_unknown (classifier : Classifier σ) (disk : Disk) (name : Text) (state : State σ)
    (log : List Text) :
    ∃ asked,
      (classifier.recording.isExternal disk name (state.recorded log)).2.resolver.1 = log ++ asked ∧
        ∀ other ∈ asked, state.memo.lookup other = none := by
  have told := is_external_unfolds classifier disk name state
  refine ⟨_, congrArg (fun result => result.2.resolver.1) (unfolds_recorded told log), ?_⟩
  intro other member
  obtain ⟨event, happened, asked⟩ := List.mem_filterMap.1 member
  cases known : state.memo.lookup other with
  | none => rfl
  | some external =>
      have settled := Event.replays_recall (unfolds_replays told) known event happened
      cases event with
      | asked name =>
          cases asked
          have impossible : Event.asked other = Event.recalled other external := settled rfl
          cases impossible
      | recalled name said => cases asked
      | answered name said => cases asked
      | aborted name => cases asked

/-- Whatever the resolver says, and whenever it breaks a question off: after a question for a name has
returned, be it from outside or about an enclosing type, each question for it returns the same, and the
resolver is asked about it no more. What is remembered counts every name once, and is the misses
without those that were broken off. -/
theorem memory_stable_under_any_resolver (classifier : Classifier σ)
    (questions : List (Disk × Text)) (memory : σ) :
    let run := classifier.askAll questions (.start memory)
    let recorded := classifier.recording.askAll questions (.start ([], memory))
    let events := classifier.chronicleAll questions (.start memory)
    let counted := run.2.tally.classification
    ((questions.map Prod.snd).zip run.1).Pairwise
        (fun earlier later => ∀ external, earlier = (later.1, .ok external) → later.2 = .ok external) ∧
      events.Pairwise Event.Settles ∧
      (recorded.1 = run.1 ∧ recorded.2.resolver.1 = events.filterMap Event.asked?) ∧
      (∀ disk name, ∃ asked,
        (classifier.recording.isExternal disk name recorded.2).2.resolver.1 =
            recorded.2.resolver.1 ++ asked ∧
          ∀ other ∈ asked, run.2.memo.lookup other = none) ∧
      counted.hits = events.countP Event.isRecalled ∧
      counted.misses = events.countP Event.isAnswered + events.countP Event.isAborted ∧
      run.2.memo.length + events.countP Event.isAborted = counted.misses ∧
      (run.2.memo.map Prod.fst).Nodup ∧
      ∀ disk name,
        run.2.memo.length ≤ (classifier.isExternal disk name run.2).2.memo.length := by
  intro run recorded events counted
  have replayed : Replays [] events run.2.memo := ask_all_replays classifier questions (.start memory)
  have counts : Counts (.start memory) events run.2 := ask_all_counts classifier questions (.start memory)
  have written : recorded = (run.1, run.2.recorded (events.filterMap Event.asked?)) :=
    ask_all_recorded classifier questions (.start memory) []
  have hits : counted.hits = events.countP Event.isRecalled := by
    rw [counts.hits]
    exact Nat.zero_add _
  have misses : counted.misses = events.countP Event.isAnswered + events.countP Event.isAborted := by
    rw [counts.misses, show (State.start memory).tally.classification.misses = 0 from rfl]
    omega
  have size : run.2.memo.length = events.countP Event.isAnswered := by
    rw [Event.replays_length replayed]
    exact Nat.zero_add _
  refine ⟨answers_settle classifier questions (.start memory), Event.replays_settle replayed,
    ?_, ?_, hits, misses, ?_, Event.replays_nodup replayed List.nodup_nil, ?_⟩
  · rw [written]
    exact ⟨rfl, rfl⟩
  · intro disk name
    rw [written]
    exact asked_unknown classifier disk name run.2 _
  · rw [size, misses]
  · intro disk name
    rw [Event.replays_length (unfolds_replays (is_external_unfolds classifier disk name run.2))]
    exact Nat.le_add_right _ _

/-- Breaks off the second question put to it, and knows no type. -/
def stumbling : Classifier Nat where
  resolver := ⟨fun _ name asked =>
    (if asked = 1 then .abort "boom".toList else .unknown (.notFound name), asked + 1)⟩
  externalPackages := []

example :
    let disk : Disk := ⟨.directory [], "/".toList⟩
    stumbling.chronicleAll [(disk, "A$B".toList), (disk, "A$B".toList), (disk, "A".toList)] (.start 0) =
      [.asked "A$B".toList, .asked "A".toList, .aborted "A".toList, .aborted "A$B".toList,
        .asked "A$B".toList, .asked "A".toList, .answered "A".toList false,
        .answered "A$B".toList false, .recalled "A".toList false] := by
  decide +kernel

end Classifier

end FaultContext.Origin
