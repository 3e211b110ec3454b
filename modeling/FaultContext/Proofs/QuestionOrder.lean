import FaultContext.Proofs.Chronicle
import FaultContext.Proofs.Classification

/-!
# Questions in any order

A resolver that goes by the name alone, and never breaks off, makes of a classifier a function of the
name as well: that of a recursion over the enclosing types which remembers nothing. It does not matter
what was asked before, neither of the name itself nor of the types around it and within it, nor what
the disk was like at the time, as long as the resolver goes by the name there too. A question asks about
one enclosing type after the other, and the marks in the name bound how many there are.
-/

namespace FaultContext.Origin

set_option autoImplicit false

open Files (Disk)

variable {σ : Type}

def Answer.ofOrigin : Except ResolveError TypeOrigin → Answer
  | .ok origin => .known origin
  | .error error => .unknown error

/-- What loader and location say, in this order; nothing where the resolver does not know the type. -/
def originEvidence : Except ResolveError TypeOrigin → List Verdict
  | .ok origin =>
      [loaderVerdict origin.loader, (origin.location.map locationVerdict).getD .inconclusive]
  | .error _ => []

/-- What the layers in front of the enclosing type say, in their order. -/
def evidence (packages : List Text) (origin : Except ResolveError TypeOrigin) (name : Text) :
    List Verdict :=
  packageVerdict packages name :: (originEvidence origin ++ [syntheticVerdict name])

/-- Whether a type is external: what the first layer says that decides, else whatever holds of the
enclosing type; the rest is application code. -/
def referenceExternal (packages : List Text) (origins : Text → Except ResolveError TypeOrigin)
    (name : Text) : Bool :=
  match (evidence packages (origins name) name).findSome? Verdict.decision with
  | some external => external
  | none =>
      match _found : enclosingType? name with
      | none => false
      | some outer => referenceExternal packages origins outer
termination_by name.length
decreasing_by exact length_lt_of_enclosingType? ‹enclosingType? name = some outer›

theorem own_decision_eq (packages : List Text) (origins : Text → Except ResolveError TypeOrigin)
    (name : Text) :
    ownDecision packages (fun name => .ofOrigin (origins name)) name =
      .ok ((evidence packages (origins name) name).findSome? Verdict.decision) := by
  rw [ownDecision, evidence, List.findSome?_cons]
  cases (packageVerdict packages name).decision with
  | some external => rfl
  | none =>
      cases origins name with
      | ok origin => rfl
      | error error =>
          simp only [Answer.ofOrigin, answerDecision, originEvidence, List.nil_append]
          rw [List.findSome?_cons]
          cases (syntheticVerdict name).decision <;> rfl

theorem plain_external_eq (packages : List Text) (origins : Text → Except ResolveError TypeOrigin)
    (name : Text) :
    plainExternal packages (fun name => .ofOrigin (origins name)) name =
      .ok (referenceExternal packages origins name) := by
  induction size : name.length using Nat.strongRecOn generalizing name with
  | ind length ih =>
      have own := own_decision_eq packages origins name
      rw [referenceExternal]
      cases first : (evidence packages (origins name) name).findSome? Verdict.decision with
      | some external =>
          rw [first] at own
          exact plain_external_decided own
      | none =>
          rw [first] at own
          cases nested : enclosingType? name with
          | none => exact plain_external_outermost own nested
          | some outer =>
              rw [plain_external_nested own nested]
              exact ih outer.length (size ▸ length_lt_of_enclosingType? nested) outer rfl

theorem count_enclosing {name outer : Text} (nested : enclosingType? name = some outer) :
    outer.count '$' < name.count '$' := by
  rw [enclosingType?] at nested
  split at nested
  · cases nested
  · split at nested
    · rename_i front back cut
      split at nested
      · cases nested
      · obtain rfl := Option.some.inj nested
        rw [Text.cutLast?_eq_some cut, List.count_append, List.count_cons_self]
        omega
    · cases nested

namespace Resolver

theorem after_append (resolver : Resolver σ) (disk : Disk) (first second : List Text) (memory : σ) :
    resolver.after disk (first ++ second) memory =
      resolver.after disk second (resolver.after disk first memory) :=
  List.foldl_append

/-- The memory of a resolver that was asked about a name at a time, and on a disk at a time. -/
def afterAll (resolver : Resolver σ) (asked : List (Disk × Text)) (memory : σ) : σ :=
  asked.foldl (fun memory question => (resolver.ask question.1 question.2 memory).2) memory

/-- Whatever it was asked before on any of these disks, the resolver answers each name as the function
does. -/
def GoesByName (resolver : Resolver σ) (disks : Disk → Prop) (memory : σ) (answer : Text → Answer) :
    Prop :=
  ∀ asked : List (Disk × Text), (∀ question ∈ asked, disks question.1) → ∀ disk, disks disk →
    ∀ name, (resolver.ask disk name (resolver.afterAll asked memory)).1 = answer name

variable {resolver : Resolver σ} {disks : Disk → Prop} {disk : Disk} {memory : σ}
  {answer : Text → Answer}

theorem after_all_on_disk (resolver : Resolver σ) (disk : Disk) (names : List Text) (memory : σ) :
    resolver.afterAll (names.map (disk, ·)) memory = resolver.after disk names memory :=
  List.foldl_map

theorem seen_on_disk (seen : disks disk) (names : List Text) :
    ∀ question ∈ names.map (disk, ·), disks question.1 := by
  intro question member
  obtain ⟨name, -, rfl⟩ := List.mem_map.1 member
  exact seen

theorem answers_on_disk (answers : resolver.GoesByName disks memory answer) (seen : disks disk) :
    resolver.AnswersBy disk memory answer := by
  intro asked name
  rw [← after_all_on_disk]
  exact answers (asked.map (disk, ·)) (seen_on_disk seen asked) disk seen name

theorem goes_by_name_after (answers : resolver.GoesByName disks memory answer) (seen : disks disk)
    (names : List Text) : resolver.GoesByName disks (resolver.after disk names memory) answer := by
  intro asked later
  have together : resolver.afterAll asked (resolver.after disk names memory) =
      resolver.afterAll (names.map (disk, ·) ++ asked) memory := by
    rw [← after_all_on_disk, afterAll, afterAll, afterAll, List.foldl_append]
  rw [together]
  exact answers _ (List.forall_mem_append.2 ⟨seen_on_disk seen names, later⟩)

end Resolver

namespace Classifier

variable {classifier : Classifier σ} {disk : Disk} {name : Text} {state : State σ}
  {result : Except Abort Bool × State σ} {events : List Event}

def State.questions (state : State σ) : Nat :=
  state.tally.classification.hits + state.tally.classification.misses

theorem own_verdict_questions {told : Except Abort Verdict} {next : State σ}
    (own : classifier.ownVerdict disk name (state.asked false) = (told, next)) :
    next.questions = state.questions + 1 := by
  rw [State.questions, (own_verdict_keeps own).2]
  exact (Nat.add_assoc _ _ 1).symm

theorem remember_questions (external : Bool) :
    (state.remember name external).questions = state.questions :=
  rfl

/-- A question asks itself, and then at most once for each mark in the name. -/
theorem unfolds_questions (told : Unfolds classifier disk name state result events) :
    state.questions < result.2.questions ∧
      result.2.questions ≤ state.questions + name.count '$' + 1 := by
  induction told with
  | @recalled name state external found =>
      have one : (state.asked true).questions = state.questions + 1 := Nat.add_right_comm _ 1 _
      dsimp only
      omega
  | brokenOff unknown own =>
      have one := own_verdict_questions own
      dsimp only
      omega
  | decided unknown own decision =>
      have one := own_verdict_questions own
      dsimp only
      rw [remember_questions]
      omega
  | outermost unknown own undecided alone =>
      have one := own_verdict_questions own
      dsimp only
      rw [remember_questions]
      omega
  | nestedBroken unknown own undecided nested inner ih =>
      have one := own_verdict_questions own
      have fewer := count_enclosing nested
      dsimp only at ih ⊢
      omega
  | nestedAnswered unknown own undecided nested inner ih =>
      have one := own_verdict_questions own
      have fewer := count_enclosing nested
      dsimp only at ih ⊢
      rw [remember_questions]
      omega

theorem own_verdict_resolver {told : Except Abort Verdict} {next : State σ}
    (own : classifier.ownVerdict disk name (state.asked false) = (told, next)) :
    next.resolver = classifier.resolver.after disk
      ((classifier.consulted name).filterMap Event.asked?) state.resolver := by
  rw [ownVerdict] at own
  rw [consulted]
  cases package : packageVerdict classifier.externalPackages name with
  | inconclusive =>
      simp only [package] at own
      cases own
      rfl
  | external =>
      simp only [package] at own
      cases own
      rfl
  | application =>
      simp only [package] at own
      cases own
      rfl

theorem remember_resolver (external : Bool) :
    (state.remember name external).resolver = state.resolver :=
  rfl

/-- What a question does to the resolver is to ask it about the names of the chronicle. -/
theorem unfolds_resolver (told : Unfolds classifier disk name state result events) :
    result.2.resolver =
      classifier.resolver.after disk (events.filterMap Event.asked?) state.resolver := by
  induction told with
  | recalled found => rfl
  | brokenOff unknown own =>
      rw [own_verdict_resolver own]
      simp [List.filterMap_cons, Event.asked?]
  | decided unknown own decision =>
      rw [remember_resolver, own_verdict_resolver own]
      simp [List.filterMap_cons, Event.asked?]
  | outermost unknown own undecided alone =>
      rw [remember_resolver, own_verdict_resolver own]
      simp [List.filterMap_cons, Event.asked?]
  | nestedBroken unknown own undecided nested inner ih =>
      rw [ih, own_verdict_resolver own, ← Resolver.after_append]
      simp [List.filterMap_cons, Event.asked?]
  | nestedAnswered unknown own undecided nested inner ih =>
      rw [remember_resolver, ih, own_verdict_resolver own, ← Resolver.after_append]
      simp [List.filterMap_cons, Event.asked?]

variable {disks : Disk → Prop} {answer : Text → Answer}

/-- Between questions, which may find different disks: the resolver still goes by the name, and what is
remembered are answers that are given without a memory. -/
structure Impartial (classifier : Classifier σ) (disks : Disk → Prop) (answer : Text → Answer)
    (state : State σ) : Prop where
  answers : classifier.resolver.GoesByName disks state.resolver answer
  remembered : ∀ name external, state.memo.lookup name = some external →
    plainExternal classifier.externalPackages answer name = .ok external

theorem impartial_start (memory : σ)
    (answers : classifier.resolver.GoesByName disks memory answer) :
    classifier.Impartial disks answer (.start memory) := by
  refine ⟨answers, ?_⟩
  intro name external found
  cases found

theorem impartial_spec (impartial : classifier.Impartial disks answer state) (seen : disks disk)
    (name : Text) :
    (classifier.isExternal disk name state).1 =
        plainExternal classifier.externalPackages answer name ∧
      classifier.Impartial disks answer (classifier.isExternal disk name state).2 := by
  have consistent : classifier.Consistent disk answer state :=
    ⟨Resolver.answers_on_disk impartial.answers seen, impartial.remembered⟩
  obtain ⟨said, later⟩ := is_external_spec consistent name
  refine ⟨said, ?_, later.remembered⟩
  rw [unfolds_resolver (is_external_unfolds classifier disk name state)]
  exact Resolver.goes_by_name_after impartial.answers seen _

theorem ask_all_spec (questions : List (Disk × Text)) (seen : ∀ question ∈ questions, disks question.1)
    (state : State σ) (impartial : classifier.Impartial disks answer state) :
    (classifier.askAll questions state).1 = questions.map
        (fun question => plainExternal classifier.externalPackages answer question.2) ∧
      classifier.Impartial disks answer (classifier.askAll questions state).2 := by
  induction questions generalizing state with
  | nil => exact ⟨rfl, impartial⟩
  | cons question questions ih =>
      obtain ⟨disk, name⟩ := question
      obtain ⟨here, elsewhere⟩ := List.forall_mem_cons.1 seen
      obtain ⟨said, next⟩ := impartial_spec impartial here name
      obtain ⟨others, last⟩ := ih elsewhere _ next
      refine ⟨?_, last⟩
      rw [List.map_cons, ← said, ← others]
      rfl

/-- A resolver that goes by the name makes every answer that of the recursion without a memory,
whatever was asked before, and in whatever order. The recursion ends: a question for a name comes to
itself and at most one more for each mark in the name. -/
theorem answers_in_any_order (classifier : Classifier σ) (disks : Disk → Prop) (memory : σ)
    (origins : Text → Except ResolveError TypeOrigin)
    (answers : classifier.resolver.GoesByName disks memory fun name => .ofOrigin (origins name))
    (questions : List (Disk × Text)) (seen : ∀ question ∈ questions, disks question.1) :
    let reference := referenceExternal classifier.externalPackages origins
    let reached := fun questions => (classifier.askAll questions (.start memory)).2
    (classifier.askAll questions (.start memory)).1 =
        questions.map (fun question => .ok (reference question.2)) ∧
      (∀ others : List (Disk × Text), (∀ question ∈ others, disks question.1) →
        ∀ here there, disks here → disks there → ∀ name,
          (classifier.isExternal here name (reached questions)).1 =
            (classifier.isExternal there name (reached others)).1) ∧
      ∀ disk name, let next := (classifier.isExternal disk name (reached questions)).2
        (reached questions).questions < next.questions ∧
          next.questions ≤ (reached questions).questions + name.count '$' + 1 := by
  intro reference reached
  have start := impartial_start memory answers
  have plain (name : Text) : plainExternal classifier.externalPackages
      (fun name => .ofOrigin (origins name)) name = .ok (reference name) :=
    plain_external_eq classifier.externalPackages origins name
  have after {questions : List (Disk × Text)} (seen : ∀ question ∈ questions, disks question.1)
      {disk : Disk} (here : disks disk) (name : Text) :
      (classifier.isExternal disk name (reached questions)).1 = .ok (reference name) := by
    have impartial := (ask_all_spec questions seen _ start).2
    rw [(impartial_spec impartial here name).1, plain]
  refine ⟨?_, ?_, ?_⟩
  · rw [(ask_all_spec questions seen _ start).1]
    exact List.map_congr_left fun question _ => plain question.2
  · intro others alike here there first second name
    rw [after seen first name, after alike second name]
  · intro disk name next
    exact unfolds_questions (is_external_unfolds classifier disk name (reached questions))

def archived : Text → Except ResolveError TypeOrigin := fun name =>
  if name = "a.B".toList then .ok ⟨.application, some "/m/b.jar".toList⟩
  else .error (.notFound name)

theorem answers_in_any_order_nested :
    let classifier : Classifier Unit := ⟨.ofFunction fun name => .ofOrigin (archived name), []⟩
    let disks : Disk → Prop := fun disk => disk.workingDirectory = "/".toList
    let bare : Disk := ⟨.directory [], "/".toList⟩
    let built : Disk := ⟨.directory [("b.jar".toList, .file ⟨#[]⟩)], "/".toList⟩
    let questions := [(bare, "a.B$C$D".toList), (built, "a.B".toList), (bare, "a.E$F".toList),
      (built, "a.B$C".toList), (bare, "$a".toList)]
    classifier.resolver.GoesByName disks () (fun name => .ofOrigin (archived name)) ∧
      (∀ question ∈ questions, disks question.1) ∧
      (classifier.askAll questions (.start ())).1 =
        [.ok true, .ok true, .ok false, .ok true, .ok false] := by
  intro classifier disks bare built questions
  have answers : classifier.resolver.GoesByName disks () (fun name => .ofOrigin (archived name)) :=
    fun _ _ _ _ _ => rfl
  have seen : ∀ question ∈ questions, disks question.1 := by
    intro question member
    simp only [questions, List.mem_cons, List.not_mem_nil, or_false] at member
    rcases member with rfl | rfl | rfl | rfl | rfl <;> rfl
  have external : questions.map (fun question => referenceExternal [] archived question.2) =
      [true, true, false, true, false] := by
    decide +kernel
  refine ⟨answers, seen, ?_⟩
  rw [(answers_in_any_order classifier disks () archived answers questions seen).1]
  exact (List.map_map).symm.trans (congrArg (List.map Except.ok) external)

end Classifier

end FaultContext.Origin
