import Mathlib.Tactic.SplitIfs
import FaultContext.Origin.Classification

/-!
# Classification without a memory

What is remembered of earlier questions changes no answer, as long as the resolver gives each name the
same answer whenever it is asked. The answers are then those of a recursion over the enclosing types
that remembers nothing. An abort is one of these answers: a name whose question ends in an abort never
gets into the memory, so it aborts again whenever it is asked.
-/

namespace FaultContext.Origin

set_option autoImplicit false

open Files (Disk)

variable {σ : Type}

namespace Resolver

/-- The memory of a resolver after some questions. -/
def after (resolver : Resolver σ) (disk : Disk) (asked : List Text) (memory : σ) : σ :=
  asked.foldl (fun memory name => (resolver.ask disk name memory).2) memory

/-- Whatever was asked before, the resolver answers each name as the function does. -/
def AnswersBy (resolver : Resolver σ) (disk : Disk) (memory : σ) (answer : Text → Answer) : Prop :=
  ∀ asked name, (resolver.ask disk name (resolver.after disk asked memory)).1 = answer name

theorem answers_by_function (answer : Text → Answer) (disk : Disk) :
    (ofFunction answer).AnswersBy disk () answer :=
  fun _ _ => rfl

theorem answers_now (resolver : Resolver σ) (disk : Disk) (memory : σ) (answer : Text → Answer)
    (answers : resolver.AnswersBy disk memory answer) (name : Text) :
    (resolver.ask disk name memory).1 = answer name :=
  answers [] name

theorem answers_later (resolver : Resolver σ) (disk : Disk) (memory : σ) (answer : Text → Answer)
    (answers : resolver.AnswersBy disk memory answer) (name : Text) :
    resolver.AnswersBy disk (resolver.ask disk name memory).2 answer :=
  fun asked next => answers (name :: asked) next

end Resolver

/-- What loader, location and name decide in this order, once the resolver has answered. -/
def answerDecision (name : Text) : Answer → Except Abort (Option Bool)
  | .abort reason => .error ⟨reason⟩
  | .unknown _ => .ok (syntheticVerdict name).decision
  | .known origin =>
      .ok ([loaderVerdict origin.loader, (origin.location.map locationVerdict).getD .inconclusive,
        syntheticVerdict name].findSome? Verdict.decision)

/-- What the layers in front of the enclosing type decide. The package is asked first, and only
where it does not decide can the resolver abort. -/
def ownDecision (packages : List Text) (answer : Text → Answer) (name : Text) :
    Except Abort (Option Bool) :=
  match (packageVerdict packages name).decision with
  | some external => .ok (some external)
  | none => answerDecision name (answer name)

/-- Whether a type is external, asked without any memory: what no layer decides for the name itself is
asked of its enclosing type, and is application code where there is none. -/
def plainExternal (packages : List Text) (answer : Text → Answer) (name : Text) : Except Abort Bool :=
  match ownDecision packages answer name with
  | .error abort => .error abort
  | .ok (some external) => .ok external
  | .ok none =>
      match _found : enclosingType? name with
      | none => .ok false
      | some outer => plainExternal packages answer outer
termination_by name.length
decreasing_by exact length_lt_of_enclosingType? ‹enclosingType? name = some outer›

theorem plain_external_decided {packages : List Text} {answer : Text → Answer} {name : Text}
    {external : Bool} (own : ownDecision packages answer name = .ok (some external)) :
    plainExternal packages answer name = .ok external := by
  rw [plainExternal, own]

theorem plain_external_outermost {packages : List Text} {answer : Text → Answer} {name : Text}
    (own : ownDecision packages answer name = .ok none) (alone : enclosingType? name = none) :
    plainExternal packages answer name = .ok false := by
  rw [plainExternal, own]
  dsimp only
  split
  · rfl
  · rename_i outer nested
    rw [alone] at nested
    cases nested

theorem plain_external_nested {packages : List Text} {answer : Text → Answer} {name outer : Text}
    (own : ownDecision packages answer name = .ok none) (nested : enclosingType? name = some outer) :
    plainExternal packages answer name = plainExternal packages answer outer := by
  rw [plainExternal, own]
  dsimp only
  split
  · rename_i alone
    rw [nested] at alone
    cases alone
  · rename_i other same
    rw [nested] at same
    cases same
    rfl

namespace Classifier

theorem answer_verdict_decision (name : Text) (answer : Answer) :
    (answerVerdict name answer).map Verdict.decision = answerDecision name answer := by
  cases answer with
  | abort reason => rfl
  | unknown error => rfl
  | known origin =>
      rw [answerVerdict, originVerdict, answerDecision]
      cases loaderVerdict origin.loader with
      | external => rfl
      | application => rfl
      | inconclusive =>
          cases (origin.location.map locationVerdict).getD .inconclusive with
          | external => rfl
          | application => rfl
          | inconclusive => cases syntheticVerdict name <;> rfl

/-- The state of a classifier whose resolver goes on answering by the function, and whose memory holds
nothing but answers that are given without it. -/
structure Consistent (classifier : Classifier σ) (disk : Disk) (answer : Text → Answer)
    (state : State σ) : Prop where
  answers : classifier.resolver.AnswersBy disk state.resolver answer
  remembered : ∀ name external, state.memo.lookup name = some external →
    plainExternal classifier.externalPackages answer name = .ok external

variable {classifier : Classifier σ} {disk : Disk} {answer : Text → Answer} {state : State σ}

theorem consistent_remember (consistent : classifier.Consistent disk answer state) (name : Text)
    (external : Bool) (holds : plainExternal classifier.externalPackages answer name = .ok external) :
    classifier.Consistent disk answer (state.remember name external) := by
  refine ⟨consistent.answers, ?_⟩
  intro other known found
  rw [State.remember] at found
  split_ifs at found with present
  · exact consistent.remembered other known found
  · by_cases same : other = name
    · subst same
      rw [List.lookup_cons_self] at found
      cases found
      exact holds
    · have apart : (other == name) = false := by simpa using same
      rw [List.lookup_cons, apart] at found
      exact consistent.remembered other known found

/-- The layers in front of the enclosing type say what they say without a memory, and touch none. -/
theorem own_verdict_spec (consistent : classifier.Consistent disk answer state) (name : Text) :
    (classifier.ownVerdict disk name state).1.map Verdict.decision =
        ownDecision classifier.externalPackages answer name ∧
      classifier.Consistent disk answer (classifier.ownVerdict disk name state).2 := by
  rw [ownVerdict, ownDecision]
  cases packageVerdict classifier.externalPackages name with
  | external => exact ⟨rfl, consistent⟩
  | application => exact ⟨rfl, consistent⟩
  | inconclusive =>
      have now := classifier.resolver.answers_now disk state.resolver answer consistent.answers name
      have later := classifier.resolver.answers_later disk state.resolver answer consistent.answers name
      refine ⟨?_, later, consistent.remembered⟩
      exact (congrArg (fun said => (answerVerdict name said).map Verdict.decision) now).trans
        (answer_verdict_decision name (answer name))

/-- The answer is the one that is given without a memory. The induction is on the length of the name,
since the question about the enclosing type may itself add to the memory. -/
theorem is_external_spec (consistent : classifier.Consistent disk answer state) (name : Text) :
    (classifier.isExternal disk name state).1 =
        plainExternal classifier.externalPackages answer name ∧
      classifier.Consistent disk answer (classifier.isExternal disk name state).2 := by
  induction size : name.length using Nat.strongRecOn generalizing name state with
  | ind length ih =>
      rw [isExternal]
      split
      · rename_i external found
        exact ⟨(consistent.remembered name external found).symm, consistent.answers,
          consistent.remembered⟩
      · have asked : classifier.Consistent disk answer (state.asked false) :=
          ⟨consistent.answers, consistent.remembered⟩
        obtain ⟨own, next⟩ := own_verdict_spec asked name
        split
        · rename_i abort reached broken
          rw [broken] at own next
          rw [plainExternal, ← own]
          exact ⟨rfl, next⟩
        · rename_i verdict reached told
          rw [told] at own next
          have decided : ownDecision classifier.externalPackages answer name = .ok verdict.decision :=
            own.symm
          split
          · rename_i external decision
            rw [decision] at decided
            have plain := plain_external_decided decided
            exact ⟨plain.symm, consistent_remember next name external plain⟩
          · rename_i decision
            rw [decision] at decided
            split
            · rename_i alone
              have plain := plain_external_outermost decided alone
              exact ⟨plain.symm, consistent_remember next name false plain⟩
            · rename_i outer nested
              have plain := plain_external_nested decided nested
              obtain ⟨said, later⟩ := ih outer.length (size ▸ length_lt_of_enclosingType? nested) next
                outer rfl
              rw [plain]
              split
              · rename_i abort last broken
                rw [broken] at said later
                exact ⟨said, later⟩
              · rename_i external last answered
                rw [answered] at said later
                exact ⟨said, consistent_remember later name external (plain.trans said.symm)⟩

end Classifier

end FaultContext.Origin
