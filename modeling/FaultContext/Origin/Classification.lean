import FaultContext.Metrics.Tally
import FaultContext.Origin.Resolver

/-!
# Classification

Whether a type is external, by the first layer of evidence that decides: the package, the resolver
with loader and location, the marks of generated names, and then whatever holds of the enclosing
type. What no layer decides is application code. Each answer is remembered, also those on enclosing
types, and a name that is remembered never reaches the resolver again. An abort of the resolver ends
the question without an answer and leaves what was remembered until then.
-/

namespace FaultContext.Origin

set_option autoImplicit false

open Files (Disk)

/-- The work on a span was broken off. -/
structure Abort where
  reason : Text
deriving DecidableEq, Repr

structure Classifier (σ : Type) where
  resolver : Resolver σ
  externalPackages : List Text

namespace Classifier

variable {σ : Type}

structure State (σ : Type) where
  resolver : σ
  memo : List (Text × Bool)
  tally : Metrics.Tally

namespace State

def asked (state : State σ) (hit : Bool) : State σ :=
  { state with tally := state.tally.classified hit }

/-- Remembers an answer unless there is one, and counts the work behind it. -/
def remember (state : State σ) (name : Text) (external : Bool) : State σ :=
  { state with
    memo := if (state.memo.lookup name).isSome then state.memo else (name, external) :: state.memo
    tally := state.tally.performed .classify }

end State

def originVerdict (origin : TypeOrigin) : Verdict :=
  match loaderVerdict origin.loader with
  | .inconclusive => (origin.location.map locationVerdict).getD .inconclusive
  | decided => decided

/-- What the resolver's answer and the name itself say; nothing once the resolver aborts. -/
def answerVerdict (name : Text) : Answer → Except Abort Verdict
  | .abort reason => .error ⟨reason⟩
  | .unknown _ => .ok (syntheticVerdict name)
  | .known origin =>
      match originVerdict origin with
      | .inconclusive => .ok (syntheticVerdict name)
      | decided => .ok decided

/-- All layers but the enclosing type. The resolver is asked only if the package does not decide. -/
def ownVerdict (classifier : Classifier σ) (disk : Disk) (name : Text) (state : State σ) :
    Except Abort Verdict × State σ :=
  match packageVerdict classifier.externalPackages name with
  | .inconclusive =>
      let (answer, memory) := classifier.resolver.ask disk name state.resolver
      (answerVerdict name answer, { state with resolver := memory })
  | decided => (.ok decided, state)

def isExternal (classifier : Classifier σ) (disk : Disk) (name : Text) (state : State σ) :
    Except Abort Bool × State σ :=
  match state.memo.lookup name with
  | some external => (.ok external, state.asked true)
  | none =>
      match classifier.ownVerdict disk name (state.asked false) with
      | (.error abort, state) => (.error abort, state)
      | (.ok verdict, state) =>
          match verdict.decision with
          | some external => (.ok external, state.remember name external)
          | none =>
              match _found : enclosingType? name with
              | none => (.ok false, state.remember name false)
              | some outer =>
                  match isExternal classifier disk outer state with
                  | (.error abort, state) => (.error abort, state)
                  | (.ok external, state) => (.ok external, state.remember name external)
termination_by name.length
decreasing_by exact length_lt_of_enclosingType? ‹enclosingType? name = some outer›

end Classifier

end FaultContext.Origin
