import Mathlib.Tactic.SplitIfs
import FaultContext.Origin.Classification

/-!
# The chronicle of a classifier

What happens while a classifier answers, in the order in which it happens: the resolver is asked about
a name, and every question, be it about the enclosing type of another, ends from the memory, with an
answer that was worked out, or broken off. What is remembered is what these events add up to, and each
of them fits what was remembered at its time.
-/

namespace FaultContext.Origin

set_option autoImplicit false

open Files (Disk)

variable {σ : Type}

namespace Classifier

def State.start (memory : σ) : State σ := ⟨memory, [], {}⟩

/-- Questions one after the other; a question that is broken off does not keep the next one away. -/
def askAll (classifier : Classifier σ) :
    List (Disk × Text) → State σ → List (Except Abort Bool) × State σ
  | [], state => ([], state)
  | (disk, name) :: questions, state =>
      let (answer, state) := classifier.isExternal disk name state
      let (answers, state) := askAll classifier questions state
      (answer :: answers, state)

/-- The resolver is asked about a name, or a question for it ends: from the memory, with an answer
that was worked out, or broken off. -/
inductive Event where
  | asked (name : Text)
  | recalled (name : Text) (external : Bool)
  | answered (name : Text) (external : Bool)
  | aborted (name : Text)
deriving DecidableEq, Repr

namespace Event

def name : Event → Text
  | asked name | recalled name _ | answered name _ | aborted name => name

def asked? : Event → Option Text
  | asked name => some name
  | _ => none

def returned? : Event → Option (Text × Bool)
  | recalled name external | answered name external => some (name, external)
  | _ => none

def isRecalled : Event → Bool
  | recalled .. => true
  | _ => false

def isAnswered : Event → Bool
  | answered .. => true
  | _ => false

def isAborted : Event → Bool
  | aborted _ => true
  | _ => false

def ending (name : Text) : Except Abort Bool → Event
  | .ok external => answered name external
  | .error _ => aborted name

end Event

/-- The resolver is asked only where the package does not decide. -/
def consulted (classifier : Classifier σ) (name : Text) : List Event :=
  match packageVerdict classifier.externalPackages name with
  | .inconclusive => [.asked name]
  | _ => []

/-- What happens during one question, those about enclosing types included. -/
def chronicle (classifier : Classifier σ) (disk : Disk) (name : Text) (state : State σ) : List Event :=
  match state.memo.lookup name with
  | some external => [.recalled name external]
  | none =>
      classifier.consulted name ++
        match classifier.ownVerdict disk name (state.asked false) with
        | (.error _, _) => [.aborted name]
        | (.ok verdict, state) =>
            match verdict.decision with
            | some external => [.answered name external]
            | none =>
                match _found : enclosingType? name with
                | none => [.answered name false]
                | some outer =>
                    chronicle classifier disk outer state ++
                      [.ending name (classifier.isExternal disk outer state).1]
termination_by name.length
decreasing_by exact length_lt_of_enclosingType? ‹enclosingType? name = some outer›

def chronicleAll (classifier : Classifier σ) : List (Disk × Text) → State σ → List Event
  | [], _ => []
  | (disk, name) :: questions, state =>
      classifier.chronicle disk name state ++
        chronicleAll classifier questions (classifier.isExternal disk name state).2

/-- The ways in which a question can go, with what happens on each. -/
inductive Unfolds (classifier : Classifier σ) (disk : Disk) :
    Text → State σ → Except Abort Bool × State σ → List Event → Prop
  | recalled {name : Text} {state : State σ} {external : Bool}
      (found : state.memo.lookup name = some external) :
      Unfolds classifier disk name state (.ok external, state.asked true) [.recalled name external]
  | brokenOff {name : Text} {state next : State σ} {abort : Abort}
      (unknown : state.memo.lookup name = none)
      (own : classifier.ownVerdict disk name (state.asked false) = (.error abort, next)) :
      Unfolds classifier disk name state (.error abort, next)
        (classifier.consulted name ++ [.aborted name])
  | decided {name : Text} {state next : State σ} {verdict : Verdict} {external : Bool}
      (unknown : state.memo.lookup name = none)
      (own : classifier.ownVerdict disk name (state.asked false) = (.ok verdict, next))
      (decision : verdict.decision = some external) :
      Unfolds classifier disk name state (.ok external, next.remember name external)
        (classifier.consulted name ++ [.answered name external])
  | outermost {name : Text} {state next : State σ} {verdict : Verdict}
      (unknown : state.memo.lookup name = none)
      (own : classifier.ownVerdict disk name (state.asked false) = (.ok verdict, next))
      (undecided : verdict.decision = none) (alone : enclosingType? name = none) :
      Unfolds classifier disk name state (.ok false, next.remember name false)
        (classifier.consulted name ++ [.answered name false])
  | nestedBroken {name outer : Text} {state next last : State σ} {verdict : Verdict} {abort : Abort}
      {events : List Event} (unknown : state.memo.lookup name = none)
      (own : classifier.ownVerdict disk name (state.asked false) = (.ok verdict, next))
      (undecided : verdict.decision = none) (nested : enclosingType? name = some outer)
      (inner : Unfolds classifier disk outer next (.error abort, last) events) :
      Unfolds classifier disk name state (.error abort, last)
        (classifier.consulted name ++ (events ++ [.aborted name]))
  | nestedAnswered {name outer : Text} {state next last : State σ} {verdict : Verdict}
      {external : Bool} {events : List Event} (unknown : state.memo.lookup name = none)
      (own : classifier.ownVerdict disk name (state.asked false) = (.ok verdict, next))
      (undecided : verdict.decision = none) (nested : enclosingType? name = some outer)
      (inner : Unfolds classifier disk outer next (.ok external, last) events) :
      Unfolds classifier disk name state (.ok external, last.remember name external)
        (classifier.consulted name ++ (events ++ [.answered name external]))

/-- Every question goes in one of these ways. -/
theorem is_external_unfolds (classifier : Classifier σ) (disk : Disk) (name : Text)
    (state : State σ) :
    Unfolds classifier disk name state (classifier.isExternal disk name state)
      (classifier.chronicle disk name state) := by
  induction size : name.length using Nat.strongRecOn generalizing name state with
  | ind length ih =>
      rw [chronicle, isExternal]
      cases found : state.memo.lookup name with
      | some external => exact .recalled found
      | none =>
          cases own : classifier.ownVerdict disk name (state.asked false) with
          | mk told next =>
              cases told with
              | error abort => exact .brokenOff found own
              | ok verdict =>
                  cases decision : verdict.decision with
                  | some external =>
                      simp only [decision]
                      exact .decided found own decision
                  | none =>
                      cases nested : enclosingType? name with
                      | none =>
                          simp only [decision]
                          exact .outermost found own decision nested
                      | some outer =>
                          -- The enclosing type is asked about in the state that the other layers leave.
                          have inner := ih outer.length (size ▸ length_lt_of_enclosingType? nested)
                            outer next rfl
                          cases ran : classifier.isExternal disk outer next with
                          | mk outcome last =>
                              rw [ran] at inner
                              simp only [decision, ran]
                              cases outcome with
                              | error abort => exact .nestedBroken found own decision nested inner
                              | ok external => exact .nestedAnswered found own decision nested inner

variable {classifier : Classifier σ} {disk : Disk} {name outer : Text} {state next : State σ}
  {result : Except Abort Bool × State σ} {verdict : Verdict} {events : List Event}

theorem is_external_outermost (unknown : state.memo.lookup name = none)
    (own : classifier.ownVerdict disk name (state.asked false) = (.ok verdict, next))
    (undecided : verdict.decision = none) (alone : enclosingType? name = none) :
    classifier.isExternal disk name state = (.ok false, next.remember name false) := by
  rw [isExternal, unknown, own]
  simp only [undecided]
  split
  · rfl
  · rename_i other nested
    rw [alone] at nested
    cases nested

theorem is_external_nested (unknown : state.memo.lookup name = none)
    (own : classifier.ownVerdict disk name (state.asked false) = (.ok verdict, next))
    (undecided : verdict.decision = none) (nested : enclosingType? name = some outer) :
    classifier.isExternal disk name state =
      match classifier.isExternal disk outer next with
      | (.error abort, last) => (.error abort, last)
      | (.ok external, last) => (.ok external, last.remember name external) := by
  rw [isExternal, unknown, own]
  simp only [undecided]
  split
  · rename_i alone
    rw [nested] at alone
    cases alone
  · rename_i other same
    rw [nested] at same
    cases same
    rfl

/-- The layers in front of the enclosing type remember nothing, and only the miss is counted. -/
theorem own_verdict_keeps {told : Except Abort Verdict}
    (own : classifier.ownVerdict disk name (state.asked false) = (told, next)) :
    next.memo = state.memo ∧ next.tally = state.tally.classified false := by
  rw [ownVerdict] at own
  split at own <;> cases own <;> exact ⟨rfl, rfl⟩

theorem remember_memo (absent : state.memo.lookup name = none) (external : Bool) :
    (state.remember name external).memo = (name, external) :: state.memo := by
  rw [State.remember, absent]
  rfl

theorem lookup_remember_of_ne {other : Text} (apart : other ≠ name) (external : Bool) :
    (state.remember name external).memo.lookup other = state.memo.lookup other := by
  have unequal : (other == name) = false := by simpa using apart
  rw [State.remember]
  split_ifs with known
  · rfl
  · rw [List.lookup_cons, unequal]

theorem lookup_remember_longer {longer : Text} (shorter : name.length < longer.length)
    (absent : state.memo.lookup longer = none) (external : Bool) :
    (state.remember name external).memo.lookup longer = none := by
  have apart : longer ≠ name := by
    rintro rfl
    omega
  rw [lookup_remember_of_ne apart]
  exact absent

/-- A question teaches nothing about longer names. -/
theorem longer_name_absent (told : Unfolds classifier disk name state result events)
    {longer : Text} (shorter : name.length < longer.length)
    (absent : state.memo.lookup longer = none) : result.2.memo.lookup longer = none := by
  induction told with
  | recalled found => exact absent
  | brokenOff unknown own =>
      rw [← (own_verdict_keeps own).1] at absent
      exact absent
  | decided unknown own decision =>
      rw [← (own_verdict_keeps own).1] at absent
      exact lookup_remember_longer shorter absent _
  | outermost unknown own undecided alone =>
      rw [← (own_verdict_keeps own).1] at absent
      exact lookup_remember_longer shorter absent false
  | nestedBroken unknown own undecided nested _ ih =>
      have inner := length_lt_of_enclosingType? nested
      rw [← (own_verdict_keeps own).1] at absent
      exact ih (Nat.lt_trans inner shorter) absent
  | nestedAnswered unknown own undecided nested _ ih =>
      have inner := length_lt_of_enclosingType? nested
      rw [← (own_verdict_keeps own).1] at absent
      exact lookup_remember_longer shorter (ih (Nat.lt_trans inner shorter) absent) _

namespace Event

/-- Whether an event can happen while the memory is this one. -/
def Fits (memo : List (Text × Bool)) : Event → Prop
  | recalled name external => memo.lookup name = some external
  | asked name | answered name _ | aborted name => memo.lookup name = none

def learn (memo : List (Text × Bool)) : Event → List (Text × Bool)
  | answered name external => (name, external) :: memo
  | _ => memo

/-- Events that each fit the memory they meet, and lead from one memory to another. -/
inductive Replays : List (Text × Bool) → List Event → List (Text × Bool) → Prop
  | nil {memo : List (Text × Bool)} : Replays memo [] memo
  | cons {memo after : List (Text × Bool)} {event : Event} {events : List Event}
      (fits : event.Fits memo) (rest : Replays (event.learn memo) events after) :
      Replays memo (event :: events) after

variable {before between after : List (Text × Bool)} {earlier later : List Event}

theorem replays_append (first : Replays before earlier between)
    (second : Replays between later after) : Replays before (earlier ++ later) after := by
  induction first with
  | nil => exact second
  | cons fits _ ih => exact .cons fits (ih second)

theorem replays_one {event : Event} (fits : event.Fits before) :
    Replays before [event] (event.learn before) :=
  .cons fits .nil

variable {events : List Event} {name : Text} {external : Bool}

theorem lookup_learn {event : Event} (fits : event.Fits before)
    (known : before.lookup name = some external) :
    (event.learn before).lookup name = some external := by
  cases event with
  | answered other said =>
      have apart : (name == other) = false := by
        simp only [beq_eq_false_iff_ne, ne_eq]
        rintro rfl
        rw [show before.lookup name = none from fits] at known
        cases known
      rw [learn, List.lookup_cons, apart]
      exact known
  | asked other => exact known
  | recalled other said => exact known
  | aborted other => exact known

theorem replays_keep (replayed : Replays before events after)
    (known : before.lookup name = some external) : after.lookup name = some external := by
  induction replayed with
  | nil => exact known
  | cons fits _ ih => exact ih (lookup_learn fits known)

/-- Of a name that is remembered nothing happens but that it is recalled. -/
theorem replays_recall (replayed : Replays before events after)
    (known : before.lookup name = some external) :
    ∀ event ∈ events, event.name = name → event = .recalled name external := by
  induction replayed with
  | nil =>
      intro event member
      cases member
  | @cons memo after event events fits _ ih =>
      refine List.forall_mem_cons.2 ⟨?_, ih (lookup_learn fits known)⟩
      rintro rfl
      cases event with
      | recalled name said =>
          have same : some said = some external := fits.symm.trans known
          cases same
          rfl
      | asked name => cases fits.symm.trans known
      | answered name said => cases fits.symm.trans known
      | aborted name => cases fits.symm.trans known

/-- Once a question for a name has ended with an answer, the name is only recalled, and with that
answer: the resolver is not asked about it, and no question for it is worked out or broken off. -/
def Settles (earlier later : Event) : Prop :=
  ∀ name external, earlier.returned? = some (name, external) → later.name = name →
    later = .recalled name external

theorem replays_settle (replayed : Replays before events after) : events.Pairwise Settles := by
  induction replayed with
  | nil => exact .nil
  | @cons memo after event events fits rest ih =>
      refine List.Pairwise.cons ?_ ih
      intro later member name external returned same
      refine replays_recall rest ?_ later member same
      cases event with
      | recalled other said =>
          cases returned
          exact fits
      | answered other said =>
          cases returned
          exact List.lookup_cons_self
      | asked other => cases returned
      | aborted other => cases returned

theorem replays_length (replayed : Replays before events after) :
    after.length = before.length + events.countP isAnswered := by
  induction replayed with
  | nil => rfl
  | @cons memo after event events fits _ ih =>
      rw [ih, List.countP_cons]
      cases event with
      | answered name external =>
          simp only [learn, isAnswered, List.length_cons, if_true]
          omega
      | asked name => simp [learn, isAnswered]
      | recalled name external => simp [learn, isAnswered]
      | aborted name => simp [learn, isAnswered]

theorem replays_nodup (replayed : Replays before events after)
    (distinct : (before.map Prod.fst).Nodup) : (after.map Prod.fst).Nodup := by
  induction replayed with
  | nil => exact distinct
  | @cons memo after event events fits _ ih =>
      refine ih ?_
      cases event with
      | answered name external =>
          refine List.nodup_cons.2 ⟨?_, distinct⟩
          intro member
          obtain ⟨entry, held, same⟩ := List.mem_map.1 member
          have apart := List.lookup_eq_none_iff.1 fits entry held
          rw [same] at apart
          simp at apart
      | asked name => exact distinct
      | recalled name external => exact distinct
      | aborted name => exact distinct

end Event

open Event (Replays)

theorem consulted_replays {memo : List (Text × Bool)} (unknown : memo.lookup name = none) :
    Replays memo (classifier.consulted name) memo := by
  rw [consulted]
  split
  · exact Event.replays_one unknown
  · exact .nil

theorem answered_replays (absent : state.memo.lookup name = none) (external : Bool) :
    Replays state.memo [.answered name external] (state.remember name external).memo := by
  rw [remember_memo absent]
  exact Event.replays_one absent

/-- What happens during a question adds up to what is remembered after it. -/
theorem unfolds_replays (told : Unfolds classifier disk name state result events) :
    Replays state.memo events result.2.memo := by
  induction told with
  | recalled found => exact Event.replays_one found
  | brokenOff unknown own =>
      rw [← (own_verdict_keeps own).1] at unknown ⊢
      exact Event.replays_append (consulted_replays unknown) (Event.replays_one unknown)
  | decided unknown own decision =>
      rw [← (own_verdict_keeps own).1] at unknown ⊢
      exact Event.replays_append (consulted_replays unknown) (answered_replays unknown _)
  | outermost unknown own undecided alone =>
      rw [← (own_verdict_keeps own).1] at unknown ⊢
      exact Event.replays_append (consulted_replays unknown) (answered_replays unknown false)
  | nestedBroken unknown own undecided nested inner ih =>
      rw [← (own_verdict_keeps own).1] at unknown ⊢
      have absent := longer_name_absent inner (length_lt_of_enclosingType? nested) unknown
      refine Event.replays_append (consulted_replays unknown) (Event.replays_append ih ?_)
      exact Event.replays_one absent
  | nestedAnswered unknown own undecided nested inner ih =>
      rw [← (own_verdict_keeps own).1] at unknown ⊢
      -- All that was learned in between is about shorter names.
      have absent := longer_name_absent inner (length_lt_of_enclosingType? nested) unknown
      refine Event.replays_append (consulted_replays unknown) (Event.replays_append ih ?_)
      exact answered_replays absent _

theorem unfolds_remembered {external : Bool} {last : State σ}
    (told : Unfolds classifier disk name state (.ok external, last) events) :
    last.memo.lookup name = some external := by
  have remembered {state : State σ} (absent : state.memo.lookup name = none) :
      (state.remember name external).memo.lookup name = some external := by
    rw [remember_memo absent, List.lookup_cons_self]
  cases told with
  | recalled found => exact found
  | decided unknown own decision =>
      rw [← (own_verdict_keeps own).1] at unknown
      exact remembered unknown
  | outermost unknown own undecided alone =>
      rw [← (own_verdict_keeps own).1] at unknown
      exact remembered unknown
  | nestedAnswered unknown own undecided nested inner =>
      rw [← (own_verdict_keeps own).1] at unknown
      exact remembered (longer_name_absent inner (length_lt_of_enclosingType? nested) unknown)

theorem is_external_remembered {external : Bool}
    (answered : (classifier.isExternal disk name state).1 = .ok external) :
    (classifier.isExternal disk name state).2.memo.lookup name = some external := by
  have told := is_external_unfolds classifier disk name state
  generalize classifier.isExternal disk name state = result at told answered
  obtain ⟨outcome, last⟩ := result
  cases answered
  exact unfolds_remembered told

theorem is_external_known {external : Bool} (known : state.memo.lookup name = some external) :
    (classifier.isExternal disk name state).1 = .ok external := by
  rw [isExternal, known]

end Classifier

end FaultContext.Origin
