import FaultContext.Proofs.AddedPackages

/-!
# Classification by the name alone

Where no origin is known, a type is judged by its name: it is external if it begins with a package of
the list or holds a mark of generated names. The types around it add nothing to this. Each of them has
for its name the front of the name it encloses, and what begins or marks the front of a name begins or
marks the whole of it.
-/

namespace FaultContext.Origin

set_option autoImplicit false

open Files (Disk)

variable {packages : List Text} {name outer : Text}

/-- The name begins with a well-known package or one of these, or a mark of generated names stands in
it. -/
def NamedExternal (packages : List Text) (name : Text) : Prop :=
  (∃ lead ∈ builtinPackages ++ packages, lead <+: name) ∨ ∃ mark ∈ syntheticMarks, mark <:+: name

theorem holds_any_iff (fragments : List Text) (text : Text) :
    holdsAny fragments text = true ↔ ∃ fragment ∈ fragments, fragment <:+: text := by
  simp [holdsAny, Text.occurs_iff_infix]

theorem named_external_iff : NamedExternal packages name ↔
    (startsWithAny (builtinPackages ++ packages) name || holdsAny syntheticMarks name) = true := by
  rw [Bool.or_eq_true, starts_with_any_iff, holds_any_iff]
  rfl

instance (packages : List Text) (name : Text) : Decidable (NamedExternal packages name) :=
  decidable_of_iff _ named_external_iff.symm

theorem named_external_longer (front : outer <+: name) (external : NamedExternal packages outer) :
    NamedExternal packages name := by
  obtain ⟨lead, member, begins⟩ | ⟨mark, member, inside⟩ := external
  · exact .inl ⟨lead, member, begins.trans front⟩
  · exact .inr ⟨mark, member, inside.trans front.isInfix⟩

/-- Without an origin the layers in front of the enclosing type have one answer only. -/
theorem name_decision (packages : List Text) (error : ResolveError) (name : Text) :
    (evidence packages (.error error) name).findSome? Verdict.decision =
      if NamedExternal packages name then some true else none := by
  simp only [named_external_iff, starts_with_any_append, evidence, originEvidence, List.nil_append,
    packageVerdict, syntheticVerdict]
  cases startsWithAny builtinPackages name || startsWithAny packages name <;>
    cases holdsAny syntheticMarks name <;> rfl

/-- Nobody knows where any type comes from. -/
def noOrigins : Text → Except ResolveError TypeOrigin := fun name => .error (.notFound name)

theorem reference_external_by_name (packages : List Text) (name : Text) :
    referenceExternal packages noOrigins name = decide (NamedExternal packages name) := by
  -- Along the enclosing types: where the name decides nothing, none of its fronts does.
  induction size : name.length using Nat.strongRecOn generalizing name with
  | ind length ih =>
      rw [referenceExternal, noOrigins, name_decision]
      by_cases named : NamedExternal packages name
      · rw [if_pos named, decide_eq_true named]
      · rw [if_neg named, decide_eq_false named]
        cases nested : enclosingType? name with
        | none => rfl
        | some outer =>
            have around := ih outer.length (size ▸ length_lt_of_enclosingType? nested) outer rfl
            have unnamed : ¬ NamedExternal packages outer := fun external =>
              named (named_external_longer (enclosing_type_leads nested) external)
            rw [decide_eq_false unnamed] at around
            exact around

namespace Classifier

/-- The classifier whose resolver knows nothing. -/
def ofNames (packages : List Text) : Classifier Unit := ⟨.ignorant, packages⟩

theorem answer_by_name (packages : List Text) (earlier : List (Disk × Text)) (disk : Disk)
    (name : Text) :
    let classifier := ofNames packages
    (classifier.isExternal disk name (classifier.askAll earlier (.start ())).2).1 =
      .ok (decide (NamedExternal packages name)) := by
  intro classifier
  have answers : classifier.resolver.GoesByName (fun _ => True) ()
      (fun name => .ofOrigin (noOrigins name)) := fun _ _ _ _ _ => rfl
  rw [is_external_after classifier answers (fun _ _ => trivial) trivial name]
  exact congrArg Except.ok (reference_external_by_name packages name)

/-- A classifier whose resolver knows nothing answers every question, whatever was asked before, and says
that a type is external just when its name begins with a package of the list or holds a mark of generated
names. It answers what the layers in front of the enclosing type decide, and application code where they
decide nothing; no type is external without those within it. -/
theorem external_by_name_iff (packages : List Text) (earlier : List (Disk × Text)) (disk : Disk) :
    let classifier := ofNames packages
    let answer := fun name =>
      (classifier.isExternal disk name (classifier.askAll earlier (.start ())).2).1
    (∀ name, ∃ external, answer name = .ok external ∧
        (external = true ↔ (∃ lead ∈ builtinPackages ++ packages, lead <+: name) ∨
          ∃ mark ∈ syntheticMarks, mark <:+: name)) ∧
      (∀ name, answer name = .ok (((evidence packages (noOrigins name) name).findSome?
        Verdict.decision).getD false)) ∧
      ∀ outer name, Encloses outer name → answer outer = .ok true → answer name = .ok true := by
  intro classifier answer
  have said (name : Text) : answer name = .ok (decide (NamedExternal packages name)) :=
    answer_by_name packages earlier disk name
  refine ⟨?_, ?_, ?_⟩
  · intro name
    exact ⟨_, said name, decide_eq_true_iff⟩
  · intro name
    rw [said, noOrigins, name_decision]
    by_cases named : NamedExternal packages name
    · rw [if_pos named, decide_eq_true named]
      rfl
    · rw [if_neg named, decide_eq_false named]
      rfl
  · intro outer name around external
    rw [said, Except.ok.injEq, decide_eq_true_iff] at external
    rw [said, decide_eq_true (named_external_longer (encloses_leads around) external)]

end Classifier

end FaultContext.Origin
