import FaultContext.Proofs.QuestionOrder

/-!
# Adding packages

Further packages make external what begins with one of them, and change nothing else. An enclosing type
has for its name the front of the name it encloses, so a package that matches on the way outwards
matches the name that was asked for already.
-/

namespace FaultContext.Origin

set_option autoImplicit false

open Files (Disk)

variable {σ : Type}

theorem starts_with_any_iff (leads : List Text) (name : Text) :
    startsWithAny leads name = true ↔ ∃ lead ∈ leads, lead <+: name := by
  simp [startsWithAny]

theorem starts_with_any_append (leads more : List Text) (name : Text) :
    startsWithAny (leads ++ more) name = (startsWithAny leads name || startsWithAny more name) :=
  List.any_append

theorem starts_with_any_eq_false_iff (leads : List Text) (name : Text) :
    startsWithAny leads name = false ↔ ∀ lead ∈ leads, ¬ lead <+: name := by
  rw [← Bool.not_eq_true, starts_with_any_iff]
  simp

/-- One type is around the other, with any number of types between them. -/
inductive Encloses : Text → Text → Prop where
  | directly {outer name : Text} (nested : enclosingType? name = some outer) : Encloses outer name
  | further {outer middle name : Text} (nested : enclosingType? name = some middle)
      (around : Encloses outer middle) : Encloses outer name

theorem enclosing_type_leads {name outer : Text} (nested : enclosingType? name = some outer) :
    outer <+: name := by
  rw [enclosingType?] at nested
  split at nested
  · cases nested
  · split at nested
    · rename_i front back cut
      split at nested
      · cases nested
      · obtain rfl := Option.some.inj nested
        rw [Text.cutLast?_eq_some cut]
        exact List.prefix_append front ('$' :: back)
    · cases nested

theorem unmatched_front {leads : List Text} {front name : Text} (start : front <+: name)
    (unmatched : startsWithAny leads name = false) : startsWithAny leads front = false := by
  rw [starts_with_any_eq_false_iff] at unmatched ⊢
  intro lead member leading
  exact unmatched lead member (leading.trans start)

theorem encloses_leads {outer name : Text} (around : Encloses outer name) : outer <+: name := by
  induction around with
  | directly nested => exact enclosing_type_leads nested
  | further nested around ih => exact ih.trans (enclosing_type_leads nested)

section Packages

variable {packages more : List Text} {origins : Text → Except ResolveError TypeOrigin} {name : Text}

theorem package_verdict_matched (matched : startsWithAny more name = true) :
    packageVerdict (packages ++ more) name = .external := by
  rw [packageVerdict, starts_with_any_append, matched, Bool.or_true, Bool.or_true, if_pos rfl]

theorem package_verdict_unmatched (unmatched : startsWithAny more name = false) :
    packageVerdict (packages ++ more) name = packageVerdict packages name := by
  rw [packageVerdict, packageVerdict, starts_with_any_append, unmatched, Bool.or_false]

theorem reference_external_matched (matched : startsWithAny more name = true) :
    referenceExternal (packages ++ more) origins name = true := by
  rw [referenceExternal, evidence, package_verdict_matched matched]
  rfl

/-- The induction is along the enclosing types: none of them is matched where the name is not. -/
theorem reference_external_unmatched (unmatched : startsWithAny more name = false) :
    referenceExternal (packages ++ more) origins name = referenceExternal packages origins name := by
  induction size : name.length using Nat.strongRecOn generalizing name with
  | ind length ih =>
      have same : evidence (packages ++ more) (origins name) name =
          evidence packages (origins name) name := by
        rw [evidence, evidence, package_verdict_unmatched unmatched]
      rw [referenceExternal, referenceExternal, same]
      cases (evidence packages (origins name) name).findSome? Verdict.decision with
      | some external => rfl
      | none =>
          cases nested : enclosingType? name with
          | none => rfl
          | some outer =>
              have further := unmatched_front (enclosing_type_leads nested) unmatched
              exact ih outer.length (size ▸ length_lt_of_enclosingType? nested) further rfl

theorem reference_external_widened_iff :
    referenceExternal (packages ++ more) origins name = true ↔
      referenceExternal packages origins name = true ∨ startsWithAny more name = true := by
  cases matched : startsWithAny more name with
  | true => simp [reference_external_matched matched]
  | false => simp [reference_external_unmatched matched]

end Packages

namespace Classifier

/-- The classifier that takes some packages for external in addition. -/
def widened (classifier : Classifier σ) (more : List Text) : Classifier σ :=
  { classifier with externalPackages := classifier.externalPackages ++ more }

variable {disks : Disk → Prop} {disk : Disk} {memory : σ}
  {origins : Text → Except ResolveError TypeOrigin}

/-- After any questions a name gets the answer of the recursion without a memory. -/
theorem is_external_after (classifier : Classifier σ)
    (answers : classifier.resolver.GoesByName disks memory fun name => .ofOrigin (origins name))
    {asked : List (Disk × Text)} (seen : ∀ question ∈ asked, disks question.1) (here : disks disk)
    (name : Text) :
    (classifier.isExternal disk name (classifier.askAll asked (.start memory)).2).1 =
      .ok (referenceExternal classifier.externalPackages origins name) := by
  have impartial := (ask_all_spec asked seen _ (impartial_start memory answers)).2
  rw [(impartial_spec impartial here name).1, plain_external_eq]

/-- With further packages a type is external just when it was before or its own name begins with one of
them; every other type keeps its answer, whatever was asked before on either side. With a type that is
not matched all the types around it keep theirs, and so do the types within it that are not matched
themselves. -/
theorem external_widened_iff (classifier : Classifier σ) (more : List Text) (disks : Disk → Prop)
    (memory : σ) (origins : Text → Except ResolveError TypeOrigin)
    (answers : classifier.resolver.GoesByName disks memory fun name => .ofOrigin (origins name))
    (earlier others : List (Disk × Text)) (seen : ∀ question ∈ earlier, disks question.1)
    (alike : ∀ question ∈ others, disks question.1) (here there : Disk) (first : disks here)
    (second : disks there) :
    let wide := classifier.widened more
    let before := fun name =>
      (classifier.isExternal here name (classifier.askAll earlier (.start memory)).2).1
    let after := fun name => (wide.isExternal there name (wide.askAll others (.start memory)).2).1
    (∀ name, ∃ external, after name = .ok external ∧
        (external = true ↔ before name = .ok true ∨ ∃ lead ∈ more, lead <+: name)) ∧
      ∀ name, (∀ lead ∈ more, ¬ lead <+: name) → after name = before name ∧
        (∀ outer, Encloses outer name → after outer = before outer) ∧
        ∀ inner, Encloses name inner → (∀ lead ∈ more, ¬ lead <+: inner) →
          after inner = before inner := by
  intro wide before after
  have plain (name : Text) :
      before name = .ok (referenceExternal classifier.externalPackages origins name) :=
    is_external_after classifier answers seen first name
  have added (name : Text) :
      after name = .ok (referenceExternal (classifier.externalPackages ++ more) origins name) :=
    is_external_after wide answers alike second name
  have kept (name : Text) (unmatched : ∀ lead ∈ more, ¬ lead <+: name) :
      after name = before name := by
    rw [added, plain, reference_external_unmatched ((starts_with_any_eq_false_iff more name).2 unmatched)]
  constructor
  · intro name
    refine ⟨_, added name, ?_⟩
    rw [reference_external_widened_iff, plain, Except.ok.injEq, starts_with_any_iff]
  · intro name unmatched
    refine ⟨kept name unmatched, ?_, ?_⟩
    · intro outer around
      apply kept
      intro lead member start
      exact unmatched lead member (start.trans (encloses_leads around))
    · intro inner _ apart
      exact kept inner apart

theorem external_widened_iff_nested :
    let classifier : Classifier Unit := ⟨.ofFunction fun name => .ofOrigin (archived name), []⟩
    let disks : Disk → Prop := fun disk => disk.workingDirectory = "/".toList
    let bare : Disk := ⟨.directory [], "/".toList⟩
    let wide := classifier.widened ["a.E$F".toList]
    let asked := [(bare, "a.E$F$G".toList), (bare, "a.E".toList)]
    let after := fun name => (wide.isExternal bare name (wide.askAll asked (.start ())).2).1
    classifier.resolver.GoesByName disks () (fun name => .ofOrigin (archived name)) ∧
      (∀ question ∈ asked, disks question.1) ∧ disks bare ∧
      enclosingType? "a.E$F$G".toList = some "a.E$F".toList ∧ Encloses "a.E".toList "a.E$H".toList ∧
      after "a.E$F$G".toList = .ok true ∧ after "a.E$H".toList = .ok false ∧
      after "a.E".toList = .ok false := by
  intro classifier disks bare wide asked after
  have answers : classifier.resolver.GoesByName disks () (fun name => .ofOrigin (archived name)) :=
    fun _ _ _ _ _ => rfl
  have seen : ∀ question ∈ asked, disks question.1 := by
    intro question member
    simp only [asked, List.mem_cons, List.not_mem_nil, or_false] at member
    rcases member with rfl | rfl <;> rfl
  have around : Encloses "a.E".toList "a.E$H".toList := .directly (by decide)
  obtain ⟨decided, kept⟩ := external_widened_iff classifier ["a.E$F".toList] disks () archived answers
    asked asked seen seen bare bare rfl rfl
  obtain ⟨external, said, matched⟩ := decided "a.E$F$G".toList
  obtain ⟨same, outwards, -⟩ := kept "a.E$H".toList (by decide)
  have plain (name : Text) (application : referenceExternal [] archived name = false) :
      (classifier.isExternal bare name (classifier.askAll asked (.start ())).2).1 = .ok false := by
    rw [is_external_after classifier answers seen rfl name, ← application]
  have inner := plain "a.E$H".toList (by decide +kernel)
  have outer := plain "a.E".toList (by decide +kernel)
  have started : ∃ lead ∈ ["a.E$F".toList], lead <+: "a.E$F$G".toList := by decide
  refine ⟨answers, seen, rfl, by decide, around, ?_, same.trans inner, (outwards _ around).trans outer⟩
  rw [matched.2 (.inr started)] at said
  exact said

end Classifier

end FaultContext.Origin
