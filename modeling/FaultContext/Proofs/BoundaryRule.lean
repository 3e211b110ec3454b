import FaultContext.Proofs.FunctionSearch

/-!
# The rule of function boundaries

Which lines the two searches together find, said without either of them. If the greatest line number, up
to that of the line asked about, at which anything is declared is that of a declaration of what is
sought, the function begins there, and there are no boundaries when it does not close. Otherwise it
begins at the least line number at which what is sought is declared and closes. The main statement is
that the boundaries are what the rule gives, and nothing else is.
-/

namespace FaultContext.Code

set_option autoImplicit false

variable {wanted : Wanted} {lines : List Text} {target number : Nat} {range : LineRange}
  {functionName simpleTypeName : Text}

/-- The name that declares what a trace names. -/
def declaredName (functionName simpleTypeName : Text) : Text :=
  if functionName = constructorName then simpleTypeName else functionName

theorem sought_of_named (named : declaredName functionName simpleTypeName ≠ []) :
    ∃ wanted, Wanted.of? functionName simpleTypeName = some wanted := by
  rw [Wanted.of?]
  split
  · exact ⟨_, rfl⟩
  · have filled : (declaredName functionName simpleTypeName).isEmpty = false := by simpa using named
    rw [declaredName] at filled
    exact ⟨_, if_neg (Bool.eq_false_iff.1 filled)⟩

/-- Whether there are any lines makes no difference of its own. -/
theorem find_boundaries_eq (lines : List Text) (target : Nat) (functionName simpleTypeName : Text) :
    findBoundaries lines target functionName simpleTypeName =
      (Wanted.of? functionName simpleTypeName).bind fun wanted => wanted.boundaries lines target := by
  rw [findBoundaries]
  cases lines with
  | nil =>
      cases Wanted.of? functionName simpleTypeName with
      | none => rfl
      | some wanted =>
          have outside : target = 0 ∨ ([] : List Text).length < target := Nat.eq_zero_or_pos target
          exact (if_pos outside).symm
  | cons line lines => cases Wanted.of? functionName simpleTypeName <;> rfl

/-- The nearest line, at or above a line of the file, that declares anything declares what is
sought. -/
structure DecidedAbove (wanted : Wanted) (lines : List Text) (target number : Nat) : Prop where
  inside : target ≤ lines.length
  nearest : NearestAbove wanted.endsSearch lines target number
  declared : lineIs wanted.declaredBy lines number = true

/-- The rule for the boundaries of what is sought around a line. -/
inductive Ruled (wanted : Wanted) (lines : List Text) (target : Nat) : Option LineRange → Prop where
  | above (number : Nat) (decided : DecidedAbove wanted lines target number) :
      Ruled wanted lines target ((findEndLine lines number).map fun last => ⟨number, last⟩)
  | first (range : LineRange) (undecided : ∀ number, ¬ DecidedAbove wanted lines target number)
      (closing : FirstClosing wanted lines range) : Ruled wanted lines target (some range)
  | nowhere (undecided : ∀ number, ¬ DecidedAbove wanted lines target number)
      (unclosed : ∀ number, lineIs wanted.declaredBy lines number = true →
        findEndLine lines number = none) : Ruled wanted lines target none

theorem boundaries_decided (sought : Wanted.of? functionName simpleTypeName = some wanted)
    (decided : DecidedAbove wanted lines target number) :
    findBoundaries lines target functionName simpleTypeName =
      (findEndLine lines number).map fun last => ⟨number, last⟩ :=
  find_boundaries_nearest sought decided.inside decided.nearest decided.declared

theorem boundaries_undecided (sought : Wanted.of? functionName simpleTypeName = some wanted)
    (undecided : ∀ number, ¬ DecidedAbove wanted lines target number) :
    findBoundaries lines target functionName simpleTypeName = searchWholeFile wanted lines := by
  rw [find_boundaries_eq, sought, Option.bind_some, Wanted.boundaries]
  split
  · rfl
  · rename_i within
    have inside : target ≤ lines.length := by omega
    cases found : declarationAbove wanted (lines.take target).reverse with
    | none => rfl
    | some number =>
        obtain ⟨nearest, declared⟩ := (declaration_above_iff inside).1 found
        exact absurd ⟨inside, nearest, declared⟩ (undecided number)

theorem ruled_iff (sought : Wanted.of? functionName simpleTypeName = some wanted)
    (result : Option LineRange) : findBoundaries lines target functionName simpleTypeName = result ↔
      Ruled wanted lines target result := by
  have spec := search_whole_file_spec wanted lines
  constructor
  · rintro rfl
    by_cases decided : ∃ number, DecidedAbove wanted lines target number
    · obtain ⟨number, decided⟩ := decided
      rw [boundaries_decided sought decided]
      exact .above number decided
    · have undecided := not_exists.1 decided
      rw [boundaries_undecided sought undecided]
      cases found : searchWholeFile wanted lines with
      | some range =>
          rw [found] at spec
          exact .first range undecided spec
      | none =>
          rw [found] at spec
          exact .nowhere undecided spec
  · intro ruled
    cases ruled with
    | above number decided => exact boundaries_decided sought decided
    | first range undecided closing =>
        rw [boundaries_undecided sought undecided]
        exact search_whole_file_iff.2 closing
    | nowhere undecided unclosed =>
        rw [boundaries_undecided sought undecided]
        cases found : searchWholeFile wanted lines with
        | none => rfl
        | some range =>
            rw [found] at spec
            have fails := unclosed range.first spec.declared
            rw [spec.closes] at fails
            cases fails

theorem ruled_closes {result : Option LineRange} (ruled : Ruled wanted lines target result) :
    ∀ range ∈ result, findEndLine lines range.first = some range.last := by
  cases ruled with
  | above number decided =>
      intro range found
      obtain ⟨last, closes, rfl⟩ := Option.map_eq_some_iff.1 found
      exact closes
  | first range undecided closing =>
      rintro _ ⟨rfl⟩
      exact closing.closes
  | nowhere undecided unclosed => nofun

/-- Boundaries go from a line to where its braces close. -/
theorem boundaries_close
    (found : findBoundaries lines target functionName simpleTypeName = some range) :
    findEndLine lines range.first = some range.last := by
  cases sought : Wanted.of? functionName simpleTypeName with
  | none =>
      rw [find_boundaries_eq, sought] at found
      cases found
  | some wanted => exact ruled_closes ((ruled_iff sought _).1 found) range rfl

theorem boundaries_inside
    (found : findBoundaries lines target functionName simpleTypeName = some range) :
    1 ≤ range.first ∧ range.first ≤ range.last ∧ range.last ≤ lines.length := by
  obtain ⟨positive, order, bound, -⟩ := (find_end_line_iff _ _ _).1 (boundaries_close found)
  exact ⟨positive, order, bound⟩

/-- The boundaries of a function that has a name are what the rule gives, and they lie in the file. -/
theorem boundaries_follow_rule (lines : List Text) (target : Nat) (functionName simpleTypeName : Text)
    (named : declaredName functionName simpleTypeName ≠ []) :
    ∃ wanted, Wanted.of? functionName simpleTypeName = some wanted ∧
      (∀ result, findBoundaries lines target functionName simpleTypeName = result ↔
        Ruled wanted lines target result) ∧
      ∀ range, findBoundaries lines target functionName simpleTypeName = some range →
        1 ≤ range.first ∧ range.first ≤ range.last ∧ range.last ≤ lines.length := by
  obtain ⟨wanted, sought⟩ := sought_of_named named
  exact ⟨wanted, sought, ruled_iff sought, fun range => boundaries_inside⟩

/-- The first constructor does not close; below it a field with a value ends the search upwards. -/
def cutOff : List Text :=
  ["    public Job() \x7b", "    private int total = count();", "    public Job(int n) \x7b \x7d"].map
    String.toList

theorem boundaries_follow_rule_cut_off :
    declaredName constructorName "Job".toList ≠ [] ∧
      ∃ wanted, Wanted.of? constructorName "Job".toList = some wanted ∧
        findBoundaries cutOff 2 constructorName "Job".toList = some ⟨3, 3⟩ ∧
        Ruled wanted cutOff 2 (some ⟨3, 3⟩) ∧ 3 ≤ cutOff.length := by
  have named : declaredName constructorName "Job".toList ≠ [] := by decide
  have found : findBoundaries cutOff 2 constructorName "Job".toList = some ⟨3, 3⟩ := by decide
  obtain ⟨wanted, sought, ruled, inside⟩ := boundaries_follow_rule cutOff 2 _ _ named
  exact ⟨named, wanted, sought, found, (ruled _).1 found, (inside _ found).2.2⟩

end FaultContext.Code
