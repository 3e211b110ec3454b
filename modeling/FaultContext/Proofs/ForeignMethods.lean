import FaultContext.Proofs.DeclarationLines
import FaultContext.Proofs.FunctionSearch

/-!
# Methods in the way

The search upwards is to end at a method of another name, so that no such method lies between the
function found and the line asked about. A line that leads a method does end it, with two exceptions,
which the main statement names: the letters of the name sought stand in front of a parenthesis in the
line, be it within the longer name of the method, or no word character ends the name of the method.
-/

namespace FaultContext

set_option autoImplicit false

namespace Code

variable {wanted : Wanted} {lines : List Text} {target first number : Nat} {name text : Text}

theorem any_call_append {front behind : Text} (unbroken : '\n' ∉ front)
    (call : anyCallWithin behind = true) : anyCallWithin (front ++ behind) = true := by
  induction front with
  | nil => exact call
  | cons c front ih =>
      obtain ⟨other, unbroken⟩ := not_or.1 (fun member => unbroken (List.mem_cons.2 member))
      rw [List.cons_append, anyCallWithin, ih unbroken]
      simp [Ne.symm other]

/-- An identifier: word characters and dollar signs. -/
def Identifier (name : Text) : Prop := name ≠ [] ∧ ∀ c ∈ name, Text.isWord c = true ∨ c = '$'

/-- The text between a modifier and the name of a method: a type with blanks around it, all in one
line. -/
def HoldsType (text : Text) : Prop :=
  '\n' ∉ text ∧ ∃ blanks type gap, text = blanks ++ type ++ gap ∧
    blanks ≠ [] ∧ (∀ b ∈ blanks, Text.isBlank b = true) ∧
    type ≠ [] ∧ (∀ c ∈ type, Text.isBlank c = false) ∧
    gap ≠ [] ∧ ∀ b ∈ gap, Text.isBlank b = true

/-- Somewhere in the text a modifier leads a method of the name: the modifier as a word of its own, a
type and the name, directly in front of a parenthesis. -/
def LeadsMethod (name text : Text) : Prop :=
  ∃ before modifier middle rest, text = before ++ modifier ++ middle ++ name ++ '(' :: rest ∧
    modifier ∈ modifiers ∧ before.getLast?.any Text.isWord = false ∧ HoldsType middle ∧
    Identifier name

theorem call_of_leads {c : Char} (leads : LeadsMethod name text) (last : name.getLast? = some c)
    (ends : Text.isWord c = true) :
    behindModifier (fun _ behind => anyCallWithin behind) text = true := by
  obtain ⟨before, modifier, middle, rest, rfl, member, -, ⟨unbroken, -⟩, -, letters⟩ := leads
  obtain ⟨front, rfl⟩ := List.getLast?_eq_some_iff.1 last
  have noBreak : '\n' ∉ middle ++ front := by
    intro inside
    rcases List.mem_append.1 inside with early | late
    · exact unbroken early
    · rcases letters '\n' (List.mem_append_left _ late) with word | dollar
      · exact absurd word (by decide)
      · exact absurd dollar (by decide)
  have call : anyCallWithin (c :: '(' :: rest) = true := by
    have opens : Text.trimStart ('(' :: rest) = '(' :: rest := List.dropWhile_cons_of_neg (by decide)
    rw [anyCallWithin, ends, opens]
    rfl
  refine (behind_modifier_iff _ _).2
    ⟨before, modifier, middle ++ front ++ c :: '(' :: rest, member, ?_, ?_⟩
  · simp
  · exact any_call_append noBreak call

/-- The name under which something is declared; a static initializer has none. -/
def Wanted.name? : Wanted → Option Text
  | .function name => some name
  | .staticInitializer => none

/-- What keeps a line that leads a method from ending the search upwards. -/
def Overlooked (wanted : Wanted) (name text : Text) : Prop :=
  name.getLast?.any Text.isWord = false ∨
    ∃ sought, wanted.name? = some sought ∧ (sought ++ ['(']) <:+: text

/-- With a call behind a modifier, the search goes on only past the name sought. -/
theorem name_occurs_of_passed {line : Text} (passed : wanted.otherDeclaredBy line = false)
    (call : behindModifier (fun _ behind => anyCallWithin behind) (withoutComment line) = true) :
    ∃ sought, wanted.name? = some sought ∧ (sought ++ ['(']) <:+: withoutComment line := by
  cases wanted with
  | staticInitializer => simp [Wanted.otherDeclaredBy, call] at passed
  | function sought =>
      have occurs : Text.occurs (sought ++ ['(']) (withoutComment line) = true := by
        simp only [Wanted.otherDeclaredBy, call, Bool.true_and, Bool.or_eq_false_iff,
          Bool.not_eq_false'] at passed
        exact passed.2
      exact ⟨sought, rfl, Text.occurs_iff_infix.1 occurs⟩

theorem overlooked_of_passed {line : Text} (passed : wanted.otherDeclaredBy line = false)
    (leads : LeadsMethod name (withoutComment line)) :
    Overlooked wanted name (withoutComment line) := by
  cases last : name.getLast? with
  | none => exact .inl (by simp [last])
  | some c =>
      by_cases ends : Text.isWord c = true
      · right
        exact name_occurs_of_passed passed (call_of_leads leads last ends)
      · left
        simpa [last] using ends

theorem passed_of_nearest {line : Text} (nearest : NearestAbove wanted.endsSearch lines target first)
    (below : first < number) (above : number ≤ target) (shown : lines[number - 1]? = some line) :
    wanted.otherDeclaredBy line = false := by
  have passed := nearest.nearest number above below
  cases number with
  | zero => exact absurd below (Nat.not_lt_zero first)
  | succ index =>
      rw [Nat.add_sub_cancel] at shown
      rw [lineIs, shown, Option.any_some, Wanted.endsSearch, Bool.or_eq_false_iff] at passed
      exact passed.2

/-- Where the search upwards finds a function, each line passed over on the way that leads a method of
some name is an overlooked one. -/
theorem passed_methods_overlooked (lines : List Text) (target first : Nat)
    (functionName simpleTypeName : Text) (wanted : Wanted)
    (sought : Wanted.of? functionName simpleTypeName = some wanted) (inside : target ≤ lines.length)
    (scanned : declarationAbove wanted (lines.take target).reverse = some first) :
    findBoundaries lines target functionName simpleTypeName = rangeFrom? lines first ∧
      first ≤ target ∧
      ∀ number line name, first < number → number ≤ target → lines[number - 1]? = some line →
        LeadsMethod name (withoutComment line) → Overlooked wanted name (withoutComment line) := by
  obtain ⟨nearest, declared⟩ := (declaration_above_iff inside).1 scanned
  refine ⟨find_boundaries_nearest sought inside nearest declared, nearest.above, ?_⟩
  intro number line name below above shown leads
  exact overlooked_of_passed (passed_of_nearest nearest below above shown) leads

/-- The first line of a method whose name ends with that of the function sought. -/
def prerunLine : Text := "public void prerun() \x7b".toList

/-- Two functions of one name, and below them the method. -/
def suffixed : List Text :=
  ["public void run(int n) \x7b \x7d".toList, "public void run() \x7b \x7d".toList, prerunLine,
    "    go();".toList, "\x7d".toList]

theorem prerun_leads : LeadsMethod "prerun".toList (withoutComment prerunLine) := by
  have blank : ∀ b ∈ " ".toList, Text.isBlank b = true := List.all_eq_true.1 (by decide)
  have solid : "void".toList.any Text.isBlank = false := by decide
  have letters : "prerun".toList.all Text.isWord = true := by decide
  have middle : HoldsType " void ".toList :=
    ⟨by decide, " ".toList, "void".toList, " ".toList, rfl, by decide, blank, by decide,
      fun c member => Bool.eq_false_iff.2 (List.any_eq_false.1 solid c member), by decide, blank⟩
  have name : Identifier "prerun".toList :=
    ⟨by decide, fun c member => .inl (List.all_eq_true.1 letters c member)⟩
  exact ⟨[], "public".toList, " void ".toList, ") \x7b".toList, rfl, by decide, rfl, middle, name⟩

theorem passed_methods_overlooked_suffixed :
    let wanted := Wanted.function "run".toList
    Wanted.of? "run".toList "Job".toList = some wanted ∧ 4 ≤ suffixed.length ∧
      declarationAbove wanted (suffixed.take 4).reverse = some 2 ∧
      suffixed[3 - 1]? = some prerunLine ∧ LeadsMethod "prerun".toList (withoutComment prerunLine) ∧
      Overlooked wanted "prerun".toList (withoutComment prerunLine) := by
  intro wanted
  have scanned : declarationAbove wanted (suffixed.take 4).reverse = some 2 := by decide
  obtain ⟨-, -, overlooked⟩ := passed_methods_overlooked suffixed 4 2 "run".toList "Job".toList
    wanted rfl (by decide) scanned
  exact ⟨rfl, by decide, scanned, rfl, prerun_leads,
    overlooked 3 prerunLine _ (by decide) (by decide) rfl prerun_leads⟩

/-- The method in the third line does not keep the search from the function above it. -/
theorem suffixed_method_passed :
    let wanted := Wanted.function "run".toList
    declarationAbove wanted (suffixed.take 4).reverse = some 2 ∧
      findBoundaries suffixed 4 "run".toList "Job".toList = some ⟨2, 2⟩ ∧
      ∃ number line name, 2 < number ∧ number ≤ 4 ∧ suffixed[number - 1]? = some line ∧
        wanted.name? ≠ some name ∧ LeadsMethod name (withoutComment line) := by
  intro wanted
  exact ⟨by decide, by decide, 3, prerunLine, _, by decide, by decide, rfl, by decide, prerun_leads⟩

end Code

end FaultContext
