import FaultContext.Proofs.Braces

/-!
# Searching for a function

The boundaries of a function come from one of two searches. Upwards from the line asked about, the
nearest line that declares anything decides: the function begins there if that line declares it. Where
that line declares something else, or where there is none, the first declaration in the file that closes
is taken. Neither search asks whether the lines found enclose the line asked about; the main statements
say when they do.
-/

namespace FaultContext.Code

set_option autoImplicit false

variable {wanted : Wanted} {test : Text → Bool} {lines : List Text} {target number other : Nat}

/-- Whether the line with a number, counted from one, is in the file and passes the test. -/
def lineIs (test : Text → Bool) (lines : List Text) : Nat → Bool
  | 0 => false
  | index + 1 => lines[index]?.any test

theorem line_is_positive (passes : lineIs test lines number = true) : 0 < number := by
  cases number with
  | zero => simp [lineIs] at passes
  | succ index => exact Nat.succ_pos index

theorem line_is_inside (inside : number < lines.length) (test : Text → Bool) :
    lineIs test lines (number + 1) = test lines[number] := by
  simp [lineIs, List.getElem?_eq_getElem inside]

/-- Whether the search upwards ends at a line. -/
def Wanted.endsSearch (wanted : Wanted) (line : Text) : Bool :=
  wanted.declaredBy line || wanted.otherDeclaredBy line

theorem ends_of_declared (declared : lineIs wanted.declaredBy lines number = true) :
    lineIs wanted.endsSearch lines number = true := by
  cases number with
  | zero => simp [lineIs] at declared
  | succ index =>
      rw [lineIs] at declared ⊢
      cases found : lines[index]? with
      | none => simp [found] at declared
      | some line =>
          rw [found] at declared
          simpa [Wanted.endsSearch] using .inl declared

/-- The nearest line that passes a test, at or above a line. -/
structure NearestAbove (test : Text → Bool) (lines : List Text) (target number : Nat) : Prop where
  passes : lineIs test lines number = true
  above : number ≤ target
  nearest : ∀ nearer, nearer ≤ target → number < nearer → lineIs test lines nearer = false

theorem nearest_above_zero : ¬ NearestAbove test lines 0 number := by
  intro nearest
  have := line_is_positive nearest.passes
  have := nearest.above
  omega

theorem nearest_above_order (one : NearestAbove test lines target number)
    (another : NearestAbove test lines target other) : other ≤ number := by
  apply Nat.le_of_not_lt
  intro below
  simpa [another.passes] using one.nearest other another.above below

theorem nearest_above_unique (one : NearestAbove test lines target number)
    (another : NearestAbove test lines target other) : number = other :=
  Nat.le_antisymm (nearest_above_order another one) (nearest_above_order one another)

theorem nearest_above_self (passes : lineIs test lines target = true) :
    NearestAbove test lines target target :=
  ⟨passes, Nat.le_refl _, fun _ bound beyond => absurd bound (Nat.not_le.2 beyond)⟩

theorem nearest_above_skip (fails : lineIs test lines (target + 1) = false) :
    NearestAbove test lines (target + 1) number ↔ NearestAbove test lines target number := by
  constructor
  · rintro ⟨passes, above, nearest⟩
    have differs : number ≠ target + 1 := by
      rintro rfl
      simp [fails] at passes
    exact ⟨passes, by omega, fun nearer bound => nearest nearer (by omega)⟩
  · rintro ⟨passes, above, nearest⟩
    refine ⟨passes, by omega, ?_⟩
    intro nearer bound beyond
    by_cases last : nearer = target + 1
    · rw [last, fails]
    · exact nearest nearer (by omega) beyond

theorem nearest_above_exists (passes : lineIs test lines number = true) (above : number ≤ target) :
    ∃ nearest, NearestAbove test lines target nearest := by
  induction target with
  | zero =>
      have := line_is_positive passes
      omega
  | succ target ih =>
      by_cases here : lineIs test lines (target + 1) = true
      · exact ⟨target + 1, nearest_above_self here⟩
      · have fails : lineIs test lines (target + 1) = false := by simpa using here
        have differs : number ≠ target + 1 := by
          rintro rfl
          exact here passes
        obtain ⟨nearest, found⟩ := ih (by omega)
        exact ⟨nearest, (nearest_above_skip fails).2 found⟩

theorem declaration_above_succ (inside : target < lines.length) :
    declarationAbove wanted (lines.take (target + 1)).reverse =
      if wanted.declaredBy lines[target] then some (target + 1)
      else if wanted.otherDeclaredBy lines[target] then none
      else declarationAbove wanted (lines.take target).reverse := by
  have upwards : (lines.take (target + 1)).reverse =
      lines[target] :: (lines.take target).reverse := by
    rw [List.take_succ_eq_append_getElem inside, List.reverse_append]
    rfl
  have height : (lines.take target).reverse.length = target := by
    rw [List.length_reverse, List.length_take]
    omega
  rw [upwards, declarationAbove, height]

theorem declaration_above_iff (inside : target ≤ lines.length) :
    declarationAbove wanted (lines.take target).reverse = some number ↔
      NearestAbove wanted.endsSearch lines target number ∧
        lineIs wanted.declaredBy lines number = true := by
  induction target with
  | zero =>
      simp only [List.take_zero, List.reverse_nil, declarationAbove]
      constructor
      · intro found
        cases found
      · rintro ⟨nearest, -⟩
        exact absurd nearest nearest_above_zero
  | succ target ih =>
      have ends := line_is_inside inside wanted.endsSearch
      have declares := line_is_inside inside wanted.declaredBy
      rw [declaration_above_succ inside]
      by_cases declared : wanted.declaredBy lines[target] = true
      · rw [if_pos declared]
        have here : NearestAbove wanted.endsSearch lines (target + 1) (target + 1) :=
          nearest_above_self (by simp [ends, Wanted.endsSearch, declared])
        constructor
        · rintro ⟨rfl⟩
          exact ⟨here, by rw [declares, declared]⟩
        · rintro ⟨nearest, -⟩
          rw [nearest_above_unique here nearest]
      · rw [if_neg declared]
        by_cases stopped : wanted.otherDeclaredBy lines[target] = true
        · rw [if_pos stopped]
          have here : NearestAbove wanted.endsSearch lines (target + 1) (target + 1) :=
            nearest_above_self (by simp [ends, Wanted.endsSearch, stopped])
          constructor
          · intro found
            cases found
          · rintro ⟨nearest, declaredThere⟩
            rw [← nearest_above_unique here nearest, declares] at declaredThere
            exact absurd declaredThere declared
        · rw [if_neg stopped, ih (Nat.le_of_succ_le inside), nearest_above_skip]
          simp [ends, Wanted.endsSearch, declared, stopped]

/-- The first declaration in the file that closes, with its end. -/
structure FirstClosing (wanted : Wanted) (lines : List Text) (range : LineRange) : Prop where
  declared : lineIs wanted.declaredBy lines range.first = true
  closes : findEndLine lines range.first = some range.last
  first : ∀ earlier, earlier < range.first → lineIs wanted.declaredBy lines earlier = true →
    findEndLine lines earlier = none

theorem first_closing_earliest {first last : Nat} {range : LineRange}
    (closing : FirstClosing wanted lines range)
    (declared : lineIs wanted.declaredBy lines first = true)
    (closes : findEndLine lines first = some last) : range.first ≤ first := by
  apply Nat.le_of_not_lt
  intro earlier
  rw [closing.first first earlier declared] at closes
  cases closes

theorem first_closing_unique {one another : LineRange} (first : FirstClosing wanted lines one)
    (second : FirstClosing wanted lines another) : one = another := by
  have same : one.first = another.first :=
    Nat.le_antisymm (first_closing_earliest first second.declared second.closes)
      (first_closing_earliest second first.declared first.closes)
  have ends : some one.last = some another.last := by
    rw [← first.closes, ← second.closes, same]
  cases one
  cases another
  rw [LineRange.mk.injEq]
  exact ⟨same, Option.some.inj ends⟩

/-- Over the whole file: the lines before `rest` are behind the search, and nothing there closes. -/
theorem first_closing_spec (rest before : List Text) (parts : lines = before ++ rest)
    (behind : ∀ earlier, earlier ≤ before.length → lineIs wanted.declaredBy lines earlier = true →
      findEndLine lines earlier = none) :
    match firstClosing wanted lines (before.length + 1) rest with
    | some range => FirstClosing wanted lines range
    | none => ∀ number, lineIs wanted.declaredBy lines number = true →
        findEndLine lines number = none := by
  induction rest generalizing before with
  | nil =>
      rw [firstClosing]
      intro number declared
      by_cases inside : number ≤ before.length
      · exact behind number inside declared
      · have outside : lines.length < number := by
          rw [parts, List.append_nil]
          omega
        rw [findEndLine, if_pos (.inr outside)]
  | cons line rest ih =>
      have further : lines = (before ++ [line]) ++ rest := by rw [parts, List.append_cons]
      have here : lineIs wanted.declaredBy lines (before.length + 1) = wanted.declaredBy line := by
        simp [lineIs, parts]
      have next := ih (before ++ [line]) further
      rw [List.length_append, List.length_singleton] at next
      have skipped (nothing : wanted.declaredBy line = true →
            findEndLine lines (before.length + 1) = none) :
          ∀ earlier, earlier ≤ before.length + 1 →
            lineIs wanted.declaredBy lines earlier = true → findEndLine lines earlier = none := by
        intro earlier bound declared
        rcases Nat.lt_or_eq_of_le bound with above | rfl
        · exact behind earlier (Nat.le_of_lt_succ above) declared
        · exact nothing (here ▸ declared)
      rw [firstClosing]
      by_cases declared : wanted.declaredBy line = true
      · rw [if_pos declared, rangeFrom?]
        cases ends : findEndLine lines (before.length + 1) with
        | some last =>
            refine ⟨by rw [here, declared], ends, ?_⟩
            intro earlier bound
            exact behind earlier (Nat.le_of_lt_succ bound)
        | none => exact next (skipped fun _ => ends)
      · rw [if_neg declared]
        exact next (skipped fun yes => absurd yes declared)

theorem search_whole_file_spec (wanted : Wanted) (lines : List Text) :
    match searchWholeFile wanted lines with
    | some range => FirstClosing wanted lines range
    | none => ∀ number, lineIs wanted.declaredBy lines number = true →
        findEndLine lines number = none := by
  apply first_closing_spec lines [] rfl
  intro earlier bound declared
  have := line_is_positive declared
  rw [List.length_nil] at bound
  omega

theorem search_whole_file_iff {range : LineRange} :
    searchWholeFile wanted lines = some range ↔ FirstClosing wanted lines range := by
  have spec := search_whole_file_spec wanted lines
  constructor
  · intro found
    rwa [found] at spec
  · intro first
    cases found : searchWholeFile wanted lines with
    | some another =>
        rw [found] at spec
        rw [first_closing_unique first spec]
    | none =>
        rw [found] at spec
        have fails := spec range.first first.declared
        rw [first.closes] at fails
        cases fails

theorem first_closing_exists {first last : Nat}
    (declared : lineIs wanted.declaredBy lines first = true)
    (closes : findEndLine lines first = some last) : ∃ range, FirstClosing wanted lines range := by
  have spec := search_whole_file_spec wanted lines
  cases found : searchWholeFile wanted lines with
  | none =>
      rw [found] at spec
      rw [spec first declared] at closes
      cases closes
  | some range =>
      rw [found] at spec
      exact ⟨range, spec⟩

variable {functionName simpleTypeName : Text} {range : LineRange}

theorem find_boundaries_inside (sought : Wanted.of? functionName simpleTypeName = some wanted)
    (positive : 0 < target) (inside : target ≤ lines.length) :
    findBoundaries lines target functionName simpleTypeName =
      match declarationAbove wanted (lines.take target).reverse with
      | some first => rangeFrom? lines first
      | none => searchWholeFile wanted lines := by
  have filled : lines.isEmpty = false := by
    cases lines with
    | nil => exact absurd inside (Nat.not_le.2 positive)
    | cons line lines => rfl
  have within : ¬ (target = 0 ∨ lines.length < target) := by omega
  rw [findBoundaries, filled, sought, if_neg Bool.false_ne_true]
  exact if_neg within

theorem find_boundaries_nearest (sought : Wanted.of? functionName simpleTypeName = some wanted)
    (inside : target ≤ lines.length) (nearest : NearestAbove wanted.endsSearch lines target number)
    (declared : lineIs wanted.declaredBy lines number = true) :
    findBoundaries lines target functionName simpleTypeName = rangeFrom? lines number := by
  have positive : 0 < target :=
    Nat.lt_of_lt_of_le (line_is_positive declared) nearest.above
  rw [find_boundaries_inside sought positive inside,
    (declaration_above_iff inside).2 ⟨nearest, declared⟩]

theorem find_boundaries_elsewhere (sought : Wanted.of? functionName simpleTypeName = some wanted)
    (inside : target ≤ lines.length) (nearest : NearestAbove wanted.endsSearch lines target number)
    (undeclared : lineIs wanted.declaredBy lines number = false) :
    findBoundaries lines target functionName simpleTypeName = searchWholeFile wanted lines := by
  have positive : 0 < target :=
    Nat.lt_of_lt_of_le (line_is_positive nearest.passes) nearest.above
  rw [find_boundaries_inside sought positive inside]
  cases found : declarationAbove wanted (lines.take target).reverse with
  | none => rfl
  | some first =>
      obtain ⟨another, declared⟩ := (declaration_above_iff inside).1 found
      rw [nearest_above_unique another nearest, undeclared] at declared
      cases declared

theorem range_from_iff {first : Nat} : rangeFrom? lines first = some range ↔
    range.first = first ∧ findEndLine lines first = some range.last := by
  rw [rangeFrom?, Option.map_eq_some_iff]
  constructor
  · rintro ⟨last, closes, rfl⟩
    exact ⟨rfl, closes⟩
  · rintro ⟨rfl, closes⟩
    exact ⟨range.last, closes, rfl⟩

/-- Where some function encloses the line asked about, an enclosing one is found, as long as what
comes nearer does no harm: a nearer declaration of it encloses the line as well, and where something
else is declared nearer, the first declaration in the file that closes does. -/
theorem enclosing_function_found (lines : List Text) (target : Nat)
    (functionName simpleTypeName : Text) (wanted : Wanted) (first last : Nat)
    (sought : Wanted.of? functionName simpleTypeName = some wanted) (inside : target ≤ lines.length)
    (above : first ≤ target) (declared : lineIs wanted.declaredBy lines first = true)
    (closes : findEndLine lines first = some last) (encloses : target ≤ last)
    (again : ∀ nearer, first < nearer → NearestAbove wanted.endsSearch lines target nearer →
      lineIs wanted.declaredBy lines nearer = true →
        ∃ behind, findEndLine lines nearer = some behind ∧ target ≤ behind)
    (stopped : ∀ nearer, first < nearer → NearestAbove wanted.endsSearch lines target nearer →
      lineIs wanted.declaredBy lines nearer = false →
        ∀ range, FirstClosing wanted lines range → target ≤ range.last) :
    ∃ range, findBoundaries lines target functionName simpleTypeName = some range ∧
      range.first ≤ target ∧ target ≤ range.last := by
  -- The line that decides lies at `first` or below it, for `first` ends the search as well.
  obtain ⟨number, nearest⟩ := nearest_above_exists (ends_of_declared declared) above
  have order : first ≤ number := by
    apply Nat.le_of_not_lt
    intro below
    simpa [ends_of_declared declared] using nearest.nearest first above below
  cases here : lineIs wanted.declaredBy lines number with
  | true =>
      have taken := find_boundaries_nearest sought inside nearest here
      have enclosed : ∃ behind, findEndLine lines number = some behind ∧ target ≤ behind := by
        rcases Nat.eq_or_lt_of_le order with rfl | nearer
        · exact ⟨last, closes, encloses⟩
        · exact again number nearer nearest here
      obtain ⟨behind, ends, bound⟩ := enclosed
      exact ⟨⟨number, behind⟩, taken.trans (range_from_iff.2 ⟨rfl, ends⟩), nearest.above, bound⟩
  | false =>
      have taken := find_boundaries_elsewhere sought inside nearest here
      have nearer : first < number := by
        apply Nat.lt_of_le_of_ne order
        rintro rfl
        rw [declared] at here
        cases here
      obtain ⟨range, closing⟩ := first_closing_exists declared closes
      have earlier := first_closing_earliest closing declared closes
      exact ⟨range, taken.trans (search_whole_file_iff.2 closing), Nat.le_trans earlier above,
        stopped number nearer nearest here range closing⟩

/-- A local that is initialised by a call ends the search upwards. -/
def withLocal : List Text :=
  ["public void run() \x7b", "    final int n = count();", "    go(n);", "\x7d"].map String.toList

theorem enclosing_function_found_past_local :
    let wanted := Wanted.function "run".toList
    Wanted.of? "run".toList "Job".toList = some wanted ∧ 3 ≤ withLocal.length ∧
      lineIs wanted.declaredBy withLocal 1 = true ∧ findEndLine withLocal 1 = some 4 ∧
      NearestAbove wanted.endsSearch withLocal 3 2 ∧ FirstClosing wanted withLocal ⟨1, 4⟩ ∧
      ∃ range, findBoundaries withLocal 3 "run".toList "Job".toList = some range ∧
        range.first ≤ 3 ∧ 3 ≤ range.last := by
  intro wanted
  have nearest : NearestAbove wanted.endsSearch withLocal 3 2 :=
    ⟨by decide, by decide, by decide⟩
  have first : FirstClosing wanted withLocal ⟨1, 4⟩ := search_whole_file_iff.1 (by decide)
  refine ⟨rfl, by decide, by decide, by decide, nearest, first, ?_⟩
  apply enclosing_function_found withLocal 3 "run".toList "Job".toList wanted 1 4 rfl (by decide)
    (by decide) (by decide) (by decide) (by decide)
  · intro nearer _ another declared
    rw [nearest_above_unique another nearest] at declared
    exact absurd declared (by decide)
  · intro nearer _ _ _ range closing
    rw [first_closing_unique closing first]
    decide

/-- A function that holds another one of its name. -/
def nested : List Text :=
  ["public void run() \x7b", "    start(new Runnable() \x7b", "        public void run() \x7b \x7d", "    \x7d);",
    "    done();", "\x7d"].map String.toList

/-- Two functions of one name, where the second one holds a function of another name. -/
def overloaded : List Text :=
  ["public void run(int n) \x7b \x7d", "public void run() \x7b", "    start(new Task() \x7b",
    "        public void go() \x7b \x7d", "    \x7d);", "    done();", "\x7d"].map String.toList

/-- A function of the name encloses the line, no type is declared in between, and what is found does
not enclose the line. -/
structure MissesEnclosing (name : Text) (lines : List Text) (target first last : Nat) : Prop where
  above : first ≤ target
  declared : lineIs (Wanted.function name).declaredBy lines first = true
  closes : findEndLine lines first = some last
  encloses : target ≤ last
  typeless : ∀ nearer, nearer ≤ target → first < nearer →
    lineIs (fun line => declaresType none (withoutComment line)) lines nearer = false
  missed : ¬ ∃ range, findBoundaries lines target name "Job".toList = some range ∧
    range.first ≤ target ∧ target ≤ range.last

theorem not_enclosing_of_found {name : Text} (found : findBoundaries lines target name "Job".toList =
    some range) (ends : range.last < target) :
    ¬ ∃ range, findBoundaries lines target name "Job".toList = some range ∧
      range.first ≤ target ∧ target ≤ range.last := by
  rintro ⟨another, foundToo, -, encloses⟩
  rw [found] at foundToo
  obtain rfl := Option.some.inj foundToo
  exact absurd encloses (Nat.not_le.2 ends)

theorem enclosing_function_missed :
    MissesEnclosing "run".toList nested 5 1 6 ∧ MissesEnclosing "run".toList overloaded 6 2 7 := by
  have inner : findBoundaries nested 5 "run".toList "Job".toList = some ⟨3, 3⟩ := by decide
  have earlier : findBoundaries overloaded 6 "run".toList "Job".toList = some ⟨1, 1⟩ := by decide
  constructor
  · exact ⟨by decide, by decide, by decide, by decide, by decide,
      not_enclosing_of_found inner (by decide)⟩
  · exact ⟨by decide, by decide, by decide, by decide, by decide,
      not_enclosing_of_found earlier (by decide)⟩

/-- A function that begins at the nearest line that declares anything lies around the line asked about
just when its braces have not all closed above that line. -/
theorem function_above_encloses_iff (lines : List Text) (target number : Nat)
    (functionName simpleTypeName : Text) (wanted : Wanted) (range : LineRange)
    (sought : Wanted.of? functionName simpleTypeName = some wanted) (inside : target ≤ lines.length)
    (nearest : NearestAbove wanted.endsSearch lines target number)
    (declared : lineIs wanted.declaredBy lines number = true)
    (found : findBoundaries lines target functionName simpleTypeName = some range) :
    range.first = number ∧ range.first ≤ target ∧
      (target ≤ range.last ↔ ¬ Closes (textBetween lines number target)) := by
  rw [find_boundaries_nearest sought inside nearest declared] at found
  obtain ⟨begins, closes⟩ := range_from_iff.1 found
  exact ⟨begins, begins ▸ nearest.above, within_end_iff closes⟩

/-- A function with a block that closes above the last line of its body. -/
def withBlock : List Text :=
  ["public void run() \x7b", "    if (ready) \x7b go(); \x7d", "    stop();", "\x7d"].map String.toList

theorem function_above_encloses_iff_block :
    let wanted := Wanted.function "run".toList
    Wanted.of? "run".toList "Job".toList = some wanted ∧ 3 ≤ withBlock.length ∧
      NearestAbove wanted.endsSearch withBlock 3 1 ∧
      lineIs wanted.declaredBy withBlock 1 = true ∧
      findBoundaries withBlock 3 "run".toList "Job".toList = some ⟨1, 4⟩ ∧
      ¬ Closes (textBetween withBlock 1 3) := by
  intro wanted
  have nearest : NearestAbove wanted.endsSearch withBlock 3 1 :=
    ⟨by decide, by decide, by decide⟩
  have found : findBoundaries withBlock 3 "run".toList "Job".toList = some ⟨1, 4⟩ := by decide
  obtain ⟨-, -, encloses⟩ := function_above_encloses_iff withBlock 3 1 "run".toList "Job".toList
    wanted ⟨1, 4⟩ rfl (by decide) nearest (by decide) found
  exact ⟨rfl, by decide, nearest, by decide, found, encloses.1 (by decide)⟩

/-- A function without a modifier, below one that has closed. -/
def neighbours : List Text :=
  ["public void run() \x7b \x7d", "void other() \x7b", "    stop();", "\x7d"].map String.toList

/-- The line asked about is in a function of another name; what is found is above it. -/
theorem function_above_left_behind :
    let wanted := Wanted.function "run".toList
    NearestAbove wanted.endsSearch neighbours 3 1 ∧
      lineIs wanted.declaredBy neighbours 1 = true ∧
      ∃ range, findBoundaries neighbours 3 "run".toList "Job".toList = some range ∧
        ¬ (range.first ≤ 3 ∧ 3 ≤ range.last) := by
  intro wanted
  have nearest : NearestAbove wanted.endsSearch neighbours 3 1 :=
    ⟨by decide, by decide, by decide⟩
  exact ⟨nearest, by decide, ⟨1, 1⟩, by decide, by decide⟩

end FaultContext.Code
