import FaultContext.Proofs.JsonTokens

/-!
# What is written is read back

The compact and the indented form of a value have the same tokens and differ in the blanks between
them, which the reader skips. So both are cases of one layout, and one induction over the value shows
that the reader takes a laid out value off the front of a text, whatever follows that is no part of a
number. Doubles are left out: whether they are read back is a question about their digits.
-/

namespace FaultContext.Json

set_option autoImplicit false

/-- A value without doubles and without unreadable parts, whose whole numbers have 64 bits. -/
inductive Plain : Value → Prop
  | null : Plain .null
  | bool (value : Bool) : Plain (.bool value)
  | integer (value : Int) (least : Numeral.minInteger ≤ value) (greatest : value ≤ Text.maxWord64) :
      Plain (.integer value)
  | text (content : Text) : Plain (.text content)
  | array (items : List Value) (each : ∀ item ∈ items, Plain item) : Plain (.array items)
  | object (members : List (Text × Value)) (each : ∀ member ∈ members, Plain member.2) :
      Plain (.object members)

/-- A way of writing values inside so many brackets. Blanks stand before what is inside a bracket,
before the bracket that closes, and between a colon and its value; `items` and `members` are what
follows the first item or member of many, the closing bracket included. -/
structure Layout where
  gap : Nat → Text
  lead : Text
  value : Nat → Value → Text
  items : Nat → List Value → Text
  members : Nat → List (Text × Value) → Text
  gap_blank : ∀ level, ∀ c ∈ gap level, isSpace c = true
  lead_blank : ∀ c ∈ lead, isSpace c = true
  null : ∀ level, value level .null = ['n', 'u', 'l', 'l']
  bool_true : ∀ level, value level (.bool true) = ['t', 'r', 'u', 'e']
  bool_false : ∀ level, value level (.bool false) = ['f', 'a', 'l', 's', 'e']
  integer : ∀ level number, value level (.integer number) = Text.ofInt number
  text : ∀ level content, value level (.text content) = writeString content
  array_nil : ∀ level, value level (.array []) = ['[', ']']
  array_cons : ∀ level item rest, value level (.array (item :: rest)) =
    '[' :: (gap (level + 1) ++ (value (level + 1) item ++ items level rest))
  items_nil : ∀ level, items level [] = gap level ++ [']']
  items_cons : ∀ level item rest, items level (item :: rest) =
    ',' :: (gap (level + 1) ++ (value (level + 1) item ++ items level rest))
  object_nil : ∀ level, value level (.object []) = ['{', '}']
  object_cons : ∀ level name content rest, value level (.object ((name, content) :: rest)) =
    '{' :: (gap (level + 1) ++ (writeString name ++ ':' :: (lead ++
      (value (level + 1) content ++ members level rest))))
  members_nil : ∀ level, members level [] = gap level ++ ['}']
  members_cons : ∀ level name content rest, members level ((name, content) :: rest) =
    ',' :: (gap (level + 1) ++ (writeString name ++ ':' :: (lead ++
      (value (level + 1) content ++ members level rest))))

def Layout.compact : Layout where
  gap _ := []
  lead := []
  value _ := Json.compact
  items _ := compactItems
  members _ := compactMembers
  gap_blank := by simp
  lead_blank := by simp
  null _ := rfl
  bool_true _ := rfl
  bool_false _ := rfl
  integer _ _ := rfl
  text _ _ := rfl
  array_nil _ := rfl
  array_cons _ _ _ := rfl
  items_nil _ := rfl
  items_cons _ _ _ := rfl
  object_nil _ := rfl
  object_cons _ _ _ _ := by simp [Json.compact]
  members_nil _ := rfl
  members_cons _ _ _ _ := by simp [compactMembers]

def Layout.indented : Layout where
  gap := lineBreak
  lead := [' ']
  value := Json.indented
  items := indentedItems
  members := indentedMembers
  gap_blank := by simp [lineBreak, isSpace]
  lead_blank := by simp [isSpace]
  null _ := rfl
  bool_true _ := rfl
  bool_false _ := rfl
  integer _ _ := rfl
  text _ _ := rfl
  array_nil _ := rfl
  array_cons _ _ _ := by simp [Json.indented]
  items_nil _ := rfl
  items_cons _ _ _ := by simp [indentedItems]
  object_nil _ := rfl
  object_cons _ _ _ _ := by simp [Json.indented]
  members_nil _ := rfl
  members_cons _ _ _ _ := by simp [indentedMembers]

theorem skip_space_append {blanks : Text} (blank : ∀ c ∈ blanks, isSpace c = true) (rest : Text) :
    skipSpace (blanks ++ rest) = skipSpace rest :=
  List.dropWhile_append_of_pos blank

theorem skip_space_cons {c : Char} (solid : isSpace c = false) (rest : Text) :
    skipSpace (c :: rest) = c :: rest :=
  List.dropWhile_cons_of_neg (by simp [solid])

theorem read_value_skips {blanks : Text} (blank : ∀ c ∈ blanks, isSpace c = true) (budget : Nat)
    (text : Text) : readValue? budget (blanks ++ text) = readValue? budget text := by
  cases budget with
  | zero => rfl
  | succ budget =>
      rw [readValue?.eq_def, readValue?.eq_def]
      dsimp only
      rw [skip_space_append blank]

theorem ends_number_blanks {blanks rest : Text} (blank : ∀ c ∈ blanks, isSpace c = true)
    (ends : EndsNumber rest) : EndsNumber (blanks ++ rest) := by
  cases blanks with
  | nil => exact ends
  | cons c blanks =>
      rintro d found
      obtain rfl : c = d := Option.some.inj found
      have space := blank c List.mem_cons_self
      simp only [isSpace, Bool.or_eq_true, decide_eq_true_eq] at space
      rcases space with ((rfl | rfl) | rfl) | rfl <;> decide

theorem ends_number_cons {c : Char} (mark : c = ',' ∨ c = ']' ∨ c = '}') (rest : Text) :
    EndsNumber (c :: rest) := by
  rintro d found
  obtain rfl : c = d := Option.some.inj found
  rcases mark with rfl | rfl | rfl <;> decide

theorem number_start {c : Char} (start : c = '-' ∨ c.isDigit = true) :
    isSpace c = false ∧ c ≠ ']' ∧ c ≠ 'n' ∧ c ≠ 't' ∧ c ≠ 'f' ∧ c ≠ '"' ∧ c ≠ '[' ∧ c ≠ '{' := by
  rcases start with rfl | digit
  · decide
  · have apart : ∀ d : Char, d.isDigit = false → c ≠ d := by
      rintro d other rfl
      rw [digit] at other
      cases other
    refine ⟨?_, apart ']' rfl, apart 'n' rfl, apart 't' rfl, apart 'f' rfl, apart '"' rfl,
      apart '[' rfl, apart '{' rfl⟩
    simp [isSpace, apart ' ' rfl, apart '\n' rfl, apart '\t' rfl, apart '\r' rfl]

/-- A number is what the reader tries last, so nothing else may begin the same way. -/
theorem read_value_number {c : Char} (start : c = '-' ∨ c.isDigit = true) (budget : Nat)
    (text : Text) :
    readValue? (budget + 1) (c :: text) =
      (readNumeral? (c :: text)).map fun found => (found.1.value, found.2) := by
  obtain ⟨solid, -, null, yes, no, quote, bracket, brace⟩ := number_start start
  rw [readValue?.eq_def]
  dsimp only
  rw [skip_space_cons solid]
  split
  · rename_i shape
    cases shape
  · rename_i shape
    exact absurd (List.cons.inj shape).1 null
  · rename_i shape
    exact absurd (List.cons.inj shape).1 yes
  · rename_i shape
    exact absurd (List.cons.inj shape).1 no
  · rename_i shape
    exact absurd (List.cons.inj shape).1 quote
  · rename_i shape
    exact absurd (List.cons.inj shape).1 bracket
  · rename_i shape
    exact absurd (List.cons.inj shape).1 brace
  · rfl

theorem of_int_start (value : Int) :
    ∃ c digits, Text.ofInt value = c :: digits ∧ (c = '-' ∨ c.isDigit = true) := by
  cases value with
  | negSucc n => exact ⟨'-', Text.ofNat (n + 1), rfl, Or.inl rfl⟩
  | ofNat n =>
      obtain ⟨c, digits, spelled⟩ := List.exists_cons_of_ne_nil (l := Text.ofNat n) Nat.toDigits_ne_nil
      have member : c ∈ Text.ofNat n := by
        rw [spelled]
        exact List.mem_cons_self
      exact ⟨c, digits, spelled, Or.inr (Text.is_digit_of_mem_of_nat member)⟩

/-! What the reader does once the next token is known. -/

section Steps

variable {budget : Nat} {text rest after further : Text}

theorem read_value_token (token : skipSpace text = rest) :
    readValue? budget text = readValue? budget rest := by
  have blank : ∀ c ∈ text.takeWhile isSpace, isSpace c = true := List.all_eq_true.1 List.all_takeWhile
  have parts : text.takeWhile isSpace ++ rest = text := by
    rw [← token]
    exact List.takeWhile_append_dropWhile
  have skipped := read_value_skips blank budget rest
  rwa [parts] at skipped

/-- What the reader makes of an array, once its bracket is opened. -/
theorem read_value_opened_array (token : skipSpace text = '[' :: rest) :
    readValue? (budget + 1) text =
      match skipSpace rest with
      | ']' :: after => some (.array [], after)
      | _ => (readItems? budget rest).map fun found => (.array found.1, found.2) := by
  rw [read_value_token token]
  rfl

theorem read_value_opened_object (token : skipSpace text = '{' :: rest) :
    readValue? (budget + 1) text =
      match skipSpace rest with
      | '}' :: after => some (.object [], after)
      | _ => (readMembers? budget rest).map fun found => (objectValue found.1, found.2) := by
  rw [read_value_token token]
  rfl

theorem read_value_null (token : skipSpace text = 'n' :: 'u' :: 'l' :: 'l' :: rest) :
    readValue? (budget + 1) text = some (.null, rest) := by
  rw [read_value_token token]
  rfl

theorem read_value_true (token : skipSpace text = 't' :: 'r' :: 'u' :: 'e' :: rest) :
    readValue? (budget + 1) text = some (.bool true, rest) := by
  rw [read_value_token token]
  rfl

theorem read_value_false (token : skipSpace text = 'f' :: 'a' :: 'l' :: 's' :: 'e' :: rest) :
    readValue? (budget + 1) text = some (.bool false, rest) := by
  rw [read_value_token token]
  rfl

theorem read_value_text {content : Text} (token : skipSpace text = '"' :: rest)
    (read : readString? none rest = some (some content, after)) :
    readValue? (budget + 1) text = some (.text content, after) := by
  rw [read_value_token token]
  exact congrArg (Option.map fun found => (stringValue found.1, found.2)) read

theorem read_value_empty_array (token : skipSpace text = '[' :: rest)
    (close : skipSpace rest = ']' :: after) :
    readValue? (budget + 1) text = some (.array [], after) := by
  rw [read_value_opened_array token, close]
  rfl

theorem read_value_array {items : List Value} (token : skipSpace text = '[' :: rest)
    (filled : ∀ after, skipSpace rest ≠ ']' :: after)
    (read : readItems? budget rest = some (items, after)) :
    readValue? (budget + 1) text = some (.array items, after) := by
  rw [read_value_opened_array token, read]
  split
  · rename_i after close
    exact absurd close (filled after)
  · rfl

theorem read_value_empty_object (token : skipSpace text = '{' :: rest)
    (close : skipSpace rest = '}' :: after) :
    readValue? (budget + 1) text = some (.object [], after) := by
  rw [read_value_opened_object token, close]
  rfl

theorem read_value_object {members : List (Option Text × Value)} (token : skipSpace text = '{' :: rest)
    (filled : ∀ after, skipSpace rest ≠ '}' :: after)
    (read : readMembers? budget rest = some (members, after)) :
    readValue? (budget + 1) text = some (objectValue members, after) := by
  rw [read_value_opened_object token, read]
  split
  · rename_i after close
    exact absurd close (filled after)
  · rfl

theorem read_items_last {item : Value} (first : readValue? budget text = some (item, rest))
    (close : skipSpace rest = ']' :: after) :
    readItems? (budget + 1) text = some ([item], after) := by
  rw [readItems?.eq_def]
  simp only [first, close]

theorem read_items_further {item : Value} {items : List Value}
    (first : readValue? budget text = some (item, rest)) (comma : skipSpace rest = ',' :: further)
    (others : readItems? budget further = some (items, after)) :
    readItems? (budget + 1) text = some (item :: items, after) := by
  rw [readItems?.eq_def]
  simp only [first, comma, others]
  rfl

section Members

variable {opened named colon name : Text} {value : Value} (quote : skipSpace text = '"' :: opened)
  (spelled : readString? none opened = some (some name, named))
  (mark : skipSpace named = ':' :: colon) (held : readValue? budget colon = some (value, rest))

include quote spelled mark held

theorem read_members_last (close : skipSpace rest = '}' :: after) :
    readMembers? (budget + 1) text = some ([(some name, value)], after) := by
  rw [readMembers?.eq_def]
  simp only [quote, spelled, mark, held, close]

theorem read_members_further {members : List (Option Text × Value)}
    (comma : skipSpace rest = ',' :: further)
    (others : readMembers? budget further = some (members, after)) :
    readMembers? (budget + 1) text = some ((some name, value) :: members, after) := by
  rw [readMembers?.eq_def]
  simp only [quote, spelled, mark, held, comma, others]
  rfl

end Members

end Steps

theorem write_string_append (content rest : Text) :
    writeString content ++ rest = '"' :: (content.flatMap writeChar ++ '"' :: rest) := by
  simp [writeString]

namespace Layout

variable {layout : Layout} {value : Value} {rest : Text}

/-- A value is laid out from a character on that is no blank and closes no array. -/
theorem value_start (layout : Layout) (plain : Plain value) (level : Nat) :
    ∃ c text, layout.value level value = c :: text ∧ isSpace c = false ∧ c ≠ ']' := by
  cases plain with
  | null => exact ⟨'n', _, layout.null level, rfl, by decide⟩
  | bool flag =>
      cases flag with
      | true => exact ⟨'t', _, layout.bool_true level, rfl, by decide⟩
      | false => exact ⟨'f', _, layout.bool_false level, rfl, by decide⟩
  | integer number least greatest =>
      obtain ⟨c, digits, spelled, start⟩ := of_int_start number
      obtain ⟨solid, bracket, -⟩ := number_start start
      exact ⟨c, digits, (layout.integer level number).trans spelled, solid, bracket⟩
  | text content => exact ⟨'"', _, layout.text level content, rfl, by decide⟩
  | array items each =>
      cases items with
      | nil => exact ⟨'[', _, layout.array_nil level, rfl, by decide⟩
      | cons item items => exact ⟨'[', _, layout.array_cons level item items, rfl, by decide⟩
  | object members each =>
      cases members with
      | nil => exact ⟨'{', _, layout.object_nil level, rfl, by decide⟩
      | cons member members =>
          exact ⟨'{', _, layout.object_cons level member.1 member.2 members, rfl, by decide⟩

theorem items_end_number (level : Nat) (items : List Value) (rest : Text) :
    EndsNumber (layout.items level items ++ rest) := by
  cases items with
  | nil =>
      rw [layout.items_nil, List.append_assoc]
      exact ends_number_blanks (layout.gap_blank level) (ends_number_cons (by decide) rest)
  | cons item items =>
      rw [layout.items_cons]
      exact ends_number_cons (by decide) _

theorem members_end_number (level : Nat) (members : List (Text × Value)) (rest : Text) :
    EndsNumber (layout.members level members ++ rest) := by
  cases members with
  | nil =>
      rw [layout.members_nil, List.append_assoc]
      exact ends_number_blanks (layout.gap_blank level) (ends_number_cons (by decide) rest)
  | cons member members =>
      rw [layout.members_cons]
      exact ends_number_cons (by decide) _

/-- The reader takes the value off the front of a text when it may take a step for each character. -/
def Reads (layout : Layout) (value : Value) : Prop :=
  ∀ level budget rest, EndsNumber rest → (layout.value level value).length ≤ budget →
    readValue? budget (layout.value level value ++ rest) = some (value, rest)

/-- Nothing is written as an empty text, so there is a first step. -/
theorem reads_of_step (plain : Plain value)
    (read : ∀ level budget rest, EndsNumber rest →
      (layout.value level value).length ≤ budget + 1 →
        readValue? (budget + 1) (layout.value level value ++ rest) = some (value, rest)) :
    layout.Reads value := by
  intro level budget rest ends enough
  cases budget with
  | zero =>
      obtain ⟨c, text, start, -, -⟩ := value_start layout plain level
      rw [start] at enough
      cases enough
  | succ budget => exact read level budget rest ends enough

theorem reads_null : layout.Reads .null := by
  apply reads_of_step .null
  intro level budget rest _ _
  rw [layout.null]
  exact read_value_null (skip_space_cons rfl _)

theorem reads_bool (flag : Bool) : layout.Reads (.bool flag) := by
  apply reads_of_step (.bool flag)
  intro level budget rest _ _
  cases flag with
  | true =>
      rw [layout.bool_true]
      exact read_value_true (skip_space_cons rfl _)
  | false =>
      rw [layout.bool_false]
      exact read_value_false (skip_space_cons rfl _)

theorem reads_text (content : Text) : layout.Reads (.text content) := by
  apply reads_of_step (.text content)
  intro level budget rest _ _
  rw [layout.text, write_string_append]
  exact read_value_text (skip_space_cons rfl _) (read_string content rest)

theorem reads_integer {number : Int} (least : Numeral.minInteger ≤ number)
    (greatest : number ≤ Text.maxWord64) : layout.Reads (.integer number) := by
  apply reads_of_step (.integer number least greatest)
  intro level budget rest ends _
  have whole := read_integer least greatest ends
  obtain ⟨c, digits, spelled, start⟩ := of_int_start number
  rw [spelled] at whole
  rw [layout.integer, spelled]
  exact (read_value_number start budget _).trans whole

theorem read_item {item : Value} (reads : layout.Reads item) (level : Nat) (items : List Value)
    (budget : Nat) (rest : Text) (room : (layout.value (level + 1) item).length ≤ budget) :
    readValue? budget (layout.gap (level + 1) ++ (layout.value (level + 1) item ++
        (layout.items level items ++ rest))) = some (item, layout.items level items ++ rest) := by
  rw [read_value_skips (layout.gap_blank _)]
  exact reads (level + 1) budget _ (items_end_number level items rest) room

/-- The budget goes down by one for each item, and each item has at least its comma or bracket. -/
theorem read_items (level : Nat) (item : Value) (items : List Value)
    (reads : ∀ value ∈ item :: items, layout.Reads value) (budget : Nat) (rest : Text)
    (enough : (layout.value (level + 1) item ++ layout.items level items).length ≤ budget) :
    readItems? budget (layout.gap (level + 1) ++ (layout.value (level + 1) item ++
        (layout.items level items ++ rest))) = some (item :: items, rest) := by
  induction items generalizing item budget with
  | nil =>
      cases budget with
      | zero => simp [layout.items_nil] at enough
      | succ budget =>
          simp only [layout.items_nil, List.length_append, List.length_singleton] at enough
          refine read_items_last
            (read_item (reads item List.mem_cons_self) level [] budget rest (by omega)) ?_
          rw [layout.items_nil, List.append_assoc, skip_space_append (layout.gap_blank _)]
          rfl
  | cons next items ih =>
      cases budget with
      | zero => simp [layout.items_cons] at enough
      | succ budget =>
          simp only [layout.items_cons, List.length_append, List.length_cons] at enough
          have others := ih next (fun value member => reads value (List.mem_cons_of_mem item member))
            budget (by rw [List.length_append]; omega)
          refine read_items_further (read_item (reads item List.mem_cons_self) level (next :: items)
            budget rest (by omega)) ?_ others
          rw [layout.items_cons, List.cons_append, List.append_assoc, List.append_assoc]
          exact skip_space_cons rfl _

theorem read_member {value : Value} (reads : layout.Reads value) (level : Nat)
    (members : List (Text × Value)) (budget : Nat) (rest : Text)
    (room : (layout.value (level + 1) value).length ≤ budget) :
    readValue? budget (layout.lead ++ (layout.value (level + 1) value ++
        (layout.members level members ++ rest))) =
      some (value, layout.members level members ++ rest) := by
  rw [read_value_skips layout.lead_blank]
  exact reads (level + 1) budget _ (members_end_number level members rest) room

/-- Names are never missing, since every text is read back. -/
def named (members : List (Text × Value)) : List (Option Text × Value) :=
  members.map fun member => (some member.1, member.2)

theorem object_named (members : List (Text × Value)) : objectValue (named members) = .object members := by
  have all : (named members).mapM (fun member => member.1.map fun name => (name, member.2)) =
      some members := by
    induction members with
    | nil => rfl
    | cons member members ih =>
        rw [named, List.map_cons, List.mapM_cons, ← named, ih]
        rfl
  rw [objectValue, all]

theorem read_members (level : Nat) (name : Text) (value : Value) (members : List (Text × Value))
    (reads : ∀ member ∈ (name, value) :: members, layout.Reads member.2) (budget : Nat) (rest : Text)
    (enough : (layout.value (level + 1) value ++ layout.members level members).length ≤ budget) :
    readMembers? budget (layout.gap (level + 1) ++ (writeString name ++ ':' :: (layout.lead ++
        (layout.value (level + 1) value ++ (layout.members level members ++ rest))))) =
      some (named ((name, value) :: members), rest) := by
  have quote (name further : Text) :
      skipSpace (layout.gap (level + 1) ++ (writeString name ++ ':' :: further)) =
        '"' :: (name.flatMap writeChar ++ '"' :: ':' :: further) := by
    rw [skip_space_append (layout.gap_blank _), write_string_append]
    exact skip_space_cons rfl _
  have own : layout.Reads value := reads (name, value) List.mem_cons_self
  induction members generalizing name value budget with
  | nil =>
      cases budget with
      | zero => simp [layout.members_nil] at enough
      | succ budget =>
          simp only [layout.members_nil, List.length_append, List.length_singleton] at enough
          have held := read_member own level [] budget rest (by omega)
          refine read_members_last (quote name _) (read_string name _) (skip_space_cons rfl _) held ?_
          rw [layout.members_nil, List.append_assoc, skip_space_append (layout.gap_blank _)]
          rfl
  | cons next members ih =>
      obtain ⟨other, content⟩ := next
      cases budget with
      | zero => simp [layout.members_cons] at enough
      | succ budget =>
          simp only [layout.members_cons, List.length_append, List.length_cons] at enough
          have held := read_member own level ((other, content) :: members) budget rest (by omega)
          have others := ih other content
            (fun member found => reads member (List.mem_cons_of_mem (name, value) found)) budget
            (by rw [List.length_append]; omega)
            (reads (other, content) (List.mem_cons_of_mem _ List.mem_cons_self))
          refine read_members_further (quote name _) (read_string name _) (skip_space_cons rfl _) held
            ?_ others
          rw [layout.members_cons]
          simp only [List.cons_append, List.append_assoc]
          exact skip_space_cons rfl _

theorem reads_array {items : List Value} (plain : ∀ item ∈ items, Plain item)
    (reads : ∀ item ∈ items, layout.Reads item) : layout.Reads (.array items) := by
  apply reads_of_step (.array items plain)
  intro level budget rest _ enough
  cases items with
  | nil =>
      rw [layout.array_nil]
      exact read_value_empty_array (skip_space_cons rfl _) (skip_space_cons rfl _)
  | cons item items =>
      simp only [layout.array_cons, List.length_cons, List.length_append] at enough
      have inside := read_items level item items reads budget rest
        (by rw [List.length_append]; omega)
      have filled (after : Text) : skipSpace (layout.gap (level + 1) ++
          (layout.value (level + 1) item ++ (layout.items level items ++ rest))) ≠ ']' :: after := by
        obtain ⟨c, text, start, solid, bracket⟩ :=
          value_start layout (plain item List.mem_cons_self) (level + 1)
        rw [skip_space_append (layout.gap_blank _), start, List.cons_append, skip_space_cons solid]
        exact fun same => bracket (List.cons.inj same).1
      rw [layout.array_cons]
      simp only [List.cons_append, List.append_assoc]
      exact read_value_array (skip_space_cons rfl _) filled inside

theorem reads_object {members : List (Text × Value)} (plain : ∀ member ∈ members, Plain member.2)
    (reads : ∀ member ∈ members, layout.Reads member.2) : layout.Reads (.object members) := by
  apply reads_of_step (.object members plain)
  intro level budget rest _ enough
  cases members with
  | nil =>
      rw [layout.object_nil]
      exact read_value_empty_object (skip_space_cons rfl _) (skip_space_cons rfl _)
  | cons member members =>
      obtain ⟨name, value⟩ := member
      simp only [layout.object_cons, List.length_cons, List.length_append] at enough
      have inside := read_members level name value members reads budget rest
        (by rw [List.length_append]; omega)
      have filled (further after : Text) : skipSpace (layout.gap (level + 1) ++
          (writeString name ++ ':' :: further)) ≠ '}' :: after := by
        rw [skip_space_append (layout.gap_blank _), write_string_append, skip_space_cons rfl]
        exact fun same => absurd (List.cons.inj same).1 (by decide)
      rw [layout.object_cons, ← object_named]
      simp only [List.cons_append, List.append_assoc]
      exact read_value_object (skip_space_cons rfl _) (filled _) inside

theorem reads_plain (plain : Plain value) : layout.Reads value := by
  induction plain with
  | null => exact reads_null
  | bool flag => exact reads_bool flag
  | integer number least greatest => exact reads_integer least greatest
  | text content => exact reads_text content
  | array items each ih => exact reads_array each ih
  | object members each ih => exact reads_object each ih

/-- The whole text of a value, in any layout, is read back as the value. -/
theorem read_whole_value (plain : Plain value) (level : Nat) :
    read? (layout.value level value) = some value := by
  have steps : (layout.value level value).length ≤ budgetFor (layout.value level value) := by
    rw [budgetFor]
    omega
  have nothing : EndsNumber [] := by
    rintro c found
    cases found
  have reads : layout.Reads value := reads_plain plain
  have found := reads level _ [] nothing steps
  rw [List.append_nil] at found
  rw [read?, found]
  rfl

end Layout

theorem read_compact {value : Value} (plain : Plain value) : read? (compact value) = some value :=
  Layout.compact.read_whole_value plain 0

theorem read_pretty {value : Value} (plain : Plain value) : read? (pretty value) = some value :=
  Layout.indented.read_whole_value plain 0

end FaultContext.Json
