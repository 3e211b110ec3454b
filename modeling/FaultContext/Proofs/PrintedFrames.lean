import FaultContext.Proofs.Trimming
import FaultContext.Trace.Frame

/-!
# Printed frames

A frame that is printed and read again is the same frame, whatever module or loader stands in front of
its type and whatever a logger has appended. A printed frame says which mark is the last one of its kind,
and so where it is cut: the dot in front of the function, the parentheses and the colon have nothing like
them behind them. The slash needs more care, since the name of a hidden class has one of its own.
-/

namespace FaultContext

set_option autoImplicit false

namespace Text

theorem not_mem_of_nat {c : Char} (other : c.isDigit = false) (n : Nat) : c ∉ ofNat n := by
  intro member
  rw [is_digit_of_mem_of_nat member] at other
  cases other

theorem is_blank_of_is_digit {c : Char} (digit : c.isDigit = true) : isBlank c = false := by
  have range := Char.isDigit_iff_toNat.1 digit
  simp only [show '0'.toNat = 48 from rfl, show '9'.toNat = 57 from rfl] at range
  simp only [isBlank, Bool.or_eq_false_iff, Bool.and_eq_false_iff, decide_eq_false_iff_not,
    beq_eq_false_iff_ne]
  omega

theorem trim_of_nat (n : Nat) : trim (ofNat n) = ofNat n := by
  have solid {c : Char} (member : c ∈ ofNat n) : isBlank c = false :=
    is_blank_of_is_digit (is_digit_of_mem_of_nat member)
  refine (trimmed_iff.1 ⟨⟨[], [], ?_, ?_, by simp⟩, ?_, ?_⟩).symm
  · exact List.forall_mem_nil _
  · exact List.forall_mem_nil _
  · cases first : (ofNat n).head? with
    | none => rfl
    | some c => exact solid (List.mem_of_mem_head? first)
  · cases last : (ofNat n).getLast? with
    | none => rfl
    | some c => exact solid (List.mem_of_mem_getLast? last)

theorem digits_value_of_nat (n : Nat) : digitsValue (ofNat n) = n := by
  have weighed : digitsValue (ofNat n) = Nat.ofDigitChars 10 (ofNat n) 0 := by
    simp only [digitsValue, Nat.ofDigitChars, Nat.mul_comm]
  rw [weighed]
  exact Nat.ofDigitChars_ten_toDigits

theorem read_numeral_of_nat {bound n : Nat} (fits : n ≤ bound) : readNumeral? bound (ofNat n) = some n := by
  have digits : readDigits? (ofNat n) = some n := by
    have some_digit : (ofNat n).isEmpty = false := List.isEmpty_eq_false_iff.2 Nat.toDigits_ne_nil
    have all : (ofNat n).all Char.isDigit = true := List.all_eq_true.2 fun c => is_digit_of_mem_of_nat
    rw [readDigits?, some_digit, all, digits_value_of_nat]
    rfl
  have unsigned : ∀ rest, ofNat n ≠ '+' :: rest := by
    intro rest spelled
    have plus : '+' ∈ ofNat n := by
      rw [spelled]
      exact List.mem_cons_self
    exact not_mem_of_nat (by decide) n plus
  rw [readNumeral?, digits, Option.filter_some, if_pos (decide_eq_true fits)]
  exact unsigned

end Text

namespace Trace.Frame

variable {name segment lead location : Text} {frame : Frame}

/-- The address of a hidden class, as it is printed behind the name. -/
def IsAddress (segment : Text) : Prop :=
  ∃ digits, segment = "0x".toList ++ digits ∧ digits ≠ [] ∧ ∀ c ∈ digits, isHexDigit c = true

theorem is_hidden_class_address_iff : isHiddenClassAddress segment = true ↔ IsAddress segment := by
  rw [isHiddenClassAddress, IsAddress]
  cases stripped : Text.strip? "0x".toList segment with
  | none =>
      constructor
      · intro address
        cases address
      · rintro ⟨digits, shape, -⟩
        rw [Text.strip_eq_some_iff.2 shape] at stripped
        cases stripped
  | some digits =>
      have shape := Text.strip_eq_some_iff.1 stripped
      simp [shape]

theorem IsAddress.slash_free (address : IsAddress segment) : '/' ∉ segment := by
  obtain ⟨digits, rfl, -, hexadecimal⟩ := address
  intro member
  rcases List.mem_append.1 member with lead | held
  · exact absurd lead (by decide)
  · exact absurd (hexadecimal '/' held) (by decide)

/-- The types whose name is read again as it is printed: those without a slash that are not taken for an
address, and hidden classes. -/
inductive TypeName : Text → Prop
  | plain {name : Text} (present : name ≠ []) (whole : '/' ∉ name) (named : ¬ IsAddress name) :
      TypeName name
  | hidden {name address : Text} (present : name ≠ []) (whole : '/' ∉ name) (located : IsAddress address) :
      TypeName (name ++ '/' :: address)

/-- What may stand in front of a type: nothing, or modules and loaders up to a slash. -/
def IsLead (lead : Text) : Prop := lead = [] ∨ lead.getLast? = some '/'

instance (lead : Text) : Decidable (IsLead lead) := inferInstanceAs (Decidable (_ ∨ _))

theorem TypeName.present (typed : TypeName name) : name ≠ [] := by
  cases typed with
  | plain present => exact present
  | hidden present => simp

/-- A lead ends in front of a name without a slash, which is what the last slash cuts off. -/
theorem cut_last_lead (led : IsLead lead) (whole : '/' ∉ name) :
    Text.cutLast? '/' (lead ++ name) = none ∧ lead = [] ∨
      ∃ front, Text.cutLast? '/' (lead ++ name) = some (front, name) := by
  rcases led with rfl | closed
  · exact .inl ⟨(Text.cut_last_eq_none_iff '/' name).2 whole, rfl⟩
  · obtain ⟨front, rfl⟩ := List.getLast?_eq_some_iff.1 closed
    refine .inr ⟨front, ?_⟩
    rw [List.append_assoc]
    exact Text.cut_last_append whole front

theorem without_module_append (led : IsLead lead) (typed : TypeName name) :
    withoutModule (lead ++ name) = name := by
  rw [withoutModule]
  cases typed with
  | plain present whole named =>
      have plain := mt is_hidden_class_address_iff.1 named
      rcases cut_last_lead led whole with ⟨uncut, rfl⟩ | ⟨front, cut⟩
      · rw [uncut]
        rfl
      · simp only [cut, if_neg plain]
  | @hidden name address present whole located =>
      -- The last slash is that of the address, and the one before it, if any, closes the lead.
      have cut : Text.cutLast? '/' (lead ++ (name ++ '/' :: address)) = some (lead ++ name, address) := by
        rw [← List.append_assoc]
        exact Text.cut_last_append located.slash_free (lead ++ name)
      simp only [cut, if_pos (is_hidden_class_address_iff.2 located)]
      rcases cut_last_lead led whole with ⟨uncut, rfl⟩ | ⟨front, before⟩
      · rw [uncut]
        rfl
      · rw [before]

/-- What stands between the parentheses of a printed frame. -/
def printLocation (frame : Frame) : Text :=
  frame.fileName.getD [] ++
    match frame.line with
    | none => []
    | some line => ':' :: Text.ofNat line

/-- A frame as traces print it, without the module of its type. -/
def print (frame : Frame) : Text :=
  frame.qualifiedType ++ '.' :: (frame.functionName ++ '(' :: (frame.printLocation ++ [')']))

example : print ⟨"com.acme.Bar".toList, "run".toList, some "Bar.java".toList, some 12⟩ =
    "com.acme.Bar.run(Bar.java:12)".toList := by decide

/-- The frames that can be told from how they are printed. -/
structure Printable (frame : Frame) : Prop where
  typed : TypeName frame.qualifiedType
  named : frame.functionName ≠ []
  undotted : '.' ∉ frame.functionName
  unopened : '(' ∉ frame.functionName
  file : ∀ file, frame.fileName = some file →
    file ≠ [] ∧ Text.trim file = file ∧ '(' ∉ file ∧ ')' ∉ file
  line : ∀ line, frame.line = some line → 1 ≤ line ∧ line ≤ Text.maxWord32
  unnumbered : frame.line = none → ∀ file, frame.fileName = some file → ':' ∉ file

theorem print_location_without {c : Char} (mark : c ≠ ':') (other : c.isDigit = false)
    (absent : ∀ file, frame.fileName = some file → c ∉ file) : c ∉ frame.printLocation := by
  have file : c ∉ frame.fileName.getD [] := by
    cases named : frame.fileName with
    | none => exact List.not_mem_nil
    | some file => exact absent file named
  rw [printLocation]
  cases frame.line with
  | none => simpa using file
  | some line => simpa [mark, file] using Text.not_mem_of_nat other line

theorem Printable.file_trimmed (printable : frame.Printable) :
    Text.trim (frame.fileName.getD []) = frame.fileName.getD [] := by
  cases named : frame.fileName with
  | none => rfl
  | some file => exact (printable.file file named).2.1

theorem Printable.file_kept (printable : frame.Printable) :
    (if (frame.fileName.getD []).isEmpty then none else some (frame.fileName.getD [])) = frame.fileName := by
  cases named : frame.fileName with
  | none => rfl
  | some file =>
      have present := List.isEmpty_eq_false_iff.2 (printable.file file named).1
      simp [present]

theorem read_location_print (printable : frame.Printable) :
    readLocation frame.printLocation = (frame.fileName, frame.line) := by
  rw [readLocation, printLocation]
  cases numbered : frame.line with
  | none =>
      have unmarked : ':' ∉ frame.fileName.getD [] := by
        cases named : frame.fileName with
        | none => exact List.not_mem_nil
        | some file => exact printable.unnumbered numbered file named
      simp only [List.append_nil, (Text.cut_last_eq_none_iff ':' _).2 unmarked, printable.file_trimmed,
        printable.file_kept, Option.filter_none]
  | some line =>
      obtain ⟨first, fits⟩ := printable.line line numbered
      have positive : decide (0 < line) = true := decide_eq_true first
      have cut := Text.cut_last_append (Text.not_mem_of_nat (c := ':') (by decide) line)
        (frame.fileName.getD [])
      simp only [cut, Text.trim_of_nat, Text.read_numeral_of_nat fits, printable.file_trimmed,
        printable.file_kept, Option.filter_some, if_pos positive]

/-- What is printed of a frame is read as that frame, with anything in front of it that a slash closes and
anything without parentheses behind it. -/
theorem parse_print (printable : frame.Printable) (led : IsLead lead) {decoration : Text}
    (unopened : '(' ∉ decoration) (unclosed : ')' ∉ decoration) :
    parse? ("at ".toList ++ (lead ++ frame.print ++ decoration)) = some frame := by
  have opening : Text.cutLast? '(' (lead ++ frame.print ++ decoration) =
      some (lead ++ frame.qualifiedType ++ '.' :: frame.functionName,
        frame.printLocation ++ ')' :: decoration) := by
    have behind : '(' ∉ frame.printLocation ++ ')' :: decoration := by
      have location : '(' ∉ frame.printLocation :=
        print_location_without (by decide) (by decide) fun file named => (printable.file file named).2.2.1
      simp [location, unopened]
    have cut := Text.cut_last_append behind (lead ++ frame.qualifiedType ++ '.' :: frame.functionName)
    simpa [print] using cut
  have dot := Text.cut_last_append printable.undotted (lead ++ frame.qualifiedType)
  have closing := Text.cut_last_append unclosed frame.printLocation
  have type := without_module_append led printable.typed
  have present : (frame.qualifiedType.isEmpty || frame.functionName.isEmpty) = false := by
    simp [printable.typed.present, printable.named]
  simp only [parse?, Text.strip_eq_some_iff.2 rfl, opening, dot, closing, type, present,
    read_location_print printable, Option.bind_eq_bind, Option.bind_some]
  rfl

/-- A type that is an address takes the module in front of it along. -/
example : (parse? "at app/0xab.run()".toList).map Frame.qualifiedType = some "app/0xab".toList := by decide

/-- A hidden class behind its loader, with what a logger appends. -/
theorem parse_print_hidden :
    let frame : Frame := ⟨"com.acme.Bar$$Lambda$14/0x0000000800c03000".toList, "run".toList,
      some "Bar.java".toList, some 12⟩
    let line := "at app//com.acme.Bar$$Lambda$14/0x0000000800c03000.run(Bar.java:12) ~[app.jar:1.0]".toList
    frame.Printable ∧ parse? line = some frame := by
  intro frame line
  have located : IsAddress "0x0000000800c03000".toList :=
    ⟨"0000000800c03000".toList, by decide, by decide, List.all_eq_true.1 (by decide)⟩
  have typed : TypeName ("com.acme.Bar$$Lambda$14".toList ++ '/' :: "0x0000000800c03000".toList) :=
    .hidden (by decide) (by decide) located
  have printable : frame.Printable :=
    { typed
      named := by decide
      undotted := by decide
      unopened := by decide
      file := by rintro file ⟨⟩; decide
      line := by rintro line ⟨⟩; decide
      unnumbered := nofun }
  have led : IsLead "app//".toList := by decide
  have unopened : '(' ∉ " ~[app.jar:1.0]".toList := by decide
  have unclosed : ')' ∉ " ~[app.jar:1.0]".toList := by decide
  have parts : line = "at ".toList ++ ("app//".toList ++ frame.print ++ " ~[app.jar:1.0]".toList) := by
    decide +kernel
  refine ⟨printable, ?_⟩
  rw [parts]
  exact parse_print printable led unopened unclosed

end Trace.Frame

end FaultContext
