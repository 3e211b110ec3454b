import FaultContext.Text.CharacterClass

/-!
# Declarations

Telling from a single line whether it declares a function that is looked for, or something else. The
line is looked at without the blanks around it and without a line comment. A declaration reads as a
call of the name, behind a modifier or a word that is no statement keyword; a modifier is found
wherever its letters stand.

The patterns of such calls are made of the name, and they are taken to compile whatever the name: a limit
on the size of a pattern, which only names beyond any identifier reach, is not modelled.
-/

namespace FaultContext.Code

set_option autoImplicit false

def modifiers : List Text :=
  ["public", "private", "protected", "static", "final", "abstract", "synchronized"].map String.toList

/-- The words that can come before a call and never before a declared name. -/
def statementKeywords : List Text :=
  ["return", "new", "throw", "else", "case", "await", "yield"].map String.toList

def typeKeywords : List Text := ["class", "interface", "enum"].map String.toList

/-- How a trace names constructors. -/
def constructorName : Text := "<init>".toList

def staticInitializerName : Text := "<clinit>".toList

inductive Wanted where
  | function (name : Text)
  | staticInitializer
deriving DecidableEq, Repr

/-- What a trace names. A constructor is declared under the name of its type; a name without any
characters cannot be looked for. -/
def Wanted.of? (functionName simpleTypeName : Text) : Option Wanted :=
  if functionName = staticInitializerName then some .staticInitializer
  else
    let name := if functionName = constructorName then simpleTypeName else functionName
    if name.isEmpty then none else some (.function name)

/-- The line without the blanks around it and without a line comment. -/
def withoutComment (line : Text) : Text := Text.trim (Text.before "//".toList (Text.trim line))

/-- What follows the opening parenthesis, when the text begins with the name as called or declared. -/
def callAt? (name text : Text) : Option Text :=
  match Text.strip? name text with
  | none => none
  | some behind =>
      match Text.trimStart behind with
      | '(' :: rest => some rest
      | _ => none

/-- Whether the name is called somewhere in the text, beginning at a word boundary. `previous` is the
character before the text. With `oneLine` the place has to come before any line feed. -/
def callWithin (name : Text) (oneLine : Bool) (previous : Option Char) : Text → Bool
  | [] => false
  | c :: rest =>
      (Text.isWordBoundary previous (some c) && (callAt? name (c :: rest)).isSome) ||
        (!(oneLine && c == '\n') && callWithin name oneLine (some c) rest)

/-- Whether any word is called somewhere in the text before a line feed. -/
def anyCallWithin : Text → Bool
  | [] => false
  | c :: rest =>
      (Text.isWord c && (Text.trimStart rest).head? == some '(') ||
        (c != '\n' && anyCallWithin rest)

/-- Whether some modifier has a rest of the line behind it that passes the test; the test is also
given the last letter of the modifier. -/
def behindModifier (test : Option Char → Text → Bool) : Text → Bool
  | [] => false
  | c :: rest =>
      modifiers.any (fun word =>
        match Text.strip? word (c :: rest) with
        | some behind => test word.getLast? behind
        | none => false) ||
      behindModifier test rest

/-- The call of `name` behind some of the first `count` blanks, as many as possible. -/
def callBehindBlanks? (name : Text) : Nat → Text → Option Text
  | 0, _ => none
  | count + 1, text =>
      match callAt? name (text.drop (count + 1)) with
      | some rest => some rest
      | none => callBehindBlanks? name count text

/-- The word at the start of the text and what follows the parenthesis, when blanks and a call of the
name follow the word. -/
def typedCallAt? (name text : Text) : Option (Text × Text) :=
  let word := text.takeWhile Text.isWord
  let behind := text.dropWhile Text.isWord
  if word.isEmpty then none
  else (callBehindBlanks? name (behind.takeWhile Text.isBlank).length behind).map fun rest => (word, rest)

theorem length_lt_of_callAt? {name text rest : Text} (found : callAt? name text = some rest) :
    rest.length < text.length := by
  unfold callAt? Text.strip? at found
  split at found
  · simp at found
  · rename_i behind taken
    split at taken
    · have part : Text.trimStart behind <:+ text := by
        rw [← Option.some.inj taken]
        exact (List.dropWhile_suffix _).trans (List.drop_suffix _ _)
      split at found
      · rename_i further shape
        rw [← Option.some.inj found]
        rw [shape] at part
        have bound := part.length_le
        simp only [List.length_cons] at bound
        omega
      · simp at found
    · simp at taken

theorem length_lt_of_typedCallAt? {name text word rest : Text}
    (found : typedCallAt? name text = some (word, rest)) : rest.length < text.length := by
  unfold typedCallAt? at found
  dsimp only at found
  split at found
  · simp at found
  · obtain ⟨behind, call, shape⟩ := Option.map_eq_some_iff.1 found
    obtain ⟨-, rfl⟩ := Prod.mk.inj shape
    have shorter : ∀ (count : Nat) (whole : Text),
        callBehindBlanks? name count whole = some behind → behind.length < whole.length := by
      intro count whole
      induction count with
      | zero => simp [callBehindBlanks?]
      | succ count ih =>
          intro here
          rw [callBehindBlanks?] at here
          split at here
          · rename_i further call
            have bound := length_lt_of_callAt? call
            rw [Option.some.inj here, List.length_drop] at bound
            omega
          · exact ih here
    exact Nat.lt_of_lt_of_le (shorter _ _ call) (List.dropWhile_suffix _).length_le

/-- The same behind a character: the word has to begin at a word boundary. -/
def typedCallBehind? (name : Text) (previous : Option Char) (text : Text) : Option (Text × Text) :=
  if Text.isWordBoundary previous text.head? then typedCallAt? name text else none

theorem length_lt_of_typedCallBehind? {name : Text} {previous : Option Char} {text word rest : Text}
    (found : typedCallBehind? name previous text = some (word, rest)) : rest.length < text.length := by
  unfold typedCallBehind? at found
  split at found
  · exact length_lt_of_typedCallAt? found
  · simp at found

/-- The words directly before the calls of a name, from left to right. The search goes on behind the
parenthesis of each call that it finds. -/
def wordsBeforeCalls (name : Text) (previous : Option Char) : Text → List Text
  | [] => []
  | c :: rest =>
      match _found : typedCallBehind? name previous (c :: rest) with
      | some (word, behind) => word :: wordsBeforeCalls name (some '(') behind
      | none => wordsBeforeCalls name (some c) rest
termination_by text => text.length
decreasing_by
  · exact length_lt_of_typedCallBehind? ‹_›
  · simp

def opensStaticBlock (text : Text) : Bool :=
  match Text.strip? "static".toList text with
  | some behind => (Text.trimStart behind).head? == some '{'
  | none => false

/-- Whether the text declares a type somewhere. `previous` is the character before it. -/
def declaresType (previous : Option Char) : Text → Bool
  | [] => false
  | c :: rest =>
      (Text.isWordBoundary previous (some c) && typeKeywords.any fun word =>
        match Text.strip? word (c :: rest) with
        | some (b :: behind) => Text.isBlank b && (Text.trimStart behind).head?.any Text.isWord
        | _ => false) ||
      declaresType (some c) rest

def Wanted.declaredBy (wanted : Wanted) (line : Text) : Bool :=
  let line := withoutComment line
  match wanted with
  | .staticInitializer => opensStaticBlock line
  | .function name =>
      callWithin name false none line &&
        (behindModifier (callWithin name true) line ||
          (wordsBeforeCalls name none line).any fun word => !statementKeywords.contains word)

/-- Whether the line declares a type, or a function that is not the one looked for. -/
def Wanted.otherDeclaredBy (wanted : Wanted) (line : Text) : Bool :=
  let line := withoutComment line
  declaresType none line ||
    (behindModifier (fun _ behind => anyCallWithin behind) line &&
      match wanted with
      | .staticInitializer => true
      | .function name => !Text.occurs (name ++ ['(']) line)

end FaultContext.Code
