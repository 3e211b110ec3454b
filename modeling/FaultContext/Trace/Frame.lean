import FaultContext.Text.Basic
import FaultContext.Text.CharacterClass

/-!
# Stack frames

A printed frame reads `at module/Type.function(File:line)`. Each part is found by a last occurrence:
the opening parenthesis, the dot before the function, the closing parenthesis, the colon. What a
logger appends behind the closing parenthesis is decoration.

A trace is read for its frames in their order. Lines that are no frames are passed over. The sections
behind `Caused by:` count only on request, and a cap ends the reading as soon as it is met: a cap of
zero is met by the first frame.
-/

namespace FaultContext.Trace

set_option autoImplicit false

/-- One frame of a stack trace. The line counts from one. -/
structure Frame where
  qualifiedType : Text
  functionName : Text
  fileName : Option Text
  line : Option Nat
deriving DecidableEq, Repr

namespace Frame

/-- The package of the declaring type, empty for the default package. -/
def package (frame : Frame) : Text :=
  match Text.cutLast? '.' frame.qualifiedType with
  | some (package, _) => package
  | none => []

/-- The name of the declaring type without its package and its enclosing types. -/
def simpleTypeName (frame : Frame) : Text :=
  let inPackage :=
    match Text.cutLast? '.' frame.qualifiedType with
    | some (_, name) => name
    | none => frame.qualifiedType
  match Text.cutLast? '$' inPackage with
  | some (_, name) => name
  | none => inPackage

def lineOrUnknown (frame : Frame) : Int :=
  match frame.line with
  | some line => line
  | none => -1

def isHexDigit (c : Char) : Bool :=
  c.isDigit || ('a' ≤ c && c ≤ 'f') || ('A' ≤ c && c ≤ 'F')

/-- Whether what follows a slash is the address of a hidden class, which belongs to its name. -/
def isHiddenClassAddress (segment : Text) : Bool :=
  match Text.strip? "0x".toList segment with
  | some digits => !digits.isEmpty && digits.all isHexDigit
  | none => false

/-- A printed type without the module or loader in front of it. -/
def withoutModule (printed : Text) : Text :=
  match Text.cutLast? '/' printed with
  | none => printed
  | some (front, segment) =>
      if isHiddenClassAddress segment then
        match Text.cutLast? '/' front with
        | some (_, name) => name ++ '/' :: segment
        | none => printed
      else segment

/-- The part of a frame between its parentheses: a file, and a line when a positive number follows
the last colon. -/
def readLocation (location : Text) : Option Text × Option Nat :=
  let (file, line) :=
    match Text.cutLast? ':' location with
    | some (file, number) => (file, Text.readNumeral? Text.maxWord32 (Text.trim number))
    | none => (location, none)
  let file := Text.trim file
  (if file.isEmpty then none else some file, line.filter (0 < ·))

def parse? (line : Text) : Option Frame := do
  let printed ← Text.strip? "at ".toList line
  let (callee, behind) ← Text.cutLast? '(' printed
  let (owner, functionName) ← Text.cutLast? '.' callee
  let qualifiedType := withoutModule owner
  if qualifiedType.isEmpty || functionName.isEmpty then none
  let location :=
    match Text.cutLast? ')' behind with
    | some (location, _) => location
    | none => behind
  let (fileName, number) := readLocation location
  return ⟨qualifiedType, functionName, fileName, number⟩

end Frame

/-! ## Whole traces -/

structure Options where
  includeCauseFrames : Bool := false
  maxFrames : Option Nat := none
deriving DecidableEq, Repr

def causeMark : Text := "Caused by:".toList

def opensCause (line : Text) : Bool := causeMark.isPrefixOf line

def Options.full (options : Options) (count : Nat) : Bool := options.maxFrames.any (· ≤ count)

/-- The frames of the lines when `taken` frames were found before them. -/
def framesFrom (options : Options) (taken : Nat) : List Text → List Frame
  | [] => []
  | line :: rest =>
      if opensCause (Text.trim line) && !options.includeCauseFrames then []
      else
        match Frame.parse? (Text.trim line) with
        | none => framesFrom options taken rest
        | some frame =>
            if options.full (taken + 1) then [frame]
            else frame :: framesFrom options (taken + 1) rest

def frames (options : Options) (text : Text) : List Frame := framesFrom options 0 (Text.lines text)

end FaultContext.Trace
