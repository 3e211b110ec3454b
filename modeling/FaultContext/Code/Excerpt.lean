import FaultContext.Code.Declaration

/-!
# Excerpts

What is shown of a source: the whole function around the failing line, or else the lines near it. An
excerpt is never blank.

The declaration of the function is searched upwards from the failing line, not beyond another
declaration; where that finds nothing the first declaration in the file that closes is taken. The end is
where as many braces have closed as have opened.
-/

namespace FaultContext.Code

set_option autoImplicit false

/-! ## Function boundaries -/

/-- A range of lines, counted from one, both ends included. -/
structure LineRange where
  first : Nat
  last : Nat
deriving DecidableEq, Repr

/-- Follows the braces of a line: the depth behind it and whether any brace has opened, or nothing
when the depth comes back to zero within the line. -/
def scanBraces (depth : Int) (opened : Bool) : Text → Option (Int × Bool)
  | [] => some (depth, opened)
  | c :: rest =>
      if c = '{' then scanBraces (depth + 1) true rest
      else if c = '}' then
        if opened && depth - 1 == 0 then none else scanBraces (depth - 1) opened rest
      else scanBraces depth opened rest

/-- The number of the line in which the braces close; `number` is that of the first line given. -/
def endFrom (depth : Int) (opened : Bool) (number : Nat) : List Text → Option Nat
  | [] => none
  | line :: rest =>
      match scanBraces depth opened line with
      | none => some number
      | some (depth, opened) => endFrom depth opened (number + 1) rest

/-- The line in which the braces that open from `start` on have all closed. -/
def findEndLine (lines : List Text) (start : Nat) : Option Nat :=
  if start = 0 ∨ lines.length < start then none else endFrom 0 false start (lines.drop (start - 1))

/-- The nearest declaration in some lines that are given from the last one upwards, unless another
declaration is nearer. -/
def declarationAbove (wanted : Wanted) : List Text → Option Nat
  | [] => none
  | line :: above =>
      if wanted.declaredBy line then some (above.length + 1)
      else if wanted.otherDeclaredBy line then none
      else declarationAbove wanted above

/-- The range from a line to where its braces close. -/
def rangeFrom? (lines : List Text) (first : Nat) : Option LineRange :=
  (findEndLine lines first).map fun last => ⟨first, last⟩

/-- The first declaration that closes among the lines from `number` on. -/
def firstClosing (wanted : Wanted) (lines : List Text) (number : Nat) : List Text → Option LineRange
  | [] => none
  | line :: rest =>
      match if wanted.declaredBy line then rangeFrom? lines number else none with
      | some range => some range
      | none => firstClosing wanted lines (number + 1) rest

/-- The first declaration in the file that closes. -/
def searchWholeFile (wanted : Wanted) (lines : List Text) : Option LineRange :=
  firstClosing wanted lines 1 lines

def Wanted.boundaries (wanted : Wanted) (lines : List Text) (target : Nat) : Option LineRange :=
  if target = 0 ∨ lines.length < target then searchWholeFile wanted lines
  else
    match declarationAbove wanted (lines.take target).reverse with
    | some first => rangeFrom? lines first
    | none => searchWholeFile wanted lines

def findBoundaries (lines : List Text) (target : Nat) (functionName simpleTypeName : Text) :
    Option LineRange :=
  if lines.isEmpty then none
  else
    match Wanted.of? functionName simpleTypeName with
    | some wanted => wanted.boundaries lines target
    | none => none

/-! ## What is shown -/

inductive ExcerptKind where
  | function
  | contextWindow
deriving DecidableEq, Repr

/-- Some lines of a source as one text without the blanks around it. -/
structure Excerpt where
  range : LineRange
  body : Text
  kind : ExcerptKind
deriving DecidableEq, Repr

/-- The text of a range of lines, empty where the range begins outside of the file. -/
def bodyOf (lines : List Text) (range : LineRange) : Text :=
  if range.first = 0 ∨ range.last < range.first ∨ lines.length < range.first then []
  else
    Text.trim (Text.join ['\n'] ((lines.take range.last).drop (range.first - 1)))

/-- The excerpt of a range, unless it is blank. -/
def excerptOf? (lines : List Text) (kind : ExcerptKind) (range : LineRange) : Option Excerpt :=
  let body := bodyOf lines range
  if body.isEmpty then none else some ⟨range, body, kind⟩

/-- The lines at most `context` away from `target`, as far as the file goes. -/
def windowRange (lines : List Text) (context target : Nat) : LineRange where
  first := max 1 (target - context)
  last := min lines.length (target + context)

def contextWindow (context : Nat) (lines : List Text) (target : Nat) : Option Excerpt :=
  excerptOf? lines .contextWindow (windowRange lines context target)

/-- The function around a line, or else the lines near it. -/
def extract (context : Nat) (lines : List Text) (target : Nat) (functionName simpleTypeName : Text) :
    Option Excerpt :=
  if lines.isEmpty then none
  else
    match (findBoundaries lines target functionName simpleTypeName).bind
        (excerptOf? lines .function) with
    | some excerpt => some excerpt
    | none => contextWindow context lines target

end FaultContext.Code
