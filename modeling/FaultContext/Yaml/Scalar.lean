import FaultContext.Json.Reader
import FaultContext.Yaml.Node

/-!
# YAML scalars

Reading the four notations of a text: without quotes, in single quotes, in double quotes, and as an
indented block. Line ends inside the first three are folded: one of them becomes a blank, and of
several the first is dropped.
-/

namespace FaultContext.Yaml

set_option autoImplicit false

/-- What some line ends come to in a folded text. -/
def foldBreaks (breaks : Nat) : Text := if breaks = 1 then [' '] else List.replicate (breaks - 1) '\n'

/-- A scalar that was read: its text, whether it went over a line end, and the place behind it. -/
structure Scanned where
  content : Text
  multiline : Bool
  behind : Cursor

def flowMarks : List Char := [',', '[', ']', '{', '}']

/-- The state of a scalar that is being read: its characters, the latest first, the blanks and the
number of line ends that follow them, and whether it has gone over a line end. -/
structure Folding where
  taken : Text := []
  blanks : Text := []
  breaks : Nat := 0
  multiline : Bool := false

def Folding.push (folding : Folding) (c : Char) : Folding :=
  let gap := if 0 < folding.breaks then foldBreaks folding.breaks else folding.blanks.reverse
  { taken := c :: (gap.reverse ++ folding.taken)
    multiline := folding.multiline || 0 < folding.breaks }

def Folding.finish (folding : Folding) (rest : Text) (column : Nat) : Scanned :=
  ⟨folding.taken.reverse, folding.multiline, ⟨rest, column, 0 < folding.breaks⟩⟩

/-- Reads on in a scalar without quotes. Outside of brackets its further lines have to be indented by
`indent`. -/
def readPlain (flow : Bool) (indent : Nat) (folding : Folding) (column : Nat) :
    Text → Option Scanned
  | [] => some (folding.finish [] column)
  | c :: rest =>
      let gap := 0 < folding.breaks || !folding.blanks.isEmpty
      if c = '\n' then
        readPlain flow indent { folding with blanks := [], breaks := folding.breaks + 1 } 0 rest
      else if c = ' ' ∨ c = '\t' then
        if 0 < folding.breaks ∧ c = '\t' ∧ column < indent then none
        else
          readPlain flow indent { folding with blanks := c :: folding.blanks } (column + 1) rest
      else if 0 < folding.breaks ∧
          ((!flow ∧ column < indent) ∨ Cursor.ends ⟨c :: rest, column, true⟩) then
        some (folding.finish (c :: rest) column)
      else if gap ∧ c = '#' then some (folding.finish (c :: rest) column)
      else if c = ':' ∧ Cursor.blankAt rest then some (folding.finish (c :: rest) column)
      else if flow ∧ c = ':' ∧ rest.head?.any (fun next => next == '?' || flowMarks.contains next) then none
      else if flow ∧ flowMarks.contains c then some (folding.finish (c :: rest) column)
      else readPlain flow indent (folding.push c) (column + 1) rest

/-- Reads on in a single quoted scalar; a quote is written twice. -/
def readSingle (folding : Folding) (column : Nat) : Text → Option Scanned
  | [] => none
  | '\'' :: '\'' :: rest => readSingle (folding.push '\'') (column + 2) rest
  | c :: rest =>
      if Cursor.separates '-' ⟨c :: rest, column, true⟩ ∨ Cursor.separates '.' ⟨c :: rest, column, true⟩ then
        none
      else if c = '\'' then
        let gap := if 0 < folding.breaks then foldBreaks folding.breaks else folding.blanks.reverse
        some ⟨folding.taken.reverse ++ gap, folding.multiline || 0 < folding.breaks, ⟨rest, column + 1, false⟩⟩
      else if c = '\n' then
        readSingle { folding with blanks := [], breaks := folding.breaks + 1 } 0 rest
      else if c = ' ' ∨ c = '\t' then
        readSingle { folding with blanks := c :: folding.blanks } (column + 1) rest
      else readSingle (folding.push c) (column + 1) rest

def escapedChar? : Char → Option Char
  | '0' => some '\x00'
  | 'a' => some '\x07'
  | 'b' => some '\x08'
  | 't' => some '\t'
  | '\t' => some '\t'
  | 'n' => some '\n'
  | 'v' => some '\x0b'
  | 'f' => some '\x0c'
  | 'r' => some '\r'
  | 'e' => some '\x1b'
  | ' ' => some ' '
  | '"' => some '"'
  | '/' => some '/'
  | '\\' => some '\\'
  | 'N' => some '\u0085'
  | '_' => some '\u00a0'
  | 'L' => some '\u2028'
  | 'P' => some '\u2029'
  | _ => none

def escapeWidth? : Char → Option Nat
  | 'x' => some 2
  | 'u' => some 4
  | 'U' => some 8
  | _ => none

/-- Adds hexadecimal digits to a code: `width` of them are still to come. -/
def hexCode? (code : Nat) (c : Char) : Option Nat := (Json.hexDigit? c).map (code * 16 + ·)

/-- What is going on in a double quoted scalar: ordinary text, right behind a backslash, or within the
digits of an escape. -/
inductive Escaping where
  | no
  | letter
  | digits (remaining : Nat) (code : Nat)
  | lineEnd

/-- Reads on in a double quoted scalar. A backslash before a line end drops that line end. -/
def readDouble (folding : Folding) (escaping : Escaping) (column : Nat) : Text → Option Scanned
  | [] => none
  | c :: rest =>
      match escaping with
      | .digits remaining code =>
          match hexCode? code c with
          | none => none
          | some code =>
              if remaining = 0 then
                if code.isValidChar then readDouble (folding.push (Char.ofNat code)) .no (column + 1) rest
                else none
              else readDouble folding (.digits (remaining - 1) code) (column + 1) rest
      | .letter =>
          if c = '\n' then readDouble folding .lineEnd 0 rest
          else
            match escapedChar? c, escapeWidth? c with
            | some escaped, _ => readDouble (folding.push escaped) .no (column + 1) rest
            | none, some width => readDouble folding (.digits (width - 1) 0) (column + 1) rest
            | none, none => none
      | .lineEnd =>
          if c = ' ' ∨ c = '\t' then readDouble folding .lineEnd (column + 1) rest
          else if c = '\n' then
            readDouble { folding with taken := '\n' :: folding.taken } .lineEnd 0 rest
          else if c = '"' then
            some ⟨folding.taken.reverse, true, ⟨rest, column + 1, false⟩⟩
          else if c = '\\' then readDouble { folding with multiline := true } .letter (column + 1) rest
          else readDouble ({ folding with multiline := true }.push c) .no (column + 1) rest
      | .no =>
          if Cursor.separates '-' ⟨c :: rest, column, true⟩ ∨
              Cursor.separates '.' ⟨c :: rest, column, true⟩ then none
          else if c = '"' then
            let gap :=
              if 0 < folding.breaks then foldBreaks folding.breaks else folding.blanks.reverse
            some ⟨folding.taken.reverse ++ gap, folding.multiline || 0 < folding.breaks,
              ⟨rest, column + 1, false⟩⟩
          else if c = '\\' then
            let gap :=
              if 0 < folding.breaks then foldBreaks folding.breaks else folding.blanks.reverse
            readDouble
              { taken := gap.reverse ++ folding.taken
                multiline := folding.multiline || 0 < folding.breaks } .letter (column + 1) rest
          else if c = '\n' then
            readDouble { folding with blanks := [], breaks := folding.breaks + 1 } .no 0 rest
          else if c = ' ' ∨ c = '\t' then
            readDouble { folding with blanks := c :: folding.blanks } .no (column + 1) rest
          else readDouble (folding.push c) .no (column + 1) rest

inductive Chomping where
  | strip
  | clip
  | keep
deriving DecidableEq

structure BlockHead where
  chomping : Chomping := .clip
  told : Option Nat := none

def readHead (head : BlockHead) : Text → Option (BlockHead × Text)
  | c :: rest =>
      if c = '+' ∧ head.chomping = .clip then readHead { head with chomping := .keep } rest
      else if c = '-' ∧ head.chomping = .clip then readHead { head with chomping := .strip } rest
      else if '1' ≤ c ∧ c ≤ '9' ∧ head.told.isNone then
        readHead { head with told := some (c.toNat - '0'.toNat) } rest
      else some (head, c :: rest)
  | [] => some (head, [])

/-- The rest of the line of a head holds nothing but blanks and a comment: what follows the line. -/
def endHead (text : Text) : Option Text :=
  let behind := text.dropWhile fun c => c = ' ' || c = '\t'
  let behind := if behind.head? == some '#' then behind.dropWhile (· != '\n') else behind
  match behind with
  | [] => some []
  | '\n' :: rest => some rest
  | _ => none

/-- The blank lines of a block from here on: how many, the widest of them with the first further line,
and the place in that line. `indent` bounds the blanks that count as indentation. -/
def blankLines (indent : Option Nat) (count widest column : Nat) : Text → Option (Nat × Nat × Cursor)
  | [] => some (count, max widest column, ⟨[], column, true⟩)
  | c :: rest =>
      let within := indent.all fun bound => column < bound
      if c = ' ' ∧ within then blankLines indent count widest (column + 1) rest
      else if c = '\t' ∧ within then none
      else if c = '\n' then blankLines indent (count + 1) (max widest column) 0 rest
      else some (count, max widest column, ⟨c :: rest, column, true⟩)

/-- What has been read of a block scalar: its text, the latest character first, whether a line end
follows it, whether its last line begins with a blank, and the number of blank lines behind. -/
structure BlockText where
  taken : Text := []
  ended : Bool := false
  indented : Bool := false
  blankLines : Nat := 0

/-- Adds a line, folding the line end before it unless one of the two lines begins with a blank. -/
def BlockText.push (block : BlockText) (folded : Bool) (line : Text) (ended : Bool) : BlockText :=
  let indented := line.head?.any fun c => c = ' ' || c = '\t'
  let joint : Text :=
    if !block.ended then []
    else if folded && !block.indented && !indented then (if block.blankLines = 0 then [' '] else [])
    else ['\n']
  let gap := joint ++ List.replicate block.blankLines '\n'
  { taken := line.reverse ++ (gap.reverse ++ block.taken), ended := ended, indented := indented }

def BlockText.finish (block : BlockText) (chomping : Chomping) : Text :=
  let ending : Text := if block.ended && chomping != .strip then ['\n'] else []
  let blank := if chomping = .keep then List.replicate block.blankLines '\n' else []
  block.taken.reverse ++ ending ++ blank

def readBlockLines (folded : Bool) (indent : Nat) (block : BlockText) :
    Nat → Cursor → Option (BlockText × Cursor)
  | 0, _ => none
  | budget + 1, cursor =>
      if cursor.column = indent ∧ !cursor.rest.isEmpty then
        let line := cursor.rest.takeWhile (· != '\n')
        let behind := cursor.rest.dropWhile (· != '\n')
        match blankLines (some indent) 0 0 0 behind.tail with
        | none => none
        | some (count, _, next) =>
            readBlockLines folded indent
              { block.push folded line !behind.isEmpty with blankLines := count } budget next
      else some (block, cursor)

/-- A block scalar behind its first mark, below a node indented by `parent`. -/
def readBlock (folded : Bool) (parent : Int) (text : Text) : Option (Text × Cursor) := do
  let (head, behind) ← readHead {} text
  let body ← endHead behind
  let least := max 1 (parent + 1).toNat
  let told := head.told.map fun count => (max parent 0).toNat + count
  let (count, widest, cursor) ← blankLines told 0 0 0 body
  let indent := told.getD (max least widest)
  let (block, cursor) ← readBlockLines folded indent { blankLines := count } (text.length + 1) cursor
  return (block.finish head.chomping, cursor)

end FaultContext.Yaml
