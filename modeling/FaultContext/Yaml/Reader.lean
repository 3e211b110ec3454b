import FaultContext.Yaml.Scalar

/-!
# Reading YAML

One document of block and flow collections and scalars. A block is told apart by its column: the
entries of a mapping stand in one column, a list may stand in the column of the mapping around it,
and what stands further right belongs to the entry above. Anchors, tags and keys that are no scalars
are not part of the format read here.
-/

namespace FaultContext.Yaml

set_option autoImplicit false

/-- The place behind a colon, when one follows on the same line as the key of an entry. -/
def behindColon? (cursor : Cursor) : Option Cursor :=
  let next := cursor.inBlock true
  if next.fresh then none
  else
    match next.rest with
    | ':' :: rest => if Cursor.blankAt rest then some (next.advance 1) else none
    | _ => none

/-- The characters that no plain scalar begins with. -/
def reservedMarks : List Char :=
  [',', '[', ']', '{', '}', '#', '&', '*', '!', '|', '>', '\'', '"', '%', '@', '\u0060', '\t']

def beginsPlain (flow : Bool) : Text → Bool
  | [] => false
  | c :: rest =>
      if c = '-' then !Cursor.blankAt rest
      else if c = '?' ∨ c = ':' then !flow && !Cursor.blankAt rest
      else !reservedMarks.contains c

def readScalar (flow : Bool) (indent : Nat) (cursor : Cursor) : Option (Node × Scanned) :=
  match cursor.rest with
  | '\'' :: rest => (readSingle {} (cursor.column + 1) rest).map fun s => (.scalar false s.content, s)
  | '"' :: rest => (readDouble {} .no (cursor.column + 1) rest).map fun s => (.scalar false s.content, s)
  | rest =>
      if beginsPlain flow rest then
        (readPlain flow indent {} cursor.column rest).map fun s => (.scalar true s.content, s)
      else none

mutual

def flowNode : Nat → Cursor → Option (Node × Cursor)
  | 0, _ => none
  | budget + 1, cursor =>
      let cursor := cursor.inFlow
      if cursor.ends then none
      else
        match cursor.rest with
        | '[' :: _ =>
            (flowItems budget (cursor.advance 1)).map fun found => (.sequence found.1, found.2)
        | '{' :: _ =>
            (flowEntries budget (cursor.advance 1)).map fun found => (.mapping found.1, found.2)
        | _ => (readScalar true 0 cursor).map fun found => (found.1, found.2.behind)

/-- The value behind a colon inside brackets, which may be missing. -/
def flowValue : Nat → Cursor → Option (Node × Cursor)
  | 0, _ => none
  | budget + 1, cursor =>
      let next := cursor.inFlow
      if next.rest.head?.any fun c => c = ',' || c = ']' || c = '}' then some (.absent, next)
      else flowNode budget next

/-- The items of a bracketed list, each of which may be a single entry of a mapping. -/
def flowItems : Nat → Cursor → Option (List Node × Cursor)
  | 0, _ => none
  | budget + 1, cursor =>
      let cursor := cursor.inFlow
      match cursor.rest with
      | ']' :: _ => some ([], cursor.advance 1)
      | _ => do
          let (item, behind) ← flowNode budget cursor
          let next := behind.inFlow
          let (item, next) ←
            match next.rest with
            | ':' :: _ =>
                (flowValue budget (next.advance 1)).map fun found =>
                  (Node.mapping [(item, found.1)], found.2.inFlow)
            | _ => some (item, next)
          match next.rest with
          | ',' :: _ =>
              let (items, behind) ← flowItems budget (next.advance 1)
              return (item :: items, behind)
          | ']' :: _ => return ([item], next.advance 1)
          | _ => none

def flowEntries : Nat → Cursor → Option (List (Node × Node) × Cursor)
  | 0, _ => none
  | budget + 1, cursor =>
      let cursor := cursor.inFlow
      match cursor.rest with
      | '}' :: _ => some ([], cursor.advance 1)
      | _ => do
          let (key, behind) ← flowNode budget cursor
          let next := behind.inFlow
          let (value, next) ←
            match next.rest with
            | ':' :: _ =>
                (flowValue budget (next.advance 1)).map fun found => (found.1, found.2.inFlow)
            | _ => some (Node.absent, next)
          match next.rest with
          | ',' :: _ =>
              let (entries, behind) ← flowEntries budget (next.advance 1)
              return ((key, value) :: entries, behind)
          | '}' :: _ => return ([(key, value)], next.advance 1)
          | _ => none

end

mutual

/-- A node below one in the column `parent`. Behind a key, which is what `afterKey` says, collections
in blocks begin on a line of their own. -/
def blockNode : Nat → Int → Bool → Cursor → Option (Node × Cursor)
  | 0, _, _, _ => none
  | budget + 1, parent, afterKey, cursor =>
      let cursor := cursor.inBlock afterKey
      let ownLine := cursor.fresh || !afterKey
      let column : Int := cursor.column
      if cursor.ends then some (.absent, cursor)
      else if cursor.atEntry then
        if !ownLine then none
        else if parent < column ∨ (afterKey ∧ column = parent) then
          (blockItems budget cursor.column cursor).map fun found => (.sequence found.1, found.2)
        else some (.absent, cursor)
      else if column ≤ parent then some (.absent, cursor)
      else
        match cursor.rest with
        | '|' :: rest => (readBlock false parent rest).map fun found => (.scalar false found.1, found.2)
        | '>' :: rest => (readBlock true parent rest).map fun found => (.scalar false found.1, found.2)
        | '[' :: _ => flowNode (2 * cursor.rest.length + 2) cursor
        | '{' :: _ => flowNode (2 * cursor.rest.length + 2) cursor
        | _ =>
            match readScalar false (parent + 1).toNat cursor with
            | none => none
            | some (scalar, scanned) =>
                if scanned.multiline ∨ (behindColon? scanned.behind).isNone then
                  some (scalar, scanned.behind)
                else if ownLine then
                  (blockEntries budget cursor.column cursor).map fun found =>
                    (.mapping found.1, found.2)
                else none

def blockItems : Nat → Nat → Cursor → Option (List Node × Cursor)
  | 0, _, _ => none
  | budget + 1, column, cursor =>
      match blockNode budget column false (cursor.advance 1) with
      | none => none
      | some (item, behind) =>
          let next := behind.inBlock true
          if next.ends ∨ (next.fresh ∧ next.column < column) then some ([item], next)
          else if next.fresh ∧ next.column = column then
            if next.atEntry then
              (blockItems budget column next).map fun found => (item :: found.1, found.2)
            else some ([item], next)
          else none

def blockEntries : Nat → Nat → Cursor → Option (List (Node × Node) × Cursor)
  | 0, _, _ => none
  | budget + 1, column, cursor =>
      match readScalar false (column + 1) cursor with
      | none => none
      | some (key, scanned) =>
          if scanned.multiline then none
          else
            match behindColon? scanned.behind with
            | none => none
            | some colon =>
                match blockNode budget column true colon with
                | none => none
                | some (value, behind) =>
                    let next := behind.inBlock true
                    if next.ends ∨ (next.fresh ∧ next.column < column) then some ([(key, value)], next)
                    else if next.fresh ∧ next.column = column ∧ !next.atEntry then
                      (blockEntries budget column next).map fun found =>
                        ((key, value) :: found.1, found.2)
                    else none

end

def unifyLineEnds : Text → Text
  | [] => []
  | '\r' :: '\n' :: rest => '\n' :: unifyLineEnds rest
  | c :: rest => (if c = '\r' ∨ c = '\u0085' then '\n' else c) :: unifyLineEnds rest

def isAllowed (c : Char) : Bool :=
  let code := c.toNat
  c == '\n' || c == '\t' || (0x20 ≤ code && code ≤ 0x7e) || (0xa0 ≤ code && code ≤ 0xfffd) ||
    0x10000 ≤ code

def withoutMark : Text → Text
  | '\ufeff' :: rest => rest
  | text => text

/-- Whether nothing but blanks, and at most one end mark of the document, follow. -/
def endsDocument (cursor : Cursor) : Bool :=
  let next := cursor.inBlock true
  next.rest.isEmpty ||
    (next.fresh && next.separates '.' && ((next.advance 3).inBlock true).rest.isEmpty)

def read? (text : Text) : Option Node :=
  let text := unifyLineEnds (withoutMark text)
  if !text.all isAllowed then none
  else
    let start := (Cursor.start text).inBlock false
    let (start, marked) := if start.separates '-' then (start.advance 3, true) else (start, false)
    if start.separates '.' then none
    else
      match blockNode (2 * text.length + 4) (-1) marked start with
      | some (node, behind) => if endsDocument behind then some node else none
      | none => none

end FaultContext.Yaml
