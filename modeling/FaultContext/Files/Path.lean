import FaultContext.Text.Basic

/-!
# Paths

A path is a text in which slashes separate names. Nothing is normalized when paths are joined or
printed; only where the components of a path are asked for, repeated and trailing slashes and single
dots behind the start do not count.
-/

namespace FaultContext.Files

set_option autoImplicit false

/-- A path as it is written. -/
abbrev Path := Text

namespace Path

def isAbsolute (path : Path) : Bool := path.head? == some '/'

/-- The path `name` as seen from `base`. An absolute `name` stands for itself, and an empty one
leaves a slash at the end. -/
def join (base name : Path) : Path :=
  if isAbsolute name then name
  else if base.isEmpty then name
  else if base.getLast? == some '/' then base ++ name
  else base ++ '/' :: name

inductive Component where
  | root
  | here
  | up
  | child (name : Text)
deriving DecidableEq, Repr

/-- The component a piece between slashes stands for, behind the start of the path. -/
def Component.ofPiece? (piece : Text) : Option Component :=
  if piece = [] ∨ piece = ['.'] then none
  else if piece = ['.', '.'] then some .up
  else some (.child piece)

/-- The components of a path. A dot counts only at the very start. -/
def components (path : Path) : List Component :=
  let pieces := Text.split '/' path
  let start : List Component :=
    if isAbsolute path then [.root] else if pieces.head? == some ['.'] then [.here] else []
  start ++ pieces.filterMap Component.ofPiece?

def Component.render : List Component → Path
  | [] => []
  | .root :: rest => '/' :: Text.join ['/'] (rest.map text)
  | rest => Text.join ['/'] (rest.map text)
where
  /-- One component as text. -/
  text : Component → Text
    | .root => []
    | .here => ['.']
    | .up => ['.', '.']
    | .child name => name

/-- The path without its last component, if it has one to lose. -/
def parent? (path : Path) : Option Path :=
  match (components path).reverse with
  | [] => none
  | [.root] => none
  | _ :: before => some (Component.render before.reverse)

/-- The last component, when it is a name. -/
def fileName? (path : Path) : Option Text :=
  match (components path).getLast? with
  | some (.child name) => some name
  | _ => none

/-- What follows the last dot of the file name; a dot at its start begins no extension. -/
def extension? (path : Path) : Option Text :=
  match (fileName? path).bind (Text.cutLast? '.') with
  | some (stem, extension) => if stem.isEmpty then none else some extension
  | none => none

/-- Whether a text is the name of a file and nothing more. -/
def isPlainName (path : Path) : Bool :=
  match components path with
  | [.child _] => true
  | _ => false

/-- Whether a path only ever leads downwards. -/
def isInside (path : Path) : Bool :=
  (components path).all fun
    | .child _ => true
    | _ => false

def same (one other : Path) : Bool := components one == components other

end Path

end FaultContext.Files
