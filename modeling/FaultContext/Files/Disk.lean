import FaultContext.Failure
import FaultContext.Files.Path
import FaultContext.Text.Utf8

/-!
# Disks

A tree of files and directories, seen from a working directory. A path is followed piece by piece
from the root: an empty piece and a dot ask for a directory and stay there, two dots go back to where
the directory was entered, and a name goes down. So a slash behind a file leads nowhere, and neither
does a path through a name that is not there.

A walk gives all files below a directory, each with the names that lead to it. Entries come in the order
of the directory, and the contents of a directory directly where the directory stands. A walk can be told
to hide names: a hidden directory is not entered, so nothing below it is seen either.
-/

namespace FaultContext.Files

set_option autoImplicit false

inductive Node where
  | file (bytes : ByteArray)
  | directory (entries : List (Text × Node))

namespace Node

def isFile : Node → Bool
  | .file _ => true
  | .directory _ => false

def isDirectory (node : Node) : Bool := !node.isFile

def child? (name : Text) : Node → Option Node
  | .file _ => none
  | .directory entries => entries.lookup name

/-- Follows the pieces of a path from `here`, with the directories entered on the way, the nearest
first. -/
def follow (here : Node) (entered : List Node) : List Text → Option Node
  | [] => some here
  | piece :: pieces =>
      if here.isFile then none
      else
        match Path.Component.ofPiece? piece with
        | none => follow here entered pieces
        | some .up =>
            match entered with
            | [] => follow here [] pieces
            | outer :: others => follow outer others pieces
        | some (.child name) =>
            match here.child? name with
            | none => none
            | some next => follow next (here :: entered) pieces
        | some _ => none

/-- Puts `node` at the end of the names, through directories that are made where they are missing. -/
def place (node : Node) : List Text → Node → Node
  | [], _ => node
  | name :: names, here =>
      let entries :=
        match here with
        | .directory entries => entries
        | .file _ => []
      let below := place node names ((entries.lookup name).getD (.directory []))
      .directory (update name below entries)
where
  /-- Sets the entry of a name, at the end when it is new. -/
  update (name : Text) (node : Node) : List (Text × Node) → List (Text × Node)
    | [] => [(name, node)]
    | entry :: rest => if entry.1 = name then (name, node) :: rest else entry :: update name node rest

def erase : List Text → Node → Node
  | [], here => here
  | _, .file bytes => .file bytes
  | [name], .directory entries => .directory (entries.filter fun entry => entry.1 != name)
  | name :: names, .directory entries =>
      .directory (entries.map fun entry =>
        if entry.1 = name then (name, erase names entry.2) else entry)

end Node

/-- A tree and the directory from which relative paths start. -/
structure Disk where
  root : Node
  workingDirectory : Path

namespace Disk

/-- A path as it looks from the root. -/
def absolute (disk : Disk) (path : Path) : Path :=
  if Path.isAbsolute path then path else Path.join disk.workingDirectory path

def find? (disk : Disk) (path : Path) : Option Node :=
  if path.isEmpty then none else disk.root.follow [] (Text.split '/' (disk.absolute path))

def has (disk : Disk) (path : Path) : Bool := (disk.find? path).isSome

def isFile (disk : Disk) (path : Path) : Bool := (disk.find? path).any Node.isFile

def isDirectory (disk : Disk) (path : Path) : Bool := (disk.find? path).any Node.isDirectory

def bytes? (disk : Disk) (path : Path) : Option ByteArray :=
  match disk.find? path with
  | some (.file bytes) => some bytes
  | _ => none

theorem is_directory_iff (disk : Disk) (path : Path) :
    disk.isDirectory path = true ↔ ∃ entries, disk.find? path = some (.directory entries) := by
  unfold isDirectory
  cases disk.find? path with
  | none => simp
  | some node => cases node <;> simp [Node.isDirectory, Node.isFile]

theorem bytes_eq_some_iff {disk : Disk} {path : Path} {bytes : ByteArray} :
    disk.bytes? path = some bytes ↔ disk.find? path = some (.file bytes) := by
  unfold bytes?
  cases disk.find? path with
  | none => simp
  | some node => cases node <;> simp

theorem is_file_iff (disk : Disk) (path : Path) :
    disk.isFile path = true ↔ ∃ bytes, disk.find? path = some (.file bytes) := by
  unfold isFile
  cases disk.find? path with
  | none => simp
  | some node => cases node <;> simp [Node.isFile]

def textOf (bytes : ByteArray) : Except IoFailure Text :=
  match Text.decodeUtf8? bytes.toList with
  | some text => .ok text
  | none => .error ⟨false, "stream did not contain valid UTF-8".toList⟩

def readText (disk : Disk) (path : Path) : Except IoFailure Text :=
  match disk.find? path with
  | none => .error ⟨true, "No such file or directory (os error 2)".toList⟩
  | some (.directory _) => .error ⟨false, "Is a directory (os error 21)".toList⟩
  | some (.file bytes) => textOf bytes

/-- The names that lead from the root to a path, where two dots take back the name before them. -/
def namesOf (path : Path) : List Text :=
  (Path.components path).foldl
    (fun names component =>
      match component with
      | .child name => names ++ [name]
      | .up => names.dropLast
      | _ => names)
    []

def write (disk : Disk) (path : Path) (node : Node) : Disk :=
  { disk with root := Node.place node (namesOf (disk.absolute path)) disk.root }

def remove (disk : Disk) (path : Path) : Disk :=
  { disk with root := disk.root.erase (namesOf (disk.absolute path)) }

end Disk

/-! ## Walking a directory -/

/-- A file found on a walk: the names from where the walk began, and its bytes. -/
structure Found where
  names : List Text
  bytes : ByteArray

def Found.fileName (found : Found) : Text := found.names.getLast?.getD []

namespace Node

mutual

/-- The files at or below a node that stands at the end of the names in `trail`. -/
def filesAt (hidden : List Text → Bool) (trail : List Text) : Node → List Found
  | .file bytes => [⟨trail, bytes⟩]
  | .directory entries => filesAmong hidden trail entries

def filesAmong (hidden : List Text → Bool) (trail : List Text) : List (Text × Node) → List Found
  | [] => []
  | (name, node) :: rest =>
      (if hidden (trail ++ [name]) then [] else filesAt hidden (trail ++ [name]) node) ++
        filesAmong hidden trail rest

end

/-- The files below a directory that are not hidden. -/
def walk (hidden : List Text → Bool) (node : Node) : List Found := filesAt hidden [] node

end Node

end FaultContext.Files
