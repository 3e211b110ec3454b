import Mathlib.Data.List.Forall2
import FaultContext.Files.Disk
import FaultContext.Proofs.PathsBelow

/-!
# A disk that files are added to

Files may come to stand anywhere among the entries of the directories of a disk. Every path then leads
where it led before, to what has gained files itself, or to one of the added files if it led nowhere.
A walk comes upon the same files in the same order, with added ones between them.
-/

namespace FaultContext

set_option autoImplicit false

/-- The longer list is the shorter one with idle items put in at any places. -/
inductive Padded {α : Type} (idle : α → Prop) : List α → List α → Prop where
  | nil : Padded idle [] []
  | kept (item : α) {short long : List α} (rest : Padded idle short long) :
      Padded idle (item :: short) (item :: long)
  | put {item : α} {short long : List α} (passed : idle item) (rest : Padded idle short long) :
      Padded idle short (item :: long)

namespace Padded

variable {α β : Type} {idle : α → Prop} {short long others further : List α}

theorem refl (items : List α) : Padded idle items items := by
  induction items with
  | nil => exact .nil
  | cons item items ih => exact .kept item ih

theorem append (padded : Padded idle short long) (more : Padded idle others further) :
    Padded idle (short ++ others) (long ++ further) := by
  induction padded with
  | nil => exact more
  | kept item rest ih => exact .kept item ih
  | put passed rest ih => exact .put passed ih

theorem map {useless : β → Prop} (change : α → β) (idly : ∀ item, idle item → useless (change item))
    (padded : Padded idle short long) : Padded useless (short.map change) (long.map change) := by
  induction padded with
  | nil => exact .nil
  | kept item rest ih => exact .kept (change item) ih
  | put passed rest ih => exact .put (idly _ passed) ih

theorem filter (padded : Padded idle short long) (test : α → Bool) :
    Padded idle (short.filter test) (long.filter test) := by
  induction padded with
  | nil => exact .nil
  | kept item rest ih =>
      rw [List.filter_cons, List.filter_cons]
      split
      · exact .kept item ih
      · exact ih
  | put passed rest ih =>
      rw [List.filter_cons]
      split
      · exact .put passed ih
      · exact ih

theorem length_le (padded : Padded idle short long) : short.length ≤ long.length := by
  induction padded with
  | nil => exact Nat.le_refl 0
  | kept item rest ih => exact Nat.succ_le_succ ih
  | put passed rest ih => exact Nat.le_succ_of_le ih

/-- A search that passes over the idle items finds what it found without them. -/
theorem find_some (padded : Padded idle short long) (find : α → Option β)
    (blind : ∀ item, idle item → find item = none) : long.findSome? find = short.findSome? find := by
  induction padded with
  | nil => rfl
  | kept item rest ih => rw [List.findSome?_cons, List.findSome?_cons, ih]
  | put passed rest ih => rw [List.findSome?_cons, blind _ passed, ih]

theorem find (padded : Padded idle short long) (test : α → Bool)
    (blind : ∀ item, idle item → test item = false) : long.find? test = short.find? test := by
  induction padded with
  | nil => rfl
  | kept item rest ih => rw [List.find?_cons, List.find?_cons, ih]
  | put passed rest ih => rw [List.find?_cons, blind _ passed, ih]

end Padded

namespace Files

/-- Files of this kind come to stand among the entries and, at any depth, below them. None has the name
of an entry behind it, so no entry is lost from sight. -/
inductive EntriesGain (added : Text → ByteArray → Prop) :
    List (Text × Node) → List (Text × Node) → Prop where
  | nil : EntriesGain added [] []
  | file (name : Text) (bytes : ByteArray) {entries others : List (Text × Node)}
      (rest : EntriesGain added entries others) :
      EntriesGain added ((name, .file bytes) :: entries) ((name, .file bytes) :: others)
  | directory (name : Text) {below within entries others : List (Text × Node)}
      (inner : EntriesGain added below within) (rest : EntriesGain added entries others) :
      EntriesGain added ((name, .directory below) :: entries) ((name, .directory within) :: others)
  | put {name : Text} {bytes : ByteArray} {entries others : List (Text × Node)}
      (passed : added name bytes) (fresh : entries.lookup name = none)
      (rest : EntriesGain added entries others) :
      EntriesGain added entries ((name, .file bytes) :: others)

/-- The same file on both sides, or directories of which the second has gained files. -/
inductive Node.Gains (added : Text → ByteArray → Prop) : Node → Node → Prop where
  | file (bytes : ByteArray) : Gains added (.file bytes) (.file bytes)
  | directory {entries others : List (Text × Node)} (inner : EntriesGain added entries others) :
      Gains added (.directory entries) (.directory others)

/-- The disk has gained files and is otherwise as it was. -/
structure Disk.Gains (added : Text → ByteArray → Prop) (disk larger : Disk) : Prop where
  root : disk.root.Gains added larger.root
  workingDirectory : disk.workingDirectory = larger.workingDirectory

/-- What was there before is there, and has perhaps gained files; or there was nothing, and there is
one of the added files, which is one of these. -/
inductive Meets (added : Text → ByteArray → Prop) (these : Text → Prop) :
    Option Node → Option Node → Prop where
  | nowhere : Meets added these none none
  | both {here there : Node} (gained : here.Gains added there) :
      Meets added these (some here) (some there)
  | put {name : Text} {bytes : ByteArray} (passed : added name bytes) (this : these name) :
      Meets added these none (some (.file bytes))

variable {added : Text → ByteArray → Prop} {entries others : List (Text × Node)}

theorem lookup_gains (gained : EntriesGain added entries others) (name : Text) :
    Meets added (· = name) (entries.lookup name) (others.lookup name) := by
  induction gained with
  | nil => exact .nowhere
  | file first bytes rest ih =>
      rw [List.lookup_cons, List.lookup_cons]
      split
      · exact .both (.file bytes)
      · exact ih
  | directory first inner rest _ ih =>
      rw [List.lookup_cons, List.lookup_cons]
      split
      · exact .both (.directory inner)
      · exact ih
  | put passed fresh rest ih =>
      rw [List.lookup_cons]
      split
      · rename_i same
        obtain rfl := eq_of_beq same
        rw [fresh]
        exact .put passed rfl
      · exact ih

theorem Meets.mono {these those : Text → Prop} (narrower : ∀ name, these name → those name)
    {one other : Option Node} (meets : Meets added these one other) : Meets added those one other := by
  cases meets with
  | nowhere => exact .nowhere
  | both gained => exact .both gained
  | put passed this => exact .put passed (narrower _ this)

theorem Path.piece_of_child {piece name : Text}
    (named : Path.Component.ofPiece? piece = some (.child name)) : piece = name := by
  rw [Path.Component.ofPiece?] at named
  split_ifs at named
  · cases named
  · exact Path.Component.child.inj (Option.some.inj named)

namespace Node

variable {here there : Node}

theorem is_file_gains (gained : here.Gains added there) : here.isFile = there.isFile := by
  cases gained <;> rfl

theorem child_gains (gained : here.Gains added there) (name : Text) :
    Meets added (· = name) (here.child? name) (there.child? name) := by
  cases gained with
  | file bytes => exact .nowhere
  | directory inner => exact lookup_gains inner name

theorem follow_file (bytes : ByteArray) (entered : List Node) (piece : Text) (pieces : List Text) :
    follow (.file bytes) entered (piece :: pieces) = none := by
  have closed : (file bytes).isFile = true := rfl
  rw [follow_cons, if_pos closed]

/-- The added file that a path leads to is the last piece of the path. -/
def EndsIn (pieces : List Text) (name : Text) : Prop :=
  pieces.getLast? = some name ∧ Path.Component.ofPiece? name = some (.child name)

theorem ends_in_cons (piece : Text) {pieces : List Text} {name : Text} (last : EndsIn pieces name) :
    EndsIn (piece :: pieces) name := by
  refine ⟨?_, last.2⟩
  rw [List.getLast?_cons, last.1]
  rfl

/-- Along the same pieces, from directories of which the second have gained files, nothing is lost. -/
theorem follow_gains (pieces : List Text) (gained : here.Gains added there) {entered outer : List Node}
    (behind : List.Forall₂ (Gains added) entered outer) :
    Meets added (EndsIn pieces) (follow here entered pieces) (follow there outer pieces) := by
  induction pieces generalizing here there entered outer with
  | nil =>
      rw [follow_nil, follow_nil]
      exact .both gained
  | cons piece pieces ih =>
      rw [follow_cons, follow_cons, is_file_gains gained]
      split
      · exact .nowhere
      · split
        · exact (ih gained behind).mono fun _ => ends_in_cons piece
        · refine Meets.mono (fun _ => ends_in_cons piece) ?_
          cases behind with
          | nil => exact ih gained .nil
          | cons first rest => exact ih first rest
        · rename_i name named
          obtain rfl := Path.piece_of_child named
          have step := child_gains gained piece
          generalize here.child? piece = one at step ⊢
          generalize there.child? piece = other at step ⊢
          cases step with
          | nowhere => exact .nowhere
          | both further => exact (ih further (.cons gained behind)).mono fun _ => ends_in_cons piece
          | put passed same =>
              -- At an added file the path ends, or it leads nowhere.
              cases pieces with
              | nil => exact .put passed ⟨same ▸ rfl, same ▸ named⟩
              | cons next rest =>
                  rw [Option.bind_none, Option.bind_some, follow_file]
                  exact .nowhere
        · exact .nowhere

/-- On a walk the added files come between those that were there. -/
theorem files_among_gain (gained : EntriesGain added entries others) (hidden : List Text → Bool)
    (trail : List Text) :
    Padded (fun found => added found.fileName found.bytes) (filesAmong hidden trail entries)
      (filesAmong hidden trail others) := by
  induction gained generalizing trail with
  | nil => exact .nil
  | file name bytes rest ih => exact (Padded.refl _).append (ih trail)
  | directory name inner rest within ih =>
      refine Padded.append ?_ (ih trail)
      split
      · exact .nil
      · exact within (trail ++ [name])
  | @put name bytes entries others passed fresh rest ih =>
      have told : added (Found.fileName ⟨trail ++ [name], bytes⟩) bytes := by
        rw [Found.fileName, List.getLast?_concat]
        exact passed
      rw [filesAmong]
      split
      · exact ih trail
      · exact .put told (ih trail)

end Node

namespace Disk

variable {disk larger : Disk}

theorem find_gains (gained : disk.Gains added larger) (path : Path) :
    Meets added (Node.EndsIn (Text.split '/' (disk.absolute path))) (disk.find? path)
      (larger.find? path) := by
  have same : larger.absolute path = disk.absolute path := by
    rw [absolute, absolute, gained.workingDirectory]
  rw [find?, find?, same]
  split
  · exact .nowhere
  · exact Node.follow_gains _ gained.root .nil

theorem entries_at_gain (gained : disk.Gains added larger) (path : Path) :
    EntriesGain added (disk.entriesAt path) (larger.entriesAt path) := by
  have found := find_gains gained path
  rw [entriesAt, entriesAt]
  generalize disk.find? path = one at found ⊢
  generalize larger.find? path = other at found ⊢
  cases found with
  | nowhere => exact .nil
  | put passed this => exact .nil
  | both inner =>
      cases inner with
      | file bytes => exact .nil
      | directory entries => exact entries

/-- A path has the bytes it had before, unless it had none and leads to an added file. -/
theorem bytes_gain (gained : disk.Gains added larger) (path : Path) :
    larger.bytes? path = disk.bytes? path ∨
      disk.bytes? path = none ∧
        ∃ name bytes, larger.bytes? path = some bytes ∧ added name bytes := by
  have found := find_gains gained path
  rw [bytes?, bytes?]
  generalize disk.find? path = one at found ⊢
  generalize larger.find? path = other at found ⊢
  cases found with
  | nowhere => exact .inl rfl
  | put passed this => exact .inr ⟨rfl, _, _, rfl, passed⟩
  | both inner => cases inner <;> exact .inl rfl

end Disk

end Files

end FaultContext
