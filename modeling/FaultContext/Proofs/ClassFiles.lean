import Mathlib.Data.List.Basic
import FaultContext.Proofs.ClassPathOrder
import FaultContext.Proofs.SourceRoots
import FaultContext.Trace.Frame

/-!
# Where class files lie

The class file of a type is named after it, and its path leads downwards: the dots of the type, from
which alone steps back could come, have become slashes. A type whose name begins with a dot or a slash
has an absolute class file, though, which stands for itself wherever it is looked for. The main statement
is that an archive that is an origin lists the class file and that a directory that is one has it below
itself, those types apart; their class files lie below the root, and any directory may be their origin.
-/

namespace FaultContext

set_option autoImplicit false

namespace Files.Node

theorem holds_of_pursue {here : Node} {entered : List Node} {names : List Text} {bytes : ByteArray}
    (found : pursue here entered (names.map .child) = some (.file bytes)) : Holds here names bytes := by
  induction names generalizing here entered with
  | nil =>
      cases found
      exact .here bytes
  | cons name names ih =>
      obtain ⟨next, child, further⟩ := Option.bind_eq_some_iff.1 found
      cases here with
      | file bytes => cases child
      | directory entries =>
          obtain ⟨before, after, rfl, -⟩ := List.lookup_eq_some_iff.1 child
          exact .under (List.mem_append_right before (List.mem_cons_self ..)) (ih further)

end Files.Node

namespace Origin

open Files (Disk Node Path Archive)

variable {name : Text}

/-- The names on the way to the class file of a type: those of its packages, and its own with the ending
of class files. -/
def classNames (name : Text) : List Text :=
  (Text.split '/' (classFile name)).filter fun piece => !piece.isEmpty

example : classNames "com.acme.Foo$Bar".toList =
    ["com".toList, "acme".toList, "Foo$Bar.class".toList] := by decide

/-- The name begins with a separator of packages, or of directories. -/
def Rooted (name : Text) : Prop := name.head? = some '.' ∨ name.head? = some '/'

instance (name : Text) : Decidable (Rooted name) := inferInstanceAs (Decidable (_ ∨ _))

theorem is_absolute_class_file : Path.isAbsolute (classFile name) = true ↔ Rooted name := by
  cases name with
  | nil => decide
  | cons c rest =>
      by_cases dot : c = '.'
      · simp [Path.isAbsolute, classFile, Text.replace, Rooted, dot]
      · simp [Path.isAbsolute, classFile, Text.replace, Rooted, dot]

/-- The class file ends in a name; what stands in front of it, if anything, holds no dots. -/
theorem class_file_pieces (name : Text) : ∃ front last,
    Text.split '/' (classFile name) = front ++ [last ++ ".class".toList] ∧
      ∀ piece ∈ front, '.' ∉ piece := by
  have dotless : '.' ∉ Text.replace '.' '/' name := Text.not_mem_replace (by decide) name
  obtain ⟨back, single, shape⟩ := Text.last_piece '/' (Text.replace '.' '/' name)
  have alone : '/' ∉ back ++ ".class".toList := by
    rw [List.mem_append, not_or]
    exact ⟨single, by decide⟩
  rcases shape with whole | ⟨front, whole⟩
  · refine ⟨[], back, ?_, by simp⟩
    rw [classFile, whole, Text.split_unmarked '/' _ alone, List.nil_append]
  · refine ⟨Text.split '/' front, back, ?_, ?_⟩
    · rw [classFile, whole, List.append_assoc, List.cons_append, Text.split_append_mark,
        Text.split_unmarked '/' _ alone]
    · intro piece member dot
      have inside := Text.mem_of_mem_split '/' '.' front piece member dot
      rw [whole] at dotless
      exact dotless (List.mem_append_left _ inside)

theorem class_file_undotted (piece : Text) (member : piece ∈ Text.split '/' (classFile name)) :
    piece ≠ ['.'] ∧ piece ≠ ['.', '.'] := by
  obtain ⟨front, last, pieces, dotless⟩ := class_file_pieces name
  rw [pieces, List.mem_append, List.mem_singleton] at member
  rcases member with early | rfl
  · constructor <;> rintro rfl <;> exact dotless _ early (List.mem_cons_self ..)
  · constructor <;> intro same <;> simpa using congrArg List.length same

theorem of_piece_class_file (piece : Text) (member : piece ∈ Text.split '/' (classFile name)) :
    Path.Component.ofPiece? piece = if piece.isEmpty then none else some (.child piece) := by
  obtain ⟨here, up⟩ := class_file_undotted piece member
  rw [Path.Component.ofPiece?]
  cases piece with
  | nil => rfl
  | cons c rest => simp [here, up]

/-- From its start on, the class file leads down along its names. -/
theorem steps_class_file (name : Text) :
    Path.steps (classFile name) = (classNames name).map .child := by
  rw [Path.steps, List.filterMap_congr of_piece_class_file, classNames, ← List.filterMap_eq_map,
    List.filterMap_filter]
  apply List.filterMap_congr
  intro piece _
  cases piece.isEmpty <;> rfl

theorem class_file_inside (relative : ¬ Rooted name) : Path.isInside (classFile name) = true := by
  rw [← is_absolute_class_file, Bool.not_eq_true] at relative
  have start : ((Text.split '/' (classFile name)).head? == some ['.']) = false := by
    cases pieces : Text.split '/' (classFile name) with
    | nil => rfl
    | cons piece others =>
        obtain ⟨undotted, -⟩ := class_file_undotted piece (pieces ▸ List.mem_cons_self ..)
        simpa using undotted
  rw [Path.is_inside_iff]
  intro component member
  simp only [Path.components, relative, start, Bool.false_eq_true, if_false, List.nil_append] at member
  rw [← Path.steps, steps_class_file] at member
  obtain ⟨child, -, step⟩ := List.mem_map.1 member
  exact ⟨child, step.symm⟩

namespace ClassPath

variable {disk : Disk} {path : Path} {entries : List (Text × Node)}

/-- Below the node, the names lead to the class file of the type. -/
def LiesBelow (node : Node) (name : Text) : Prop := ∃ bytes, node.Holds (classNames name) bytes

theorem lies_below_directory {bytes : ByteArray} (relative : ¬ Rooted name)
    (directory : disk.find? path = some (.directory entries))
    (found : disk.find? (Path.join path (classFile name)) = some (.file bytes)) :
    LiesBelow (.directory entries) name := by
  rw [disk.find_join path (classFile name) entries (class_file_inside relative) directory] at found
  have pursued := Node.pursue_of_follow found
  rw [← Path.steps, steps_class_file] at pursued
  exact ⟨bytes, Node.holds_of_pursue pursued⟩

theorem lies_below_root {bytes : ByteArray} (rooted : Rooted name)
    (found : disk.find? (classFile name) = some (.file bytes)) : LiesBelow disk.root name := by
  have pursued := Disk.pursue_of_find found
  rw [if_pos (is_absolute_class_file.2 rooted), List.nil_append, steps_class_file] at pursued
  exact ⟨bytes, Node.holds_of_pursue pursued⟩

theorem held_rooted_iff (rooted : Rooted name)
    (directory : disk.find? path = some (.directory entries)) :
    (∃ location, Held disk (classFile name) path location) ↔ disk.isFile (classFile name) = true := by
  -- An absolute path replaces the one it is joined to.
  have joined : Path.join path (classFile name) = classFile name := by
    rw [Path.join, is_absolute_class_file.2 rooted, if_pos rfl]
  rw [disk.is_file_iff]
  constructor
  · rintro ⟨location, held⟩
    cases held with
    | below _ found => exact ⟨_, joined ▸ found⟩
    | listed read _ _ =>
        rw [directory] at read
        cases read
  · rintro ⟨bytes, found⟩
    exact ⟨_, .below directory (joined.symm ▸ found)⟩

/-- The entry lists the class file, or it is a directory and the class file lies below it. -/
inductive Real (disk : Disk) (name : Text) (path : Path) : Prop where
  | listed (bytes : ByteArray) (archive : Archive) (read : disk.find? path = some (.file bytes))
      (opened : Archive.ofBytes? bytes = some archive) (member : classFile name ∈ archive.names)
  | below (entries : List (Text × Node)) (directory : disk.find? path = some (.directory entries))
      (lies : LiesBelow (.directory entries) name)

/-- Whatever was asked before, an origin is an entry of the class path. It lists the class file or has it
below itself, unless the name of the type begins with a dot or a slash and the entry is a directory: then
the class file lies below the root, and every directory of the class path holds it if one does. -/
theorem known_origin_real (classPath : ClassPath) (disk : Disk) (asked : List Text) (name : Text)
    (origin : TypeOrigin)
    (known : (classPath.resolver.ask disk name (classPath.resolver.after disk asked [])).1 =
      .known origin) :
    ∃ entry ∈ classPath.entries, ∃ location, origin = ⟨entry.loader, some location⟩ ∧
      Held disk (classFile name) entry.path location ∧
      (Real disk name entry.path ∨
        Rooted name ∧ disk.isDirectory entry.path = true ∧ LiesBelow disk.root name ∧
          ∀ other, disk.isDirectory other = true →
            ∃ location, Held disk (classFile name) other location) := by
  rw [answers_plainly classPath disk asked name, plain_answer_known_iff, first_holder_iff] at known
  obtain ⟨before, entry, after, location, parts, -, held, shown⟩ := known
  have member : entry ∈ classPath.entries := by
    rw [parts]
    exact List.mem_append_right before (List.mem_cons_self ..)
  refine ⟨entry, member, location, shown, held, ?_⟩
  cases held with
  | listed read opened member => exact .inl (.listed _ _ read opened member)
  | below directory found =>
      by_cases rooted : Rooted name
      · have present : disk.isFile (classFile name) = true :=
          (held_rooted_iff rooted directory).1 ⟨_, .below directory found⟩
        obtain ⟨bytes, there⟩ := (disk.is_file_iff _).1 present
        refine .inr ⟨rooted, (disk.is_directory_iff _).2 ⟨_, directory⟩,
          lies_below_root rooted there, ?_⟩
        intro other further
        obtain ⟨entries, another⟩ := (disk.is_directory_iff other).1 further
        exact (held_rooted_iff rooted another).2 present
      · exact .inl (.below _ directory (lies_below_directory rooted directory found))

/-- A project with a directory of classes, which has these entries, beside a class file that is not in
it. -/
def besideClasses (classes : List (Text × Node)) : Disk :=
  ⟨.directory
    [("etc".toList, .directory [("Foo.class".toList, .file ⟨#[]⟩)]),
      ("w".toList, .directory [("classes".toList, .directory classes)])], "/w".toList⟩

def classesOnly : ClassPath := .ofEntries ["classes".toList] []

theorem known_origin_real_below :
    let classes := [("a".toList, Node.directory [("B$C.class".toList, .file ⟨#[]⟩)])]
    let disk := besideClasses classes
    (classesOnly.resolver.ask disk "a.B$C".toList
        (classesOnly.resolver.after disk ["a.B".toList] [])).1 =
      .known ⟨.application, some "classes/".toList⟩ ∧ Real disk "a.B$C".toList "classes".toList := by
  intro classes disk
  have known : (classesOnly.resolver.ask disk "a.B$C".toList
      (classesOnly.resolver.after disk ["a.B".toList] [])).1 =
        .known ⟨.application, some "classes/".toList⟩ := by decide +kernel
  obtain ⟨entry, member, -, -, -, real | ⟨rooted, -⟩⟩ := known_origin_real classesOnly disk
    ["a.B".toList] "a.B$C".toList _ known
  · obtain rfl := List.mem_singleton.1 member
    exact ⟨known, real⟩
  · exact absurd rooted (by decide)

/-- A frame can carry a type whose class file is absolute. Its origin is a directory with nothing in it. -/
theorem outside_file_taken :
    let disk := besideClasses []
    ∃ frame, Trace.Frame.parse? "at .etc.Foo.run(Foo.java:1)".toList = some frame ∧
      (classesOnly.resolver.ask disk frame.qualifiedType []).1 =
        .known ⟨.application, some "classes/".toList⟩ ∧
      disk.find? "classes".toList = some (.directory []) ∧
      ¬ Real disk frame.qualifiedType "classes".toList := by
  intro disk
  refine ⟨⟨".etc.Foo".toList, "run".toList, some "Foo.java".toList, some 1⟩, by decide +kernel,
    by decide +kernel, rfl, ?_⟩
  intro real
  cases real with
  | listed bytes archive read opened member => cases read
  | below entries directory lies =>
      cases directory
      obtain ⟨bytes, held⟩ := lies
      have names : classNames ".etc.Foo".toList = ["etc".toList, "Foo.class".toList] := by decide
      rw [names] at held
      cases held with
      | under member inner => cases member

end ClassPath

end Origin

end FaultContext
