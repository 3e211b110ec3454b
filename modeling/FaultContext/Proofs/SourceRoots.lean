import FaultContext.Proofs.ArchiveMembers
import FaultContext.Proofs.DirectoryWalk

/-!
# The source among the roots of a project

The roots are searched one after the other, each at the place of the package and then by a walk. So a
file at its place is read before any other below its own root, and loses to a namesake below a root
that comes earlier, unless an exclude takes that one away.
-/

namespace FaultContext

set_option autoImplicit false

theorem Text.mem_of_mem_split (mark c : Char) (text piece : Text) (member : piece ∈ Text.split mark text)
    (inside : c ∈ piece) : c ∈ text := by
  induction text generalizing piece with
  | nil =>
      rw [List.mem_singleton.1 member] at inside
      cases inside
  | cons d rest ih =>
      rw [split] at member
      split_ifs at member
      · rcases List.mem_cons.1 member with rfl | further
        · cases inside
        · exact List.mem_cons_of_mem d (ih piece further inside)
      · cases pieces : split mark rest with
        | nil => exact absurd pieces (split_ne_nil mark rest)
        | cons next others =>
            rw [pieces] at member ih
            rcases List.mem_cons.1 member with rfl | further
            · rcases List.mem_cons.1 inside with rfl | later
              · exact List.mem_cons_self ..
              · exact List.mem_cons_of_mem d (ih next (List.mem_cons_self ..) later)
            · exact List.mem_cons_of_mem d (ih piece (List.mem_cons_of_mem next further) inside)

namespace Files.Path

theorem is_inside_iff (path : Path) :
    isInside path = true ↔ ∀ component ∈ components path, ∃ name, component = .child name := by
  rw [isInside, List.all_eq_true]
  apply forall₂_congr
  intro component _
  cases component <;> simp

end Files.Path

namespace Lookup

open Files (Disk Node Path Found)

/-- The root is a directory, and the place leads from it to a file with these bytes. -/
structure HoldsAt (disk : Disk) (root place : Path) (bytes : ByteArray) : Prop where
  directory : disk.isDirectory root = true
  relative : Path.isAbsolute place = false
  file : disk.bytes? (Path.join root place) = some bytes

/-- The root has some file at the place. -/
def Exact (disk : Disk) (place root : Path) : Prop := ∃ bytes, HoldsAt disk root place bytes

section OneRoot

variable {places : Places} {disk : Disk} {qualifiedType fileName : Text} {root package : Path}

end OneRoot

end Lookup

end FaultContext
