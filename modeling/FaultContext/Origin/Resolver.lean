import FaultContext.Failure
import FaultContext.Files.Archive
import FaultContext.Files.Disk
import FaultContext.Origin.Verdict

/-!
# Resolvers

Someone who may know where a type comes from. A resolver can remember things between questions, look
at the disk, not know, fail, or break off the whole work on a span; who asks must be ready for all of
that.

A class path is one of them. A type comes from the first entry that holds its class file: below an entry
that is a directory, or listed in an entry that is an archive. The listing of an archive is read once and
kept, whatever happens to the file afterwards; a file that is no archive is tried again every time.
-/

namespace FaultContext.Origin

set_option autoImplicit false

open Files (Disk Path Archive)

inductive Answer where
  | known (origin : TypeOrigin)
  | unknown (error : ResolveError)
  | abort (reason : Text)
deriving DecidableEq, Repr

/-- A resolver with a memory of type `σ`. -/
structure Resolver (σ : Type) where
  ask : Files.Disk → Text → σ → Answer × σ

def Resolver.ofFunction (answer : Text → Answer) : Resolver Unit where
  ask := fun _ name memory => (answer name, memory)

def Resolver.ignorant : Resolver Unit := .ofFunction fun name => .unknown (.notFound name)

/-! ## Class paths -/

/-- An entry of a class path and the loader that owns it. -/
structure ClassPathEntry where
  path : Path
  loader : Loader
deriving DecidableEq, Repr

/-- The entries in the order in which they are searched. -/
structure ClassPath where
  entries : List ClassPathEntry
deriving DecidableEq, Repr

/-- The listings read so far, by the components of the path of the archive. -/
abbrev Listings := List (List Path.Component × List Text)

def classFile (name : Text) : Path := Text.replace '.' '/' name ++ ".class".toList

namespace ClassPath

/-- The entries of the platform come before those of the application. -/
def ofEntries (application platform : List Path) : ClassPath where
  entries := platform.map (⟨·, .platform⟩) ++ application.map (⟨·, .application⟩)

/-- The names in the archive at a path, from the listings or else from the disk. -/
def listing (disk : Disk) (path : Path) (listings : Listings) : Option (List Text) × Listings :=
  match listings.lookup (Path.components path) with
  | some names => (some names, listings)
  | none =>
      match (disk.bytes? path).bind Archive.ofBytes? with
      | some archive => (some archive.names, (Path.components path, archive.names) :: listings)
      | none => (none, listings)

/-- The location to report if the entry at a path holds the class file. That of a directory ends with
a slash. -/
def locationIn (disk : Disk) (path file : Path) (listings : Listings) : Option Text × Listings :=
  if disk.isDirectory path then
    (if disk.isFile (Path.join path file) then some (path ++ ['/']) else none, listings)
  else if disk.isFile path then
    match listing disk path listings with
    | (some names, listings) => (if names.contains file then some path else none, listings)
    | (none, listings) => (none, listings)
  else (none, listings)

def search (disk : Disk) (file : Path) :
    List ClassPathEntry → Listings → Option TypeOrigin × Listings
  | [], listings => (none, listings)
  | entry :: entries, listings =>
      match locationIn disk entry.path file listings with
      | (some location, listings) => (some ⟨entry.loader, some location⟩, listings)
      | (none, listings) => search disk file entries listings

def resolver (classPath : ClassPath) : Resolver Listings where
  ask := fun disk name listings =>
    match search disk (classFile name) classPath.entries listings with
    | (some origin, listings) => (.known origin, listings)
    | (none, listings) => (.unknown (.notFound name), listings)

end ClassPath

end FaultContext.Origin
