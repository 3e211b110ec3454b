import FaultContext.CommandLine.Run

/-!
# The program

The layer that touches the world: it reads the environment and the places that a command can look at,
runs the command on what it has read, and prints the outcome.
-/

namespace FaultContext

set_option autoImplicit false

open CommandLine (Command Place Request Variables World)
open Files (Disk Node Path)

def readVariables : IO Variables := do
  let found ← CommandLine.variableNames.mapM fun name => do
    return (← IO.getEnv (String.ofList name)).map fun value => (name, value.toList)
  return found.filterMap id

partial def readRest (stream : IO.FS.Stream) (gathered : ByteArray) : IO ByteArray := do
  let chunk ← stream.read 65536
  if chunk.isEmpty then return gathered
  readRest stream (gathered ++ chunk)

/-- What stands at a place. Of the files below a directory only those with the right ending are kept,
and links there are passed over. -/
partial def readNode (place : String) (below : Option Text) : IO Node := do
  let path ← IO.FS.realPath place
  if ← path.isDir then
    let some ending := below | return .directory []
    let mut entries := #[]
    for entry in ← path.readDir do
      let name := entry.fileName.toList
      let keep :=
        match (← entry.path.symlinkMetadata).type with
        | .dir => true
        | .file => ending.isSuffixOf name
        | _ => false
      if keep then entries := entries.push (name, ← readNode entry.path.toString below)
    return .directory entries.toList
  else return .file (← IO.FS.readBinFile path)

/-- Adds what stands at a place to a disk, with the directories that the path goes through. What
cannot be read is left out. -/
partial def readPlace (disk : Disk) (place : Place) : IO Disk := do
  let absolute := disk.absolute place.path
  let disk ←
    match Path.parent? absolute with
    | some parent => if disk.has parent then pure disk else readPlace disk { path := parent }
    | none => pure disk
  try
    return disk.write absolute (← readNode (String.ofList absolute) place.below)
  catch _ => return disk

def perform (environment : Variables) (invocation : CommandLine.Invocation) :
    IO (Except CommandLine.Failure CommandLine.Output) := do
  let here ← IO.currentDir
  let bare : World := ⟨environment, ⟨.directory [], here.toString.toList⟩, .empty, .addressable⟩
  let first ← (bare.firstPlaces invocation).foldlM readPlace bare.disk
  let world := { bare with disk := first }
  let disk ←
    match world.settings invocation with
    | .ok settings => (CommandLine.placesOf settings).foldlM readPlace first
    | .error _ => pure first
  let input ←
    if invocation.command.readsStandardInput then readRest (← IO.getStdin) .empty else pure .empty
  return CommandLine.run { world with disk := disk, standardInput := input } invocation

def complain (text : Text) : IO Unit := do (← IO.getStderr).putStr (String.ofList text)

/-- Answers a command line: zero for success, one for a failed command, two for one that makes no sense,
and a hundred and one for a command that is broken off. -/
def serve (arguments : List Text) : IO UInt32 := do
  let environment ← readVariables
  match Request.parse environment arguments with
  | .error error =>
      complain (CommandLine.line ["error: ".toList, error.message])
      return 2
  | .ok .version =>
      IO.print (String.ofList CommandLine.versionLine)
      return 0
  | .ok (.run invocation) =>
      match ← perform environment invocation with
      | .ok output =>
          IO.print (String.ofList output.standard)
          complain output.diagnostics
          return 0
      | .error (.aborted reason) =>
          complain (CommandLine.line [reason])
          return 101
      | .error failure =>
          complain (CommandLine.line ["Error: ".toList, failure.message])
          return 1

end FaultContext

/-- Attaches the source of failing functions to exception spans. -/
def main (arguments : List String) : IO UInt32 := FaultContext.serve (arguments.map String.toList)
