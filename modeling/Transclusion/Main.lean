import Transclusion.Command.Run

/-! The program: a command line carried out on the files below the working directory. -/

namespace Transclusion

/-- The file or the files of a directory entry, at its place. Links to directories are not
followed. -/
partial def collect (place : List Text) (entry : IO.FS.DirEntry) :
    IO (List (List Text × FileNode)) := do
  let place := place ++ [entry.fileName.toList]
  match (← entry.path.symlinkMetadata).type with
  | .dir =>
      let inner ← (← entry.path.readDir).toList.mapM (collect place)
      return (place, .directory) :: inner.flatten
  | _ =>
      try
        let content ← IO.FS.readBinFile entry.path
        return [(place, .file content.toList)]
      catch _ => return []

def workingFiles : IO FileTree := do
  let directory ← IO.currentDir
  let home := (Text.split '/' directory.toString.toList).filter (!Path.isIdle ·)
  return ⟨home, (← (← directory.readDir).toList.mapM (collect home)).flatten⟩

def isSwitchedOn (name : String) : IO Bool := do
  return (← IO.getEnv name).any (· != "0")

def isColoured : IO Bool := do
  if ← isSwitchedOn "CLICOLOR_FORCE" then return true
  if (← IO.getEnv "NO_COLOR").isSome then return false
  if (← IO.getEnv "CLICOLOR").any (· == "0") then return false
  (← IO.getStdout).isTty

/-- Of what is wrong with a text, this program tells no more than what it should have been. -/
def wording : Wording := fun format _ =>
  match format with
  | .json => "no JSON".toList
  | .settings => "no settings".toList
  | .sharedData => "no shared data".toList
  | .pattern => "no regular expression".toList

def usage : String :=
  "Usage: transclude <render|inspect|serve|--version> [options]"

end Transclusion

open Transclusion in
def main (arguments : List String) : IO UInt32 := do
  match Command.ofArguments? (arguments.map String.toList) with
  | none =>
      IO.eprintln usage
      return 2
  | some command =>
      let outcome := Command.run wording (← isColoured) (← workingFiles) command
      IO.print (String.ofList outcome.output)
      IO.eprint (String.ofList outcome.errors)
      return outcome.exitCode.toUInt32
