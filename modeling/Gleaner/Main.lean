import Gleaner.CommandLine.Run

/-!
# The program

The outer layer: it reads the files and the standard input of a command line, and prints.
-/

namespace Gleaner

/-- The text of a file, if it holds one, where there is a file. -/
def readFile? (path : String) : IO (Option (Option String)) := do
  try
    return some (String.fromUTF8? (← IO.FS.readBinFile path))
  catch
    | .permissionDenied .. => return some none
    | _ => return none

/-- All that is left on a stream, after what was read before. -/
partial def readAll (stream : IO.FS.Stream) (read : ByteArray) : IO ByteArray := do
  let bytes ← stream.read 65536
  if bytes.isEmpty then return read else readAll stream (read ++ bytes)

/-- The texts of the files at some paths. -/
def readFiles (paths : List String) : IO (List (String × Option String)) := do
  let mut files := []
  for path in paths do
    if let some text? ← readFile? path then
      files := (path, text?) :: files
  return files

end Gleaner

open Gleaner in
/-- The program. -/
def main (args : List String) : IO UInt32 := do
  let home := (← IO.getEnv "HOME").filter (!·.isEmpty)
  let files ← readFiles (CommandLine.readable args home)
  let bytes ← if CommandLine.readsInput args then readAll (← IO.getStdin) .empty else pure .empty
  let world : CommandLine.World :=
    { home
      read := fun path => (files.lookup path).join
      isFile := fun path => (files.lookup path).isSome
      input := String.fromUTF8? bytes }
  let outcome := CommandLine.output args world
  IO.print (CommandLine.standardOutput outcome)
  if let .error e := outcome then
    IO.eprintln e.report
  return CommandLine.exitCode outcome
