import LineShell.CommandLine
import LineShell.Sandbox

/-!
The shell as an executable. It works on a copy of the working directory that is taken at the start:
files that begin with `#!` are scripts it can run, and nothing is written back. It shows no log.
-/

namespace LineShell.Main

/-- How deep the working directory is copied. -/
def copyDepth : Nat := 8

/-- The entries at and below `e`, whose directory has the path `dir`. -/
def copyEntry (dir : String) (e : IO.FS.DirEntry) : Nat → IO (List (String × Sandbox.Entry))
  | 0 => return []
  | depth + 1 => do
    let path := Lookup.join dir e.fileName
    if ← e.path.isDir then
      let inner ← (← e.path.readDir).toList.mapM (copyEntry path · depth)
      return (path, .directory) :: inner.flatten
    else
      try
        let content := (← IO.FS.readBinFile e.path).toList
        return [(path, .file content (Sandbox.interpreter? content).isSome)]
      catch _ => return []

/-- The copy of the working directory. -/
def copyWorld : IO Sandbox := do
  let here ← IO.currentDir
  let entries ← (← here.readDir).toList.mapM (copyEntry "" · copyDepth)
  let searchPath := (← IO.getEnv "PATH").getD ""
  return .ofEntries (Lookup.components here.toString) searchPath entries.flatten

/-- All bytes of a stream. -/
partial def readAll (stream : IO.FS.Stream) (read : ByteArray) : IO ByteArray := do
  let more ← stream.read 65536
  if more.isEmpty then return read else readAll stream (read ++ more)

end LineShell.Main

open LineShell in
def main (args : List String) : IO UInt32 := do
  let world ← Main.copyWorld
  let input ← Main.readAll (← IO.getStdin) .empty
  let done := CommandLine.run world false args input.toList
  (← IO.getStdout).putStr done.output
  (← IO.getStderr).write (ByteArray.mk done.errors.toArray)
  return done.status.toUInt32
