import Lexigram.CommandLine

/-!
# The program

The files that a run may read are read first, and so is the standard input if it is the text.
Everything else is `CommandLine.run`.
-/

open Lexigram

/-- Reads a file, unless it cannot be read. It is kept under its path as it is written. -/
def readEntry (path : String) : IO (Option (List String × ByteArray)) := do
  try
    return some (path.splitOn "/", ← IO.FS.readBinFile path)
  catch _ =>
    return none

/-- Reads files until those at hand ask for no others. -/
partial def gather (a : CommandLine.Arguments) (fs : Files) (tried : List String) : IO Files := do
  let paths := ((CommandLine.wanted fs a).filter fun path => !tried.contains path).eraseDups
  if paths.isEmpty then return fs
  let entries ← paths.filterMapM readEntry
  gather a ⟨fs.entries ++ entries⟩ (tried ++ paths)

/-- Reads what is left of a stream. -/
partial def readAll (input : IO.FS.Stream) (bytes : ByteArray) : IO ByteArray := do
  let chunk ← input.read 4096
  if chunk.isEmpty then return bytes
  readAll input (bytes ++ chunk)

def main (args : List String) : IO UInt32 := do
  let (fs, stdin) ←
    match CommandLine.Request.ofArgs? args with
    | some (.process a) => do
      let fs ← gather a ⟨[]⟩ []
      let stdin ← if a.input.isSome then pure .empty else readAll (← IO.getStdin) .empty
      pure (fs, stdin)
    | _ => pure (⟨[]⟩, .empty)
  let o := CommandLine.run fs (← IO.getEnv "RUST_LOG") stdin args
  (← IO.getStdout).putStr o.out
  (← IO.getStderr).putStr o.err
  return UInt32.ofNat o.code
