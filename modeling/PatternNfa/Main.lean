/-
**The program.**

Reads what the command needs, has it carried out, writes the texts and exits with the code.
-/

import PatternNfa.CommandLine.Execution

namespace PatternNfa.CommandLine

/-- The system's reason and its number. -/
def SystemError.ofError : IO.Error → SystemError
  | .noFileOrDirectory _ code details => ⟨details, code.toNat⟩
  | .permissionDenied _ code details => ⟨details, code.toNat⟩
  | .inappropriateType _ code details => ⟨details, code.toNat⟩
  | .invalidArgument _ code details => ⟨details, code.toNat⟩
  | .resourceExhausted _ code details => ⟨details, code.toNat⟩
  | .hardwareFault code details => ⟨details, code.toNat⟩
  | .otherError code details => ⟨details, code.toNat⟩
  | error => ⟨toString error, 0⟩

/-- Reads a stream to its end. -/
partial def readAll (stream : IO.FS.Stream) (bytes : ByteArray) : IO ByteArray := do
  let chunk ← stream.read 65536
  if chunk.isEmpty then
    return bytes
  else
    readAll stream (bytes ++ chunk)

/-- Reads a file, or tells which part of that fails. -/
def readFile (name : String) : IO (Except FileFault ByteArray) := do
  match ← (IO.FS.Handle.mk name .read).toBaseIO with
  | .error error => return .error (.opening (.ofError error))
  | .ok handle =>
    match ← handle.readBinToEnd.toBaseIO with
    | .error error => return .error (.reading (.ofError error))
    | .ok bytes => return .ok bytes

/-- Reads the standard input if the command does, and its files. -/
def gather (command : Command) : IO Sources := do
  let files ← command.files.mapM fun name => return (name, ← readFile name)
  let input ←
    if files.isEmpty then
      (do readAll (← IO.getStdin) .empty : IO ByteArray).toBaseIO
    else
      pure (.ok .empty)
  return {
    file := fun name => (files.lookup name).getD (.error (.opening .notFound))
    input := input.mapError .ofError }

end PatternNfa.CommandLine

open PatternNfa.CommandLine in
/-- Runs the program. -/
def main (arguments : List String) : IO UInt32 := do
  let outcome ← match parse arguments with
    | .error notice => pure notice.outcome
    | .ok command => pure (command.execute .wraps (← gather command))
  (← IO.getStdout).putStr outcome.output
  (← IO.getStderr).putStr outcome.errors
  return outcome.code
