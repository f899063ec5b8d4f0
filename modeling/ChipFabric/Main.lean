/-
The program: its arguments and the configuration file they name go in, and
the answer comes out on the two output streams.
-/
import ChipFabric.Command.Run

open ChipFabric

/-- The content of a file, if it can be read. -/
def ChipFabric.Command.contentOf (path : String) : IO (Option ByteArray) := do
  match ← (IO.FS.readBinFile path).toBaseIO with
  | .ok bytes => return some bytes
  | .error _ => return none

/-- Reads the file that the command line names, if it names one, and
answers. -/
def main (args : List String) : IO UInt32 := do
  let path := (Command.invocation? args).bind (·.options.config)
  let content ← match path with
    | some path => Command.contentOf path
    | none => pure none
  let answer := Command.answer args fun asked => if some asked = path
    then content else none
  (← IO.getStdout).putStr answer.output
  (← IO.getStderr).putStr answer.errors
  return answer.status.toUInt32
