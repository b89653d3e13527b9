import FencedCode.CommandLine
import FencedCode.Script.Interpreter

/-!
# The program

The command line on the files, the input and the home directory of the process.
-/

namespace FencedCode.CommandLine

def decodeBytes (bytes : ByteArray) : Except FileError String :=
  match String.fromUTF8? bytes with
  | some text => .ok text
  | none => .error .notText

/-- The cause of a failure to read. -/
def causeOf : IO.Error → FileError
  | .noFileOrDirectory .. => .notFound
  | .inappropriateType _ 21 _ => .isDirectory
  | failure => .other failure.toString

/-- The text of a file. -/
def readProcessFile (path : String) : IO (Except FileError String) := do
  try
    return decodeBytes (← (← IO.FS.Handle.mk path .read).readBinToEnd)
  catch failure => return .error (causeOf failure)

/-- The process as a host. -/
def processHost : IO (Host IO) := do
  return {
    home := ← IO.getEnv "HOME"
    fileText := readProcessFile
    inputText := do return decodeBytes (← (← IO.getStdin).readBinToEnd) }

end FencedCode.CommandLine

open FencedCode CommandLine in
/-- Runs the program on the arguments of the process. -/
def main (arguments : List String) : IO UInt32 := do
  let report ← report Script.run (← processHost) arguments
  for ignored in report.warnings do
    (← IO.getStderr).putStr ("WARN " ++ ignored.message ++ "\n")
  (← IO.getStdout).putStr report.output
  (← IO.getStderr).putStr report.errors
  return report.exitCode.toUInt32
