import KeyRelay.Cli.Run
/-!
# The program

What is left to do outside: read the environment and the configuration file, print, and exit. No
exchange with a server is built in; a command on a key finds the server out of reach.
-/

namespace KeyRelay.Cli

/-- The reason for which a file could not be read. -/
def readingFault : IO.Error → String
  | .noFileOrDirectory .. => "No such file or directory (os error 2)"
  | .permissionDenied .. => "Permission denied (os error 13)"
  | .inappropriateType .. => "Is a directory (os error 21)"
  | e => toString e

def readBytes (path : String) : IO (Except String Bytes) := do
  try
    return .ok (← IO.FS.readBinFile path).data.toList
  catch e =>
    return .error (readingFault e)

end KeyRelay.Cli

open KeyRelay Cli in
/-- Runs the program on the words of its command line. -/
def main (words : List String) : IO UInt32 := do
  let config ← IO.getEnv configVariable
  let url ← IO.getEnv urlVariable
  let environment := fun name =>
    if name = configVariable then config else if name = urlVariable then url else none
  let output ← run environment readBytes Remote.Exchange.unreachable words
  IO.print output.stdout
  IO.eprint output.stderr
  return output.code.toUInt32
