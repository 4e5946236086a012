import BackendPolicy.Command.Run

/-!
This module contains the program: it runs a command on the files of the machine, writes what the command
says and ends with its code.
-/

namespace BackendPolicy.Command

def faultOfError : IO.Error → FileFault
  | .noFileOrDirectory .. => .notFound
  | .inappropriateType _ code _ => if code = 21 then .isADirectory else .notADirectory
  | e => .other (toString e)

def isPlainFile (path : String) : IO Bool := do
  return (← (System.mkFilePath [path]).symlinkMetadata).type == .file

def plainFiles (path : String) : IO (List String) := do
  let place := System.mkFilePath [path]
  if (← place.metadata).type == .dir then
    let names := (← place.readDir).toList.map fun entry => entry.fileName
    names.filterM fun name => isPlainFile (Path.join path name)
  else
    return []

def withFault (action : IO α) : IO (Except FileFault α) := do
  try
    return .ok (← action)
  catch e =>
    return .error (faultOfError e)

def machineFiles : FileAccess IO where
  readText path := do
    match ← withFault (IO.FS.readBinFile (System.mkFilePath [path])) with
    | .ok bytes => return textOfBytes bytes
    | .error fault => return .error fault
  listFiles path := withFault (plainFiles path)

/--
Whether reports are coloured: if it is forced, or on a terminal where it is not switched off.
-/
def wantsColour : IO Bool := do
  if ((← IO.getEnv "FORCE_COLOR").map forcesColour).getD false then
    return true
  else if (← IO.getEnv "NO_COLOR").isSome || (← IO.getEnv "TERM") == some "dumb" then
    return false
  else
    (← IO.getStdout).isTty

end BackendPolicy.Command

open BackendPolicy.Command in
def main (arguments : List String) : IO UInt32 := do
  let outcome ← run machineFiles (← wantsColour) arguments
  IO.print outcome.output
  IO.eprint outcome.errors
  return outcome.code.toUInt32
