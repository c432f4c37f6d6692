import TypedClient.CommandLine.Run

/-!
# The program

Reads and writes the files of the command line.
-/

namespace TypedClient

/-- The fault that the system reports by a number. -/
def faultOfCode (code : UInt32) (e : IO.Error) : FileFault :=
  if code = 20 then .notDirectory
  else if code = 21 then .directory
  else if code = 36 then .nameTooLong
  else .other (toString e)

def fileFault (e : IO.Error) : FileFault :=
  match e with
  | .noFileOrDirectory .. => .missing
  | .inappropriateType _ code _ => faultOfCode code e
  | .invalidArgument _ code _ => faultOfCode code e
  | _ => .other (toString e)

/-- The files of the machine. Schemas cannot be fetched: there is no client for HTTP. -/
def machine : Surroundings IO where
  read path := do
    match ← (IO.FS.readBinFile path).toBaseIO with
    | .error e => return .error (fileFault e)
    | .ok bytes =>
      match String.fromUTF8? bytes with
      | some text => return .ok text
      | none => return .error .notText
  write path text := do
    match ← (IO.FS.writeFile path text).toBaseIO with
    | .error e => return .error (fileFault e)
    | .ok () => return .ok ()
  fetch url _ := return .error ("error sending request for url (" ++ url ++ ")")

end TypedClient

def main (args : List String) : IO UInt32 := do
  let report ← TypedClient.Command.run TypedClient.machine args
  (← IO.getStdout).putStr report.output
  (← IO.getStderr).putStr report.errors
  return report.status.toUInt32
