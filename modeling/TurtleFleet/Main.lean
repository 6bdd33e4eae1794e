import TurtleFleet.Patrol.Run

/-! The command line program of the patrol. -/

open TurtleFleet

/-- Why a file cannot be read: the text and the number of the error. -/
def refusal : IO.Error → String
  | .permissionDenied _ number text | .inappropriateType _ number text =>
    s!"{text} (os error {number})"
  | error => error.toString

def fileState (path : String) : IO FileState := do
  try
    return .content (← IO.FS.readBinFile path)
  catch
    | .noFileOrDirectory .. => return .missing
    | error => return .unreadable (refusal error)

def main (arguments : List String) : IO UInt32 := do
  let path := match PatrolRequest.ofArguments {} arguments with
    | .run options => options.configPath.getD Settings.defaultFile
    | _ => Settings.defaultFile
  let file ← fileState path
  let values ← Settings.overrides.mapM fun entry => do
    return (entry.key, ← IO.getEnv entry.key)
  let environment : Environment := fun key => (values.lookup key).join
  let transcript := Patrol.run arguments environment fun _ => file
  transcript.output.forM (IO.println ·)
  transcript.errors.forM (IO.eprintln ·)
  return UInt32.ofNat transcript.code
