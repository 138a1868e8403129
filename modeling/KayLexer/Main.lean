import KayLexer.Command

/-!
The command line: the settings file and the file named by the one argument are read, and the run is
carried out on them. Of settings files only plain lines are understood, without quotes, and without
comments behind a value.
-/

namespace KayLexer.Main

/-- The failure that stands for a failed read of the file. -/
def systemError : IO.Error → OsError
  | .noFileOrDirectory _ code details => .numbered code.toNat details
  | .invalidArgument _ code details => .numbered code.toNat details
  | .permissionDenied _ code details => .numbered code.toNat details
  | .inappropriateType _ code details => .numbered code.toNat details
  | .resourceExhausted _ code details => .numbered code.toNat details
  | e => .plain (toString e)

/-- What the reads of a file yield. -/
def readSourceFile (path : SourcePath) : IO (Except OsError (List StreamEvent)) := do
  try
    return .ok ((← IO.FS.readBinFile path.render).toList.map .byte)
  catch e =>
    return .error (systemError e)

/-- The variables that the settings are taken from. -/
def settingsEnvironment : IO Environment := do
  let encoding ← IO.getEnv Settings.encodingKey
  let threshold ← IO.getEnv Settings.thresholdKey
  return (Environment.empty.set Settings.encodingKey encoding).set Settings.thresholdKey threshold

/-- The variable that a line of a settings file sets, and its value. -/
def setting? (line : String) : Option (String × String) :=
  match line.splitOn "=" with
  | name :: value :: values =>
    if name.startsWith "#" then none
    else some (Text.trim name, Text.trim ("=".intercalate (value :: values)))
  | _ => none

/-- What the settings file of the working directory says. No file says nothing. -/
def readSettingsFile : IO (List (String × String)) := do
  try
    return (← IO.FS.lines ".env").toList.filterMap setting?
  catch _ =>
    return []

/-- The run of the command on the system as it is. A run that is refused reads no source file. -/
def run (args : List String) : IO CommandRun := do
  match args with
  | [path] =>
    let env ← settingsEnvironment
    let settingsFile ← readSettingsFile
    let events ← match Settings.ofEnvironment (env.load settingsFile) with
      | .ok _ => readSourceFile (.ofString path)
      | .error _ => pure (.error .noSuchFile)
    return runCommand args env settingsFile fun _ => events
  | _ => return runCommand args .empty [] fun _ => .error .noSuchFile

end KayLexer.Main

open KayLexer KayLexer.Main in
/-- Prints the tokens of the file that the one argument names. -/
def main (args : List String) : IO UInt32 := do
  let run ← Main.run args
  IO.print run.output
  IO.eprint run.errors
  match run.exit with
  | .ok code => return code.toUInt32
  | .error fault =>
    IO.eprintln fault.message
    return 1
