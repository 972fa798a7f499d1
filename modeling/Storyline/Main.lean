import Storyline.CommandLine

/-!
# The program

Reads what the command line names and prints the report on it.
-/

open Storyline

namespace Storyline.Program

/-- The octets of a file, if it can be read. -/
def octetsOf? (path : String) : IO (Option (List Nat)) := do
  try
    return some ((← IO.FS.readBinFile path).toList.map (·.toNat))
  catch _ => return none

/-- What is found at the path of a pack. -/
def sourceOf (path : String) : IO Content.Source := do
  return (← octetsOf? path).elim .missing .octets

/-- The file of variables. -/
def variableFile : IO String := do
  let octets := (← octetsOf? ".env").getD []
  return String.ofList ((Text.Utf8.decodeStrict? octets).getD [])

/-- The variables with some names. -/
def variablesOf (names : List String) : IO (Table String) := do
  let mut env : Table String := ∅
  for name in names do
    if let some value ← IO.getEnv name then env := env.insert name value
  return env

/-- A disk together with what is found at a path. -/
def look (d : Storage.Disk) (r : Storage.Route) : IO Storage.Disk := do
  let path := (← IO.currentDir) / r.written
  if ← path.isDir then return d.put r.names .directory
  if ← path.pathExists then
    return d.put r.names (.octets ((← octetsOf? r.written).getD []))
  return d

/-- The part of the disk that a folder of saves is on. -/
def diskOf (f : Storage.Folder) : IO Storage.Disk := do
  let saves := f.dir .save
  let mut d := Storage.Disk.empty
  for count in List.range (saves.names.length + 1) do
    if 0 < count then d ← look d ⟨saves.start, saves.names.take count⟩
  let path := (← IO.currentDir) / saves.written
  if ← path.isDir then
    for entry in ← path.readDir do
      d ← look d (saves.below [entry.fileName])
  return d

/-- The report on the saves of a configuration.  No service is asked from here. -/
def savesOf (c : Config) : IO CommandLine.Report := do
  match c.home with
  | .service _ => return CommandLine.failure ("storage unavailable (" ++ c.home.name ++ ")")
  | .folder f =>
    match (CommandLine.savesReport c.home.name ⟨f.backend, 1⟩).run (← diskOf f) with
    | (.ok report, _) =>
      if report.exit = 0 then IO.FS.createDirAll f.root.written
      return report
    | (.error _, _) => return CommandLine.failure "a stored save is not text"

/-- The report on what the arguments ask for. -/
def reportOf (arguments : List String) : IO CommandLine.Report := do
  match CommandLine.Options.read arguments with
  | .error f => return CommandLine.failure f.message
  | .ok options =>
    match options.pack with
    | some path =>
      match CommandLine.checkReport path (← sourceOf path) with
      | .ok report => return report
      | .error _ => return CommandLine.failure "the content pack is not text"
    | none =>
      if ! options.saves then return CommandLine.usage
      let file ← variableFile
      let env ← variablesOf (Config.variableNames.map (·.2) ++ EnvFile.mentioned file)
      match Config.load env file [] with
      | .good c => savesOf c
      | .bad _ => return CommandLine.failure "the configuration is not valid"

end Storyline.Program

/-- Print the report on what the arguments ask for. -/
def main (arguments : List String) : IO UInt32 := do
  let report ← Program.reportOf arguments
  (← IO.getStdout).putStr report.out
  (← IO.getStderr).putStr report.err
  return report.exit.toUInt32
