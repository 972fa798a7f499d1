import Storyline.Config
import Storyline.Content.File
import Storyline.Content.Problem

/-!
# The command line

Two jobs for those who look after a game: checking a content pack for references that
lead nowhere, and listing the saves of an installation.

- `Options`: what is asked for; `Options.read`: the options among arguments;
- `Report`: what is printed, and the exit code;
- `checkReport`: a pack checked;
- `savesReport`: the saves listed.

An option may be shortened to any start of its name.  Where both jobs are asked for,
the pack is checked.
-/

namespace Storyline.CommandLine

open Storage

/-- What is asked for. -/
structure Options where
  pack : Option String
  saves : Bool
  debug : Bool
  help : Bool
  deriving DecidableEq, Repr

/-- The options when nothing is asked for. -/
def Options.none : Options := ⟨Option.none, false, false, false⟩

/-- Why arguments are no options. -/
inductive UsageFault where
  | argumentMissing (option : String)
  | argumentNeedless (option argument : String)
  | unrecognized (word : String)
  deriving DecidableEq, Repr

/-- The wording of a fault of usage. -/
def UsageFault.message : UsageFault → String
  | .argumentMissing option => "argument " ++ option ++ ": expected one argument"
  | .argumentNeedless option argument =>
    "argument " ++ option ++ ": ignored explicit argument " ++ Text.quote argument
  | .unrecognized word => "unrecognized arguments: " ++ word

/-- The options by name. -/
def optionNames : List String := ["--check", "--saves", "--debug", "--help"]

/-- The option that a word is a start of. -/
def optionOf? (word : String) : Option String :=
  if 2 < word.length then optionNames.find? fun name => word.toList.isPrefixOf name.toList
  else if word = "-h" then some "--help"
  else none

/-- A number below zero, which is no option. -/
def isNegativeNumber (word : List Char) : Bool :=
  match word with
  | '-' :: cs =>
    let (whole, rest) := Decimal.splitDigits cs
    match rest with
    | [] => ! whole.isEmpty
    | '.' :: fraction => ! fraction.isEmpty && fraction.all Decimal.isDigit
    | _ => false
  | _ => false

/-- A word that can be the argument of an option. -/
def isArgument (word : String) : Bool :=
  match word.toList with
  | [] | ['-'] => true
  | '-' :: _ =>
    isNegativeNumber word.toList
      || (word.toList.contains ' ' && (optionOf? (word.takeWhile (· != '=')).toString).isNone)
  | _ => true

/-- A word taken apart at its first equals sign. -/
def splitWord (word : String) : String × Option String :=
  let name := word.toList.takeWhile (· != '=')
  (String.ofList name,
    if name.length < word.length then some (String.ofList (word.toList.drop (name.length + 1)))
    else none)

/-- An option without argument. -/
def switchOn (option : String) (o : Options) : Options :=
  match option with
  | "--saves" => { o with saves := true }
  | "--debug" => { o with debug := true }
  | _ => { o with help := true }

/-- The options among arguments, added to those before. -/
def readFrom (o : Options) : List String → Except UsageFault Options
  | [] => .ok o
  | word :: words =>
    let (name, inline) := splitWord word
    match optionOf? name, inline with
    | Option.none, _ => .error (.unrecognized word)
    | some "--check", some pack => readFrom { o with pack := some pack } words
    | some "--check", Option.none =>
      match words with
      | pack :: words =>
        if isArgument pack then readFrom { o with pack := some pack } words
        else .error (.argumentMissing "--check")
      | [] => .error (.argumentMissing "--check")
    | some option, some argument => .error (.argumentNeedless option argument)
    | some option, Option.none => readFrom (switchOn option o) words

/-- The options among arguments. -/
def Options.read (arguments : List String) : Except UsageFault Options :=
  readFrom Options.none arguments

/-- What is printed, and the exit code. -/
structure Report where
  exit : Nat
  out : String
  err : String
  deriving DecidableEq, Repr

/-- Lines of text. -/
def lines (ls : List String) : String := String.join (ls.map (· ++ "\n"))

/-- The report of a job that could not be done. -/
def failure (message : String) : Report := ⟨2, "", lines ["error: " ++ message]⟩

/-- The report on the use of options. -/
def usage : Report :=
  ⟨0, lines ["usage: storyline [-h] [--check PACK] [--saves] [--debug]"], ""⟩

/-- How many scenes, scripts and problems a pack has. -/
def countLine (index : Content.Index) : String :=
  Decimal.renderInt index.scenes.entries.length ++ " scenes, "
    ++ Decimal.renderInt index.scripts.entries.length ++ " scripts, "
    ++ Decimal.renderInt index.problems.length ++ " problems"

/-- The report on a pack. -/
def packReport (index : Content.Index) : Report :=
  ⟨if index.problems.isEmpty then 0 else 1,
    lines (index.problems.map (·.message) ++ [countLine index]), ""⟩

/-- The report on the pack in a file. -/
def checkReport (path : String) (source : Content.Source) : Except Content.LoadFault Report :=
  match Content.Index.load (Route.read path).written source with
  | .ok index => .ok (packReport index)
  | .error f =>
    match f.message? with
    | some message => .ok (failure message)
    | Option.none => .error f

/-- A save in one line. -/
def saveLine (s : Save) : String :=
  "  ".intercalate [s.id, s.player.name, s.currentPhase.name, s.updatedAt]

/-- The report on saves. -/
def listReport (saves : List Save) : Report :=
  ⟨0, lines (saves.map saveLine ++ [Decimal.renderInt saves.length ++ " saves"]), ""⟩

/-- The saves of a storage, or the fault in the way to them. -/
def listSaves {σ : Type} (store : Store σ) : Act σ (Except Fault (List Save)) := fun s =>
  match store.getAllSaves s with
  | (.ok saves, s) => (.ok (.ok saves), s)
  | (.error (.fault f), s) => (.ok (.error f), s)
  | (.error e, s) => (.error e, s)

/-- The report on the saves of an installation. -/
def savesReport {σ : Type} (home : String) (store : Store σ) : Act σ Report := do
  if ← store.isAvailable then
    match ← listSaves store with
    | .ok saves => return listReport saves
    | .error f => return failure f.message
  else return failure ("storage unavailable (" ++ home ++ ")")

/-- A pack without problems is reported by the exit code zero, any other one by one. -/
theorem exit_packReport (index : Content.Index) :
    (packReport index).exit = if index.problems = [] then 0 else 1 := by
  simp only [packReport, List.isEmpty_iff]

end Storyline.CommandLine
