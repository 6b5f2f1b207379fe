import TextSieve.CommandLine.Arguments
import TextSieve.Json.Options
import TextSieve.Json.Report

/-!
Carrying out a command. The config file is read first, then the query, and the input last, so of
several faults the earliest is reported. Where texts come from is left to a `Source`.
-/

namespace TextSieve.CommandLine

/-- Why a file or the input stream gives no text. -/
inductive ReadFault
  | missing
  /-- Its bytes are not text in UTF-8. -/
  | notText
  | described (text : Text)
deriving DecidableEq, Repr

def ReadFault.message : ReadFault → Text
  | missing => "No such file or directory (os error 2)".toList
  | notText => "stream did not contain valid UTF-8".toList
  | described text => text

/-- What a command asks of its surroundings. -/
structure Source (m : Type → Type) where
  file : Text → m (Except ReadFault Text)
  /-- All of the input stream. -/
  input : m (Except ReadFault Text)
  /-- A clock. -/
  milliseconds : m Nat
  /-- How the work on lines is shared out if they are looked at side by side. -/
  schedule : Schedule := .inTurn

/-- What a command writes, and whether anything was found. -/
structure Output where
  text : Text
  success : Bool
deriving DecidableEq, Repr

namespace Invocation

def write (i : Invocation) (r : Report) : Text :=
  match i.format with
  | .human => r.human i.verbosity
  | .json => (if i.pretty then r.toJson.pretty 0 else r.toJson.compact) ++ ['\n']

def output (i : Invocation) (r : Report) : Output :=
  ⟨i.write r, r.success⟩

/-! ### From the arguments to a report -/

/-- The options of the config file, or those of the program, under what the arguments change. -/
def effectiveOptions (i : Invocation) (config : Option Text) : Except Error Options := do
  let base ← match config with
    | none => pure {}
    | some text => match Options.ofText? text with
      | some o => pure o
      | none => throw Error.json
  return base.merge (← i.options.toOverride)

/-- The session that the command works in. Its query must not be empty. -/
def session (i : Invocation) (config : Option Text) : Except Error Session := do
  let s ← Session.start (← i.effectiveOptions config)
  match s.parse i.command.query with
  | (.ok (), s) => return s
  | (.error e, _) => throw e

end Invocation

/-- What a command finds. Of the commands only `filter` looks at the input. Lines are looked at side by
side on one cache, each by itself; when they are taken up is up to the schedule. -/
def Command.report (s : Session) (input : Text) (schedule : Schedule) : Command → Cached Report
  | match_ _ texts => return .texts (← s.matchReport texts)
  | filter _ _ invert count parallel fragments =>
    if parallel then
      return .filter
        (← s.scatteredReport ⟨invert, count, fragments⟩ (schedule.order (input.lines.zipIdx 1)))
    else return .filter (← s.filterReport ⟨invert, count, fragments⟩ input.lines)
  | terms _ => return .terms (← liftExcept s.termsReport)
  | explain _ => return .explanation (← s.explanation)

/-! ### The whole run -/

section
variable {m : Type → Type} [Monad m]

/-- The text of a file, or the failure of the activity that reads it. -/
def Source.fileFor (source : Source m) (activity : String) (path : Text) :
    ExceptT Error m Text := do
  match ← source.file path with
  | .ok text => return text
  | .error fault => throw (.during (activity.toList ++ ' ' :: path) fault.message)

def Source.config (source : Source m) (i : Invocation) : ExceptT Error m (Option Text) :=
  match i.config with
  | none => return none
  | some path => some <$> source.fileFor "failed to read config file" path

/-- What the command is to look at, which is nothing unless it filters. -/
def Source.inputFor (source : Source m) : Command → ExceptT Error m Text
  | .filter _ (some path) .. => source.fileFor "failed to read input file" path
  | .filter _ none .. => do
    match ← source.input with
    | .ok text => return text
    | .error _ => throw .input
  | _ => return []

/-- Carries out a command with an empty cache. -/
def run (source : Source m) (i : Invocation) : ExceptT Error m Output := do
  let s ← liftExcept (i.session (← source.config i))
  let input ← source.inputFor i.command
  let start ← source.milliseconds
  match ((i.command.report s input source.schedule).run.run {}).1 with
  | .error e => throw e
  | .ok r =>
    let stop ← source.milliseconds
    return i.output (r.lasting (stop - start))

end

end TextSieve.CommandLine
