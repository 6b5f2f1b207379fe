import TextSieve.Options

/-!
Reading a command line. The options that change how texts are read may stand before the command or
behind it; all others belong to one place. What stands behind the command is read and checked first.
-/

namespace TextSieve.CommandLine

/-- Why a command line is not carried out. -/
inductive UsageError
  | unknownArgument
  | invalidValue
  | invalidCommand
  | missingCommand
  | missingArgument
  | conflict
  | tooManyValues
  | help
  | version
  /-- Nothing at all was asked for. -/
  | helpWithoutArguments
deriving DecidableEq, Repr

inductive CommandName
  | match_ | filter | terms | explain
deriving DecidableEq, Repr

def CommandName.ofText? (t : Text) : Option CommandName :=
  match String.ofList t with
  | "match" => some .match_
  | "filter" => some .filter
  | "terms" => some .terms
  | "explain" => some .explain
  | _ => none

def helpCommand : Text := "help".toList

/-- Everything that can be given on a command line. -/
inductive Parameter
  | verbose | quiet | format | pretty | config
  | delimiter | delimiterPattern | caseSensitive | attributeDelimiter | noAttributes | regexp
  | invert | count | parallel | fragments
  | help | version
  | query | texts | file
deriving DecidableEq, Repr

/-- How often a parameter can be given, and what with. -/
inductive Arity
  | switch
  /-- A switch that counts. -/
  | counter
  | value
  /-- A value at a time, any number of times. -/
  | values
  /-- Ends the reading with an answer of its own. -/
  | answer (e : UsageError)
deriving DecidableEq, Repr

namespace Parameter

def arity : Parameter → Arity
  | verbose => .counter
  | quiet | pretty | caseSensitive | noAttributes | regexp | invert | count | parallel
  | fragments => .switch
  | format | config | attributeDelimiter | query | file => .value
  | delimiter | delimiterPattern | texts => .values
  | help => .answer .help
  | version => .answer .version

def takesValue (p : Parameter) : Bool :=
  p.arity == .value || p.arity == .values

/-- Whether a value can be given for the parameter. -/
def accepts (p : Parameter) (value : Text) : Bool :=
  match p with
  | format => value == "human".toList || value == "json".toList
  | config | file => value != []
  | _ => true

def long? : Parameter → Option String
  | verbose => some "verbose"
  | quiet => some "quiet"
  | format => some "format"
  | pretty => some "pretty"
  | config => some "config"
  | delimiter => some "delimiter"
  | delimiterPattern => some "delimiter-pattern"
  | caseSensitive => some "case-sensitive"
  | attributeDelimiter => some "attribute-delimiter"
  | noAttributes => some "no-attributes"
  | regexp => some "regexp"
  | invert => some "invert"
  | count => some "count"
  | parallel => some "parallel"
  | fragments => some "fragments"
  | help => some "help"
  | version => some "version"
  | query | texts | file => none

def short? : Parameter → Option Char
  | verbose => some 'v'
  | quiet => some 'q'
  | format => some 'f'
  | delimiter => some 'd'
  | help => some 'h'
  | version => some 'V'
  | _ => none

/-- The parameters that may stand on both sides of the command. -/
def shared : List Parameter :=
  [delimiter, delimiterPattern, caseSensitive, attributeDelimiter, noAttributes, regexp]

end Parameter

/-- What can be given in one place: before the command, or behind it. -/
structure Place where
  flags : List Parameter
  positions : List Parameter
  required : List Parameter
  conflicts : List (Parameter × Parameter)
  /-- Whether a command is looked for. -/
  leads : Bool
deriving DecidableEq, Repr

namespace Place

def attributeConflict : Parameter × Parameter := (.noAttributes, .attributeDelimiter)

def beforeCommand : Place where
  flags := [.verbose, .quiet, .format, .pretty, .config] ++ Parameter.shared ++ [.help, .version]
  positions := []
  required := []
  conflicts := [attributeConflict]
  leads := true

def behindCommand : CommandName → Place
  | .match_ => {
      flags := Parameter.shared ++ [.help]
      positions := [.query, .texts]
      required := [.query, .texts]
      conflicts := [attributeConflict]
      leads := false }
  | .filter => {
      flags := Parameter.shared ++ [.invert, .count, .parallel, .fragments, .help]
      positions := [.query, .file]
      required := [.query]
      conflicts := [attributeConflict, (.fragments, .count)]
      leads := false }
  | .terms | .explain => {
      flags := Parameter.shared ++ [.help]
      positions := [.query]
      required := [.query]
      conflicts := [attributeConflict]
      leads := false }

def long? (p : Place) (name : Text) : Option Parameter :=
  p.flags.find? fun f => f.long?.map String.toList == some name

def short? (p : Place) (c : Char) : Option Parameter :=
  p.flags.find? fun f => f.short? == some c

end Place

/-! ### Reading one place -/

/-- A parameter whose values are still being collected. -/
structure Pending where
  parameter : Parameter
  values : List Text
deriving DecidableEq, Repr

structure Progress where
  /-- What has been given so far, in order; a switch has an empty value. -/
  given : List (Parameter × Text) := []
  pending : Option Pending := none
  /-- The parameter that the next argument is the value of. -/
  awaiting : Option Parameter := none
  /-- Whether all further arguments are taken for positions. -/
  trailing : Bool := false
  /-- How many positions have been filled. -/
  filled : Nat := 0
deriving DecidableEq, Repr

namespace Progress

def has (s : Progress) (p : Parameter) : Bool :=
  s.given.any (·.1 == p)

/-- Adds a parameter with its values. -/
def add (s : Progress) (p : Parameter) (values : List Text) : Except UsageError Progress :=
  match p.arity with
  | .answer e => .error e
  | .counter => .ok { s with given := s.given ++ [(p, [])] }
  | .switch =>
    if s.has p then .error .conflict else .ok { s with given := s.given ++ [(p, [])] }
  | .value =>
    if values = [] then .error .invalidValue
    else if s.has p then .error .conflict
    else if values.all p.accepts then .ok { s with given := s.given ++ values.map (p, ·) }
    else .error .invalidValue
  | .values =>
    if values = [] then .error .invalidValue
    else if values.all p.accepts then .ok { s with given := s.given ++ values.map (p, ·) }
    else .error .invalidValue

/-- Adds the parameter that is pending. -/
def settle (s : Progress) : Except UsageError Progress :=
  match s.pending with
  | none => .ok s
  | some p => { s with pending := none }.add p.parameter p.values

/-- Adds what is pending and then a parameter with its values. -/
def give (s : Progress) (p : Parameter) (values : List Text) : Except UsageError Progress := do
  let s ← s.settle
  let s ← s.add p values
  return { s with awaiting := none }

/-- A parameter with a value attached, or one whose value is to follow. -/
def giveValue (s : Progress) (p : Parameter) (attached : Option Text) :
    Except UsageError Progress :=
  match attached with
  | some value => s.give p [value]
  | none => do
    let s ← s.settle
    return { s with pending := some ⟨p, []⟩, awaiting := some p }

/-- Takes an argument for the value that is awaited. -/
def takeValue (s : Progress) (value : Text) : Progress :=
  { s with
    pending := s.pending.map fun p => { p with values := p.values ++ [value] }
    awaiting := none }

/-- Takes an argument for the position `p`, which may go on collecting. -/
def takePosition (s : Progress) (p : Parameter) (value : Text) : Except UsageError Progress :=
  let collects := p.arity == .values
  match s.pending with
  | some q =>
    if q.parameter = p ∧ collects then
      .ok { s with pending := some { q with values := q.values ++ [value] }, awaiting := none }
    else do
      let s ← s.settle
      return { s with
        pending := some ⟨p, [value]⟩
        awaiting := none
        filled := if collects then s.filled else s.filled + 1 }
  | none =>
    .ok { s with
      pending := some ⟨p, [value]⟩
      awaiting := none
      filled := if collects then s.filled else s.filled + 1 }

end Progress

/-- What an argument is taken for once it has been read as a flag. -/
inductive FlagReading
  | done (s : Progress)
  /-- It is none. -/
  | notFlag
deriving DecidableEq, Repr

/-- An argument behind its two dashes. -/
def readLong (place : Place) (s : Progress) (t : Text) : Except UsageError Progress :=
  let (name, attached) : Text × Option Text :=
    match Text.cut? ['='] t with
    | some (name, value) => (name, some value)
    | none => (t, none)
  match place.long? name with
  | none => .error .unknownArgument
  | some p =>
    if p.takesValue then s.giveValue p attached
    else if attached.isSome then .error .tooManyValues
    else s.give p []

/-- The letters of an argument behind its dash. What follows a letter that takes a value is the
value, less an equals sign in front. -/
def readShort (place : Place) (s : Progress) : Text → Except UsageError Progress
  | [] => .ok s
  | c :: rest =>
    match place.short? c with
    | none => .error .unknownArgument
    | some p =>
      if p.takesValue then
        s.giveValue p (match rest with
          | [] => none
          | '=' :: value => some value
          | value => some value)
      else do
        let s ← s.give p []
        readShort place s rest

/-- Reads an argument as flags, if it looks like it. A single dash does not. -/
def readFlag (place : Place) (s : Progress) (arg : Text) : Except UsageError FlagReading :=
  match arg with
  | ['-', '-'] => .ok (.done { s with trailing := true })
  | '-' :: '-' :: rest => (readLong place s rest).map .done
  | ['-'] => .ok .notFlag
  | '-' :: rest => (readShort place s rest).map .done
  | _ => .ok .notFlag

/-- Takes an argument that is no flag for a value or a position. -/
def readPlain (place : Place) (s : Progress) (arg : Text) : Except UsageError Progress :=
  if s.awaiting.isSome && !s.trailing then .ok (s.takeValue arg)
  else
    match place.positions[s.filled]? with
    | some p => s.takePosition p arg
    | none =>
      if place.leads then
        if s.trailing && ((CommandName.ofText? arg).isSome || arg == helpCommand) then
          .error .unknownArgument
        else .error .invalidCommand
      else .error .unknownArgument

/-- The command that an argument calls for, where commands are looked for. -/
def commandAt? (place : Place) (s : Progress) (arg : Text) : Option CommandName :=
  if place.leads && !s.trailing && s.awaiting.isNone then CommandName.ofText? arg else none

/-- The answer to a request for help on a command. -/
def helpOn : List Text → UsageError
  | [] => .help
  | [name] =>
    if (CommandName.ofText? name).isSome || name == helpCommand then .help else .invalidCommand
  | _ => .invalidCommand

/-- Reads arguments up to their end, or up to a command, which is returned with what follows it. -/
def readArguments (place : Place) (s : Progress) :
    List Text → Except UsageError (Progress × Option (CommandName × List Text))
  | [] => .ok (s, none)
  | arg :: rest =>
    match commandAt? place s arg with
    | some name => .ok (s, some (name, rest))
    | none =>
      if place.leads && !s.trailing && s.awaiting.isNone && arg == helpCommand then
        .error (helpOn rest)
      else if s.trailing then do
        let s ← readPlain place s arg
        readArguments place s rest
      else do
        match ← readFlag place s arg with
        | .done s => readArguments place s rest
        | .notFlag =>
          let s ← readPlain place s arg
          readArguments place s rest

/-- Checks what was given in one place. -/
def check (place : Place) (s : Progress) : Except UsageError Unit :=
  if place.conflicts.any fun (a, b) => s.has a && s.has b then .error .conflict
  else if place.required.all s.has then .ok ()
  else .error .missingArgument

/-- Settles and checks what was given behind the command. -/
def readBehind (name : CommandName) (args : List Text) : Except UsageError Progress := do
  let place := Place.behindCommand name
  let (s, _) ← readArguments place {} args
  let s ← s.settle
  check place s
  return s

/-! ### The whole command line -/

inductive Format
  | human | json
deriving DecidableEq, Repr

inductive Command
  | match_ (query : Text) (texts : List Text)
  | filter (query : Text) (file : Option Text) (invert count parallel fragments : Bool)
  | terms (query : Text)
  | explain (query : Text)
deriving DecidableEq, Repr

def Command.query : Command → Text
  | match_ query _ => query
  | filter query .. => query
  | terms query => query
  | explain query => query

/-- The options given on the command line that change how texts are read. -/
structure OptionArguments where
  delimiters : List Text := []
  delimiterPatterns : List Text := []
  caseSensitive : Bool := false
  attributeDelimiter : Option Text := none
  noAttributes : Bool := false
  regexp : Bool := false
deriving DecidableEq, Repr

structure Invocation where
  verbose : Nat := 0
  quiet : Bool := false
  format : Format := .human
  pretty : Bool := false
  config : Option Text := none
  options : OptionArguments := {}
  command : Command
deriving DecidableEq, Repr

namespace Progress

def values (s : Progress) (p : Parameter) : List Text :=
  (s.given.filter (·.1 == p)).map (·.2)

def value? (s : Progress) (p : Parameter) : Option Text :=
  (s.values p).head?

end Progress

/-- What was given on both sides of the command together: a shared parameter that is given behind
it replaces the one before. -/
def combined (before behind : Progress) : Progress :=
  { before with
    given := before.given.filter fun (p, _) => !(p ∈ Parameter.shared && behind.has p)
  } |> fun s => { s with given := s.given ++ behind.given }

def OptionArguments.ofGiven (s : Progress) : OptionArguments where
  delimiters := s.values .delimiter
  delimiterPatterns := s.values .delimiterPattern
  caseSensitive := s.has .caseSensitive
  attributeDelimiter := s.value? .attributeDelimiter
  noAttributes := s.has .noAttributes
  regexp := s.has .regexp

def Command.ofGiven (name : CommandName) (s : Progress) : Command :=
  let query := (s.value? .query).getD []
  match name with
  | .match_ => .match_ query (s.values .texts)
  | .filter =>
    .filter query (s.value? .file) (s.has .invert) (s.has .count) (s.has .parallel)
      (s.has .fragments)
  | .terms => .terms query
  | .explain => .explain query

/-- Counters stop here. -/
def counterLimit : Nat := 255

def Invocation.ofGiven (name : CommandName) (s : Progress) : Invocation where
  verbose := min (s.values .verbose).length counterLimit
  quiet := s.has .quiet
  format := if s.value? .format = some "json".toList then .json else .human
  pretty := s.has .pretty
  config := s.value? .config
  options := .ofGiven s
  command := .ofGiven name s

/-- Reads the arguments of the program. -/
def read (args : List Text) : Except UsageError Invocation := do
  let (before, found) ← readArguments .beforeCommand {} args
  match found with
  | none =>
    let before ← before.settle
    throw (if before.given = [] then .helpWithoutArguments else .missingCommand)
  | some (name, rest) =>
    let behind ← readBehind name rest
    let before ← before.settle
    check .beforeCommand before
    return .ofGiven name (combined before behind)

namespace Invocation

/-- How much is shown: nothing if quiet, else one, or as much as was asked for. -/
def verbosity (i : Invocation) : Nat :=
  if i.quiet then 0 else max i.verbose 1

end Invocation

namespace OptionArguments

/-- All delimiters, the literal ones first. A pattern has to be one. -/
def delimiterList (o : OptionArguments) : Except Error (List Delimiter) := do
  return o.delimiters.map Delimiter.literal ++ (← o.delimiterPatterns.mapM Delimiter.ofPattern)

def toOverride (o : OptionArguments) : Except Error Override := do
  let delimiters ← o.delimiterList
  return {
    delimiters := if delimiters = [] then none else some delimiters
    ignoreCase := if o.caseSensitive then some false else none
    attributeDelimiter := if o.noAttributes then some none else o.attributeDelimiter.map some
    regexp := if o.regexp then some true else none }

end OptionArguments

end TextSieve.CommandLine
