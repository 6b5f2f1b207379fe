import TextSieve.Failure

/-! Everything that can go wrong, by cause, and the wording of each. What a pattern engine, a JSON reader
or the system adds of its own, such as the place of a fault in a pattern, is not part of the wording. -/

namespace TextSieve

inductive TermFault
  /-- Nothing is left of the term without its markers. -/
  | noCore (raw : Text)
  | markerInside (raw : Text)
  | described (text : Text)
deriving DecidableEq, Repr

/-- What was to be read as a pattern. -/
inductive PatternSource
  | term (raw : Text)
  | delimiter (pattern : Text)
  | fieldTag
  | described (text : Text)
deriving DecidableEq, Repr

inductive OptionsFault
  | noDelimiter
  | emptyLiteral
  | emptyPattern
  | described (text : Text)
deriving DecidableEq, Repr

inductive Error
  /-- The query cannot be read. -/
  | query (query : Text) (failures : List Failure)
  | term (fault : TermFault)
  | noQuery
  | pattern (source : PatternSource)
  | options (fault : OptionsFault)
  /-- The input stream cannot be read. -/
  | input
  /-- A text is not the JSON it should be. -/
  | json
  | other (text : Text)
  /-- A failure and what was being done when it arose. -/
  | during (activity : Text) (cause : Text)
deriving DecidableEq, Repr

def quoted (t : Text) : Text :=
  '\'' :: (t ++ ['\''])

def TermFault.message : TermFault → Text
  | noCore raw => quoted raw ++ " has no text besides its fuzzy markers".toList
  | markerInside raw => quoted raw ++ " has a '~' inside its core text".toList
  | described text => text

def PatternSource.message : PatternSource → Text
  | term raw => "term ".toList ++ quoted raw
  | delimiter pattern => "delimiter pattern ".toList ++ quoted pattern
  | fieldTag => "field tag".toList
  | described text => text

def OptionsFault.message : OptionsFault → Text
  | noDelimiter => "at least one delimiter is required".toList
  | emptyLiteral => "literal delimiter must not be empty".toList
  | emptyPattern => "delimiter pattern must not be empty".toList
  | described text => text

namespace Error

def message : Error → Text
  | query q failures =>
    "could not parse query string ".toList ++ quoted q ++ ": ".toList ++ Failure.describe failures
  | term fault => "invalid term syntax: ".toList ++ fault.message
  | noQuery => "no query specified".toList
  | pattern source => "invalid pattern: ".toList ++ source.message
  | options fault => "invalid options: ".toList ++ fault.message
  | input => "I/O error".toList
  | json => "JSON error".toList
  | other text => text
  | during activity cause => activity ++ ": ".toList ++ cause

/-- Where the reading of a query stopped, if that is the error. -/
def failures : Error → List Failure
  | query _ failures => failures
  | _ => []

end Error

/-- What a mapped result was mapped from. -/
theorem exists_of_map_eq_ok {ε α β : Type} {f : α → β} {x : Except ε α} {b : β}
    (h : x.map f = .ok b) : ∃ a, x = .ok a ∧ f a = b := by
  cases x with
  | ok a => exact ⟨a, rfl, Except.ok.inj h⟩
  | error e => exact absurd h nofun

theorem exists_of_isOk {ε α : Type} {x : Except ε α} (h : x.isOk = true) : ∃ a, x = .ok a := by
  cases x with
  | ok a => exact ⟨a, rfl⟩
  | error e => cases h

end TextSieve
