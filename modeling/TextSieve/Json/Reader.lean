import TextSieve.Json.Basic
import TextSieve.Pattern.Atom

/-!
Reading JSON. Only what the format allows is read: no comments, no trailing commas, no leading
zeros, no control characters inside strings.
-/

namespace TextSieve.Json

open Pattern.Atom (hexValue?)

def isSpace (c : Char) : Bool :=
  c == ' ' || c == '\n' || c == '\t' || c == '\r'

def skipSpace (t : Text) : Text :=
  t.dropWhile isSpace

/-! ### Numbers -/

/-- The least number that is nearer to the double after the largest than to the largest itself. -/
def doubleBound : Nat := Nat.pow 2 1024 - Nat.pow 2 970

/-- Whether `mantissa` times ten to the given power is beyond the doubles. -/
def isTooLarge (mantissa : Nat) (power : Int) : Bool :=
  let magnitude := (Nat.toDigits 10 mantissa).length + power
  if mantissa = 0 ∨ magnitude < 300 then false
  else if 320 < magnitude then true
  else if 0 ≤ power then doubleBound ≤ mantissa * Nat.pow 10 power.toNat
  else doubleBound * Nat.pow 10 (-power).toNat ≤ mantissa

/-- The digits at the beginning, of which there must be one. -/
def digits? (t : Text) : Option (Text × Text) :=
  match t.span Char.isDigit with
  | ([], _) => none
  | (digits, rest) => some (digits, rest)

/-- The digits before a decimal point: a zero stands alone. -/
def whole? (t : Text) : Option (Text × Text) :=
  (digits? t).filter fun (digits, _) => digits.head? ≠ some '0' ∨ digits.length = 1

/-- The digits behind a decimal point, if there is one. -/
def fraction? (t : Text) : Option (Text × Text) :=
  match t with
  | '.' :: rest => digits? rest
  | _ => some ([], t)

/-- The power of ten, if one is written. -/
def power? (t : Text) : Option (Option Int × Text) :=
  let value (sign : Int) (rest : Text) : Option (Option Int × Text) :=
    (digits? rest).map fun (digits, rest) => (some (sign * Text.digitsValue digits), rest)
  match t with
  | 'e' :: '-' :: rest | 'E' :: '-' :: rest => value (-1) rest
  | 'e' :: '+' :: rest | 'E' :: '+' :: rest => value 1 rest
  | 'e' :: rest | 'E' :: rest => value 1 rest
  | _ => some (none, t)

/-- A number without its sign. -/
def unsigned? (t : Text) : Option (Number × Text) :=
  (whole? t).bind fun (whole, rest) =>
    (fraction? rest).bind fun (fraction, rest) =>
      (power? rest).map fun (power, rest) =>
        let mantissa := Text.digitsValue (whole ++ fraction)
        let number :=
          if isTooLarge mantissa (power.getD 0 - fraction.length) then .tooLarge
          else if fraction = [] ∧ power = none then .natural mantissa
          else .other
        (number, rest)

def number? (t : Text) : Option (Number × Text) :=
  match t with
  | '-' :: rest =>
    (unsigned? rest).map fun (n, rest) => (if n = .tooLarge then .tooLarge else .other, rest)
  | _ => unsigned? t

/-! ### Strings -/

/-- The character of a pair of surrogates. -/
def pairChar (high low : Nat) : Char :=
  Char.ofNat (0x10000 + (high - 0xD800) * 0x400 + (low - 0xDC00))

def isHigh (n : Nat) : Bool := 0xD800 ≤ n && n < 0xDC00

def isLow (n : Nat) : Bool := 0xDC00 ≤ n && n < 0xE000

/-- The number behind `\u`. -/
def unit? (a b c d : Char) : Option Nat := hexValue? 0 [a, b, c, d]

/-- Adds a character in front of a string. -/
def cons (c : Char) (found : Option Text × Text) : Option Text × Text :=
  (found.1.map (c :: ·), found.2)

/-- Takes the text from a string if a first half of a pair stands alone before it. -/
def after (high : Option Nat) (found : Option Text × Text) : Option Text × Text :=
  if high.isSome then (none, found.2) else found

/-- A string, behind its opening quotation mark; `high` is the first half of a pair that was just
read. -/
def string? (high : Option Nat) : Text → Option (Option Text × Text)
  | [] => none
  | '"' :: rest => some (after high (some [], rest))
  | '\\' :: 'u' :: a :: b :: c :: d :: rest =>
    match unit? a b c d, high with
    | none, _ => none
    | some n, some h =>
      if isLow n then (string? none rest).map (cons (pairChar h n))
      else if isHigh n then (string? (some n) rest).map (after high)
      else (string? none rest).map (after high)
    | some n, none =>
      if isLow n then (string? none rest).map (after (some n))
      else if isHigh n then string? (some n) rest
      else (string? none rest).map (cons (Char.ofNat n))
  | '\\' :: c :: rest =>
    let simple (c : Char) := (string? none rest).map fun found => after high (cons c found)
    match c with
    | '"' | '\\' | '/' => simple c
    | 'b' => simple '\x08'
    | 'f' => simple '\x0c'
    | 'n' => simple '\n'
    | 'r' => simple '\r'
    | 't' => simple '\t'
    | _ => none
  | c :: rest =>
    if c.toNat < 0x20 ∨ c = '\\' then none
    else (string? none rest).map fun found => after high (cons c found)

/-! ### Values -/

def literals : List (Text × Json) :=
  [(nullText, null), (boolText true, bool true), (boolText false, bool false)]

/-- One of the three words, or a number. -/
def scalar? (t : Text) : Option (Json × Text) :=
  match literals.findSome? fun (word, j) => (Text.stripPrefix? word t).map fun rest => (j, rest) with
  | some found => some found
  | none => (number? t).map fun (n, rest) => (number n, rest)

mutual
/-- A value that starts right here; `fuel` bounds the calls that are nested in each other. -/
def readValue? : Nat → Text → Option (Json × Text)
  | 0, _ => none
  | fuel + 1, t =>
    match t with
    | '"' :: rest => (string? none rest).map fun (s, rest) => (string s, rest)
    | '[' :: rest =>
      match skipSpace rest with
      | ']' :: rest => some (array [], rest)
      | rest => (readItems? fuel rest).map fun (items, rest) => (array items, rest)
    | '\x7b' :: rest =>
      match skipSpace rest with
      | '\x7d' :: rest => some (object [], rest)
      | rest => (readMembers? fuel rest).map fun (members, rest) => (object members, rest)
    | t => scalar? t

/-- The items of an array, from the first one to the closing bracket. -/
def readItems? : Nat → Text → Option (List Json × Text)
  | 0, _ => none
  | fuel + 1, t =>
    (readValue? fuel t).bind fun (item, rest) =>
      match skipSpace rest with
      | ']' :: rest => some ([item], rest)
      | ',' :: rest =>
        (readItems? fuel (skipSpace rest)).map fun (items, rest) => (item :: items, rest)
      | _ => none

/-- The members of an object, from the first one to the closing brace. -/
def readMembers? : Nat → Text → Option (List (Option Text × Json) × Text)
  | 0, _ => none
  | fuel + 1, t =>
    match t with
    | '"' :: rest =>
      (string? none rest).bind fun (key, rest) =>
        match skipSpace rest with
        | ':' :: rest =>
          (readValue? fuel (skipSpace rest)).bind fun (value, rest) =>
            match skipSpace rest with
            | '\x7d' :: rest => some ([(key, value)], rest)
            | ',' :: rest =>
              (readMembers? fuel (skipSpace rest)).map fun (members, rest) =>
                ((key, value) :: members, rest)
            | _ => none
        | _ => none
    | _ => none
end

/-- The value that a whole text writes. -/
def read? (t : Text) : Option Json :=
  match readValue? (2 * t.length + 2) (skipSpace t) with
  | some (j, rest) => if skipSpace rest = [] then some j else none
  | none => none

end TextSieve.Json
