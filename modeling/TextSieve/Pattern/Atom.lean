import TextSieve.Pattern.Flags
import TextSieve.Pattern.Literal
import TextSieve.Pattern.Regex

/-!
What a backslash introduces: a literal character, a set of characters, or a condition on the place.

Sets can be asked for by category, by script and by seven properties: alphabetic, uppercase,
lowercase, white space, cased, case-ignorable and grapheme extend. The other properties of Unicode are
not known here, and a pattern that asks for one is refused: those with a name alone, such as `Emoji`,
`Math`, `Dash` or `XID_Start`, and those with a value, which are the age, the script extensions and
the three kinds of text segmentation.
-/

namespace TextSieve.Pattern

/-- A literal keeps whether it was written as a two-digit byte. -/
inductive Atom
  | literal (c : Char) (byte : Bool)
  | set (s : CharSet)
  | look (l : Look)
deriving DecidableEq, Repr

namespace Atom

/-! ### Characters by number -/

def hexDigit? (c : Char) : Option Nat :=
  if '0' ≤ c ∧ c ≤ '9' then some (c.toNat - '0'.toNat)
  else if 'a' ≤ c ∧ c ≤ 'f' then some (c.toNat - 'a'.toNat + 10)
  else if 'A' ≤ c ∧ c ≤ 'F' then some (c.toNat - 'A'.toNat + 10)
  else none

def hexValue? : Nat → Text → Option Nat
  | n, [] => some n
  | n, c :: rest => (hexDigit? c).bind fun d => hexValue? (16 * n + d) rest

/-- The character with the number written in hexadecimal, which must not be empty. -/
def hexChar? (digits : Text) : Option Char :=
  if digits = [] then none
  else (hexValue? 0 digits).bind fun n => if n.isValidChar then some (Char.ofNat n) else none

/-- A character by its number: `width` digits, or any number of digits in braces. -/
def hex? (f : Flags) (width : Nat) (t : Text) : Option (Atom × Text) :=
  match f.skip t with
  | '\x7b' :: rest =>
    (f.braced? false rest).bind fun (digits, rest) =>
      (hexChar? digits).map fun c => (literal c false, rest)
  | rest =>
    (f.take? false width rest).bind fun (digits, rest) =>
      (hexChar? digits).map fun c => (literal c (width == 2), rest)

/-! ### Classes by property -/

/-- The name of a property as it is looked up: in lower case, without spaces, `-` and `_`, and
without `is` in front. -/
def looseName (name : Text) : String :=
  let bare := (name.filter fun c => c.toNat < 0x80 && !(c == ' ' || c == '-' || c == '_'))
    |>.map Char.toLower
  let startsIs := (name.take 2).map Char.toLower == ['i', 's']
  let trimmed := if startsIs then bare.drop 2 else bare
  -- `isc` names the category `c` only with the `is` kept apart
  if startsIs && trimmed == ['c'] then "isc" else String.ofList trimmed

def binaryProperty? (name : String) : Option Property :=
  match name with
  | "alphabetic" | "alpha" => some .alphabetic
  | "uppercase" | "upper" => some .uppercase
  | "lowercase" | "lower" => some .lowercase
  | "whitespace" | "wspace" | "space" => some .blank
  | "cased" => some .cased
  | "caseignorable" | "ci" => some .caseIgnorable
  | "graphemeextend" | "grext" => some .graphemeExtend
  | _ => none

def categorySet? (name : String) : Option CharSet :=
  match name with
  | "any" => some (.compl .none)
  | "ascii" => some .ascii
  | _ => (Unicode.Category.named? name).map .categories

def scriptSet? (name : String) : Option CharSet :=
  (Unicode.Script.named? name).map .script

/-- The class of a single name: a property, a category or a script. -/
def namedSet? (name : String) : Option CharSet :=
  ((binaryProperty? name).map .property).or ((categorySet? name).or (scriptSet? name))

/-- The class that a property with a value describes. -/
def valueSet? (property value : String) : Option CharSet :=
  match property with
  | "generalcategory" | "gc" => categorySet? value
  | "script" | "sc" => scriptSet? value
  | _ => none

/-- The class between the braces of `\p`, and whether it is to be turned around. -/
def classOfName? (name : Text) : Option (CharSet × Bool) :=
  match Text.cut? ['!', '='] name with
  | some (p, v) => (valueSet? (looseName p) (looseName v)).map (·, true)
  | none =>
    match (Text.cut? [':'] name).or (Text.cut? ['='] name) with
    | some (p, v) => (valueSet? (looseName p) (looseName v)).map (·, false)
    | none => (namedSet? (looseName name)).map (·, false)

/-- Adds the characters that differ in case only, if the flags ask for it. -/
def fold (f : Flags) (s : CharSet) : CharSet :=
  if f.caseless then
    if f.unicode then .folded s else .inter .ascii (.folded s)
  else s

/-- Turns a set around. Without `u` a set must not leave ASCII, so none can be turned around. -/
def negate? (f : Flags) (negated : Bool) (s : CharSet) : Option CharSet :=
  if negated then if f.unicode then some (.compl s) else none else some s

/-- A class by property, after `\p`, or after `\P` if `negated`. -/
def propertyClass? (f : Flags) (negated : Bool) (t : Text) : Option (Atom × Text) :=
  if !f.unicode then none
  else
    let found : Option ((CharSet × Bool) × Text) :=
      match f.skip t with
      | [] => none
      | '\x7b' :: rest =>
        (f.braced? false rest).bind fun (name, rest) => (classOfName? name).map (·, rest)
      | '\\' :: _ => none
      | c :: rest => (categorySet? (looseName [c])).map fun s => ((s, false), rest)
    found.bind fun ((s, turned), rest) =>
      (negate? f (negated != turned) (fold f s)).map fun s => (set s, rest)

/-- `\d`, `\s` and `\w`, or `\D`, `\S` and `\W` if `negated`. -/
def shortClass? (f : Flags) (negated : Bool) (unicode ascii : CharSet) : Option Atom :=
  (negate? f negated (if f.unicode then unicode else ascii)).map set

/-! ### Conditions -/

def wordLook (f : Flags) (edge : WordEdge) : Look :=
  .word edge (if f.unicode then .word else .asciiWord)

/-- What follows `\b`: a named edge in braces, or nothing. Braces that hold no name are left to be
read as a count. -/
def boundary? (f : Flags) (t : Text) : Option (Atom × Text) :=
  let plain := (look (wordLook f .boundary), t)
  match t with
  | '\x7b' :: rest =>
    match f.skip rest with
    | [] => none
    | c :: _ =>
      if c.isAlpha || c == '-' then
        (f.braced? false rest).bind fun (name, rest) =>
          let edge : Option WordEdge :=
            match String.ofList name with
            | "start" => some .start
            | "end" => some .stop
            | "start-half" => some .startHalf
            | "end-half" => some .stopHalf
            | _ => none
          edge.map fun e => (look (wordLook f e), rest)
      else some plain
  | _ => some plain

/-- Characters that may have a backslash although they mean nothing. -/
def isEscapable (c : Char) : Bool :=
  c.toNat < 0x80 && !(c.isAlphanum || c == '<' || c == '>')

/-- Reads what follows a backslash. -/
def read? (f : Flags) : Text → Option (Atom × Text)
  | [] => none
  | c :: rest =>
    if isMeta c || isEscapable c then some (literal c false, rest)
    else
      match c with
      | 'x' => hex? f 2 rest
      | 'u' => hex? f 4 rest
      | 'U' => hex? f 8 rest
      | 'p' => propertyClass? f false rest
      | 'P' => propertyClass? f true rest
      | 'd' => (shortClass? f false .digit .asciiDigit).map (·, rest)
      | 'D' => (shortClass? f true .digit .asciiDigit).map (·, rest)
      | 's' => (shortClass? f false .blank .asciiBlank).map (·, rest)
      | 'S' => (shortClass? f true .blank .asciiBlank).map (·, rest)
      | 'w' => (shortClass? f false .word .asciiWord).map (·, rest)
      | 'W' => (shortClass? f true .word .asciiWord).map (·, rest)
      | 'a' => some (literal '\x07' false, rest)
      | 'f' => some (literal '\x0c' false, rest)
      | 't' => some (literal '\t' false, rest)
      | 'n' => some (literal '\n' false, rest)
      | 'r' => some (literal '\r' false, rest)
      | 'v' => some (literal '\x0b' false, rest)
      | 'A' => some (look .textStart, rest)
      | 'z' => some (look .textStop, rest)
      | 'b' => boundary? f rest
      | 'B' => some (look (wordLook f .inside), rest)
      | '<' => some (look (wordLook f .start), rest)
      | '>' => some (look (wordLook f .stop), rest)
      | _ => none

end Atom

end TextSieve.Pattern
