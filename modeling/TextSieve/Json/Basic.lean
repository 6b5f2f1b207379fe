import TextSieve.Text

/-!
JSON values and their texts. A value keeps the members of an object in order and with duplicates. Of
a number only what is ever asked for is kept: the natural number it writes, if it does.
-/

namespace TextSieve

inductive Number
  | natural (n : Nat)
  | other
  /-- Beyond the range of a double. -/
  | tooLarge
deriving DecidableEq, Repr

/-- A string is `none` if its escapes leave half of a surrogate pair; such a string can be passed
over, but it has no text. -/
inductive Json
  | null
  | bool (b : Bool)
  | number (n : Number)
  | string (t : Option Text)
  | array (items : List Json)
  | object (members : List (Option Text × Json))
deriving Repr

namespace Json

def text (t : Text) : Json := string (some t)

def natural (n : Nat) : Json := number (.natural n)

/-- The text or, if there is none, null. -/
def textOrNull (t : Option Text) : Json := (t.map text).getD null

def record (members : List (String × Json)) : Json :=
  object (members.map fun (k, v) => (some k.toList, v))

/-! ### Measures -/

mutual
/-- How deeply arrays and objects are nested. -/
def depth : Json → Nat
  | array items => depthOfItems items + 1
  | object members => depthOfMembers members + 1
  | _ => 0

def depthOfItems : List Json → Nat
  | [] => 0
  | j :: rest => max (depth j) (depthOfItems rest)

def depthOfMembers : List (Option Text × Json) → Nat
  | [] => 0
  | (_, j) :: rest => max (depth j) (depthOfMembers rest)
end

mutual
/-- Whether all strings have a text and all numbers are in range. -/
def isSound : Json → Bool
  | number n => n != .tooLarge
  | string t => t.isSome
  | array items => itemsSound items
  | object members => membersSound members
  | _ => true

def itemsSound : List Json → Bool
  | [] => true
  | j :: rest => isSound j && itemsSound rest

def membersSound : List (Option Text × Json) → Bool
  | [] => true
  | (k, j) :: rest => k.isSome && isSound j && membersSound rest
end

/-! ### Printing -/

def hexDigits (width n : Nat) : Text :=
  let digits := Nat.toDigits 16 n
  List.replicate (width - digits.length) '0' ++ digits

def escapeChar (c : Char) : Text :=
  match c with
  | '"' => ['\\', '"']
  | '\\' => ['\\', '\\']
  | '\n' => ['\\', 'n']
  | '\r' => ['\\', 'r']
  | '\t' => ['\\', 't']
  | '\x08' => ['\\', 'b']
  | '\x0c' => ['\\', 'f']
  | c => if c.toNat < 0x20 then ['\\', 'u'] ++ hexDigits 4 c.toNat else [c]

def quote (t : Text) : Text :=
  ['"'] ++ t.flatMap escapeChar ++ ['"']

def numberText : Number → Text
  | .natural n => Text.ofNat n
  | _ => ['0']

def boolText (b : Bool) : Text :=
  if b then ['t', 'r', 'u', 'e'] else ['f', 'a', 'l', 's', 'e']

def nullText : Text := ['n', 'u', 'l', 'l']

mutual
/-- The value without any space. -/
def compact : Json → Text
  | null => nullText
  | bool b => boolText b
  | number n => numberText n
  | string t => quote (t.getD [])
  | array items => ['['] ++ compactItems items ++ [']']
  | object members => ['\x7b'] ++ compactMembers members ++ ['\x7d']

def compactItems : List Json → Text
  | [] => []
  | [j] => compact j
  | j :: rest => compact j ++ [','] ++ compactItems rest

def compactMembers : List (Option Text × Json) → Text
  | [] => []
  | [(k, j)] => quote (k.getD []) ++ [':'] ++ compact j
  | (k, j) :: rest => quote (k.getD []) ++ [':'] ++ compact j ++ [','] ++ compactMembers rest
end

/-- The start of a line at the given level. -/
def newline (level : Nat) : Text :=
  '\n' :: List.replicate (2 * level) ' '

mutual
/-- The value over several lines, two spaces to a level. -/
def pretty (level : Nat) : Json → Text
  | null => nullText
  | bool b => boolText b
  | number n => numberText n
  | string t => quote (t.getD [])
  | array [] => ['[', ']']
  | array items => ['['] ++ prettyItems (level + 1) items ++ newline level ++ [']']
  | object [] => ['\x7b', '\x7d']
  | object members =>
    ['\x7b'] ++ prettyMembers (level + 1) members ++ newline level ++ ['\x7d']

def prettyItems (level : Nat) : List Json → Text
  | [] => []
  | [j] => newline level ++ pretty level j
  | j :: rest => newline level ++ pretty level j ++ [','] ++ prettyItems level rest

def prettyMembers (level : Nat) : List (Option Text × Json) → Text
  | [] => []
  | [(k, j)] => newline level ++ quote (k.getD []) ++ [':', ' '] ++ pretty level j
  | (k, j) :: rest =>
    newline level ++ quote (k.getD []) ++ [':', ' '] ++ pretty level j ++ [','] ++
      prettyMembers level rest
end

end Json

end TextSieve
