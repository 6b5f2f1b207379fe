import TextSieve.Unicode.Scripts

/-! Looking up scripts by name and by character. -/

namespace TextSieve.Unicode.Script

/-- The place of the script that goes by the name, which is given in lower case and without
separators. -/
def named? (name : String) : Option Nat :=
  Tables.scripts.findIdx? (·.names.contains name)

def has (index : Nat) (c : Char) : Bool :=
  match Tables.scripts[index]? with
  | some s => s.members.contains c.toNat
  | none => false

end TextSieve.Unicode.Script
