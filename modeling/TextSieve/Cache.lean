import TextSieve.Term.Compiled

/-!
The cache of compiled terms. A term is compiled when it is first asked for and found from then on;
a term that does not compile leaves the cache as it was. The counters say how often either happened.
-/

namespace TextSieve

/-- A stored term; the serial number tells stored terms apart. -/
structure Entry where
  serial : Nat
  key : TermKey
  term : CompiledTerm
deriving DecidableEq, Repr

structure Cache where
  /-- The stored terms, the latest first. -/
  entries : List Entry := []
  compilations : Nat := 0
  hits : Nat := 0
deriving DecidableEq, Repr

/-- A computation that asks the cache for terms. An error keeps what the cache has learnt. -/
abbrev Cached (α : Type) := ExceptT Error (StateM Cache) α

namespace Cache

def find? (c : Cache) (k : TermKey) : Option Entry :=
  c.entries.find? (·.key == k)

/-- Stores a term that was just compiled. -/
def store (c : Cache) (k : TermKey) (t : CompiledTerm) : Entry × Cache :=
  let entry : Entry := ⟨c.entries.length, k, t⟩
  (entry, { c with entries := entry :: c.entries, compilations := c.compilations + 1 })

/-- The entry of a key, compiled now if there is none. -/
def fetch (k : TermKey) : Cached Entry := fun c =>
  match c.find? k with
  | some entry => (.ok entry, { c with hits := c.hits + 1 })
  | none =>
    match CompiledTerm.compile k with
    | .error e => (.error e, c)
    | .ok t => let (entry, c) := c.store k t; (.ok entry, c)

theorem fetch_of_find? {c : Cache} {k : TermKey} {e : Entry} (h : c.find? k = some e) :
    fetch k c = (.ok e, { c with hits := c.hits + 1 }) := by
  simp [fetch, h]

theorem fetch_of_error {c : Cache} {k : TermKey} {e : Error} (h : c.find? k = none)
    (he : CompiledTerm.compile k = .error e) : fetch k c = (.error e, c) := by
  simp [fetch, h, he]

end Cache

end TextSieve
