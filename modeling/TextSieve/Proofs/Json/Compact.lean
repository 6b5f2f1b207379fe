import Mathlib.Tactic.Common
import TextSieve.Json.Reader

/-!
What is written compactly is read back. The theorem is about values without numbers, whose texts end
where they end whatever comes behind them.
-/

namespace TextSieve.Json

theorem unit?_hexDigits : ∀ n < 0x20,
    hexDigits 4 n = ['0', '0', Nat.digitChar (n / 16), Nat.digitChar (n % 16)] ∧
      unit? '0' '0' (Nat.digitChar (n / 16)) (Nat.digitChar (n % 16)) = some n := by
  decide

/-- A unit that is no half of a pair stands for its character. -/
theorem string?_unit {a b c d : Char} {n : Nat} (h : unit? a b c d = some n) (small : n < 0xD800)
    (rest : Text) :
    string? none ('\\' :: 'u' :: a :: b :: c :: d :: rest) =
      (string? none rest).map (cons (Char.ofNat n)) := by
  have low : isLow n = false := by simp [isLow]; omega
  have high : isHigh n = false := by simp [isHigh]; omega
  simp [string?, h, low, high]

theorem string?_plain {c : Char} (quote : c ≠ '"') (backslash : c ≠ '\\') (h : ¬ c.toNat < 0x20)
    (rest : Text) : string? none (c :: rest) = (string? none rest).map (cons c) := by
  rw [string?]
  · simp [h, backslash, after]
  · exact quote
  · intro _ _ _ _ _ e; exact absurd e backslash
  · intro _ _ e; exact absurd e backslash

theorem string?_escapeChar (c : Char) (rest : Text) :
    string? none (escapeChar c ++ rest) = (string? none rest).map (cons c) := by
  unfold escapeChar
  split
  iterate 7 rfl
  · rename_i quote backslash _ _ _ _ _
    split
    · rename_i control
      obtain ⟨digits, unit⟩ := unit?_hexDigits c.toNat control
      rw [digits]
      simp only [List.cons_append, List.nil_append]
      rw [string?_unit unit (by omega), Char.ofNat_toNat]
    · rename_i plain
      exact string?_plain quote backslash plain rest

/-- A quoted text is read to its closing mark and no further. -/
theorem string?_escaped (t rest : Text) :
    string? none (t.flatMap escapeChar ++ '"' :: rest) = some (some t, rest) := by
  induction t with
  | nil => simp [string?, after]
  | cons c t ih =>
    rw [List.flatMap_cons, List.append_assoc, string?_escapeChar, ih]
    rfl

/-- Values without numbers, in which every string has a text. -/
inductive Worded : Json → Prop
  | null : Worded null
  | bool (b : Bool) : Worded (bool b)
  | text (t : Text) : Worded (text t)
  | array {items : List Json} (worded : ∀ j ∈ items, Worded j) : Worded (array items)
  | object {members : List (Option Text × Json)} (named : ∀ m ∈ members, m.1.isSome)
      (worded : ∀ m ∈ members, Worded m.2) : Worded (object members)

/-- The value is read from its text, whatever follows; two calls to a character are enough. -/
def Reads (j : Json) : Prop :=
  ∀ n rest, 2 * (compact j).length ≤ n → readValue? (n + 1) (compact j ++ rest) = some (j, rest)

theorem skipSpace_of_not {c : Char} (h : isSpace c = false) (t : Text) :
    skipSpace (c :: t) = c :: t := by
  simp [skipSpace, h]

/-- The first character of a value is no space and closes nothing. -/
theorem Worded.compact_eq_cons {j : Json} (h : Worded j) :
    ∃ c t, compact j = c :: t ∧ isSpace c = false ∧ c ≠ ']' := by
  cases h with
  | null => exact ⟨'n', ['u', 'l', 'l'], rfl, rfl, by decide⟩
  | bool b => cases b <;> exact ⟨_, _, rfl, rfl, by decide⟩
  | text t => exact ⟨'"', _, rfl, rfl, by decide⟩
  | array _ => exact ⟨'[', _, by rw [compact]; rfl, rfl, by decide⟩
  | object _ _ => exact ⟨'\x7b', _, by rw [compact]; rfl, rfl, by decide⟩

theorem Worded.skipSpace_append {j : Json} (h : Worded j) (rest : Text) :
    skipSpace (compact j ++ rest) = compact j ++ rest := by
  obtain ⟨c, t, start, noSpace, -⟩ := h.compact_eq_cons
  rw [start, List.cons_append, skipSpace_of_not noSpace]

theorem compactItems_cons (j : Json) (rest : List Json) :
    compactItems (j :: rest) =
      compact j ++ if rest = [] then [] else ',' :: compactItems rest := by
  cases rest <;> simp [compactItems]

theorem compactItems_eq_cons {items : List Json} (worded : ∀ j ∈ items, Worded j)
    (some_item : items ≠ []) :
    ∃ c t, compactItems items = c :: t ∧ isSpace c = false ∧ c ≠ ']' := by
  cases items with
  | nil => contradiction
  | cons j items =>
    obtain ⟨c, t, first, noSpace, opens⟩ := (worded j (List.mem_cons_self ..)).compact_eq_cons
    exact ⟨c, _, by rw [compactItems_cons, first]; rfl, noSpace, opens⟩

theorem readItems?_compactItems {items : List Json} (worded : ∀ j ∈ items, Worded j)
    (reads : ∀ j ∈ items, Reads j) (some_item : items ≠ []) {n : Nat}
    (enough : 2 * (compactItems items).length ≤ n) (rest : Text) :
    readItems? (n + 2) (compactItems items ++ ']' :: rest) = some (items, rest) := by
  induction items generalizing n with
  | nil => contradiction
  | cons j items ih =>
    rw [compactItems_cons, List.length_append] at enough
    rw [compactItems_cons, List.append_assoc, readItems?,
      reads j (List.mem_cons_self ..) n _ (by omega)]
    by_cases last : items = []
    · simp [last, skipSpace, isSpace]
    · have worded' : ∀ j ∈ items, Worded j := fun j h => worded j (List.mem_cons_of_mem _ h)
      obtain ⟨c, t, next, noSpace, -⟩ := compactItems_eq_cons worded' last
      simp only [last, if_false, List.length_cons] at enough
      obtain ⟨n, rfl⟩ := Nat.exists_eq_add_of_le' (show 1 ≤ n by omega)
      have tail := ih worded' (fun j h => reads j (List.mem_cons_of_mem _ h)) last
        (n := n) (by omega)
      rw [next] at tail ⊢
      simp only [last, if_false, List.cons_append, Option.bind_some] at tail ⊢
      rw [skipSpace_of_not rfl]
      simp only [skipSpace_of_not noSpace, tail, Option.map_some]

theorem compactMembers_cons (k : Text) (j : Json) (rest : List (Option Text × Json)) :
    compactMembers ((some k, j) :: rest) =
      '"' :: (k.flatMap escapeChar ++ '"' :: ':' :: (compact j ++
        if rest = [] then [] else ',' :: compactMembers rest)) := by
  cases rest <;> simp [compactMembers, quote]

theorem compactMembers_eq_cons {members : List (Option Text × Json)}
    (named : ∀ m ∈ members, m.1.isSome) (some_member : members ≠ []) :
    ∃ t, compactMembers members = '"' :: t := by
  cases members with
  | nil => contradiction
  | cons m members =>
    obtain ⟨k, j⟩ := m
    obtain ⟨k, rfl⟩ := Option.isSome_iff_exists.1 (named _ (List.mem_cons_self ..))
    exact ⟨_, compactMembers_cons k j members⟩

section

variable {j : Json} {n : Nat}

theorem readMembers?_last (worded : Worded j)
    (reads : ∀ rest, readValue? (n + 1) (compact j ++ rest) = some (j, rest)) (k rest : Text) :
    readMembers? (n + 2)
        ('"' :: (k.flatMap escapeChar ++ '"' :: ':' :: (compact j ++ '\x7d' :: rest))) =
      some ([(some k, j)], rest) := by
  rw [readMembers?, string?_escaped, Option.bind_some]
  simp [skipSpace_of_not, isSpace, worded.skipSpace_append, reads]

theorem readMembers?_more (worded : Worded j)
    (reads : ∀ rest, readValue? (n + 1) (compact j ++ rest) = some (j, rest)) (k : Text)
    {t rest : Text} {members : List (Option Text × Json)}
    (tail : readMembers? (n + 1) ('"' :: t) = some (members, rest)) :
    readMembers? (n + 2)
        ('"' :: (k.flatMap escapeChar ++ '"' :: ':' :: (compact j ++ ',' :: '"' :: t))) =
      some ((some k, j) :: members, rest) := by
  rw [readMembers?, string?_escaped, Option.bind_some]
  simp [skipSpace_of_not, isSpace, worded.skipSpace_append, reads, tail]

end

theorem readMembers?_compactMembers {members : List (Option Text × Json)}
    (named : ∀ m ∈ members, m.1.isSome) (worded : ∀ m ∈ members, Worded m.2)
    (reads : ∀ m ∈ members, Reads m.2) (some_member : members ≠ []) {n : Nat}
    (enough : 2 * (compactMembers members).length ≤ n) (rest : Text) :
    readMembers? (n + 2) (compactMembers members ++ '\x7d' :: rest) = some (members, rest) := by
  induction members generalizing n with
  | nil => contradiction
  | cons m members ih =>
    obtain ⟨k, j⟩ := m
    obtain ⟨k, rfl⟩ := Option.isSome_iff_exists.1 (named _ (List.mem_cons_self ..))
    have hj : Worded j := worded _ (List.mem_cons_self ..)
    rw [compactMembers_cons] at enough ⊢
    simp only [List.length_cons, List.length_append] at enough
    have value : ∀ rest, readValue? (n + 1) (compact j ++ rest) = some (j, rest) :=
      fun rest => reads (some k, j) (List.mem_cons_self ..) n rest (by simp only; omega)
    by_cases last : members = []
    · simpa [last] using readMembers?_last hj value k rest
    · have named' : ∀ m ∈ members, m.1.isSome := fun m h => named m (List.mem_cons_of_mem _ h)
      obtain ⟨t, next⟩ := compactMembers_eq_cons named' last
      simp only [last, if_false, List.length_cons] at enough
      obtain ⟨n, rfl⟩ := Nat.exists_eq_add_of_le' (show 1 ≤ n by omega)
      have tail := ih named' (fun m h => worded m (List.mem_cons_of_mem _ h))
        (fun m h => reads m (List.mem_cons_of_mem _ h)) last (n := n) (by omega)
      rw [next, List.cons_append] at tail
      simpa [last, next] using readMembers?_more hj value k tail

theorem reads_array {items : List Json} (worded : ∀ j ∈ items, Worded j)
    (reads : ∀ j ∈ items, Reads j) : Reads (array items) := by
  intro n rest enough
  cases items with
  | nil => simp [compact, compactItems, readValue?, skipSpace, isSpace]
  | cons j items =>
    simp only [compact, List.cons_append, List.nil_append, List.length_cons,
      List.length_append] at enough
    obtain ⟨n, rfl⟩ := Nat.exists_eq_add_of_le' (show 2 ≤ n by omega)
    obtain ⟨c, t, start, noSpace, opens⟩ := compactItems_eq_cons worded (List.cons_ne_nil j items)
    have found := readItems?_compactItems worded reads (List.cons_ne_nil j items) (n := n)
      (by omega) rest
    rw [compact]
    simp only [List.append_assoc, List.cons_append, List.nil_append, start] at found ⊢
    rw [readValue?]
    simp [skipSpace_of_not noSpace, opens, found]

theorem reads_object {members : List (Option Text × Json)} (named : ∀ m ∈ members, m.1.isSome)
    (worded : ∀ m ∈ members, Worded m.2) (reads : ∀ m ∈ members, Reads m.2) :
    Reads (object members) := by
  intro n rest enough
  cases members with
  | nil => simp [compact, compactMembers, readValue?, skipSpace, isSpace]
  | cons m members =>
    simp only [compact, List.cons_append, List.nil_append, List.length_cons,
      List.length_append] at enough
    obtain ⟨n, rfl⟩ := Nat.exists_eq_add_of_le' (show 2 ≤ n by omega)
    obtain ⟨t, start⟩ := compactMembers_eq_cons named (List.cons_ne_nil m members)
    have found := readMembers?_compactMembers named worded reads (List.cons_ne_nil m members)
      (n := n) (by omega) rest
    rw [compact]
    simp only [List.append_assoc, List.cons_append, List.nil_append, start] at found ⊢
    rw [readValue?]
    simp [skipSpace_of_not (c := '"') rfl, found]

theorem Worded.reads {j : Json} (h : Worded j) : Reads j := by
  induction h with
  | null => intro n rest _; rfl
  | bool b => intro n rest _; cases b <;> rfl
  | text t =>
    intro n rest _
    simp [Json.text, compact, quote, readValue?, string?_escaped]
  | array worded ih => exact reads_array worded ih
  | object named worded ih => exact reads_object named worded ih

/-- What is written compactly is read back. -/
theorem read?_compact {j : Json} (h : Worded j) : read? (compact j) = some j := by
  have start := h.skipSpace_append []
  have found := h.reads (2 * (compact j).length + 1) [] (by omega)
  rw [List.append_nil] at start found
  rw [read?, start, found]
  rfl

end TextSieve.Json
