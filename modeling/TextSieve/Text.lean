import TextSieve.Unicode.Properties

/-!
Texts and places in them. A text is a list of characters; a place is counted in the bytes of its
UTF-8 form, so offsets agree with those of the written file. A span is the stretch between two
places, and `slice` takes it out of the text.
-/

namespace TextSieve

abbrev Text := List Char

/-- From the byte `start` up to, but not including, the byte `stop`. -/
structure Span where
  start : Nat
  stop : Nat
deriving DecidableEq, Repr

namespace Text

/-- The number of bytes of the UTF-8 form. -/
def size : Text → Nat
  | [] => 0
  | c :: rest => c.utf8Size + size rest

@[simp] theorem size_nil : size [] = 0 := rfl

@[simp] theorem size_cons (c : Char) (t : Text) : size (c :: t) = c.utf8Size + size t := rfl

@[simp] theorem size_append (s t : Text) : size (s ++ t) = size s + size t := by
  induction s with
  | nil => simp
  | cons c s ih => simp [ih, Nat.add_assoc]

/-- What follows the first `n` bytes. -/
def dropBytes : Nat → Text → Text
  | 0, t => t
  | _ + 1, [] => []
  | n + 1, c :: rest => dropBytes (n + 1 - c.utf8Size) rest

/-- The characters that fit into the first `n` bytes. -/
def takeBytes : Nat → Text → Text
  | _, [] => []
  | n, c :: rest => if c.utf8Size ≤ n then c :: takeBytes (n - c.utf8Size) rest else []

theorem dropBytes_size_append (s t : Text) : dropBytes (size s) (s ++ t) = t := by
  induction s with
  | nil => cases t <;> rfl
  | cons c s ih =>
    have hc := c.utf8Size_pos
    obtain ⟨k, hk⟩ : ∃ k, size (c :: s) = k + 1 := ⟨size (c :: s) - 1, by simp; omega⟩
    have hs : k + 1 - c.utf8Size = size s := by simp at hk; omega
    rw [hk, List.cons_append, dropBytes, hs, ih]

theorem takeBytes_size_append (s t : Text) : takeBytes (size s) (s ++ t) = s := by
  induction s with
  | nil =>
    cases t with
    | nil => rfl
    | cons c t =>
      have hc := c.utf8Size_pos
      have : ¬ c.utf8Size ≤ 0 := by omega
      simp [takeBytes, this]
  | cons c s ih => simp [takeBytes, ih]

def slice (t : Text) (s : Span) : Text :=
  takeBytes (s.stop - s.start) (dropBytes s.start t)

/-- A slice between two places that the text was cut at is what lies between the cuts. -/
theorem slice_append (u v w : Text) :
    slice (u ++ (v ++ w)) ⟨size u, size u + size v⟩ = v := by
  simp [slice, dropBytes_size_append, takeBytes_size_append]

/-- Whether a place lies between two characters or at an end of the text. -/
def isBoundary : Text → Nat → Bool
  | _, 0 => true
  | [], _ + 1 => false
  | c :: rest, n + 1 => c.utf8Size ≤ n + 1 && isBoundary rest (n + 1 - c.utf8Size)

def trimStart (t : Text) : Text :=
  t.dropWhile Unicode.isBlank

/-- Removes a beginning that the text must have. -/
def stripPrefix? : Text → Text → Option Text
  | [], t => some t
  | _ :: _, [] => none
  | p :: ps, c :: t => if p = c then stripPrefix? ps t else none

theorem stripPrefix?_eq_some_iff {p t r : Text} : stripPrefix? p t = some r ↔ t = p ++ r := by
  induction p generalizing t with
  | nil => simp [stripPrefix?]
  | cons p ps ih =>
    cases t with
    | nil => simp [stripPrefix?]
    | cons c t =>
      by_cases h : p = c
      · simp [stripPrefix?, h, ih]
      · simp [stripPrefix?, h, Ne.symm h]

/-- The text before and after the first occurrence of `needle`. -/
def cut? (needle : Text) : Text → Option (Text × Text)
  | [] => if needle = [] then some ([], []) else none
  | c :: rest =>
    match stripPrefix? needle (c :: rest) with
    | some after => some ([], after)
    | none => (cut? needle rest).map fun (before, after) => (c :: before, after)

/-- What is cut is put together again by the needle. -/
theorem eq_of_cut? {needle t before after : Text} (h : cut? needle t = some (before, after)) :
    t = before ++ needle ++ after := by
  induction t generalizing before with
  | nil =>
    simp only [cut?] at h
    split at h <;> simp_all
  | cons c rest ih =>
    simp only [cut?] at h
    split at h
    · rename_i heq
      obtain ⟨rfl, rfl⟩ : [] = before ∧ _ = after := by simpa using h
      simpa using stripPrefix?_eq_some_iff.1 heq
    · obtain ⟨⟨b, a⟩, hb, heq⟩ := Option.map_eq_some_iff.1 h
      obtain ⟨rfl, rfl⟩ : c :: b = before ∧ a = after := by simpa using heq
      simp [ih hb]

theorem cut?_singleton_eq_none {a : Char} {t : Text} (h : a ∉ t) : cut? [a] t = none := by
  induction t with
  | nil => rfl
  | cons c t ih =>
    have hc : a ≠ c := fun he => h (he ▸ List.mem_cons_self)
    simp [cut?, stripPrefix?, hc, ih fun hm => h (List.mem_cons_of_mem c hm)]

/-- A text is cut at the first of a sign. -/
theorem cut?_singleton_append {a : Char} {t : Text} (h : a ∉ t) (rest : Text) :
    cut? [a] (t ++ a :: rest) = some (t, rest) := by
  induction t with
  | nil => simp [cut?, stripPrefix?]
  | cons c t ih =>
    have hc : a ≠ c := fun he => h (he ▸ List.mem_cons_self)
    simp [cut?, stripPrefix?, hc, ih fun hm => h (List.mem_cons_of_mem c hm)]

/-- Puts `separator` between the texts. -/
def join (separator : Text) : List Text → Text
  | [] => []
  | [t] => t
  | t :: rest => t ++ separator ++ join separator rest

/-- Writes `replacement` in place of every `c`. -/
def replaceChar (c : Char) (replacement : Text) (t : Text) : Text :=
  t.flatMap fun x => if x = c then replacement else [x]

/-- One line without its end: a line feed, or a carriage return and a line feed. -/
private def closeLine : Text → Text
  | '\r' :: reversed => reversed.reverse
  | reversed => reversed.reverse

/-- The lines of a text; `current` holds the line read so far from its end. An end of line after
the last line opens no further one. -/
def linesFrom (current : Text) : Text → List Text
  | [] => if current = [] then [] else [current.reverse]
  | c :: rest =>
    if c = '\n' then closeLine current :: linesFrom [] rest else linesFrom (c :: current) rest

def lines (t : Text) : List Text :=
  linesFrom [] t

/-- Fills a text up to `width` characters with spaces. -/
def padRight (width : Nat) (t : Text) : Text :=
  t ++ List.replicate (width - t.length) ' '

def ofNat (n : Nat) : Text :=
  Nat.toDigits 10 n

/-- The number that a text of decimal digits stands for. -/
def digitsValue (t : Text) : Nat :=
  t.foldl (fun n c => 10 * n + (c.toNat - '0'.toNat)) 0

end Text

end TextSieve
