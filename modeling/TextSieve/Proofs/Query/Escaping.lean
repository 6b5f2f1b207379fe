import Mathlib.Tactic.Common
import TextSieve.Query.Slashed

/-! Escaping in pattern literals. Scanning undoes writing: a text that does not end in a backslash is
scanned back from its written form, whatever follows, and nothing else is ever scanned. The scanner
counts bytes, so it is first related to one that keeps what follows the literal. -/

namespace TextSieve.Slashed

variable {t p r : Text}

/-- The text up to the closing slash, and what follows it. -/
def scanBody? : Text → Option (Text × Text)
  | [] => none
  | '\\' :: '/' :: rest => (scanBody? rest).map fun (t, after) => ('/' :: t, after)
  | c :: rest =>
    if c = '/' then some ([], rest)
    else (scanBody? rest).map fun (t, after) => (c :: t, after)

theorem scanBody?_slash (x : Text) : scanBody? ('/' :: x) = some ([], x) := by
  simp [scanBody?]

theorem scanBody?_escaped (x : Text) :
    scanBody? ('\\' :: '/' :: x) = (scanBody? x).map fun (t, after) => ('/' :: t, after) := by
  simp [scanBody?]

theorem scanBody?_cons {c : Char} {x : Text} (hc : c ≠ '/') (hx : c = '\\' → x.head? ≠ some '/') :
    scanBody? (c :: x) = (scanBody? x).map fun (t, after) => (c :: t, after) := by
  rw [scanBody?.eq_def]
  split
  · rename_i heq
    cases heq
  · rename_i heq
    obtain ⟨rfl, rfl⟩ := List.cons.inj heq
    exact absurd rfl (hx rfl)
  · rename_i heq
    obtain ⟨rfl, rfl⟩ := List.cons.inj heq
    rw [if_neg hc]

/-- Scanning goes character by character, or by a backslash and the slash behind it. -/
theorem scan_induction {motive : Text → Prop} (nil : motive [])
    (escaped : ∀ x, motive x → motive ('\\' :: '/' :: x)) (slash : ∀ x, motive ('/' :: x))
    (cons : ∀ c x, c ≠ '/' → (c = '\\' → x.head? ≠ some '/') → motive x → motive (c :: x))
    (t : Text) : motive t := by
  induction t using scanBody?.induct with
  | case1 => exact nil
  | case2 x ih => exact escaped x ih
  | case3 x h => exact slash x
  | case4 c x h hc ih =>
    refine cons c x hc (fun hb hx => ?_) ih
    obtain ⟨y, rfl⟩ := List.head?_eq_some_iff.1 hx
    exact h y hb rfl

/-- A slash closes what has not been closed so far, if a character stands in front of it that does
not hide it. -/
theorem exists_scanBody?_append {x : Text} (h : scanBody? x = none) (rest : Text) :
    ∃ p, p ≠ [] ∧ scanBody? (x ++ 'x' :: '/' :: rest) = some (p, rest) := by
  induction x using scan_induction with
  | nil => exact ⟨['x'], by simp, by simp [scanBody?]⟩
  | escaped x ih =>
    rw [scanBody?_escaped, Option.map_eq_none_iff] at h
    obtain ⟨p, -, hp⟩ := ih h
    refine ⟨'/' :: p, by simp, ?_⟩
    rw [List.cons_append, List.cons_append, scanBody?_escaped, hp]
    rfl
  | slash x => simp [scanBody?_slash] at h
  | cons c x hc hx ih =>
    rw [scanBody?_cons hc hx, Option.map_eq_none_iff] at h
    obtain ⟨p, -, hp⟩ := ih h
    have hhead : c = '\\' → (x ++ 'x' :: '/' :: rest).head? ≠ some '/' := by
      intro hb
      cases x with
      | nil => simp
      | cons d x => exact hx hb
    refine ⟨c :: p, by simp, ?_⟩
    rw [List.cons_append, scanBody?_cons hc hhead, hp]
    rfl

theorem encode_ne_nil {p : Text} (hp : p ≠ []) : encode p ≠ [] := by
  obtain ⟨c, p, rfl⟩ := List.exists_cons_of_ne_nil hp
  rw [encode_cons]
  split <;> simp

theorem head?_encode_eq_slash_iff (p r : Text) :
    (encode p ++ '/' :: r).head? = some '/' ↔ p = [] := by
  cases p with
  | nil => simp
  | cons c p =>
    rw [encode_cons]
    by_cases hc : c = '/'
    · simp [hc]
    · simp [hc]

/-- A pattern in writing is scanned back, unless it ends in a backslash. -/
theorem scanBody?_write {p : Text} (hp : p.getLast? ≠ some '\\') (r : Text) :
    scanBody? (encode p ++ '/' :: r) = some (p, r) := by
  induction p with
  | nil => exact scanBody?_slash r
  | cons c p ih =>
    have hlast : p.getLast? ≠ some '\\' := by
      cases p with
      | nil => simp
      | cons d p => simpa using hp
    by_cases hc : c = '/'
    · subst hc
      have hcons : encode ('/' :: p) ++ '/' :: r = '\\' :: '/' :: (encode p ++ '/' :: r) := rfl
      rw [hcons, scanBody?_escaped, ih hlast, Option.map_some]
    · have hhead : c = '\\' → (encode p ++ '/' :: r).head? ≠ some '/' := by
        rintro rfl hslash
        rw [(head?_encode_eq_slash_iff p r).1 hslash] at hp
        exact hp rfl
      rw [encode_cons, if_neg hc, List.singleton_append, List.cons_append,
        scanBody?_cons hc hhead, ih hlast, Option.map_some]

theorem eq_of_scanBody? (h : scanBody? t = some (p, r)) : t = encode p ++ '/' :: r := by
  induction t using scan_induction generalizing p with
  | nil => cases h
  | escaped x ih =>
    rw [scanBody?_escaped] at h
    obtain ⟨⟨p', r'⟩, hp, heq⟩ := Option.map_eq_some_iff.1 h
    obtain ⟨rfl, rfl⟩ : '/' :: p' = p ∧ r' = r := by simpa using heq
    rw [ih hp]
    rfl
  | slash x =>
    rw [scanBody?_slash] at h
    obtain ⟨rfl, rfl⟩ : [] = p ∧ x = r := by simpa using h
    rfl
  | cons c x hc hx ih =>
    rw [scanBody?_cons hc hx] at h
    obtain ⟨⟨p', r'⟩, hp, heq⟩ := Option.map_eq_some_iff.1 h
    obtain ⟨rfl, rfl⟩ : c :: p' = p ∧ r' = r := by simpa using heq
    rw [ih hp, encode_cons, if_neg hc]
    rfl

/-- A backslash in front of the closing slash would have hidden it. -/
theorem getLast?_of_scanBody? (h : scanBody? t = some (p, r)) : p.getLast? ≠ some '\\' := by
  induction t using scan_induction generalizing p with
  | nil => cases h
  | escaped x ih =>
    rw [scanBody?_escaped] at h
    obtain ⟨⟨p', _⟩, hp, heq⟩ := Option.map_eq_some_iff.1 h
    obtain ⟨rfl, rfl⟩ : '/' :: p' = p ∧ _ = r := by simpa using heq
    have := ih hp
    cases p' with
    | nil => simp
    | cons d p' => simpa using this
  | slash x =>
    rw [scanBody?_slash] at h
    obtain ⟨rfl, -⟩ : [] = p ∧ x = r := by simpa using h
    simp
  | cons c x hc hx ih =>
    rw [scanBody?_cons hc hx] at h
    obtain ⟨⟨p', _⟩, hp, heq⟩ := Option.map_eq_some_iff.1 h
    obtain ⟨rfl, rfl⟩ : c :: p' = p ∧ _ = r := by simpa using heq
    have := ih hp
    cases p' with
    | nil =>
      have hhead : x.head? = some '/' := by
        rw [eq_of_scanBody? hp]
        rfl
      simpa using fun hb => hx hb hhead
    | cons d p' => simpa using this

/-- The bytes that are counted are those of what has been scanned as it was written. -/
theorem scanFrom?_eq_map (i : Nat) (x : Text) :
    scanFrom? i x = (scanBody? x).map fun found => (found.1, i + (encode found.1).size + 2) := by
  have hslash : ('/' : Char).utf8Size = 1 := rfl
  have hback : ('\\' : Char).utf8Size = 1 := rfl
  induction x using scanBody?.induct generalizing i with
  | case1 => rfl
  | case2 x ih =>
    simp only [scanFrom?, scanBody?, ih, Option.map_map]
    refine congrArg (Option.map · (scanBody? x)) (funext fun found => ?_)
    simp [encode_cons, hslash, hback]
    omega
  | case3 x h => simp [scanFrom?, scanBody?]
  | case4 c x h hc ih =>
    simp only [scanFrom?, scanBody?, hc, ih, Option.map_map, if_false]
    refine congrArg (Option.map · (scanBody? x)) (funext fun found => ?_)
    simp [encode_cons, hc]
    omega

theorem scan?_slash (x : Text) :
    scan? ('/' :: x) = (scanBody? x).map fun found => (found.1, (write found.1).size) := by
  rw [scan?, scanFrom?_eq_map]
  refine congrArg (Option.map · (scanBody? x)) (funext fun found => ?_)
  have hslash : ('/' : Char).utf8Size = 1 := rfl
  simp [write, hslash]
  omega

theorem write_append (p r : Text) : write p ++ r = '/' :: (encode p ++ '/' :: r) := by
  simp [write]

/-- Reading goes on right behind the bytes that were counted. -/
theorem dropBytes_of_scanBody? {x : Text} (h : scanBody? x = some (p, r)) :
    Text.dropBytes (write p).size ('/' :: x) = r := by
  rw [eq_of_scanBody? h, ← write_append, Text.dropBytes_size_append]

theorem scan?_of_scanBody? {x : Text} (h : scanBody? x = some (p, r)) :
    scan? ('/' :: x) = some (p, (write p).size) := by
  rw [scan?_slash, h, Option.map_some]

theorem exists_of_scan? {n : Nat} (h : scan? t = some (p, n)) :
    ∃ x, t = '/' :: x ∧ n = (write p).size ∧ scanBody? x = some (p, t.dropBytes n) := by
  unfold scan? at h
  split at h
  · rename_i x
    have hscan : scan? ('/' :: x) = some (p, n) := h
    rw [scan?_slash] at hscan
    obtain ⟨⟨q, r⟩, hbody, hfound⟩ := Option.map_eq_some_iff.1 hscan
    obtain ⟨rfl, rfl⟩ := Prod.mk.inj hfound
    exact ⟨x, rfl, rfl, (dropBytes_of_scanBody? hbody).symm ▸ hbody⟩
  · cases h

/-- A literal is scanned from a text, with its length, if and only if the text starts with what is
written for it. Then it does not end in a backslash. -/
theorem scan?_eq_some_iff (t p : Text) (n : Nat) :
    scan? t = some (p, n) ↔
      p.getLast? ≠ some '\\' ∧ ∃ r, t = write p ++ r ∧ n = (write p).size := by
  constructor
  · intro h
    obtain ⟨x, rfl, rfl, hbody⟩ := exists_of_scan? h
    refine ⟨getLast?_of_scanBody? hbody, Text.dropBytes (write p).size ('/' :: x), ?_, rfl⟩
    rw [write_append, ← eq_of_scanBody? hbody]
  · rintro ⟨hp, r, rfl, rfl⟩
    rw [write_append]
    exact scan?_of_scanBody? (scanBody?_write hp r)

-- of three backslashes the last one belongs to the slash behind it
example : scan? ['/', '\\', '\\', '\\', '/', 'é', '/', '/'] = some (['\\', '\\', '/', 'é'], 8) := by
  decide

end TextSieve.Slashed
