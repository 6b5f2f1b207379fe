import Mathlib.Data.List.Forall2
import Mathlib.Tactic.Common
import TextSieve.Pattern.Matching
import TextSieve.Proofs.Text.Places

/-! What an expression matches, said without running it. `r.Matches u w v` is about a text in three
parts: `r` matches `w` with `u` before it and `v` behind it. `r.Goes t t'` says the same of threads
and keeps what the groups have seen. The two agree on the places they lead to. -/

namespace TextSieve

namespace Pattern

namespace Cursor

def between (u v : Text) : Cursor := ⟨Text.size u, u.getLast?, v⟩

@[simp] theorem between_before (u v : Text) : (between u v).before = u.getLast? := rfl
@[simp] theorem between_rest (u v : Text) : (between u v).rest = v := rfl

theorem start_eq_between (t : Text) : start t = between [] t := rfl

theorem past_between (u v : Text) (c : Char) :
    (between u (c :: v)).past c v = between (u ++ [c]) v := by
  simp [between, past]

def In (t : Text) (k : Cursor) : Prop := ∃ u v, t = u ++ v ∧ k = between u v

theorem In.between {t u v : Text} (h : t = u ++ v) : In t (between u v) := ⟨u, v, h, rfl⟩

/-- Places of one text are told apart by their offsets. -/
theorem In.eq_of_offset {t : Text} {k m : Cursor} (hk : In t k) (hm : In t m)
    (h : k.offset = m.offset) : k = m := by
  obtain ⟨u, v, rfl, rfl⟩ := hk
  obtain ⟨u', v', he, rfl⟩ := hm
  obtain ⟨rfl, rfl⟩ := Text.append_inj_of_size he h
  rfl

/-- Places of one text are told apart by how much of the text is left. -/
theorem In.eq_of_length {t : Text} {k m : Cursor} (hk : In t k) (hm : In t m)
    (h : k.rest.length = m.rest.length) : k = m := by
  obtain ⟨u, v, rfl, rfl⟩ := hk
  obtain ⟨u', v', he, rfl⟩ := hm
  obtain ⟨rfl, rfl⟩ := List.append_inj' he h
  rfl

end Cursor

namespace Regex

def Rounds (round : Text → Text → Text → Prop) : Nat → Text → Text → Text → Prop
  | 0, _, w, _ => w = []
  | n + 1, u, w, v => ∃ x y, w = x ++ y ∧ round u x (y ++ v) ∧ Rounds round n (u ++ x) y v

/-- The expression matches `w` with `u` before it and `v` behind it. A bounded repetition takes its
`low` rounds and then up to as many as are missing to `high`. -/
def Matches : Regex → Text → Text → Text → Prop
  | empty, _, w, _ => w = []
  | one s, _, w, _ => ∃ c, w = [c] ∧ s.contains c = true
  | look l, u, w, v => w = [] ∧ l.holds u.getLast? v.head? = true
  | cat a b, u, w, v => ∃ x y, w = x ++ y ∧ a.Matches u x (y ++ v) ∧ b.Matches (u ++ x) y v
  | alt a b, u, w, v => a.Matches u w v ∨ b.Matches u w v
  | rep r low high _, u, w, v =>
    ∃ more, (∀ h ∈ high, more ≤ h - low) ∧ Rounds r.Matches (low + more) u w v
  | group _ r, u, w, v => r.Matches u w v

theorem matches_cats_cons {r : Regex} {rs : List Regex} {u w v : Text} :
    (cats (r :: rs)).Matches u w v ↔
      ∃ x y, w = x ++ y ∧ r.Matches u x (y ++ v) ∧ (cats rs).Matches (u ++ x) y v := by
  cases rs with
  | nil => simp [cats, Matches]
  | cons r' rs => rfl

theorem matches_cats_append {rs rs' : List Regex} {u w v : Text} :
    (cats (rs ++ rs')).Matches u w v ↔
      ∃ x y, w = x ++ y ∧ (cats rs).Matches u x (y ++ v) ∧ (cats rs').Matches (u ++ x) y v := by
  induction rs generalizing u w with
  | nil => simp [cats, Matches]
  | cons r rs ih =>
    simp only [List.cons_append, matches_cats_cons, ih]
    constructor
    · intro h
      obtain ⟨x, _, rfl, hr, y, z, rfl, hrs, hrs'⟩ := h
      exact ⟨x ++ y, z, by simp, ⟨x, y, rfl, by simpa using hr, hrs⟩, by simpa using hrs'⟩
    · intro h
      obtain ⟨_, z, rfl, ⟨x, y, rfl, hr, hrs⟩, hrs'⟩ := h
      exact ⟨x, y ++ z, by simp, by simpa using hr, y, z, rfl, hrs, by simpa using hrs'⟩

theorem matches_alts {rs : List Regex} (h : rs ≠ []) {u w v : Text} :
    (alts rs).Matches u w v ↔ ∃ r ∈ rs, r.Matches u w v := by
  induction rs with
  | nil => exact absurd rfl h
  | cons r rs ih =>
    cases rs with
    | nil => simp [alts]
    | cons r' rs =>
      simp only [List.mem_cons, exists_eq_or_imp]
      exact or_congr_right ((ih (by simp)).trans (by simp))

/-- Sets one behind the other match as many characters, each in its set. -/
theorem matches_cats_one {set : Char → CharSet} {t u w v : Text} :
    (cats (t.map fun c => one (set c))).Matches u w v ↔
      List.Forall₂ (fun d c => (set c).contains d = true) w t := by
  induction t generalizing u w with
  | nil => exact List.forall₂_nil_right_iff.symm
  | cons c t ih =>
    simp only [List.map_cons, matches_cats_cons, ih]
    constructor
    · intro h
      obtain ⟨_, y, rfl, ⟨d, rfl, hd⟩, hy⟩ := h
      exact .cons hd hy
    · intro h
      obtain ⟨d, y, hd, hy, rfl⟩ := List.forall₂_cons_right_iff.1 h
      exact ⟨[d], y, rfl, ⟨d, rfl, hd⟩, hy⟩

/-- Single characters one behind the other match the text that they spell. -/
theorem matches_cats_single {t u w v : Text} :
    (cats (t.map fun c => one (.single c))).Matches u w v ↔ w = t := by
  rw [matches_cats_one]
  simp only [CharSet.contains_single]
  exact iff_of_eq (congrFun₂ List.forall₂_eq_eq_eq w t)

theorem rounds_one {s : CharSet} {n : Nat} {u w v : Text} :
    Rounds (one s).Matches n u w v ↔ w.length = n ∧ ∀ c ∈ w, s.contains c = true := by
  induction n generalizing u w with
  | zero =>
    simp only [Rounds, List.length_eq_zero_iff]
    constructor
    · rintro rfl
      exact ⟨rfl, by simp⟩
    · exact And.left
  | succ n ih =>
    simp only [Rounds, ih]
    constructor
    · intro h
      obtain ⟨_, y, rfl, ⟨c, rfl, hc⟩, hy, hall⟩ := h
      exact ⟨by simp [hy], by simpa [hc] using hall⟩
    · intro h
      obtain ⟨hlen, hall⟩ := h
      cases w with
      | nil => simp at hlen
      | cons c w =>
        exact ⟨[c], w, rfl, ⟨c, rfl, hall c List.mem_cons_self⟩, by simpa using hlen,
          fun d hd => hall d (List.mem_cons_of_mem c hd)⟩

theorem matches_rep {r : Regex} {low : Nat} {high : Option Nat} {greedy : Bool} {u w v : Text} :
    (rep r low high greedy).Matches u w v ↔
      ∃ more, (∀ h ∈ high, more ≤ h - low) ∧ Rounds r.Matches (low + more) u w v := Iff.rfl

theorem matches_atLeast_one {s : CharSet} {low : Nat} {greedy : Bool} {u w v : Text} :
    (rep (one s) low none greedy).Matches u w v ↔
      low ≤ w.length ∧ ∀ c ∈ w, s.contains c = true := by
  simp only [matches_rep, rounds_one]
  constructor
  · intro h
    obtain ⟨more, -, hlen, hall⟩ := h
    exact ⟨by omega, hall⟩
  · intro h
    obtain ⟨hlow, hall⟩ := h
    exact ⟨w.length - low, by simp, by omega, hall⟩

theorem matches_rep_one {s : CharSet} {greedy : Bool} {u w v : Text} :
    (rep (one s) 0 none greedy).Matches u w v ↔ ∀ c ∈ w, s.contains c = true := by
  simp [matches_atLeast_one]

/-- A counted repetition of a set matches that many of its members, also where it is written without
a repetition. -/
theorem matches_repeated_one {s : CharSet} {n : Nat} {greedy : Bool} {u w v : Text} :
    ((one s).repeated n (some n) greedy).Matches u w v ↔
      w.length = n ∧ ∀ c ∈ w, s.contains c = true := by
  rw [← rounds_one (u := u) (v := v)]
  simp only [repeated, isEmptyOnly, Bool.false_eq_true, if_false, Option.some.injEq]
  split
  · subst n
    rfl
  · split
    · rename_i h
      obtain ⟨rfl, -⟩ := h
      simp [Rounds]
    · simp [matches_rep]

def Steps (step : Thread → Thread → Prop) : Nat → Thread → Thread → Prop
  | 0, t, t' => t' = t
  | n + 1, t, t' => ∃ m, step t m ∧ Steps step n m t'

def Goes : Regex → Thread → Thread → Prop
  | empty, t, t' => t' = t
  | one s, t, t' => t.past? s = some t'
  | look l, t, t' => t' = t ∧ t.meets l = true
  | cat a b, t, t' => ∃ m, a.Goes t m ∧ b.Goes m t'
  | alt a b, t, t' => a.Goes t t' ∨ b.Goes t t'
  | rep r low high _, t, t' =>
    ∃ more, (∀ h ∈ high, more ≤ h - low) ∧ Steps r.Goes (low + more) t t'
  | group name r, t, t' => ∃ m, r.Goes t.openGroup m ∧ t' = m.closeGroup name

theorem goes_cats_cons {r : Regex} {rs : List Regex} {t t' : Thread} :
    (cats (r :: rs)).Goes t t' ↔ ∃ m, r.Goes t m ∧ (cats rs).Goes m t' := by
  cases rs with
  | nil => simp [cats, Goes]
  | cons r' rs => rfl

theorem steps_add {step : Thread → Thread → Prop} {m n : Nat} {t t' : Thread} :
    Steps step (m + n) t t' ↔ ∃ s, Steps step m t s ∧ Steps step n s t' := by
  induction m generalizing t with
  | zero => simp [Steps]
  | succ m ih =>
    rw [show m + 1 + n = m + n + 1 by omega]
    constructor
    · intro hx
      obtain ⟨s, hs, h⟩ := hx
      obtain ⟨s', h1, h2⟩ := ih.1 h
      exact ⟨s', ⟨s, hs, h1⟩, h2⟩
    · intro hx
      obtain ⟨s', ⟨s, hs, h1⟩, h2⟩ := hx
      exact ⟨s, hs, ih.2 ⟨s', h1, h2⟩⟩

theorem steps_one {step : Thread → Thread → Prop} {t t' : Thread} :
    Steps step 1 t t' ↔ step t t' := by
  simp [Steps]

/-- The places that a relation on threads leads to are the ends of what the relation on texts
matches. -/
def Agree (step : Thread → Thread → Prop) (round : Text → Text → Text → Prop) : Prop :=
  ∀ (t : Thread) (u v : Text), t.cursor = .between u v → ∀ k,
    (∃ t', step t t' ∧ t'.cursor = k) ↔
      ∃ w v', v = w ++ v' ∧ k = .between (u ++ w) v' ∧ round u w v'

theorem agree_stay : Agree (fun t t' => t' = t) (fun _ w _ => w = []) := by
  intro t u v ht k
  constructor
  · intro h
    obtain ⟨_, rfl, rfl⟩ := h
    exact ⟨[], v, rfl, by simpa using ht, rfl⟩
  · intro h
    obtain ⟨_, v', rfl, rfl, rfl⟩ := h
    exact ⟨t, rfl, by simpa using ht⟩

theorem agree_comp {s₁ s₂ : Thread → Thread → Prop} {r₁ r₂ : Text → Text → Text → Prop}
    (h₁ : Agree s₁ r₁) (h₂ : Agree s₂ r₂) :
    Agree (fun t t' => ∃ m, s₁ t m ∧ s₂ m t')
      (fun u w v => ∃ x y, w = x ++ y ∧ r₁ u x (y ++ v) ∧ r₂ (u ++ x) y v) := by
  intro t u v ht k
  constructor
  · intro h
    obtain ⟨t', ⟨m, hm, ht'⟩, rfl⟩ := h
    obtain ⟨x, v', rfl, hx, hr⟩ := (h₁ t u v ht _).1 ⟨m, hm, rfl⟩
    obtain ⟨y, v'', rfl, hy, hr'⟩ := (h₂ m _ _ hx _).1 ⟨t', ht', rfl⟩
    exact ⟨x ++ y, v'', by simp, by simp [hy], x, y, rfl, hr, hr'⟩
  · intro h
    obtain ⟨_, v', rfl, rfl, x, y, rfl, hr, hr'⟩ := h
    obtain ⟨m, hm, hx⟩ := (h₁ t u _ ht _).2 ⟨x, y ++ v', by simp, rfl, hr⟩
    obtain ⟨t', ht', hy⟩ := (h₂ m _ _ hx _).2 ⟨y, v', rfl, rfl, hr'⟩
    exact ⟨t', ⟨m, hm, ht'⟩, by simp [hy]⟩

theorem agree_steps {step : Thread → Thread → Prop} {round : Text → Text → Text → Prop}
    (h : Agree step round) (n : Nat) : Agree (Steps step n) (Rounds round n) := by
  induction n with
  | zero => exact agree_stay
  | succ n ih => exact agree_comp h ih

theorem agree_one (s : CharSet) : Agree (one s).Goes (one s).Matches := by
  intro t u v ht k
  simp only [Goes, Matches, Thread.past?, ht, Cursor.between_rest]
  cases v with
  | nil => simp
  | cons c v =>
    constructor
    · intro hx
      obtain ⟨t', h, rfl⟩ := hx
      obtain ⟨hc, rfl⟩ : s.contains c = true ∧ _ = t' := by simpa using h
      exact ⟨[c], v, rfl, by simp [Cursor.past_between], c, rfl, hc⟩
    · intro hx
      obtain ⟨_, v', he, rfl, d, rfl, hd⟩ := hx
      obtain ⟨rfl, rfl⟩ : c = d ∧ v = v' := by simpa using he
      exact ⟨{ t with cursor := (Cursor.between u (c :: v)).past c v }, by simp [hd],
        by simp [Cursor.past_between]⟩

theorem agree_look (l : Look) : Agree (look l).Goes (look l).Matches := by
  intro t u v ht k
  simp only [Goes, Matches]
  constructor
  · intro hx
    obtain ⟨_, ⟨rfl, h⟩, rfl⟩ := hx
    exact ⟨[], v, rfl, by simpa using ht, rfl, by simpa [Thread.meets, ht] using h⟩
  · intro hx
    obtain ⟨_, v', rfl, rfl, rfl, h⟩ := hx
    exact ⟨t, ⟨rfl, by simpa [Thread.meets, ht] using h⟩, by simpa using ht⟩

theorem cursor_closeGroup (name : Text) (t : Thread) : (t.closeGroup name).cursor = t.cursor := by
  unfold Thread.closeGroup
  split <;> rfl

/-- Threads reach exactly the places where the expression matches up to. -/
theorem agree_goes (r : Regex) : Agree r.Goes r.Matches := by
  induction r with
  | empty => exact agree_stay
  | one s => exact agree_one s
  | look l => exact agree_look l
  | cat a b iha ihb => exact agree_comp iha ihb
  | alt a b iha ihb =>
    intro t u v ht k
    simp only [Goes, Matches, or_and_right, and_or_left, exists_or, iha t u v ht k, ihb t u v ht k]
  | rep r low high greedy ih =>
    intro t u v ht k
    constructor
    · intro hx
      obtain ⟨t', ⟨more, hm, h⟩, rfl⟩ := hx
      obtain ⟨w, v', rfl, hk, hr⟩ := (agree_steps ih _ t u v ht _).1 ⟨t', h, rfl⟩
      exact ⟨w, v', rfl, hk, more, hm, hr⟩
    · intro hx
      obtain ⟨w, v', rfl, rfl, more, hm, hr⟩ := hx
      obtain ⟨t', h, hk⟩ := (agree_steps ih _ t u _ ht _).2 ⟨w, v', rfl, rfl, hr⟩
      exact ⟨t', ⟨more, hm, h⟩, hk⟩
  | group name r ih =>
    intro t u v ht k
    constructor
    · intro hx
      obtain ⟨_, ⟨m, hm, rfl⟩, rfl⟩ := hx
      exact (ih t.openGroup u v ht _).1 ⟨m, hm, (cursor_closeGroup name m).symm⟩
    · intro h
      obtain ⟨m, hm, rfl⟩ := (ih t.openGroup u v ht k).2 h
      exact ⟨_, ⟨m, hm, rfl⟩, cursor_closeGroup name m⟩

def Ungrouped : Regex → Prop
  | empty | one _ | look _ => True
  | cat a b | alt a b => a.Ungrouped ∧ b.Ungrouped
  | rep r _ _ _ => r.Ungrouped
  | group _ _ => False

/-- What holds of the parts of a sequence, and of two expressions together, holds of the whole. -/
theorem cats_of_forall {P : Regex → Prop} (hempty : P empty)
    (hcat : ∀ a b, P a → P b → P (cat a b)) {rs : List Regex} (h : ∀ r ∈ rs, P r) :
    P (cats rs) := by
  induction rs with
  | nil => exact hempty
  | cons r rs ih =>
    obtain ⟨hr, hrs⟩ := List.forall_mem_cons.1 h
    cases rs with
    | nil => exact hr
    | cons r' rs => exact hcat _ _ hr (ih hrs)

theorem alts_of_forall {P : Regex → Prop} (hempty : P empty)
    (halt : ∀ a b, P a → P b → P (alt a b)) {rs : List Regex} (h : ∀ r ∈ rs, P r) :
    P (alts rs) := by
  induction rs with
  | nil => exact hempty
  | cons r rs ih =>
    obtain ⟨hr, hrs⟩ := List.forall_mem_cons.1 h
    cases rs with
    | nil => exact hr
    | cons r' rs => exact halt _ _ hr (ih hrs)

/-- A repetition may be left out, or be its expression itself. -/
theorem repeated_of_forall {P : Regex → Prop} {r : Regex} {low : Nat} {high : Option Nat}
    {greedy : Bool} (hempty : P empty) (hr : P r) (hrep : ∀ low high, P (rep r low high greedy)) :
    P (r.repeated low high greedy) := by
  have hany : ∀ (low : Nat) (high : Option Nat), P (if high = some 0 then empty else
      if low = 1 ∧ high = some 1 then r else rep r low high greedy) := by
    intro low high
    split
    · exact hempty
    · split
      · exact hr
      · exact hrep low high
  exact hany _ _

theorem ungrouped_cats {rs : List Regex} (h : ∀ r ∈ rs, r.Ungrouped) : (cats rs).Ungrouped :=
  cats_of_forall trivial (fun _ _ ha hb => ⟨ha, hb⟩) h

theorem ungrouped_alts {rs : List Regex} (h : ∀ r ∈ rs, r.Ungrouped) : (alts rs).Ungrouped :=
  alts_of_forall trivial (fun _ _ ha hb => ⟨ha, hb⟩) h

theorem same_of_past? {s : CharSet} {t t' : Thread} (h : t.past? s = some t') :
    t'.opened = t.opened ∧ t'.groups = t.groups := by
  unfold Thread.past? at h
  split at h
  · cases h
  · split at h
    · obtain rfl := Option.some.inj h
      exact ⟨rfl, rfl⟩
    · cases h

/-- What no step changes, no number of steps changes. -/
theorem eq_of_steps {α : Type} {step : Thread → Thread → Prop} {get : Thread → α}
    {n : Nat} {t t' : Thread} (hs : Steps step n t t') (h : ∀ t t', step t t' → get t' = get t) :
    get t' = get t := by
  induction n generalizing t with
  | zero => exact congrArg get hs
  | succ n ih =>
    obtain ⟨m, hm, hs⟩ := hs
    exact (ih hs).trans (h t m hm)

/-- The groups that an expression opens are closed where it ends. -/
theorem opened_of_goes {r : Regex} {t t' : Thread} (h : r.Goes t t') : t'.opened = t.opened := by
  induction r generalizing t t' with
  | empty => exact congrArg Thread.opened h
  | one s => exact (same_of_past? h).1
  | look l => exact congrArg Thread.opened h.1
  | cat a b iha ihb =>
    obtain ⟨m, hm, h⟩ := h
    exact (ihb h).trans (iha hm)
  | alt a b iha ihb => exact h.elim iha ihb
  | rep r low high greedy ih =>
    obtain ⟨more, -, h⟩ := h
    exact eq_of_steps h fun _ _ => ih
  | group name r ih =>
    obtain ⟨m, hm, rfl⟩ := h
    simp [Thread.closeGroup, ih hm, Thread.openGroup]

theorem groups_of_goes {r : Regex} (hr : r.Ungrouped) {t t' : Thread} (h : r.Goes t t') :
    t'.groups = t.groups := by
  induction r generalizing t t' with
  | empty => exact congrArg Thread.groups h
  | one s => exact (same_of_past? h).2
  | look l => exact congrArg Thread.groups h.1
  | cat a b iha ihb =>
    obtain ⟨m, hm, h⟩ := h
    exact (ihb hr.2 h).trans (iha hr.1 hm)
  | alt a b iha ihb => exact h.elim (iha hr.1) (ihb hr.2)
  | rep r low high greedy ih =>
    obtain ⟨more, -, h⟩ := h
    exact eq_of_steps h fun _ _ => ih hr
  | group name r ih => exact hr.elim

end Regex

end Pattern

end TextSieve
