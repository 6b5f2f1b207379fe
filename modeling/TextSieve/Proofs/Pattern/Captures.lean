import TextSieve.Proofs.Pattern.Leftmost

/-! Where a match and its groups lie. A thread is sound from an offset of a text on if it is at a
place of the text from there on, as are the places where its open groups began and the spans of those
that are closed. Every step keeps a thread sound, so all that a search reports lies in the text, and
not before the place where the search began. -/

namespace TextSieve.Pattern

theorem Cursor.In.start (text : Text) : (start text).In text := ⟨[], text, rfl, rfl⟩

theorem Cursor.In.isBoundary {text : Text} {k : Cursor} (h : k.In text) :
    text.isBoundary k.offset = true := by
  obtain ⟨u, v, rfl, rfl⟩ := h
  exact Text.isBoundary_iff.2 ⟨u, v, rfl, rfl⟩

theorem Cursor.In.past {text : Text} {k : Cursor} (h : k.In text) {c : Char} {rest : Text}
    (hrest : k.rest = c :: rest) : (k.past c rest).In text := by
  obtain ⟨u, v, rfl, rfl⟩ := h
  obtain rfl : v = c :: rest := hrest
  rw [past_between]
  exact .between (by simp)

theorem Cursor.In.moveTo {text : Text} {k : Cursor} (h : k.In text) (n : Nat) :
    (k.moveTo n).In text ∧ (n ≤ text.size → n ≤ (k.moveTo n).offset) := by
  have hseek : ∀ (v u : Text) (before : Option Char), before = u.getLast? →
      (seek n (Text.size u) before v).In (u ++ v) ∧
        (n ≤ Text.size (u ++ v) → n ≤ (seek n (Text.size u) before v).offset) := by
    intro v
    induction v with
    | nil =>
      rintro u _ rfl
      exact ⟨.between rfl, by simp [seek]⟩
    | cons c v ih =>
      rintro u _ rfl
      rw [seek]
      split
      · rename_i hle
        exact ⟨.between rfl, fun _ => hle⟩
      · simpa using ih (u ++ [c]) (some c) (by simp)
  obtain ⟨u, v, rfl, rfl⟩ := h
  exact hseek v u _ rfl

namespace Thread

structure Sound (n : Nat) (text : Text) (t : Thread) : Prop where
  cursor : t.cursor.In text
  le_offset : n ≤ t.offset
  opened : ∀ m ∈ t.opened, n ≤ m ∧ m ≤ t.offset ∧ text.isBoundary m = true
  groups : ∀ g ∈ t.groups, n ≤ g.2.start ∧ g.2.Within text

variable {n : Nat} {text : Text} {t t' : Thread}

theorem sound_startAt {k : Cursor} (h : k.In text) : (startAt k).Sound k.offset text :=
  ⟨h, Nat.le_refl _, by simp [startAt], by simp [startAt]⟩

theorem Sound.mono {m : Nat} (h : t.Sound n text) (hle : m ≤ n) : t.Sound m text where
  cursor := h.cursor
  le_offset := Nat.le_trans hle h.le_offset
  opened := fun k hk => (h.opened k hk).imp_left (Nat.le_trans hle)
  groups := fun g hg => (h.groups g hg).imp_left (Nat.le_trans hle)

theorem Sound.openGroup (h : t.Sound n text) : t.openGroup.Sound n text where
  cursor := h.cursor
  le_offset := h.le_offset
  opened := List.forall_mem_cons.2 ⟨⟨h.le_offset, Nat.le_refl _, h.cursor.isBoundary⟩, h.opened⟩
  groups := h.groups

theorem Sound.closeGroup (h : t.Sound n text) (name : Text) : (t.closeGroup name).Sound n text := by
  unfold Thread.closeGroup
  split
  · exact h
  · rename_i start opened hopened
    obtain ⟨⟨hstart, hle, hboundary⟩, hrest⟩ := List.forall_mem_cons.1 (hopened ▸ h.opened)
    refine ⟨h.cursor, h.le_offset, hrest,
      List.forall_mem_cons.2 ⟨⟨hstart, hle, ?_, hboundary, ?_⟩, h.groups⟩⟩
    · obtain ⟨u, v, rfl, hk⟩ := h.cursor
      simp [offset, hk, Cursor.between]
    · exact h.cursor.isBoundary

theorem Sound.past? (h : t.Sound n text) {s : CharSet} (ht : t.past? s = some t') :
    t'.Sound n text := by
  unfold Thread.past? at ht
  split at ht
  · cases ht
  · rename_i c rest hrest
    split at ht
    · obtain rfl := Option.some.inj ht
      refine ⟨h.cursor.past hrest, Nat.le_trans h.le_offset (Nat.le_add_right _ _), fun m hm => ?_,
        h.groups⟩
      obtain ⟨hn, hle, hboundary⟩ := h.opened m hm
      exact ⟨hn, Nat.le_trans hle (Nat.le_add_right _ _), hboundary⟩
    · cases ht

/-- The span of a named group is among those that the thread has closed. -/
theorem Sound.group? (h : t.Sound n text) {name : Text} {s : Span} (hs : t.group? name = some s) :
    n ≤ s.start ∧ s.Within text := by
  obtain ⟨g, hg, rfl⟩ := Option.map_eq_some_iff.1 hs
  exact h.groups g (List.mem_of_find?_eq_some hg)

end Thread

namespace Regex

open Thread

variable {r : Regex} {n : Nat} {text u v : Text} {t t' f : Thread}

theorem sound_of_steps {step : Thread → Thread → Prop} {k : Nat} (hs : Steps step k t t')
    (h : ∀ t t', step t t' → t.Sound n text → t'.Sound n text) (ht : t.Sound n text) :
    t'.Sound n text := by
  induction k generalizing t with
  | zero =>
    obtain rfl : t' = t := hs
    exact ht
  | succ k ih =>
    obtain ⟨m, hm, hs⟩ := hs
    exact ih hs (h t m hm ht)

theorem sound_of_goes (h : r.Goes t t') (ht : t.Sound n text) : t'.Sound n text := by
  induction r generalizing t t' with
  | empty =>
    obtain rfl : t' = t := h
    exact ht
  | one s => exact ht.past? h
  | look l =>
    obtain ⟨rfl, -⟩ := h
    exact ht
  | cat a b iha ihb =>
    obtain ⟨m, hm, h⟩ := h
    exact ihb h (iha hm ht)
  | alt a b iha ihb => exact h.elim (fun h => iha h ht) (fun h => ihb h ht)
  | rep r low high greedy ih =>
    obtain ⟨more, -, h⟩ := h
    exact sound_of_steps h (fun _ _ => ih) ht
  | group name r ih =>
    obtain ⟨m, hm, rfl⟩ := h
    exact (ih hm ht.openGroup).closeGroup name

theorem start_of_past? {s : CharSet} (h : t.past? s = some t') : t'.start = t.start := by
  unfold Thread.past? at h
  split at h
  · cases h
  · split at h
    · obtain rfl := Option.some.inj h
      rfl
    · cases h

theorem start_closeGroup (name : Text) (t : Thread) : (t.closeGroup name).start = t.start := by
  unfold Thread.closeGroup
  split <;> rfl

theorem start_of_goes (h : r.Goes t t') : t'.start = t.start := by
  induction r generalizing t t' with
  | empty => exact congrArg Thread.start h
  | one s => exact start_of_past? h
  | look l => exact congrArg Thread.start h.1
  | cat a b iha ihb =>
    obtain ⟨m, hm, h⟩ := h
    exact (ihb h).trans (iha hm)
  | alt a b iha ihb => exact h.elim iha ihb
  | rep r low high greedy ih =>
    obtain ⟨more, -, h⟩ := h
    exact eq_of_steps h fun _ _ => ih
  | group name r ih =>
    obtain ⟨m, hm, rfl⟩ := h
    have hm : m.start = t.openGroup.start := ih hm
    exact (start_closeGroup name m).trans hm

/-- A match lies behind the place where the search began, and its groups lie in the text. -/
theorem exists_of_search (h : r.search (.between u v) = some f) :
    ∃ x w y, v = x ++ w ++ y ∧ f.start = Text.size (u ++ x) ∧
      f.cursor = .between (u ++ x ++ w) y ∧ f.Sound (Text.size u) (u ++ v) := by
  obtain ⟨x, z, rfl, hg, -⟩ := first_of_search h
  obtain ⟨w, y, rfl, hcursor, -⟩ := (agree_goes r _ (u ++ x) z rfl _).1 ⟨f, hg, rfl⟩
  have hsound := sound_of_goes hg (sound_startAt (.between (List.append_assoc u x (w ++ y)).symm))
  refine ⟨x, w, y, by simp, start_of_goes hg, hcursor, hsound.mono ?_⟩
  simp [Cursor.between]

theorem sound_of_search {k : Cursor} (hk : k.In text) (h : r.search k = some f) :
    f.Sound k.offset text := by
  obtain ⟨u, v, rfl, rfl⟩ := hk
  obtain ⟨-, -, -, -, -, -, hf⟩ := exists_of_search h
  exact hf

/-- The match lies behind a place of the text, and so do its groups. -/
structure Behind (text : Text) (n : Nat) (f : Thread) : Prop where
  sound : f.Sound n text
  le_start : n ≤ f.start
  start_le : f.start ≤ f.offset
  start_boundary : text.isBoundary f.start = true

theorem behind_of_search {k : Cursor} (hk : k.In text) (h : r.search k = some f) :
    Behind text k.offset f := by
  have hsound := sound_of_search hk h
  obtain ⟨u, v, rfl, rfl⟩ := hk
  obtain ⟨x, w, y, rfl, hstart, hcursor, -⟩ := exists_of_search h
  refine ⟨hsound, ?_, ?_, Text.isBoundary_iff.2 ⟨u ++ x, w ++ y, by simp, hstart⟩⟩
  · simp [hstart, Cursor.between]
  · simp [hstart, Thread.offset, hcursor, Cursor.between]

theorem Behind.mono {m n : Nat} (h : Behind text n f) (hle : m ≤ n) : Behind text m f :=
  ⟨h.sound.mono hle, Nat.le_trans hle h.le_start, h.start_le, h.start_boundary⟩

/-- The first match of a row, and those behind it. -/
theorem chain_cons {n : Nat} {fs : List Thread} (hf : Behind text n f)
    (hfs : ∀ g ∈ fs, Behind text f.offset g) (hpair : fs.Pairwise (·.offset ≤ ·.start)) :
    (∀ g ∈ f :: fs, Behind text n g) ∧ (f :: fs).Pairwise (·.offset ≤ ·.start) := by
  have hle : n ≤ f.offset := Nat.le_trans hf.le_start hf.start_le
  exact ⟨List.forall_mem_cons.2 ⟨hf, fun g hg => (hfs g hg).mono hle⟩,
    List.pairwise_cons.2 ⟨fun g hg => (hfs g hg).le_start, hpair⟩⟩

/-- A row is over, or its first match is found at the cursor or behind it and does not end where the
match before the row did; the others follow from where it ends. -/
theorem matchesFrom_cases (n : Nat) (last : Option Nat) {k : Cursor} (hk : k.In text) :
    r.matchesFrom (n + 1) last k = [] ∨
      ∃ m f, m.In text ∧ k.offset ≤ m.offset ∧ r.search m = some f ∧
        (last = some k.offset → k.offset < f.offset) ∧
        r.matchesFrom (n + 1) last k = f :: r.matchesFrom n (some f.offset) f.cursor := by
  rw [matchesFrom]
  cases hf : r.search k with
  | none => exact .inl rfl
  | some f =>
    have hbehind := behind_of_search hk hf
    simp only
    split
    · cases hrest : k.rest with
      | nil => exact .inl rfl
      | cons c rest =>
        simp only
        cases hg : r.search (k.past c rest) with
        | none => exact .inl rfl
        | some g =>
          have hnext := behind_of_search (hk.past hrest) hg
          have hpast : k.offset < (k.past c rest).offset := Nat.lt_add_of_pos_right c.utf8Size_pos
          refine .inr ⟨_, g, hk.past hrest, Nat.le_of_lt hpast, hg, fun _ => ?_, rfl⟩
          exact Nat.lt_of_lt_of_le hpast (Nat.le_trans hnext.le_start hnext.start_le)
    · rename_i hmoved
      refine .inr ⟨k, f, hk, Nat.le_refl _, hf, fun hlast => ?_, rfl⟩
      -- a match that ends at the cursor is empty there, and would have been passed over
      have hle := hbehind.le_start
      have hle' := hbehind.start_le
      by_contra hend
      have hoffset : f.offset = k.offset := by omega
      exact hmoved ⟨by omega, by rw [hlast, hoffset]⟩

/-- Every match of a row starts where the one before it ends, or later. -/
theorem matchesFrom_chain (n : Nat) (last : Option Nat) {k : Cursor} (hk : k.In text) :
    (∀ f ∈ r.matchesFrom n last k, Behind text k.offset f) ∧
      (r.matchesFrom n last k).Pairwise (·.offset ≤ ·.start) := by
  induction n generalizing last k with
  | zero => simp [matchesFrom]
  | succ n ih =>
    rcases matchesFrom_cases (r := r) n last hk with hnil | ⟨m, f, hm, hle, hf, -, hcons⟩
    · simp [hnil]
    · rw [hcons]
      obtain ⟨hrest, hpair⟩ := ih (some f.offset) (sound_of_search hm hf).cursor
      exact chain_cons ((behind_of_search hm hf).mono hle) hrest hpair

/-- Every match of a row ends behind the end of the one before it, although either may be empty. -/
theorem matchesFrom_ascending (n : Nat) (last : Option Nat) {k : Cursor} (hk : k.In text) :
    (∀ f ∈ r.matchesFrom n last k, last = some k.offset → k.offset < f.offset) ∧
      (r.matchesFrom n last k).Pairwise (·.offset < ·.offset) := by
  induction n generalizing last k with
  | zero => simp [matchesFrom]
  | succ n ih =>
    rcases matchesFrom_cases (r := r) n last hk with hnil | ⟨m, f, hm, -, hf, hlast, hcons⟩
    · simp [hnil]
    · rw [hcons]
      obtain ⟨hrest, hpair⟩ := ih (some f.offset) (sound_of_search hm hf).cursor
      have hbehind : ∀ g ∈ r.matchesFrom n (some f.offset) f.cursor, f.offset < g.offset :=
        fun g hg => hrest g hg rfl
      refine ⟨List.forall_mem_cons.2 ⟨hlast, fun g hg h => ?_⟩, List.pairwise_cons.2 ⟨hbehind, hpair⟩⟩
      exact Nat.lt_trans (hlast h) (hbehind g hg)

/-- Every match of a row was found by a search. -/
theorem exists_search_of_mem {n : Nat} {last : Option Nat} {k : Cursor} (hk : k.In text)
    (hf : f ∈ r.matchesFrom n last k) : ∃ m, m.In text ∧ r.search m = some f := by
  induction n generalizing last k with
  | zero => simp [matchesFrom] at hf
  | succ n ih =>
    rcases matchesFrom_cases (r := r) n last hk with hnil | ⟨m, g, hm, -, hg, -, hcons⟩
    · simp [hnil] at hf
    · rw [hcons] at hf
      rcases List.mem_cons.1 hf with rfl | hf
      · exact ⟨m, hm, hg⟩
      · exact ih (sound_of_search hm hg).cursor hf

end Regex

end TextSieve.Pattern
