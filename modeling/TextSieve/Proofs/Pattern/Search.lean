import TextSieve.Proofs.Pattern.Walk

/-! Running an expression. `run` takes threads to the places that the expression matches up to and
to no others, so the search of a text succeeds exactly if some part of the text is matched. -/

namespace TextSieve.Pattern.Regex

variable {text : Text} {step step' : Thread → Thread → Prop} {body : List Thread → List Thread}

theorem Runs.of_iff (h : Runs text step body) (he : ∀ t t', step t t' ↔ step' t t') :
    Runs text step' body := by
  have : step = step' := by
    funext t t'
    exact propext (he t t')
  exact this ▸ h

theorem forward_exists {ι : Type} {p : ι → Prop} {steps : ι → Thread → Thread → Prop}
    (h : ∀ i, Forward text (steps i)) : Forward text (fun t t' => ∃ i, p i ∧ steps i t t') where
  stays := by
    intro t t' ht hx
    obtain ⟨i, -, hs⟩ := hx
    exact (h i).stays ht hs
  shrinks := by
    intro t t' ht hx
    obtain ⟨i, -, hs⟩ := hx
    exact (h i).shrinks ht hs
  again := by
    intro t t' s ht hx he
    obtain ⟨i, hi, hs⟩ := hx
    obtain ⟨s', hs', he'⟩ := (h i).again ht hs he
    exact ⟨s', ⟨i, hi, hs'⟩, he'⟩

theorem Runs.comp {after : List Thread → List Thread} (h : Runs text step body)
    (hf : Forward text step) (h' : Runs text step' after) (hf' : Forward text step') :
    Runs text (fun t t' => ∃ m, step t m ∧ step' m t') (fun ts => after (body ts)) where
  sound := by
    intro ts t' ht'
    obtain ⟨m, hm, hs'⟩ := h'.sound ht'
    obtain ⟨t, ht, hs⟩ := h.sound hm
    exact ⟨t, ht, m, hs, hs'⟩
  complete := by
    intro ts t t' hin ht hs
    obtain ⟨m, hm, hm'⟩ := hs
    obtain ⟨x, hx, he⟩ := h.complete hin ht hm
    obtain ⟨y, hy, he'⟩ := hf'.again (hf.stays (hin t ht) hm) hm' he
    obtain ⟨z, hz, hze⟩ := h'.complete (hin.through hf h) hx hy
    exact ⟨z, hz, hze.trans he'⟩

theorem foldl_visit_left {greedy skippable : Bool} (hb : Runs text step body) (ts : List Thread) :
    ∀ t' ∈ (ts.foldl (Walk.visit body greedy skippable) {}).left,
      ∃ t ∈ ts, ∃ k, (skippable = false → 1 ≤ k) ∧ Steps step k t t' := by
  have hround : ∀ {t u}, (∃ s ∈ ts, ∃ k, Steps step k s t) → u ∈ body [t] →
      ∃ s ∈ ts, ∃ k, (skippable = false → 1 ≤ k) ∧ Steps step k s u := by
    intro t u hm hu
    obtain ⟨s, hs, k, hk⟩ := hm
    obtain ⟨t', ht', hstep⟩ := hb.sound hu
    obtain rfl := List.mem_singleton.1 ht'
    exact ⟨s, hs, k + 1, fun _ => Nat.le_add_left 1 k, steps_add.2 ⟨t', hk, steps_one.2 hstep⟩⟩
  have hon : ∀ {u}, (∃ s ∈ ts, ∃ k, (skippable = false → 1 ≤ k) ∧ Steps step k s u) →
      ∃ s ∈ ts, ∃ k, Steps step k s u := by
    intro u hm
    obtain ⟨s, hs, k, -, hk⟩ := hm
    exact ⟨s, hs, k, hk⟩
  have fold : ∀ (us : List Thread) (w : Walk), (∀ u ∈ us, u ∈ ts) →
      (∀ x ∈ w.left, ∃ t ∈ ts, ∃ k, (skippable = false → 1 ≤ k) ∧ Steps step k t x) →
      ∀ x ∈ (us.foldl (Walk.visit body greedy skippable) w).left,
        ∃ t ∈ ts, ∃ k, (skippable = false → 1 ≤ k) ∧ Steps step k t x := by
    intro us
    induction us with
    | nil => exact fun _ _ h => h
    | cons u us ih =>
      intro w hus hw
      have hu : u ∈ ts := hus u List.mem_cons_self
      exact ih _ (fun x hx => hus x (List.mem_cons_of_mem u hx))
        (Walk.visit_left hround hon ⟨u, hu, 0, rfl⟩
          (fun hs => ⟨u, hu, 0, by simp [hs], rfl⟩) hw)
  exact fold ts {} (fun _ h => h) (by simp)

/-- Once a round has begun at a place, every further number of rounds has been gone from there. -/
theorem exists_left_of_begun (hf : Forward text step) {w : Walk}
    (hw : Walk.Extends text step {} w) {k : Nat} {t t' : Thread} (ht : t.cursor.In text)
    (hbegun : w.begun.contains t.offset = true) (hs : Steps step (k + 1) t t') :
    ∃ x ∈ w.left, x.offset = t'.offset := by
  induction k generalizing t with
  | zero =>
    have hended := (hw.followed ht (steps_one.1 hs) hbegun).resolve_left (by simp)
    exact ((hw.settled hended).resolve_left (by simp)).2
  | succ k ih =>
    obtain ⟨m, hm, hs⟩ := hs
    have hended := (hw.followed ht hm hbegun).resolve_left (by simp)
    exact ih (hf.stays ht hm) ((hw.settled hended).resolve_left (by simp)).1 hs

theorem runs_unbounded (hf : Forward text step) (hb : Runs text step body)
    (greedy skippable : Bool) :
    Runs text (fun t t' => ∃ k, (skippable = false → 1 ≤ k) ∧ Steps step k t t')
      (unbounded body greedy skippable) where
  sound := by
    intro ts t' h
    exact foldl_visit_left hb ts t' (List.mem_reverse.1 (mem_of_mem_distinct h))
  complete := by
    intro ts t t' hin ht hs
    obtain ⟨k, hk, hs⟩ := hs
    obtain ⟨hw, hall⟩ := Walk.extends_foldl (w := {})
      (fun w t => w.begun.contains t.offset = true ∧ (skippable = true → t ∈ w.left))
      (fun w' u hu _ => Walk.visit_extends hf hb greedy skippable w' (hin u hu))
      fun h hp => ⟨h.begun hp.1, fun hs => h.left (hp.2 hs)⟩
    have hleft : AllIn text (ts.foldl (Walk.visit body greedy skippable) {}).left.reverse := by
      intro x hx
      obtain ⟨s, hs, k, -, hk⟩ := foldl_visit_left hb ts x (List.mem_reverse.1 hx)
      exact (forward_steps hf k).stays (hin s hs) hk
    obtain ⟨x, hx, ho⟩ : ∃ x ∈ (ts.foldl (Walk.visit body greedy skippable) {}).left,
        x.offset = t'.offset := by
      cases k with
      | zero =>
        have hskip : skippable = true := by
          cases skippable with
          | true => rfl
          | false => exact absurd (hk rfl) (by simp)
        exact ⟨t, (hall t ht).2 hskip, by rw [show t' = t from hs]⟩
      | succ k => exact exists_left_of_begun hf hw (hin t ht) (hall t ht).1 hs
    have hxr := List.mem_reverse.2 hx
    obtain ⟨s, hs', he⟩ := exists_mem_distinct hleft hxr
    exact ⟨s, hs', he.trans
      ((hleft x hxr).eq_of_offset ((forward_steps hf k).stays (hin t ht) hs) ho)⟩

theorem runs_atMost (hf : Forward text step) (hb : Runs text step body) (greedy : Bool) (n : Nat) :
    Runs text (fun t t' => ∃ k ≤ n, Steps step k t t')
      (fun ts => atMost body greedy n (ts.map (⟨·, true⟩))) where
  sound := by
    intro ts t' h
    obtain ⟨r, hr, k, hk, -, hs⟩ := atMost_sound hb h
    obtain ⟨t, ht, rfl⟩ := List.mem_map.1 hr
    exact ⟨t, ht, k, hk, hs⟩
  complete := by
    intro ts t t' hin ht hs
    obtain ⟨k, hk, hs⟩ := hs
    refine atMost_complete hf hb ?_ (List.mem_map_of_mem ht) ⟨k, hk, by simp, hs⟩
    simpa [List.map_map, Function.comp_def] using hin

theorem runs_rounds (hf : Forward text step) (hb : Runs text step body) (greedy : Bool) (low : Nat)
    (high : Option Nat) :
    Runs text (fun t t' => ∃ more, (∀ h ∈ high, more ≤ h - low) ∧ Steps step (low + more) t t')
      (rounds body greedy low high) := by
  cases high with
  | none =>
    cases low with
    | zero =>
      refine (runs_unbounded hf hb greedy true).of_iff fun t t' => ?_
      simp
    | succ n =>
      refine ((runs_exactly hf hb n).comp (forward_steps hf n)
        (runs_unbounded hf hb greedy false)
        (forward_exists (forward_steps hf))).of_iff fun t t' => ?_
      constructor
      · intro hx
        obtain ⟨m, hm, k, hk, hs⟩ := hx
        have hk : 1 ≤ k := hk rfl
        refine ⟨k - 1, by simp, ?_⟩
        rw [show n + 1 + (k - 1) = n + k by omega]
        exact steps_add.2 ⟨m, hm, hs⟩
      · intro hx
        obtain ⟨more, -, hs⟩ := hx
        rw [Nat.add_assoc] at hs
        obtain ⟨m, hm, hs⟩ := steps_add.1 hs
        exact ⟨m, hm, 1 + more, fun _ => Nat.le_add_right 1 more, hs⟩
  | some high =>
    have heq : rounds body greedy low (some high) =
        fun ts => atMost body greedy (high - low) ((exactly body low ts).map (⟨·, true⟩)) := by
      cases low <;> rfl
    rw [heq]
    refine ((runs_exactly hf hb low).comp (forward_steps hf low)
      (runs_atMost hf hb greedy (high - low))
      (forward_exists (forward_steps hf))).of_iff fun t t' => ?_
    constructor
    · intro hx
      obtain ⟨m, hm, k, hk, hs⟩ := hx
      exact ⟨k, by simpa using hk, steps_add.2 ⟨m, hm, hs⟩⟩
    · intro hx
      obtain ⟨more, hmore, hs⟩ := hx
      obtain ⟨m, hm, hs⟩ := steps_add.1 hs
      exact ⟨m, hm, more, hmore high rfl, hs⟩

theorem runs_alt {a b : Regex} (ha : Runs text a.Goes a.run) (hb : Runs text b.Goes b.run) :
    Runs text (alt a b).Goes (alt a b).run := by
  have hf : Forward text (alt a b).Goes := (agree_goes _).forward text
  have hone : ∀ {t t'}, t' ∈ a.run [t] ++ b.run [t] → (alt a b).Goes t t' := by
    intro t t' h
    rcases List.mem_append.1 h with h | h
    · obtain ⟨s, hs, hg⟩ := ha.sound h
      exact .inl (List.mem_singleton.1 hs ▸ hg)
    · obtain ⟨s, hs, hg⟩ := hb.sound h
      exact .inr (List.mem_singleton.1 hs ▸ hg)
  refine ⟨fun {ts t'} h => ?_, fun {ts t t'} hin ht hs => ?_⟩
  · obtain ⟨t, ht, hr⟩ := List.mem_flatMap.1 (mem_of_mem_distinct h)
    exact ⟨t, ht, hone hr⟩
  · have hall : AllIn text (ts.flatMap fun t => a.run [t] ++ b.run [t]) := by
      intro x hx
      obtain ⟨s, hs, hr⟩ := List.mem_flatMap.1 hx
      exact hf.stays (hin s hs) (hone hr)
    obtain ⟨x, hx, he⟩ : ∃ x ∈ a.run [t] ++ b.run [t], x.cursor = t'.cursor := by
      rcases hs with hs | hs
      · obtain ⟨x, hx, he⟩ := ha.complete (allIn_singleton (hin t ht)) (by simp) hs
        exact ⟨x, List.mem_append_left _ hx, he⟩
      · obtain ⟨x, hx, he⟩ := hb.complete (allIn_singleton (hin t ht)) (by simp) hs
        exact ⟨x, List.mem_append_right _ hx, he⟩
    obtain ⟨y, hy, he'⟩ := exists_mem_distinct hall (List.mem_flatMap.2 ⟨t, ht, hx⟩)
    exact ⟨y, hy, he'.trans he⟩

theorem runs_group {r : Regex} (name : Text) (h : Runs text r.Goes r.run) :
    Runs text (group name r).Goes (group name r).run := by
  refine ⟨fun {ts t'} ht' => ?_, fun {ts t t'} hin ht hs => ?_⟩
  · obtain ⟨m, hm, rfl⟩ := List.mem_map.1 ht'
    obtain ⟨s, hs, hg⟩ := h.sound hm
    obtain ⟨t, ht, rfl⟩ := List.mem_map.1 hs
    exact ⟨t, ht, m, hg, rfl⟩
  · obtain ⟨m, hm, rfl⟩ := hs
    have hopen : AllIn text (ts.map Thread.openGroup) := by
      intro s hs
      obtain ⟨t, ht, rfl⟩ := List.mem_map.1 hs
      exact hin t ht
    obtain ⟨x, hx, he⟩ := h.complete hopen (List.mem_map_of_mem ht) hm
    refine ⟨x.closeGroup name, List.mem_map_of_mem hx, ?_⟩
    rw [cursor_closeGroup, cursor_closeGroup, he]

/-- The run of an expression takes the steps of `Goes` and misses no place they lead to. -/
theorem runs_run (text : Text) (r : Regex) : Runs text r.Goes r.run := by
  induction r with
  | empty =>
    exact ⟨fun {ts t'} h => ⟨t', h, rfl⟩, fun {ts t t'} _ ht hs => ⟨t, ht, by rw [hs]⟩⟩
  | one s =>
    refine ⟨fun {ts t'} h => List.mem_filterMap.1 h, fun {ts t t'} _ ht hs => ⟨t', ?_, rfl⟩⟩
    exact List.mem_filterMap.2 ⟨t, ht, hs⟩
  | look l =>
    refine ⟨fun {ts t'} h => ?_, fun {ts t t'} _ ht hs => ?_⟩
    · obtain ⟨ht, hm⟩ := List.mem_filter.1 h
      exact ⟨t', ht, rfl, hm⟩
    · obtain ⟨rfl, hm⟩ := hs
      exact ⟨t', List.mem_filter.2 ⟨ht, hm⟩, rfl⟩
  | cat a b iha ihb =>
    exact iha.comp ((agree_goes a).forward text) ihb ((agree_goes b).forward text)
  | alt a b iha ihb => exact runs_alt iha ihb
  | rep r low high greedy ih => exact runs_rounds ((agree_goes r).forward text) ih greedy low high
  | group name r ih => exact runs_group name ih

theorem next?_between_cons (u v : Text) (c : Char) :
    (Cursor.between u (c :: v)).next? = some (.between (u ++ [c]) v) := by
  simp [Cursor.next?, Cursor.past_between]

theorem mem_places_iff {n : Nat} {u v : Text} {k : Cursor} :
    k ∈ (places n (.between u v)).1 ↔
      ∃ x y, v = x ++ y ∧ x.length < n ∧ k = .between (u ++ x) y := by
  induction n generalizing u v with
  | zero => simp [places]
  | succ n ih =>
    cases v with
    | nil => simp [places, Cursor.next?]
    | cons c v =>
      simp only [places, next?_between_cons, List.mem_cons, ih]
      constructor
      · intro h
        rcases h with rfl | ⟨x, y, rfl, hx, rfl⟩
        · exact ⟨[], c :: v, rfl, by simp, by simp⟩
        · exact ⟨c :: x, y, rfl, by simpa using hx, by simp⟩
      · intro h
        obtain ⟨x, y, hv, hx, rfl⟩ := h
        cases x with
        | nil =>
          obtain rfl : c :: v = y := hv
          exact .inl (by simp)
        | cons d x =>
          obtain ⟨rfl, rfl⟩ : c = d ∧ v = x ++ y := by simpa using hv
          exact .inr ⟨x, y, rfl, by simpa using hx, by simp⟩

theorem places_after (n : Nat) (u v : Text) :
    (places n (.between u v)).2 =
      if n ≤ v.length then some (.between (u ++ v.take n) (v.drop n)) else none := by
  induction n generalizing u v with
  | zero => simp [places]
  | succ n ih =>
    cases v with
    | nil => simp [places, Cursor.next?]
    | cons c v => simp [places, next?_between_cons, ih]

/-- A run from places of a text reaches anything exactly if the expression matches at one of
them. -/
theorem head?_run_isSome_iff {r : Regex} {ks : List Cursor} (h : ∀ k ∈ ks, k.In text) :
    (r.run (ks.map Thread.startAt)).head?.isSome = true ↔
      ∃ u w v, text = u ++ (w ++ v) ∧ .between u (w ++ v) ∈ ks ∧ r.Matches u w v := by
  rw [List.isSome_head?]
  constructor
  · intro hne
    obtain ⟨t', ht'⟩ := List.exists_mem_of_ne_nil _ hne
    obtain ⟨t, ht, hg⟩ := (runs_run text r).sound ht'
    obtain ⟨k, hk, rfl⟩ := List.mem_map.1 ht
    obtain ⟨u, v, htext, rfl⟩ := h k hk
    obtain ⟨w, v', rfl, -, hm⟩ := (agree_goes r _ u v rfl _).1 ⟨t', hg, rfl⟩
    exact ⟨u, w, v', htext, hk, hm⟩
  · intro hex
    obtain ⟨u, w, v, -, hk, hm⟩ := hex
    obtain ⟨t', hg, -⟩ := (agree_goes r (.startAt _) u (w ++ v) rfl _).2 ⟨w, v, rfl, rfl, hm⟩
    have hin : AllIn text (ks.map Thread.startAt) := by
      intro t ht
      obtain ⟨k, hk, rfl⟩ := List.mem_map.1 ht
      exact h k hk
    obtain ⟨x, hx, -⟩ := (runs_run text r).complete hin (List.mem_map_of_mem hk) hg
    exact List.ne_nil_of_mem hx

theorem searchLots_isSome_iff {r : Regex} {fuel lot : Nat} {u v : Text} (hlot : 1 ≤ lot)
    (hfuel : v.length < fuel) :
    (r.searchLots fuel lot (.between u v)).isSome = true ↔
      ∃ x w y, v = x ++ w ++ y ∧ r.Matches (u ++ x) w y := by
  induction fuel generalizing lot u v with
  | zero => exact absurd hfuel (Nat.not_lt_zero _)
  | succ fuel ih =>
    have hin : ∀ k ∈ (places lot (.between u v)).1, k.In (u ++ v) := by
      intro k hk
      obtain ⟨x, y, rfl, -, rfl⟩ := mem_places_iff.1 hk
      exact .between (by simp)
    simp only [searchLots, Option.isSome_or, Bool.or_eq_true, head?_run_isSome_iff hin,
      places_after]
    constructor
    · intro hex
      rcases hex with ⟨u', w, y, htext, hk, hm⟩ | h
      · obtain ⟨x, y', rfl, -, he⟩ := mem_places_iff.1 hk
        have hsize : Text.size (u ++ x) = Text.size u' := congrArg Cursor.offset he.symm
        obtain ⟨rfl, rfl⟩ := Text.append_inj_of_size ((List.append_assoc u x y').trans htext) hsize
        exact ⟨x, w, y, by simp, hm⟩
      · split at h
        · rename_i hle
          obtain ⟨x, w, y, hv, hm⟩ := (ih (by omega) (by simp; omega)).1 h
          refine ⟨v.take lot ++ x, w, y, ?_, by simpa using hm⟩
          conv_lhs => rw [← List.take_append_drop lot v, hv]
          simp
        · simp at h
    · intro hex
      obtain ⟨x, w, y, rfl, hm⟩ := hex
      by_cases hx : x.length < lot
      · exact .inl ⟨u ++ x, w, y, by simp, mem_places_iff.2 ⟨x, w ++ y, by simp, hx, rfl⟩, hm⟩
      · have hle : lot ≤ x.length := Nat.le_of_not_lt hx
        refine .inr ?_
        rw [if_pos (by simp; omega)]
        refine (ih (by omega) (by simp at hfuel ⊢; omega)).2 ⟨x.drop lot, w, y, ?_, ?_⟩
        · rw [List.append_assoc, List.drop_append_of_le_length hle, List.append_assoc]
        · rw [List.append_assoc x, List.take_append_of_le_length hle, List.append_assoc u,
            List.take_append_drop]
          exact hm

/-- A search succeeds exactly if the expression matches some part of the text. -/
theorem isMatch_iff (r : Regex) (t : Text) :
    r.isMatch t = true ↔ ∃ u w v, t = u ++ w ++ v ∧ r.Matches u w v := by
  unfold isMatch search
  rw [Cursor.start_eq_between]
  exact searchLots_isSome_iff (Nat.le_refl 1) (Nat.lt_succ_self _)

end TextSieve.Pattern.Regex
