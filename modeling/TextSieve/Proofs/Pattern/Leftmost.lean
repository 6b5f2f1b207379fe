import TextSieve.Proofs.Pattern.Search

/-! The order of a run. What earlier threads reach stands in front of what later ones reach, so a
search finds a match at the first place that has one. -/

namespace TextSieve.Pattern.Regex

/-- Further threads behind the given ones only add to what is reached, behind it. -/
def Ordered (body : List Thread → List Thread) : Prop :=
  ∀ ts us, body ts <+: body (ts ++ us)

variable {body after : List Thread → List Thread}

theorem firsts_prefix {α : Type} (key : α → Nat) (seen : OffsetSet) (as bs : List α) :
    firsts key seen as <+: firsts key seen (as ++ bs) := by
  induction as generalizing seen with
  | nil => exact List.nil_prefix
  | cons a as ih =>
    simp only [List.cons_append, firsts]
    split
    · exact ih seen
    · exact List.cons_prefix_cons.2 ⟨rfl, ih _⟩

theorem ordered_distinct : Ordered (Thread.distinct .empty) := by
  intro ts us
  simp only [distinct_eq_firsts]
  exact firsts_prefix _ _ ts us

theorem Ordered.comp (h : Ordered body) (h' : Ordered after) :
    Ordered fun ts => after (body ts) := by
  intro ts us
  obtain ⟨z, hz⟩ := h ts us
  simp only [← hz]
  exact h' _ z

theorem ordered_exactly (h : Ordered body) (n : Nat) : Ordered (exactly body n) := by
  induction n with
  | zero => exact fun ts us => List.prefix_append ts us
  | succ n ih =>
    intro ts us
    cases ts with
    | nil => exact List.nil_prefix
    | cons t ts => exact h.comp ih (t :: ts) us

/-- Rounds that have all left are kept by their places, as the threads in them are. -/
theorem distinct_map_distinct {rs : List Round} (hrs : ∀ r ∈ rs, r.active = false)
    {seen seen' : OffsetSet} (hseen : ∀ n, seen'.contains (2 * n) = true → seen.contains n = true) :
    Thread.distinct seen ((Round.distinct seen' rs).map (·.thread)) =
      Thread.distinct seen (rs.map (·.thread)) := by
  induction rs generalizing seen seen' with
  | nil => rfl
  | cons r rs ih =>
    obtain ⟨hr, hrs⟩ := List.forall_mem_cons.1 hrs
    have hkey : r.key = 2 * r.thread.offset := by simp [Round.key, hr]
    have hinsert : ∀ s : OffsetSet, s.contains r.thread.offset = true →
        (∀ n, seen.contains n = true → s.contains n = true) →
        ∀ n, (seen'.insert r.key).contains (2 * n) = true → s.contains n = true := by
      intro s hs hle n hn
      have : seen'.contains (2 * n) = true ∨ 2 * r.thread.offset = 2 * n := by
        simpa [hkey] using hn
      rcases this with hn | hn
      · exact hle n (hseen n hn)
      · obtain rfl : r.thread.offset = n := by omega
        exact hs
    simp only [Round.distinct, List.map_cons, Thread.distinct]
    by_cases hs : seen.contains r.thread.offset = true
    · rw [if_pos hs]
      split
      · exact ih hrs hseen
      · rw [List.map_cons, Thread.distinct, if_pos hs]
        exact ih hrs (hinsert seen hs fun _ h => h)
    · have hs' : seen'.contains r.key = false := by
        cases hk : seen'.contains r.key with
        | false => rfl
        | true => exact absurd (hseen _ (hkey ▸ hk)) hs
      rw [if_neg hs, hs', if_neg (by simp), List.map_cons, Thread.distinct, if_neg hs]
      exact congrArg (r.thread :: ·)
        (ih hrs (hinsert _ (by simp) fun n hn => by simp [hn]))

theorem atMost_of_inactive {greedy : Bool} {n : Nat} {rs : List Round}
    (h : ∀ r ∈ rs, r.active = false) :
    atMost body greedy n rs = Thread.distinct .empty (rs.map (·.thread)) := by
  cases n with
  | zero => rfl
  | succ n =>
    have hany : rs.any (·.active) = false := by simpa using h
    simp [atMost, hany]

theorem flatMap_step_of_inactive {greedy : Bool} {rs : List Round}
    (h : ∀ r ∈ rs, r.active = false) : rs.flatMap (Round.step body greedy) = rs := by
  induction rs with
  | nil => rfl
  | cons r rs ih =>
    obtain ⟨hr, hrs⟩ := List.forall_mem_cons.1 h
    simp [Round.step, hr, ih hrs]

theorem atMost_prefix (greedy : Bool) (n : Nat) (rs rs' : List Round) :
    atMost body greedy n rs <+: atMost body greedy n (rs ++ rs') := by
  induction n generalizing rs rs' with
  | zero => simpa only [atMost, List.map_append] using ordered_distinct _ _
  | succ n ih =>
    have hstep : atMost body greedy n
          (Round.distinct .empty (rs.flatMap (Round.step body greedy))) <+:
        atMost body greedy n
          (Round.distinct .empty ((rs ++ rs').flatMap (Round.step body greedy))) := by
      simp only [rounds_distinct_eq_firsts, List.flatMap_append]
      obtain ⟨z, hz⟩ := firsts_prefix Round.key .empty (rs.flatMap (Round.step body greedy))
        (rs'.flatMap (Round.step body greedy))
      rw [← hz]
      exact ih _ z
    by_cases hact : rs.any (·.active) = true
    · simpa [atMost, hact] using hstep
    · have hrs : ∀ r ∈ rs, r.active = false := by simpa using hact
      rw [atMost_of_inactive hrs]
      by_cases hact' : rs'.any (·.active) = true
      · -- the rounds that have left stay in front while those behind them go on
        have hin : ∀ r ∈ Round.distinct .empty rs, r.active = false := by
          intro r hr
          rw [rounds_distinct_eq_firsts] at hr
          exact hrs r ((firsts_sublist _ _ _).subset hr)
        rw [flatMap_step_of_inactive hrs, atMost_of_inactive hin,
          distinct_map_distinct hrs fun _ h => by simp at h] at hstep
        simpa [atMost, hact'] using hstep
      · have hall : ∀ r ∈ rs ++ rs', r.active = false := by
          intro r hr
          rcases List.mem_append.1 hr with hr | hr
          · exact hrs r hr
          · simpa using mt (fun ha => List.any_eq_true.2 ⟨r, hr, ha⟩) hact'
        rw [atMost_of_inactive hall, List.map_append]
        exact ordered_distinct _ _

namespace Walk

theorem foldl_left_suffix {f : Walk → Thread → Walk} (hf : ∀ w u, w.left <:+ (f w u).left)
    (us : List Thread) (w : Walk) : w.left <:+ (us.foldl f w).left := by
  induction us generalizing w with
  | nil => exact List.suffix_refl _
  | cons u us ih => exact (hf w u).trans (ih _)

theorem enter_left_suffix (greedy : Bool) (n : Nat) (w : Walk) (t : Thread) :
    w.left <:+ (enter body greedy n w t).left := by
  induction n generalizing w t with
  | zero => exact List.suffix_refl _
  | succ n ih =>
    have hhop : ∀ w u, w.left <:+ (hop body greedy n w u).left := by
      intro w u
      unfold hop
      split
      · exact List.suffix_refl _
      · split
        · exact (ih (w.finish u) u).trans (List.suffix_cons u _)
        · exact (List.suffix_cons u _).trans (ih ((w.finish u).leave u) u)
    rw [enter_succ]
    split
    · exact List.suffix_refl _
    · exact foldl_left_suffix hhop (body [t]) (w.begin t)

theorem visit_left_suffix (greedy skippable : Bool) (w : Walk) (t : Thread) :
    w.left <:+ (visit body greedy skippable w t).left := by
  unfold visit
  cases skippable with
  | false => exact enter_left_suffix _ _ _ _
  | true =>
    cases greedy with
    | true => exact (enter_left_suffix _ _ _ _).trans (List.suffix_cons t _)
    | false => exact (List.suffix_cons t _).trans (enter_left_suffix _ _ (w.leave t) _)

end Walk

theorem ordered_unbounded (greedy skippable : Bool) :
    Ordered (unbounded body greedy skippable) := by
  intro ts us
  have hvisit : ∀ w u, w.left <:+ (Walk.visit body greedy skippable w u).left :=
    Walk.visit_left_suffix greedy skippable
  have hleft := Walk.foldl_left_suffix hvisit us (ts.foldl (Walk.visit body greedy skippable) {})
  obtain ⟨z, hz⟩ := List.reverse_prefix.2 hleft
  simp only [unbounded, List.foldl_append, ← hz]
  exact ordered_distinct _ z

theorem ordered_rounds (h : Ordered body) (greedy : Bool) (low : Nat) (high : Option Nat) :
    Ordered (rounds body greedy low high) := by
  cases high with
  | none =>
    cases low with
    | zero => exact ordered_unbounded greedy true
    | succ n => exact (ordered_exactly h n).comp (ordered_unbounded greedy false)
  | some high =>
    have heq : rounds body greedy low (some high) =
        fun ts => atMost body greedy (high - low) ((exactly body low ts).map (⟨·, true⟩)) := by
      cases low <;> rfl
    have hmost : Ordered fun ts => atMost body greedy (high - low) (ts.map (⟨·, true⟩)) := by
      intro ts us
      simpa only [List.map_append] using atMost_prefix greedy _ _ _
    rw [heq]
    exact (ordered_exactly h low).comp hmost

theorem ordered_run (r : Regex) : Ordered r.run := by
  induction r with
  | empty => exact fun ts us => List.prefix_append ts us
  | one s =>
    intro ts us
    simp [run]
  | look l =>
    intro ts us
    simp [run]
  | cat a b iha ihb => exact iha.comp ihb
  | alt a b _ _ =>
    have hflat : Ordered fun ts => ts.flatMap fun t => a.run [t] ++ b.run [t] := by
      intro ts us
      simp
    exact hflat.comp ordered_distinct
  | rep r low high greedy ih => exact ordered_rounds ih greedy low high
  | group name r ih =>
    intro ts us
    simp only [run, List.map_append]
    obtain ⟨z, hz⟩ := ih (ts.map Thread.openGroup) (us.map Thread.openGroup)
    simp [← hz]

def Dead (r : Regex) (k : Cursor) : Prop := ∀ t, ¬ r.Goes (.startAt k) t

theorem dead_of_run {text : Text} {r : Regex} {ks : List Cursor} (hin : ∀ k ∈ ks, k.In text)
    (h : r.run (ks.map Thread.startAt) = []) : ∀ k ∈ ks, r.Dead k := by
  intro k hk t hg
  have hall : AllIn text (ks.map Thread.startAt) := by
    intro t ht
    obtain ⟨k, hk, rfl⟩ := List.mem_map.1 ht
    exact hin k hk
  obtain ⟨s, hs, -⟩ := (runs_run text r).complete hall (List.mem_map_of_mem hk) hg
  simp [h] at hs

/-- The best thread of a run comes from the first place that has any. By induction on the places
that are left, behind those that are dead. -/
theorem exists_of_head?_run {text : Text} {r : Regex} (dead ks : List Cursor)
    (hin : ∀ k ∈ dead ++ ks, k.In text) (hdead : ∀ k ∈ dead, r.Dead k) {f : Thread}
    (h : (r.run ((dead ++ ks).map Thread.startAt)).head? = some f) :
    ∃ ks₁ k ks₂, ks = ks₁ ++ k :: ks₂ ∧ r.Goes (.startAt k) f ∧ ∀ k' ∈ ks₁, r.Dead k' := by
  have hsource : ∀ {ks : List Cursor} {f : Thread}, (r.run (ks.map Thread.startAt)).head? = some f →
      ∃ k ∈ ks, r.Goes (.startAt k) f := by
    intro ks f hf
    obtain ⟨t, ht, hg⟩ := (runs_run text r).sound (List.mem_of_mem_head? hf)
    obtain ⟨k, hk, rfl⟩ := List.mem_map.1 ht
    exact ⟨k, hk, hg⟩
  induction ks generalizing dead with
  | nil =>
    obtain ⟨k, hk, hg⟩ := hsource h
    exact absurd hg (hdead k (by simpa using hk) f)
  | cons k ks ih =>
    have hsplit : dead ++ k :: ks = dead ++ [k] ++ ks := by simp
    rw [hsplit] at h hin
    have hin' : ∀ k' ∈ dead ++ [k], k'.In text := fun k' hk' => hin k' (List.mem_append_left ks hk')
    cases hrun : r.run ((dead ++ [k]).map Thread.startAt) with
    | nil =>
      obtain ⟨ks₁, k', ks₂, rfl, hg, hks₁⟩ := ih _ hin (dead_of_run hin' hrun) h
      refine ⟨k :: ks₁, k', ks₂, rfl, hg, List.forall_mem_cons.2 ⟨?_, hks₁⟩⟩
      exact dead_of_run hin' hrun k (by simp)
    | cons g gs =>
      obtain ⟨z, hz⟩ := ordered_run r ((dead ++ [k]).map Thread.startAt) (ks.map Thread.startAt)
      rw [List.map_append, ← hz, hrun] at h
      obtain rfl : g = f := by simpa using h
      obtain ⟨k', hk', hg⟩ := hsource (show _ = some g by rw [hrun]; rfl)
      rcases List.mem_append.1 hk' with hk' | hk'
      · exact absurd hg (hdead k' hk' g)
      · obtain rfl := List.mem_singleton.1 hk'
        exact ⟨[], k', ks, rfl, hg, by simp⟩

theorem places_getElem? (n : Nat) (u v : Text) (i : Nat) :
    (places n (.between u v)).1[i]? =
      if i < n ∧ i ≤ v.length then some (.between (u ++ v.take i) (v.drop i)) else none := by
  induction n generalizing u v i with
  | zero => simp [places]
  | succ n ih =>
    cases v with
    | nil => cases i <;> simp [places, Cursor.next?]
    | cons c v =>
      simp only [places, next?_between_cons]
      cases i with
      | zero => simp
      | succ i => simp [ih]

theorem searchLots_succ (r : Regex) (fuel lot : Nat) (k : Cursor) :
    r.searchLots (fuel + 1) lot k =
      ((r.run ((places lot k).1.map Thread.startAt)).head?).or
        ((places lot k).2.bind (r.searchLots fuel (2 * lot))) := rfl

/-- The thread goes from a place in `v` before which none leads anywhere. -/
def First (r : Regex) (u v : Text) (f : Thread) : Prop :=
  ∃ x y, v = x ++ y ∧ r.Goes (.startAt (.between (u ++ x) y)) f ∧
    ∀ x' y', v = x' ++ y' → x'.length < x.length → r.Dead (.between (u ++ x') y')

theorem in_of_mem_places {lot : Nat} {u v : Text} :
    ∀ k ∈ (places lot (.between u v)).1, k.In (u ++ v) := by
  intro k hk
  obtain ⟨x, y, rfl, -, rfl⟩ := mem_places_iff.1 hk
  exact .between (by simp)

theorem first_of_lot {r : Regex} {lot : Nat} {u v : Text} {f : Thread}
    (h : (r.run ((places lot (.between u v)).1.map Thread.startAt)).head? = some f) :
    r.First u v f := by
  obtain ⟨ks₁, k, ks₂, hks, hg, hdead⟩ :=
    exists_of_head?_run [] (places lot (.between u v)).1 in_of_mem_places (by simp) h
  have hk : (places lot (.between u v)).1[ks₁.length]? = some k := by simp [hks]
  rw [places_getElem?] at hk
  split at hk
  · rename_i hle
    obtain rfl := Option.some.inj hk
    refine ⟨v.take ks₁.length, v.drop ks₁.length, by simp, hg, fun x y hv hlt => ?_⟩
    have hshort : x.length < ks₁.length := by
      simp at hlt
      omega
    have hmem := places_getElem? lot u v x.length
    rw [hks, List.getElem?_append_left hshort, if_pos ⟨by omega, by simp [hv]⟩] at hmem
    have hk := List.mem_of_getElem? hmem
    simp only [hv, List.take_left, List.drop_left] at hk
    exact hdead _ hk
  · cases hk

/-- A search may go on behind places at which nothing is matched. -/
theorem First.behind {r : Regex} {n : Nat} {u v : Text} {f : Thread}
    (hdead : ∀ x y, v = x ++ y → x.length < n → r.Dead (.between (u ++ x) y))
    (h : r.First (u ++ v.take n) (v.drop n) f) : r.First u v f := by
  obtain ⟨x, y, hv, hg, hfirst⟩ := h
  refine ⟨v.take n ++ x, y, ?_, by simpa using hg, ?_⟩
  · rw [List.append_assoc, ← hv, List.take_append_drop]
  · rintro x' y' rfl hlt
    by_cases hx' : x'.length < n
    · exact hdead x' y' rfl hx'
    · have hge : n ≤ x'.length := Nat.le_of_not_lt hx'
      have htake : (x' ++ y').take n = x'.take n := List.take_append_of_le_length hge
      have hdrop : (x' ++ y').drop n = x'.drop n ++ y' := List.drop_append_of_le_length hge
      have hlen : (x'.drop n).length < x.length := by
        rw [htake] at hlt
        simp at hlt ⊢
        omega
      have hrest := hfirst (x'.drop n) y' hdrop hlen
      rwa [htake, List.append_assoc, List.take_append_drop] at hrest

theorem first_of_searchLots {r : Regex} {fuel lot : Nat} {u v : Text} {f : Thread}
    (h : r.searchLots fuel lot (.between u v) = some f) : r.First u v f := by
  induction fuel generalizing lot u v with
  | zero => cases h
  | succ fuel ih =>
    rw [searchLots_succ, Option.or_eq_some_iff] at h
    rcases h with h | ⟨hnone, h⟩
    · exact first_of_lot h
    · have hdead := dead_of_run in_of_mem_places (List.head?_eq_none_iff.1 hnone)
      rw [places_after] at h
      split at h
      · refine (ih (by simpa using h)).behind ?_
        rintro x y rfl hlt
        exact hdead _ (mem_places_iff.2 ⟨x, y, rfl, hlt, rfl⟩)
      · cases h

/-- A search that succeeds has gone from a place before which none leads anywhere. -/
theorem first_of_search {r : Regex} {u v : Text} {f : Thread}
    (h : r.search (.between u v) = some f) : r.First u v f :=
  first_of_searchLots h

theorem search_isSome_iff {r : Regex} {u v : Text} :
    (r.search (.between u v)).isSome = true ↔
      ∃ x w y, v = x ++ w ++ y ∧ r.Matches (u ++ x) w y :=
  searchLots_isSome_iff (Nat.le_refl 1) (Nat.lt_succ_self _)

theorem search_eq_none_iff {r : Regex} {u v : Text} :
    r.search (.between u v) = none ↔ ∀ x y, v = x ++ y → r.Dead (.between (u ++ x) y) := by
  rw [← Option.not_isSome_iff_eq_none, search_isSome_iff]
  constructor
  · intro h x y hv t hg
    obtain ⟨w, y', rfl, -, hm⟩ := (agree_goes r _ _ y rfl _).1 ⟨t, hg, rfl⟩
    exact h ⟨x, w, y', by simp [hv], hm⟩
  · intro h hex
    obtain ⟨x, w, y, rfl, hm⟩ := hex
    obtain ⟨t, hg, -⟩ := (agree_goes r (.startAt (.between (u ++ x) (w ++ y))) _ _ rfl _).2
      ⟨w, y, rfl, rfl, hm⟩
    exact h x (w ++ y) (by simp) t hg

section

variable {α : Type} {get : Thread → Option α} {r : Regex} {u v : Text}

theorem search_bind_of_goes
    (hget : ∀ {f g}, r.Goes (.startAt (.between u v)) f → r.Goes (.startAt (.between u v)) g →
      get f = get g) {f : Thread} (h : r.Goes (.startAt (.between u v)) f) :
    (r.search (.between u v)).bind get = get f := by
  cases hs : r.search (.between u v) with
  | none => exact absurd h (by simpa using search_eq_none_iff.1 hs [] v rfl f)
  | some g =>
    obtain ⟨x, y, rfl, hg, hdead⟩ := first_of_search hs
    cases x with
    | nil => exact hget (by simpa using hg) h
    | cons c x => exact absurd h (by simpa using hdead [] _ rfl (by simp) f)

/-- A search may start behind places at which nothing is matched. -/
theorem search_bind_skip {z : Text}
    (hget : ∀ {x y f g}, v = x ++ y → r.Goes (.startAt (.between (u ++ z ++ x) y)) f →
      r.Goes (.startAt (.between (u ++ z ++ x) y)) g → get f = get g)
    (hdead : ∀ x y, z ++ v = x ++ y → x.length < z.length → r.Dead (.between (u ++ x) y)) :
    (r.search (.between u (z ++ v))).bind get = (r.search (.between (u ++ z) v)).bind get := by
  cases hs : r.search (.between u (z ++ v)) with
  | none =>
    have hnone : r.search (.between (u ++ z) v) = none := by
      refine search_eq_none_iff.2 fun x y hv => ?_
      have := search_eq_none_iff.1 hs (z ++ x) y (by simp [hv])
      simpa using this
    rw [hnone]
  | some f =>
    obtain ⟨x, y, hv, hf, hfirst⟩ := first_of_search hs
    have hle : z.length ≤ x.length := Nat.le_of_not_lt fun hlt => hdead x y hv hlt f hf
    obtain ⟨x, rfl⟩ : ∃ x', x = z ++ x' :=
      (List.prefix_of_prefix_length_le (List.prefix_append z v) (hv ▸ List.prefix_append x y)
        hle).imp fun _ h => h.symm
    obtain rfl : v = x ++ y := by simpa using hv
    cases hs' : r.search (.between (u ++ z) (x ++ y)) with
    | none => exact absurd hf (by simpa using search_eq_none_iff.1 hs' x y rfl f)
    | some g =>
      obtain ⟨x', y', hv', hg, hfirst'⟩ := first_of_search hs'
      have hlen : x'.length = x.length := by
        refine Nat.le_antisymm (Nat.le_of_not_lt fun hlt => ?_) (Nat.le_of_not_lt fun hlt => ?_)
        · exact hfirst' x y rfl hlt f (by simpa using hf)
        · exact hfirst (z ++ x') y' (by simp [hv']) (by simpa using hlt) g (by simpa using hg)
      obtain ⟨rfl, rfl⟩ := List.append_inj hv' hlen.symm
      exact hget rfl (by simpa using hf) hg

end

end TextSieve.Pattern.Regex
