import Mathlib.Data.List.Basic
import TextSieve.Unicode.Casing

/-! What folding leaves alone. Whatever simple case folding changes is a word character, and so is
what it is changed into; and nothing is folded into a character of ASCII in front of the letters.
Lowercase forms are another matter: characters with one folding may have different ones. -/

namespace TextSieve.Unicode

namespace Table

def Ascending (t : Table) : Prop :=
  t.toList.Pairwise fun s s' => s.first < s'.first ∧ s.last < s'.first

variable {t : Table}

theorem ascending_of_isChain
    (h : t.toList.IsChain fun s s' => s.first < s'.first ∧ s.last < s'.first) : t.Ascending := by
  have : IsTrans Stretch fun s s' => s.first < s'.first ∧ s.last < s'.first :=
    ⟨fun a b c hab hbc => ⟨Nat.lt_trans hab.1 hbc.1, Nat.lt_trans hab.2 hbc.1⟩⟩
  exact List.isChain_iff_pairwise.1 h

/-- The search never leaves the stretch that holds the code point outside its bounds. -/
theorem search_of_index (h : t.Ascending) {n low high i : Nat} {s : Stretch} (hs : t[i]? = some s)
    (hn : s.contains n = true) (hlow : low ≤ i) (hhigh : i < high) (hsize : high ≤ t.size) :
    t.search n low high = true := by
  obtain ⟨hi, rfl⟩ := Array.getElem?_eq_some_iff.1 hs
  obtain ⟨hfirst, hlast, -⟩ := (Stretch.contains_iff _ n).1 hn
  have hpair : ∀ {j k : Nat} (hj : j < t.size) (hk : k < t.size), j < k →
      t[j].first < t[k].first ∧ t[j].last < t[k].first := by
    intro j k hj hk hjk
    exact List.pairwise_iff_getElem.1 h j k (by simpa using hj) (by simpa using hk) hjk
  fun_induction search t n low high with
  | case1 low high hlt middle hnone =>
    have := Array.getElem?_eq_none_iff.1 hnone
    omega
  | case2 low high hlt middle m hm hbefore ih =>
    obtain ⟨hmiddle, rfl⟩ := Array.getElem?_eq_some_iff.1 hm
    refine ih hlow ?_ (by omega)
    by_contra hge
    rcases Nat.lt_or_eq_of_le (Nat.le_of_not_lt hge) with hlt | heq
    · have := hpair hmiddle hi hlt
      omega
    · subst heq
      omega
  | case3 low high hlt middle m hm hbefore hafter ih =>
    obtain ⟨hmiddle, rfl⟩ := Array.getElem?_eq_some_iff.1 hm
    refine ih ?_ hhigh hsize
    by_contra hge
    rcases Nat.lt_or_eq_of_le (Nat.le_of_lt_succ (Nat.lt_of_not_le hge)) with hlt | heq
    · have := hpair hi hmiddle hlt
      omega
    · subst heq
      omega
  | case4 low high hlt middle m hm hbefore hafter =>
    obtain ⟨hmiddle, rfl⟩ := Array.getElem?_eq_some_iff.1 hm
    rcases Nat.lt_trichotomy i middle with hlt | rfl | hlt
    · have := hpair hi hmiddle hlt
      omega
    · exact hn
    · have := hpair hmiddle hi hlt
      omega
  | case5 low high hge => omega

theorem contains_of_mem (h : t.Ascending) {n : Nat} {s : Stretch} (hs : s ∈ t.toList)
    (hn : s.contains n = true) : t.contains n = true := by
  obtain ⟨i, hi, rfl⟩ := List.mem_iff_getElem.1 hs
  have hi' : i < t.size := by simpa using hi
  exact search_of_index h (Array.getElem?_eq_getElem hi') hn (Nat.zero_le i) hi' (Nat.le_refl _)

end Table

def Stretch.members (s : Stretch) : List Nat :=
  List.range' s.first ((s.last - s.first) / s.step + 1) s.step

theorem Stretch.mem_members {s : Stretch} {n : Nat} (h : s.contains n = true) : n ∈ s.members := by
  obtain ⟨hfirst, hlast, hstep⟩ := (s.contains_iff n).1 h
  refine List.mem_range'.2 ⟨(n - s.first) / s.step, ?_, ?_⟩
  · exact Nat.lt_succ_of_le (Nat.div_le_div_right (Nat.sub_le_sub_right hlast _))
  · rw [Nat.mul_div_cancel' (Nat.dvd_of_mod_eq_zero hstep), Nat.add_sub_cancel' hfirst]

def Shift.members (s : Shift) : List Nat :=
  Stretch.members ⟨s.first, s.last, s.step⟩

/-- The code points that none of the stretches holds, if both are in increasing order. -/
def outside : List Nat → List Stretch → List Nat
  | [], _ => []
  | n :: ns, ss =>
    match ss.dropWhile fun s => Nat.blt s.last n with
    | [] => n :: ns
    | s :: rest => if s.contains n then outside ns (s :: rest) else n :: outside ns (s :: rest)

theorem mem_outside {n : Nat} {ns : List Nat} {ss : List Stretch} (hn : n ∈ ns)
    (h : ∀ s ∈ ss, s.contains n = false) : n ∈ outside ns ss := by
  induction ns generalizing ss with
  | nil => cases hn
  | cons m ns ih =>
    have hsub : ∀ s ∈ ss.dropWhile fun s => Nat.blt s.last m, s.contains n = false :=
      fun s hs => h s ((List.dropWhile_sublist _).subset hs)
    unfold outside
    split
    · exact hn
    · rename_i s rest hrest
      rw [hrest] at hsub
      rcases List.mem_cons.1 hn with rfl | hn
      · simp [hsub s (List.mem_cons_self ..)]
      · split
        · exact ih hn hsub
        · exact List.mem_cons_of_mem _ (ih hn hsub)

theorem mem_foldl_outside {n : Nat} {ns : List Nat} {ts : List Table} (hn : n ∈ ns)
    (h : ∀ t ∈ ts, ∀ s ∈ t.toList, s.contains n = false) :
    n ∈ ts.foldl (fun ns t => outside ns t.toList) ns := by
  induction ts generalizing ns with
  | nil => exact hn
  | cons t ts ih =>
    obtain ⟨ht, hts⟩ := List.forall_mem_cons.1 h
    exact ih (mem_outside hn ht) hts

/-- Tables of word characters. Together they hold all characters that folding changes, and all that
these are changed into. -/
def wordTables : List Table :=
  [Tables.lowercaseLetter, Tables.uppercaseLetter, Tables.titlecaseLetter, Tables.letterNumber,
    Tables.otherAlphabetic, Tables.nonspacingMark]

theorem ascending_of_mem_wordTables : ∀ t ∈ wordTables, t.Ascending := by
  have h : ∀ t ∈ wordTables,
      t.toList.IsChain fun s s' => s.first < s'.first ∧ s.last < s'.first := by
    decide +kernel
  exact fun t ht => Table.ascending_of_isChain (h t ht)

theorem isWord_of_mem_wordTables {t : Table} (ht : t ∈ wordTables) {c : Char}
    (hc : t.contains c.toNat = true) (hbeyond : 0x80 ≤ c.toNat) : isWord c = true := by
  have hlt : ¬ c.toNat < 0x80 := Nat.not_lt.2 hbeyond
  simp only [wordTables, List.mem_cons, List.not_mem_nil, or_false] at ht
  rcases ht with rfl | rfl | rfl | rfl | rfl | rfl <;>
    simp [isWord, isAlphabetic, hlt, hc, Category.letters, Category.marks, Category.has,
      Category.table]

/-- Code points that lie in the tables one after the other belong to word characters. -/
theorem isWord_of_outside_eq_nil {ns : List Nat}
    (h : wordTables.foldl (fun ns t => outside ns t.toList) ns = []) {c : Char}
    (hc : c.toNat ∈ ns) (hbeyond : 0x80 ≤ c.toNat) : isWord c = true := by
  by_contra hword
  have hnone : ∀ t ∈ wordTables, ∀ s ∈ t.toList, s.contains c.toNat = false := by
    intro t ht s hs
    by_contra hheld
    have hcontains : t.contains c.toNat = true :=
      Table.contains_of_mem (ascending_of_mem_wordTables t ht) hs (by simpa using hheld)
    exact hword (isWord_of_mem_wordTables ht hcontains hbeyond)
  have hmem := mem_foldl_outside hc hnone
  rw [h] at hmem
  cases hmem

theorem outside_sources :
    wordTables.foldl (fun ns t => outside ns t.toList)
      (Tables.foldings.toList.flatMap Shift.members) = [] := by
  decide +kernel

theorem outside_targets : ∀ s ∈ Tables.foldings.toList,
    wordTables.foldl (fun ns t => outside ns t.toList) (s.members.map s.apply) = [] := by
  decide +kernel

/-- Two characters of ASCII are the folding of one beyond it. -/
theorem apply_lt : ∀ s ∈ Tables.foldings.toList, ∀ n ∈ s.members, s.apply n < 0x80 →
    s.apply n = 0x6B ∨ s.apply n = 0x73 := by
  decide +kernel

theorem toNat_ofNat {n : Nat} (h : n.isValidChar) : (Char.ofNat n).toNat = n := by
  unfold Char.ofNat
  rw [dif_pos h]
  rfl

/-- Folding leaves a character beyond ASCII as it is or moves it by a shift of the table. -/
theorem fold_cases {c : Char} (hbeyond : 0x80 ≤ c.toNat) :
    fold c = c ∨ ∃ s ∈ Tables.foldings.toList, c.toNat ∈ s.members ∧
      (fold c).toNat = s.apply c.toNat := by
  unfold fold shifted charOr
  rw [if_neg (Nat.not_lt.2 hbeyond)]
  split
  · rename_i s hs
    have hmem : s ∈ Tables.foldings.toList := by simpa using Array.mem_of_find?_eq_some hs
    have happlies : s.applies c.toNat = true := by simpa using Array.find?_some hs
    split
    · rename_i hvalid
      exact .inr ⟨s, hmem, Stretch.mem_members happlies, toNat_ofNat hvalid⟩
    · exact .inl rfl
  · left
    split
    · exact Char.ofNat_toNat c
    · rfl

/-- A property of ASCII characters is checked for each of them. -/
theorem forall_ascii {P : Char → Prop} (h : ∀ n < 0x80, P (Char.ofNat n)) {c : Char}
    (hc : c.toNat < 0x80) : P c := by
  simpa using h c.toNat hc

theorem isWord_fold (c : Char) : isWord (fold c) = isWord c := by
  by_cases hascii : c.toNat < 0x80
  · exact forall_ascii (P := fun c => isWord (fold c) = isWord c) (by decide +kernel) hascii
  · have hbeyond := Nat.not_lt.1 hascii
    rcases fold_cases hbeyond with hsame | ⟨s, hs, hn, hfold⟩
    · rw [hsame]
    · have hsource : isWord c = true :=
        isWord_of_outside_eq_nil outside_sources (List.mem_flatMap.2 ⟨s, hs, hn⟩) hbeyond
      rw [hsource]
      have htarget : (fold c).toNat ∈ s.members.map s.apply := hfold ▸ List.mem_map_of_mem hn
      by_cases hlt : (fold c).toNat < 0x80
      · rcases apply_lt s hs _ hn (hfold ▸ hlt) with hk | hk
        · rw [← Char.ofNat_toNat (fold c), hfold, hk]
          decide
        · rw [← Char.ofNat_toNat (fold c), hfold, hk]
          decide
      · exact isWord_of_outside_eq_nil (outside_targets s hs) htarget (Nat.not_lt.1 hlt)

theorem isWord_eq_of_fold_eq {a b : Char} (h : fold a = fold b) : isWord a = isWord b := by
  rw [← isWord_fold a, h, isWord_fold]

/-- No other character is folded into a character of ASCII in front of the letters. -/
theorem eq_of_fold_eq {a c : Char} (hc : c.toNat < 0x41) (h : fold a = c) : a = c := by
  by_cases hascii : a.toNat < 0x80
  · have hall : (fold a).toNat < 0x41 → fold a = a :=
      forall_ascii (P := fun a => (fold a).toNat < 0x41 → fold a = a) (by decide +kernel) hascii
    exact (hall (h ▸ hc)).symm.trans h
  · rcases fold_cases (Nat.not_lt.1 hascii) with hsame | ⟨s, hs, hn, hfold⟩
    · exact hsame.symm.trans h
    · have hlow : s.apply a.toNat < 0x41 := by rw [← hfold, h]; exact hc
      rcases apply_lt s hs _ hn (Nat.lt_trans hlow (by decide)) with hk | hk
      · omega
      · omega

theorem eq_iff_of_fold_eq {a b c : Char} (h : fold a = fold b) (hc : c.toNat < 0x41) :
    a = c ↔ b = c := by
  have hself : fold c = c :=
    forall_ascii (P := fun c => c.toNat < 0x41 → fold c = c) (by decide +kernel)
      (Nat.lt_trans hc (by decide)) hc
  constructor
  · rintro rfl
    exact eq_of_fold_eq hc (h.symm.trans hself)
  · rintro rfl
    exact eq_of_fold_eq hc (h.trans hself)

def lowerForms (c : Char) : List Char :=
  if c == 'Σ' then ['σ', 'ς'] else lowerChar c

/-- The characters have the same lowercase forms and count alike for a sigma near them. -/
def LowersAlike (a b : Char) : Prop :=
  lowerForms a = lowerForms b ∧ isCased a = isCased b ∧ isCaseIgnorable a = isCaseIgnorable b
deriving Decidable

def Foreign (c : Char) (t : List Char) : Prop :=
  ∀ d ∈ lowerForms c, d ∉ t

instance (c : Char) (t : List Char) : Decidable (Foreign c t) :=
  decidable_of_iff ((lowerForms c).all fun d => !t.contains d) (by simp [Foreign])

theorem lowerChar_ne_sigmas (c : Char) : lowerChar c ≠ ['σ', 'ς'] := by
  unfold lowerChar
  split
  · simp
  · split <;> simp

theorem LowersAlike.eq_sigma_iff {a b : Char} (h : LowersAlike a b) : a = 'Σ' ↔ b = 'Σ' := by
  obtain ⟨hforms, -⟩ := h
  unfold lowerForms at hforms
  constructor
  · rintro rfl
    by_contra hb
    exact lowerChar_ne_sigmas b (by simpa [hb] using hforms.symm)
  · rintro rfl
    by_contra ha
    exact lowerChar_ne_sigmas a (by simpa [ha] using hforms)

theorem LowersAlike.lowerChar_eq {a b : Char} (h : LowersAlike a b) (ha : a ≠ 'Σ') :
    lowerChar a = lowerChar b := by
  have hb : b ≠ 'Σ' := mt h.eq_sigma_iff.2 ha
  simpa [lowerForms, ha, hb] using h.1

theorem startsCased_eq {t t' : List Char} (h : List.Forall₂ LowersAlike t t') :
    startsCased t = startsCased t' := by
  unfold startsCased
  induction h with
  | nil => rfl
  | @cons a b t t' hab _ ih =>
    obtain ⟨-, hcased, hignorable⟩ := hab
    cases hb : isCaseIgnorable b with
    | true => simpa [List.dropWhile_cons, hignorable, hb] using ih
    | false => simpa [List.dropWhile_cons, hignorable, hb] using hcased

theorem lowerAfter_eq {u u' t t' : List Char} (hu : List.Forall₂ LowersAlike u u')
    (h : List.Forall₂ LowersAlike t t') : lowerAfter u t = lowerAfter u' t' := by
  induction h generalizing u u' with
  | nil => rfl
  | @cons a b t t' hab ht ih =>
    unfold lowerAfter
    rw [ih (.cons hab hu), startsCased_eq hu, startsCased_eq ht]
    by_cases ha : a = 'Σ'
    · simp [ha, hab.eq_sigma_iff.1 ha]
    · simp [ha, mt hab.eq_sigma_iff.2 ha, hab.lowerChar_eq ha]

theorem lower_eq {t t' : List Char} (h : List.Forall₂ LowersAlike t t') : lower t = lower t' :=
  lowerAfter_eq .nil h

/-- Some lowercase form of each character is in the lowercase form of the text. -/
theorem exists_mem_lowerAfter {c : Char} {t : List Char} (hc : c ∈ t) (u : List Char) :
    ∃ d ∈ lowerForms c, d ∈ lowerAfter u t := by
  induction t generalizing u with
  | nil => cases hc
  | cons a t ih =>
    unfold lowerAfter
    rcases List.mem_cons.1 hc with rfl | hc
    · by_cases hsigma : c = 'Σ'
      · subst hsigma
        cases startsCased u && !startsCased t with
        | true => exact ⟨'ς', by simp [lowerForms], by simp⟩
        | false => exact ⟨'σ', by simp [lowerForms], by simp⟩
      · obtain ⟨d, ds, hd⟩ : ∃ d ds, lowerChar c = d :: ds := by
          unfold lowerChar
          split
          · exact ⟨_, _, rfl⟩
          · split <;> exact ⟨_, _, rfl⟩
        exact ⟨d, by simp [lowerForms, hsigma, hd], by simp [hsigma, hd]⟩
    · obtain ⟨d, hd, hmem⟩ := ih hc (a :: u)
      exact ⟨d, hd, List.mem_append_right _ hmem⟩

theorem lower_ne_of_foreign {c : Char} {t t' : List Char} (hc : c ∈ t) (h : Foreign c t') :
    lower t ≠ t' := by
  obtain ⟨d, hd, hmem⟩ := exists_mem_lowerAfter hc []
  rintro rfl
  exact h d hd hmem

end TextSieve.Unicode
