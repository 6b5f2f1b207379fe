import TextSieve.Proofs.CommandLine.Sides

/-! Moving settings between the sides of a command. Settings take nothing from what belongs to one
side and change no reading behind them, so they can be moved as long as all of one flag, and both
flags that exclude each other, stay on one side. A flag on two sides loses what stands before the
command. -/

namespace TextSieve.CommandLine

variable {place : Place} {g g' B H : Given} {p : Parameter}

def own (g : Given) : Given := g.filter fun x => !(x.1 ∈ Parameter.shared)

@[simp] theorem own_append (g h : Given) : own (g ++ h) = own g ++ own h :=
  List.filter_append g h

theorem own_setting (x : Setting) (g : Given) : own ((x.parameter, x.value) :: g) = own g := by
  simp [own, x.shared]

theorem valuesIn_own (hp : p ∉ Parameter.shared) (g : Given) :
    valuesIn (own g) p = valuesIn g p := by
  rw [own, valuesIn_filter fun p => !(p ∈ Parameter.shared)]
  simp [hp]

theorem valuesIn_of_own (h : own g = own g') (hp : p ∉ Parameter.shared) :
    valuesIn g p = valuesIn g' p := by
  rw [← valuesIn_own hp, h, valuesIn_own hp]

/-- Settings add nothing to what belongs to one place, and do not change the reading behind them. -/
theorem scanPieces_words (place : Place) (k : Control) (pieces : List Piece) :
    (scanPieces place k (pieces.filter Piece.isWord)).map (fun r => (own r.1, r.2)) =
      (scanPieces place k pieces).map fun r => (own r.1, r.2) := by
  induction pieces generalizing k with
  | nil => rfl
  | cons x rest ih =>
    cases x with
    | word arg =>
      rw [List.filter_cons_of_pos rfl, scanPieces, scanPieces]
      cases Piece.scan place k (.word arg) with
      | none => rfl
      | some r =>
        have hrest := congrArg (Option.map fun r' => (own r.1 ++ r'.1, r'.2)) (ih r.2)
        simpa [andThen, Function.comp_def] using hrest
    | setting x =>
      rw [List.filter_cons_of_neg (by simp [Piece.isWord]), ih, scanPieces, Piece.scan]
      simp [andThen, Function.comp_def, own_setting]

/-- What the words give stands in this order among all that is given. -/
theorem exists_sublist_of_scanPieces {pieces : List Piece} {k k' : Control}
    (h : scanPieces place k pieces = some (g, k')) :
    ∃ g₀, scanPieces place k (pieces.filter Piece.isWord) = some (g₀, k') ∧ g₀.Sublist g := by
  induction pieces generalizing k g with
  | nil => exact ⟨g, h, List.Sublist.refl g⟩
  | cons x rest ih =>
    obtain ⟨⟨g₁, k₁⟩, hscan, h⟩ := Option.bind_eq_some_iff.1 h
    obtain ⟨⟨g₂, k₂⟩, hrest, heq⟩ := Option.map_eq_some_iff.1 h
    obtain ⟨rfl, rfl⟩ := Prod.mk.inj heq
    obtain ⟨g₀, hwords, hsub⟩ := ih hrest
    cases x with
    | word arg =>
      rw [List.filter_cons_of_pos rfl, scanPieces, hscan]
      exact ⟨g₁ ++ g₀, by simp [andThen, hwords], hsub.append_left g₁⟩
    | setting x =>
      rw [List.filter_cons_of_neg (by simp [Piece.isWord])]
      obtain ⟨-, rfl⟩ := Prod.mk.inj (Option.some.inj hscan)
      exact ⟨g₀, hwords, hsub.trans (List.sublist_append_right g₁ g₂)⟩

theorem placed_words (place : Place) (k : Control) (pieces : List Piece)
    (h : placed place k pieces = true) : placed place k (pieces.filter Piece.isWord) = true := by
  induction pieces generalizing k with
  | nil => rfl
  | cons x rest ih =>
    rw [placed, Bool.and_eq_true, Option.all_eq_true] at h
    obtain ⟨hfits, hrest⟩ := h
    cases x with
    | word arg =>
      rw [List.filter_cons_of_pos rfl, placed, Bool.and_eq_true, Option.all_eq_true]
      exact ⟨hfits, fun r hr => ih r.2 (hrest r hr)⟩
    | setting x =>
      rw [List.filter_cons_of_neg (by simp [Piece.isWord])]
      exact ih k (hrest _ rfl)

theorem givenBy_words (place : Place) (pieces : List Piece) :
    (givenBy place (pieces.filter Piece.isWord)).map own = (givenBy place pieces).map own := by
  have hscan := congrArg (Option.bind · fun r : Given × Control =>
    if r.2.awaiting = none then some r.1 else none) (scanPieces_words place {} pieces)
  simp only [Option.bind_map, Function.comp_def] at hscan
  simp only [givenBy, Option.map_bind, Function.comp_def, apply_ite (Option.map own),
    Option.map_some, Option.map_none]
  exact hscan

theorem exists_sublist_of_givenBy {pieces : List Piece} (h : givenBy place pieces = some g) :
    ∃ g₀, givenBy place (pieces.filter Piece.isWord) = some g₀ ∧ g₀.Sublist g := by
  obtain ⟨⟨g', k⟩, hscan, h⟩ := Option.bind_eq_some_iff.1 h
  obtain ⟨hawaiting, heq⟩ := Option.ite_none_right_eq_some.1 h
  obtain rfl : g' = g := Option.some.inj heq
  obtain ⟨g₀, hwords, hsub⟩ := exists_sublist_of_scanPieces hscan
  refine ⟨g₀, ?_, hsub⟩
  rw [givenBy, hwords, Option.bind_some, if_pos hawaiting]

namespace Line

theorem bare_placed {l : Line} (hl : l.placed = true) : l.bare.placed = true := by
  simp only [placed, Bool.and_eq_true, Option.all_eq_true] at hl ⊢
  obtain ⟨⟨hbefore, hopen⟩, hbehind⟩ := hl
  refine ⟨⟨placed_words _ _ _ hbefore, fun r hr => ?_⟩, placed_words _ _ _ hbehind⟩
  have hscan := scanPieces_words .beforeCommand {} l.before
  have hfound : scanPieces .beforeCommand {} (l.before.filter Piece.isWord) = some r := hr
  rw [hfound, Option.map_some] at hscan
  obtain ⟨r', hr', heq⟩ := Option.map_eq_some_iff.1 hscan.symm
  have hcontrol : r'.2 = r.2 := (Prod.mk.inj heq).2
  exact hcontrol ▸ hopen r' hr'

theorem sides?_bare (l : Line) :
    l.bare.sides?.map (Prod.map own own) = l.sides?.map (Prod.map own own) := by
  have hsplit : ∀ b h : Option Given,
      (b.bind fun B => h.map fun H => (B, H)).map (Prod.map own own) =
        (b.map own).bind fun B => (h.map own).map fun H => (B, H) := by
    intro b h
    cases b <;> cases h <;> rfl
  unfold sides? bare
  rw [hsplit, hsplit, givenBy_words, givenBy_words]

variable {l : Line} {B₀ H₀ : Given}

/-- Settings leave both sides with what belongs to them. -/
theorem exists_sides_of_bare (h : l.bare.sides? = some (B₀, H₀)) :
    ∃ B H, l.sides? = some (B, H) ∧ own B₀ = own B ∧ own H₀ = own H := by
  have hown := sides?_bare l
  rw [h, Option.map_some] at hown
  obtain ⟨⟨B, H⟩, hsides, heq⟩ := Option.map_eq_some_iff.1 hown.symm
  obtain ⟨hB, hH⟩ := Prod.mk.inj heq
  exact ⟨B, H, hsides, hB.symm, hH.symm⟩

theorem exists_bare_of_sides (h : l.sides? = some (B, H)) :
    ∃ B₀ H₀, l.bare.sides? = some (B₀, H₀) ∧ B₀.Sublist B ∧ H₀.Sublist H ∧
      own B = own B₀ ∧ own H = own H₀ := by
  obtain ⟨B', hB, hrest⟩ := Option.bind_eq_some_iff.1 h
  obtain ⟨H', hH, heq⟩ := Option.map_eq_some_iff.1 hrest
  obtain ⟨rfl, rfl⟩ := Prod.mk.inj heq
  obtain ⟨B₀, hB₀, hsubB⟩ := exists_sublist_of_givenBy hB
  obtain ⟨H₀, hH₀, hsubH⟩ := exists_sublist_of_givenBy hH
  have hbare : l.bare.sides? = some (B₀, H₀) := by simp [sides?, bare, hB₀, hH₀]
  have hown := sides?_bare l
  rw [hbare, h, Option.map_some, Option.map_some] at hown
  obtain ⟨hownB, hownH⟩ := Prod.mk.inj (Option.some.inj hown)
  exact ⟨B₀, H₀, hbare, hsubB, hsubH, hownB.symm, hownH.symm⟩

end Line

/-- No shared parameter is given twice if it cannot be, and not both that exclude each other. -/
structure Agrees (g : Given) : Prop where
  single : ∀ p ∈ Parameter.shared, p.arity = .switch ∨ p.arity = .value → (valuesIn g p).length ≤ 1
  attributes : valuesIn g .noAttributes = [] ∨ valuesIn g .attributeDelimiter = []

theorem accepts_of_shared (hp : p ∈ Parameter.shared) (value : Text) : p.accepts value = true := by
  cases p <;> first | rfl | exact absurd hp (by decide)

theorem accepted_iff : Accepted g ↔ ∀ p, ∀ v ∈ valuesIn g p, p.accepts v = true := by
  simp [Accepted, valuesIn]

theorem accepted_of_own (hg : Accepted g) (hown : own g = own g') : Accepted g' := by
  rw [accepted_iff] at hg ⊢
  intro p v hv
  by_cases hp : p ∈ Parameter.shared
  · exact accepts_of_shared hp v
  · exact hg p v (valuesIn_of_own hown hp ▸ hv)

theorem complete_of_own (hplace : place.Shares) (hg : Complete place g) (hown : own g = own g') :
    Complete place g' := by
  intro p hp
  rw [← valuesIn_of_own hown (hplace.required p hp)]
  exact hg p hp

/-- What is shared can be exchanged for any other that agrees. -/
theorem Fits.of_own (hg : Fits place g) (hplace : place.Shares) (hown : own g = own g')
    (hagrees : Agrees g') : Fits place g' where
  valid := by
    refine ⟨fun p harity => ?_, accepted_of_own hg.valid.accepted hown⟩
    by_cases hp : p ∈ Parameter.shared
    · exact hagrees.single p hp harity
    · rw [← valuesIn_of_own hown hp]
      exact hg.valid.single p harity
  conflicts := by
    intro c hc
    rcases hplace.conflicts c hc with rfl | ⟨h₁, h₂⟩
    · exact hagrees.attributes
    · rw [← valuesIn_of_own hown h₁, ← valuesIn_of_own hown h₂]
      exact hg.conflicts c hc
  complete := complete_of_own hplace hg.complete hown

/-- What fits still fits with nothing but settings left out. -/
theorem Fits.sublist (hg : Fits place g) (hplace : place.Shares) (hsub : g'.Sublist g)
    (hown : own g = own g') : Fits place g' where
  valid := hg.valid.sublist hsub
  conflicts := by
    have hnil : ∀ p, valuesIn g p = [] → valuesIn g' p = [] := fun p h =>
      List.sublist_nil.1 (h ▸ (hsub.filter _).map _)
    exact fun c hc => (hg.conflicts c hc).imp (hnil c.1) (hnil c.2)
  complete := complete_of_own hplace hg.complete hown

theorem Fits.agrees (hg : Fits place g) (hplace : place.Shares) : Agrees g where
  single := fun p _ harity => hg.valid.single p harity
  attributes := hg.conflicts _ hplace.attributes

abbrev Sides := Given × Given

variable {r r' : Sides}

/-- Two parameters of which each has a say in the other: one and the same, or those for attributes. -/
def Together (p q : Parameter) : Prop :=
  p = q ∨ (p, q) = Place.attributeConflict ∨ (q, p) = Place.attributeConflict

instance (p q : Parameter) : Decidable (Together p q) :=
  inferInstanceAs (Decidable (_ ∨ _ ∨ _))

/-- The one parameter is not given before the command with the other behind it. -/
def Beside (r : Sides) (p q : Parameter) : Prop := valuesIn r.1 p = [] ∨ valuesIn r.2 q = []

instance (r : Sides) (p q : Parameter) : Decidable (Beside r p q) :=
  inferInstanceAs (Decidable (_ ∨ _))

def OneSided (r : Sides) : Prop :=
  ∀ p ∈ Parameter.shared, ∀ q ∈ Parameter.shared, Together p q → Beside r p q

def Stays (r r' : Sides) (p : Parameter) : Prop :=
  valuesIn r.1 p = valuesIn r'.1 p ∧ valuesIn r.2 p = valuesIn r'.2 p

instance (r r' : Sides) (p : Parameter) : Decidable (Stays r r' p) :=
  inferInstanceAs (Decidable (_ ∧ _))

/-- All that is moved stands on one side, before and after. -/
def Free (r r' : Sides) : Prop :=
  ∀ p ∈ Parameter.shared, ∀ q ∈ Parameter.shared, Together p q →
    Stays r r' p ∧ Stays r r' q ∨ Beside r p q ∧ Beside r' p q

instance (r r' : Sides) : Decidable (Free r r') :=
  inferInstanceAs (Decidable (∀ p ∈ Parameter.shared, ∀ q ∈ Parameter.shared, Together p q →
    Stays r r' p ∧ Stays r r' q ∨ Beside r p q ∧ Beside r' p q))

theorem Free.symm (h : Free r r') : Free r' r := by
  intro p hp q hq hpq
  rcases h p hp q hq hpq with ⟨hstays, hstays'⟩ | hbeside
  · exact .inl ⟨⟨hstays.1.symm, hstays.2.symm⟩, hstays'.1.symm, hstays'.2.symm⟩
  · exact .inr hbeside.symm

/-- The two flags that exclude each other are not both given if each side has one of them at most. -/
theorem attributes_of_beside (hbefore : Agrees r.1) (hbehind : Agrees r.2)
    (h₁ : Beside r .noAttributes .attributeDelimiter)
    (h₂ : Beside r .attributeDelimiter .noAttributes) :
    valuesIn (r.1 ++ r.2) .noAttributes = [] ∨ valuesIn (r.1 ++ r.2) .attributeDelimiter = [] := by
  have hB := hbefore.attributes
  have hH := hbehind.attributes
  simp only [valuesIn_append, List.append_eq_nil_iff]
  unfold Beside at h₁ h₂
  tauto

/-- After a free move both sides agree if they did. -/
theorem Free.agrees (h : Free r r') (hbefore : Agrees r.1) (hbehind : Agrees r.2)
    (hvalues : ∀ p ∈ Parameter.shared, valuesIn (r.1 ++ r.2) p = valuesIn (r'.1 ++ r'.2) p) :
    Agrees r'.1 ∧ Agrees r'.2 := by
  have hsingle : ∀ p ∈ Parameter.shared, p.arity = .switch ∨ p.arity = .value →
      (valuesIn r'.1 p).length ≤ 1 ∧ (valuesIn r'.2 p).length ≤ 1 := by
    intro p hp harity
    have hB := hbefore.single p hp harity
    have hH := hbehind.single p hp harity
    rcases h p hp p hp (.inl rfl) with ⟨⟨h₁, h₂⟩, -⟩ | ⟨hbeside, -⟩
    · rw [← h₁, ← h₂]
      exact ⟨hB, hH⟩
    · have hlength := congrArg List.length (hvalues p hp)
      simp only [valuesIn_append, List.length_append] at hlength
      rcases hbeside with hnil | hnil <;> rw [hnil, List.length_nil] at hlength <;> omega
  have hattributes :
      (valuesIn r'.1 .noAttributes = [] ∨ valuesIn r'.1 .attributeDelimiter = []) ∧
        (valuesIn r'.2 .noAttributes = [] ∨ valuesIn r'.2 .attributeDelimiter = []) := by
    have hpair := h .noAttributes (by decide) .attributeDelimiter (by decide) (.inr (.inl rfl))
    have hpair' := h .attributeDelimiter (by decide) .noAttributes (by decide) (.inr (.inr rfl))
    by_cases hstays : Stays r r' .noAttributes ∧ Stays r r' .attributeDelimiter
    · obtain ⟨h₁, h₂⟩ := hstays
      rw [← h₁.1, ← h₁.2, ← h₂.1, ← h₂.2]
      exact ⟨hbefore.attributes, hbehind.attributes⟩
    · obtain ⟨hbeside, -⟩ := hpair.resolve_left hstays
      obtain ⟨hbeside', -⟩ := hpair'.resolve_left fun h => hstays h.symm
      have hwhole := attributes_of_beside hbefore hbehind hbeside hbeside'
      rw [hvalues _ (by decide), hvalues _ (by decide), valuesIn_append, valuesIn_append,
        List.append_eq_nil_iff, List.append_eq_nil_iff] at hwhole
      tauto
  exact ⟨⟨fun p hp harity => (hsingle p hp harity).1, hattributes.1⟩,
    ⟨fun p hp harity => (hsingle p hp harity).2, hattributes.2⟩⟩

theorem values_combined_of_beside (hp : p ∈ Parameter.shared → Beside r p p) :
    (combined { given := r.1 } { given := r.2 }).values p = valuesIn (r.1 ++ r.2) p := by
  rw [values_combined, valuesIn_append]
  split
  · rename_i hshared
    have hnil : valuesIn r.1 p = [] := (hp hshared.1).resolve_right hshared.2
    simp [hnil]
  · rfl

/-- A free move changes no value that counts. -/
theorem Free.values_combined (h : Free r r')
    (hvalues : ∀ p, valuesIn (r.1 ++ r.2) p = valuesIn (r'.1 ++ r'.2) p) (p : Parameter) :
    (combined { given := r.1 } { given := r.2 }).values p =
      (combined { given := r'.1 } { given := r'.2 }).values p := by
  by_cases hmoved : p ∈ Parameter.shared ∧ Stays r r' p
  · rw [CommandLine.values_combined, CommandLine.values_combined, hmoved.2.1, hmoved.2.2]
  · have hbeside : p ∈ Parameter.shared → Beside r p p ∧ Beside r' p p := by
      intro hp
      exact (h p hp p hp (.inl rfl)).resolve_left fun hstays => hmoved ⟨hp, hstays.1⟩
    rw [values_combined_of_beside fun hp => (hbeside hp).1,
      values_combined_of_beside fun hp => (hbeside hp).2, hvalues p]

namespace Line

variable {l l' : Line} {i : Invocation}

def sides (l : Line) : Sides := l.sides?.getD ([], [])

def given (l : Line) : Given := l.sides.1 ++ l.sides.2

/-- The lines differ in where settings stand, but for each parameter these are in the same order. -/
structure Moved (l l' : Line) : Prop where
  bare : l.bare = l'.bare
  values : ∀ p ∈ Parameter.shared, valuesIn l.given p = valuesIn l'.given p

theorem Moved.symm (h : l.Moved l') : l'.Moved l :=
  ⟨h.bare.symm, fun p hp => (h.values p hp).symm⟩

/-- Moved settings leave both sides with what belongs to them. -/
theorem Moved.own_sides (h : l.Moved l') (hsides : l.sides? = some (B, H)) :
    ∃ B' H', l'.sides? = some (B', H') ∧ own B = own B' ∧ own H = own H' := by
  obtain ⟨B₀, H₀, hbare, -, -, hB, hH⟩ := exists_bare_of_sides hsides
  rw [h.bare] at hbare
  obtain ⟨B', H', hsides', hB', hH'⟩ := exists_sides_of_bare hbare
  exact ⟨B', H', hsides', hB.trans hB', hH.trans hH'⟩

theorem read_eq_ok_iff (hl : l.placed = true) :
    read l.args = .ok i ↔ ∃ B H, l.sides? = some (B, H) ∧ Fits .beforeCommand B ∧
      Fits (.behindCommand l.name) H ∧
        i = .ofGiven l.name (combined { given := B } { given := H }) := by
  have hcases := read_cases l hl
  cases hsides : l.sides? with
  | none =>
    rw [hsides] at hcases
    obtain ⟨e, he⟩ := hcases
    simp [he]
  | some r =>
    obtain ⟨B, H⟩ := r
    rw [hsides] at hcases
    simp only [Option.some.injEq, Prod.mk.injEq]
    constructor
    · intro hi
      rcases hcases with ⟨hB, hH, hx⟩ | ⟨-, e, hx, -⟩
      · exact ⟨B, H, ⟨rfl, rfl⟩, hB, hH, (Except.ok.inj (hx.symm.trans hi)).symm⟩
      · rw [hi] at hx
        cases hx
    · rintro ⟨_, _, ⟨rfl, rfl⟩, hB, hH, rfl⟩
      rcases hcases with ⟨-, -, hx⟩ | ⟨hfits, -⟩
      · exact hx
      · exact absurd ⟨hB, hH⟩ hfits

/-- A line is carried out exactly if it is without its settings and these agree on each side. -/
theorem isOk_read_iff (hl : l.placed = true) :
    (∃ i, read l.args = .ok i) ↔
      (∃ i, read l.bare.args = .ok i) ∧ Agrees l.sides.1 ∧ Agrees l.sides.2 := by
  have hbehind := shares_behindCommand l.name
  constructor
  · rintro ⟨i, hi⟩
    obtain ⟨B, H, hsides, hB, hH, -⟩ := (read_eq_ok_iff hl).1 hi
    obtain ⟨B₀, H₀, hbare, hsubB, hsubH, hownB, hownH⟩ := exists_bare_of_sides hsides
    have hpair : l.sides = (B, H) := by simp [sides, hsides]
    rw [hpair]
    refine ⟨⟨_, (read_eq_ok_iff (bare_placed hl)).2 ⟨B₀, H₀, hbare, ?_, ?_, rfl⟩⟩, ?_, ?_⟩
    · exact hB.sublist shares_beforeCommand hsubB hownB
    · exact hH.sublist hbehind hsubH hownH
    · exact hB.agrees shares_beforeCommand
    · exact hH.agrees hbehind
  · rintro ⟨⟨i, hi⟩, hagreesB, hagreesH⟩
    obtain ⟨B₀, H₀, hbare, hB₀, hH₀, -⟩ := (read_eq_ok_iff (bare_placed hl)).1 hi
    obtain ⟨B, H, hsides, hownB, hownH⟩ := exists_sides_of_bare hbare
    have hpair : l.sides = (B, H) := by simp [sides, hsides]
    rw [hpair] at hagreesB hagreesH
    refine ⟨_, (read_eq_ok_iff hl).2 ⟨B, H, hsides, ?_, ?_, rfl⟩⟩
    · exact hB₀.of_own shares_beforeCommand hownB hagreesB
    · exact hH₀.of_own hbehind hownH hagreesH

/-- If nothing is wrong but the settings, this is a conflict. -/
theorem eq_conflict_of_bare (hl : l.placed = true) {i₀ : Invocation}
    (hbare : read l.bare.args = .ok i₀) {e : UsageError} (he : read l.args = .error e) :
    e = .conflict := by
  obtain ⟨B₀, H₀, hsides₀, hB₀, hH₀, -⟩ := (read_eq_ok_iff (bare_placed hl)).1 hbare
  obtain ⟨B, H, hsides, hownB, hownH⟩ := exists_sides_of_bare hsides₀
  have hcases := read_cases l hl
  rw [hsides] at hcases
  rcases hcases with ⟨-, -, hx⟩ | ⟨-, e', hx, hconflict⟩
  · rw [he] at hx
    cases hx
  · obtain rfl := Except.error.inj (he.symm.trans hx)
    exact hconflict (accepted_of_own hB₀.valid.accepted hownB)
      (accepted_of_own hH₀.valid.accepted hownH)
      (complete_of_own (shares_behindCommand l.name) hH₀.complete hownH)

theorem read_of_moved (hl : l.placed = true) (hl' : l'.placed = true) (hmoved : l.Moved l')
    (hfree : Free l.sides l'.sides) (hi : read l.args = .ok i) : read l'.args = .ok i := by
  obtain ⟨B, H, hsides, hB, hH, rfl⟩ := (read_eq_ok_iff hl).1 hi
  obtain ⟨B', H', hsides', hownB, hownH⟩ := hmoved.own_sides hsides
  have hname : l.name = l'.name := (congrArg Line.name hmoved.bare :)
  have hshared := hmoved.values
  have hpair : l.sides = (B, H) := by simp [sides, hsides]
  have hpair' : l'.sides = (B', H') := by simp [sides, hsides']
  rw [given, given, hpair, hpair'] at hshared
  rw [hpair, hpair'] at hfree
  have hvalues : ∀ p, valuesIn (B ++ H) p = valuesIn (B' ++ H') p := by
    intro p
    by_cases hp : p ∈ Parameter.shared
    · exact hshared p hp
    · rw [valuesIn_append, valuesIn_append, valuesIn_of_own hownB hp, valuesIn_of_own hownH hp]
  obtain ⟨hagreesB, hagreesH⟩ := hfree.agrees (hB.agrees shares_beforeCommand)
    (hH.agrees (shares_behindCommand l.name)) hshared
  refine (read_eq_ok_iff hl').2 ⟨B', H', hsides', ?_, ?_, ?_⟩
  · exact hB.of_own shares_beforeCommand hownB hagreesB
  · exact hname ▸ hH.of_own (shares_behindCommand l.name) hownH hagreesH
  · rw [← hname]
    exact ofGiven_congr (hfree.values_combined hvalues)

/-- Of each shared flag the values behind the command count, or those before if there are none. -/
theorem options_of_read (hl : l.placed = true) (hi : read l.args = .ok i) :
    i.options = .ofGiven (combined { given := l.sides.1 } { given := l.sides.2 }) := by
  obtain ⟨B, H, hsides, -, -, rfl⟩ := (read_eq_ok_iff hl).1 hi
  simp [sides, hsides, Invocation.ofGiven]

/-- With all of a flag on one side every value counts, and no two flags exclude each other. -/
theorem options_of_oneSided (hl : l.placed = true) (hside : OneSided l.sides)
    (hi : read l.args = .ok i) :
    i.options = .ofGiven { given := l.given } ∧
      (i.options.noAttributes = false ∨ i.options.attributeDelimiter = none) := by
  obtain ⟨B, H, hsides, hB, hH, rfl⟩ := (read_eq_ok_iff hl).1 hi
  have hpair : l.sides = (B, H) := by simp [sides, hsides]
  rw [hpair] at hside
  have hinvocation : Invocation.ofGiven l.name (combined { given := B } { given := H }) =
      Invocation.ofGiven l.name { given := B ++ H } :=
    ofGiven_congr fun p => values_combined_of_beside fun hp => hside p hp p hp (.inl rfl)
  have hattributes := attributes_of_beside (hB.agrees shares_beforeCommand)
    (hH.agrees (shares_behindCommand l.name))
    (hside .noAttributes (by decide) .attributeDelimiter (by decide) (.inr (.inl rfl)))
    (hside .attributeDelimiter (by decide) .noAttributes (by decide) (.inr (.inr rfl)))
  rw [hinvocation, given, hpair]
  refine ⟨rfl, hattributes.imp (fun h => ?_) fun h => ?_⟩
  · exact Bool.eq_false_iff.2 fun hhas => has_iff.1 hhas h
  · exact congrArg List.head? h

/-- Settings can be moved from one side of the command to the other if all of a moved flag, and both
that exclude each other, stay on one side. The line is refused or carried out the same: carried out
exactly if it is without its settings and these agree on each side, and if there is no flag on two
sides, with all values in their order. -/
theorem read_moved (hl : l.placed = true) (hl' : l'.placed = true) (hmoved : l.Moved l')
    (hfree : Free l.sides l'.sides) :
    (read l.args).toOption = (read l'.args).toOption ∧
      ((∃ i, read l.bare.args = .ok i) → read l.args = read l'.args) ∧
      ((∃ i, read l.args = .ok i) ↔
        (∃ i, read l.bare.args = .ok i) ∧ Agrees l.sides.1 ∧ Agrees l.sides.2) ∧
      (OneSided l.sides → ∀ i, read l.args = .ok i →
        i.options = .ofGiven { given := l.given } ∧
          i.options.delimiterList = (do
            let patterns ← (valuesIn l.given .delimiterPattern).mapM Delimiter.ofPattern
            return (valuesIn l.given .delimiter).map Delimiter.literal ++ patterns) ∧
          (i.options.noAttributes = false ∨ i.options.attributeDelimiter = none)) := by
  have hok : ∀ i, read l.args = .ok i ↔ read l'.args = .ok i := fun i =>
    ⟨read_of_moved hl hl' hmoved hfree, read_of_moved hl' hl hmoved.symm hfree.symm⟩
  refine ⟨Option.ext fun i => ?_, ?_, isOk_read_iff hl, fun hside i hi => ?_⟩
  · have htoOption : ∀ x : Except UsageError Invocation, x.toOption = some i ↔ x = .ok i := by
      intro x
      cases x <;> simp [Except.toOption]
    rw [htoOption, htoOption]
    exact hok i
  · rintro ⟨i₀, hbare⟩
    cases hx : read l.args with
    | ok i => exact ((hok i).1 hx).symm
    | error e =>
      cases hx' : read l'.args with
      | ok i =>
        rw [(hok i).2 hx'] at hx
        cases hx
      | error e' =>
        rw [eq_conflict_of_bare hl hbare hx, eq_conflict_of_bare hl' (hmoved.bare ▸ hbare) hx']
  · obtain ⟨hoptions, hattributes⟩ := options_of_oneSided hl hside hi
    exact ⟨hoptions, by rw [hoptions]; rfl, hattributes⟩

/-- `-d a -d b -v terms x --case-sensitive` -/
def delimitersBefore : Line where
  before := [.setting (.letter .delimiter 'd' ['a'] rfl rfl (by decide) (by decide)),
    .setting (.letter .delimiter 'd' ['b'] rfl rfl (by decide) (by decide)), .word ['-', 'v']]
  name := .terms
  behind := [.word ['x'], .setting (.switch .caseSensitive "case-sensitive" rfl rfl (by decide))]

/-- `--case-sensitive -v terms -d a x -d b` -/
def delimitersBehind : Line where
  before := [.setting (.switch .caseSensitive "case-sensitive" rfl rfl (by decide)),
    .word ['-', 'v']]
  name := .terms
  behind := [.setting (.letter .delimiter 'd' ['a'] rfl rfl (by decide) (by decide)), .word ['x'],
    .setting (.letter .delimiter 'd' ['b'] rfl rfl (by decide) (by decide))]

theorem read_moved_delimiters :
    delimitersBefore.placed = true ∧ delimitersBehind.placed = true ∧
      delimitersBefore.Moved delimitersBehind ∧
      Free delimitersBefore.sides delimitersBehind.sides ∧
      read delimitersBefore.args = read delimitersBehind.args := by
  have hl : delimitersBefore.placed = true := by decide
  have hl' : delimitersBehind.placed = true := by decide
  have hmoved : delimitersBefore.Moved delimitersBehind := ⟨rfl, by decide⟩
  have hfree : Free delimitersBefore.sides delimitersBehind.sides := by decide
  exact ⟨hl, hl', hmoved, hfree, (read_moved hl hl' hmoved hfree).2.1 ⟨_, rfl⟩⟩

/-- `-d a terms x -d b` -/
def delimitersApart : Line where
  before := [.setting (.letter .delimiter 'd' ['a'] rfl rfl (by decide) (by decide))]
  name := .terms
  behind := [.word ['x'], .setting (.letter .delimiter 'd' ['b'] rfl rfl (by decide) (by decide))]

/-- `terms x -d a -d b` -/
def delimitersJoined : Line where
  before := []
  name := .terms
  behind := [.word ['x'], .setting (.letter .delimiter 'd' ['a'] rfl rfl (by decide) (by decide)),
    .setting (.letter .delimiter 'd' ['b'] rfl rfl (by decide) (by decide))]

/-- A flag that is repeated behind the command loses what stands before it, and two flags that
exclude each other are both accepted on two sides. -/
theorem read_repeated_apart :
    delimitersApart.placed = true ∧ delimitersJoined.placed = true ∧
      delimitersApart.Moved delimitersJoined ∧
      (read delimitersApart.args).map (·.options.delimiters) = .ok [['b']] ∧
      (read delimitersJoined.args).map (·.options.delimiters) = .ok [['a'], ['b']] ∧
      (read (["--no-attributes", "terms", "a", "--attribute-delimiter", "="].map String.toList)).map
          (fun i => (i.options.noAttributes, i.options.attributeDelimiter)) =
        .ok (true, some ['=']) ∧
      read (["terms", "a", "--no-attributes", "--attribute-delimiter", "="].map String.toList) =
        .error .conflict :=
  ⟨by decide, by decide, ⟨rfl, by decide⟩, rfl, rfl, rfl, rfl⟩

end Line

end TextSieve.CommandLine
