import TextSieve.Proofs.CommandLine.Scan

/-! Settings among other arguments. A setting is one flag with its value, in any way to write it. It
can be put wherever flags are read as flags, and leaves the reading where it stood. -/

namespace TextSieve.CommandLine

variable {place : Place} {s : Progress} {k : Control} {p : Parameter} {value : Text}

def LooksPlain (arg : Text) : Prop := arg = ['-'] ∨ arg.head? ≠ some '-'

instance (arg : Text) : Decidable (LooksPlain arg) :=
  inferInstanceAs (Decidable (_ ∨ _))

inductive Spelled (p : Parameter) : Text → List Text → Prop
  | switch {name : String} (hname : p.long? = some name) (hp : p.takesValue = false) :
    Spelled p [] ['-' :: '-' :: name.toList]
  | long {name : String} (hname : p.long? = some name) (hp : p.takesValue = true) (value : Text) :
    Spelled p value ['-' :: '-' :: (name.toList ++ '=' :: value)]
  | longApart {name : String} (hname : p.long? = some name) (hp : p.takesValue = true)
    (value : Text) (hvalue : LooksPlain value) :
    Spelled p value ['-' :: '-' :: name.toList, value]
  | short {c : Char} (hc : p.short? = some c) (hp : p.takesValue = true)
    (value : Text) (hvalue : value ≠ [] ∧ value.head? ≠ some '=') :
    Spelled p value ['-' :: c :: value]
  | shortEqual {c : Char} (hc : p.short? = some c) (hp : p.takesValue = true) (value : Text) :
    Spelled p value ['-' :: c :: '=' :: value]
  | shortApart {c : Char} (hc : p.short? = some c) (hp : p.takesValue = true)
    (value : Text) (hvalue : LooksPlain value) :
    Spelled p value [['-', c], value]

structure Place.Offers (place : Place) (p : Parameter) : Prop where
  long : ∀ name, p.long? = some name → place.long? name.toList = some p
  short : ∀ c, p.short? = some c → place.short? c = some p

theorem equal_notMem_long {name : String} (hname : p.long? = some name) : '=' ∉ name.toList := by
  cases p <;> first
    | cases hname; done
    | (obtain rfl := Option.some.inj hname; decide)

theorem dash_ne_short {c : Char} (hc : p.short? = some c) : c ≠ '-' := by
  cases p <;> first
    | cases hc; done
    | (obtain rfl := Option.some.inj hc; decide)

theorem long_ne_nil {name : String} (hname : p.long? = some name) : name.toList ≠ [] := by
  cases p <;> first
    | cases hname; done
    | (obtain rfl := Option.some.inj hname; decide)

theorem ofText?_dash (t : Text) : CommandName.ofText? ('-' :: t) = none := by
  unfold CommandName.ofText?
  split <;> rename_i h <;> first | rfl | exact absurd (congrArg String.toList h) (by simp)

theorem scanWord_dash (hopen : k.isOpen = true) (t : Text) :
    scanWord place k ('-' :: t) = scanOpen place k ('-' :: t) := by
  have htrailing : k.trailing = false := by
    simp_all [Control.isOpen]
  have hhelp : (('-' :: t : Text) == helpCommand) = false := by
    simp [helpCommand]
  simp [scanWord, hhelp, htrailing]

theorem scanWord_long (hopen : k.isOpen = true) {t : Text} (ht : t ≠ []) :
    scanWord place k ('-' :: '-' :: t) = scanLong place k t := by
  rw [scanWord_dash hopen, scanOpen.eq_2 _ _ _ ht]

theorem scanWord_short (hopen : k.isOpen = true) {c : Char} (hc : c ≠ '-') (t : Text) :
    scanWord place k ('-' :: c :: t) = scanShort place k (c :: t) := by
  rw [scanWord_dash hopen, scanOpen.eq_4]
  · simp [hc]
  · simp [hc]
  · simp

/-- A value that is awaited is taken as it is. -/
theorem scanWord_awaited (hopen : k.isOpen = true) (hp : p.takesValue = true)
    (hvalue : LooksPlain value) :
    scanWord place { k with awaiting := some p } value = some ([(p, value)], k) := by
  have hplain : ∀ k, scanOpen place k value = scanPlain place k value := by
    intro k
    unfold scanOpen
    rcases hvalue with rfl | hhead
    · rfl
    · split <;> first | rfl | simp at hhead
  obtain ⟨awaiting, trailing, filled⟩ := k
  obtain ⟨rfl, rfl⟩ : trailing = false ∧ awaiting = none := by
    simpa [Control.isOpen] using hopen
  simp [scanWord, Control.seeks, Control.isOpen, hplain, scanPlain, added, hp]

theorem scanLong_joined (hoffers : place.Offers p) {name : String} (hname : p.long? = some name)
    (value : Text) :
    scanLong place k (name.toList ++ '=' :: value) = scanFlag k p (some value) := by
  simp [scanLong, Text.cut?_singleton_append (equal_notMem_long hname), hoffers.long name hname]

theorem scanLong_name (hoffers : place.Offers p) {name : String} (hname : p.long? = some name) :
    scanLong place k name.toList = scanFlag k p none := by
  simp [scanLong, Text.cut?_singleton_eq_none (equal_notMem_long hname), hoffers.long name hname]

theorem scanShort_value (hoffers : place.Offers p) {c : Char} (hc : p.short? = some c)
    (hp : p.takesValue = true) (rest : Text) :
    scanShort place k (c :: rest) = scanFlag k p (attachedTo rest) := by
  simp [scanShort, hoffers.short c hc, hp]

theorem attachedTo_of_ne (hvalue : value ≠ [] ∧ value.head? ≠ some '=') :
    attachedTo value = some value := by
  unfold attachedTo
  split
  · exact absurd rfl hvalue.1
  · exact absurd rfl hvalue.2
  · rfl

theorem scanFlag_some (hopen : k.isOpen = true) (hp : p.takesValue = true) (value : Text) :
    scanFlag k p (some value) = some ([(p, value)], k) := by
  simp_all [scanFlag, added, Control.isOpen]

theorem scanFlag_switch (hopen : k.isOpen = true) (hp : p.takesValue = false)
    (hanswers : p.answers = false) : scanFlag k p none = some ([(p, [])], k) := by
  simp_all [scanFlag, added, Control.isOpen]

theorem scanFlag_none (hopen : k.isOpen = true) (hp : p.takesValue = true) :
    scanFlag k p none = some ([], { k with awaiting := some p }) := by
  simp_all [scanFlag, Control.isOpen]

theorem commandAt?_dash (place : Place) (s : Progress) (t : Text) :
    commandAt? place s ('-' :: t) = none := by
  simp [commandAt?, ofText?_dash]

/-- A flag whose value is the next argument. -/
theorem reads_apart (hs : s.Coherent) (hplace : place.Proper) (hopen : s.control.isOpen = true)
    {flag : Text} (hp : p.takesValue = true) (hvalue : LooksPlain value)
    (hflag : scanWord place s.control ('-' :: flag) =
      some ([], { s.control with awaiting := some p })) :
    Reads place s ['-' :: flag, value] (some ([(p, value)], s.control)) := by
  have hnext : ∀ s' : Progress, s'.Coherent →
      (∃ g, scanWord place s.control ('-' :: flag) = some (g, s'.control)) →
      Reads place s' [value] (scanWord place s'.control value) := by
    rintro s' hs' ⟨g, hg⟩
    rw [hflag] at hg
    have hcontrol := (Prod.mk.inj (Option.some.inj hg)).2
    have hawaiting : s'.awaiting = some p := (congrArg Control.awaiting hcontrol).symm
    exact reads_word hs' hplace (by simp [commandAt?, hawaiting])
  have hreads : Reads place s (['-' :: flag] ++ [value])
      (andThen (scanWord place s.control ('-' :: flag)) fun k => scanWord place k value) :=
    (reads_word hs hplace (commandAt?_dash place s flag)).append hnext
  rw [hflag] at hreads
  simpa [andThen, scanWord_awaited hopen hp hvalue] using hreads

/-- A setting gives its value and leaves the reading where it stood. -/
theorem reads_spelled (hs : s.Coherent) (hplace : place.Proper) (hoffers : place.Offers p)
    (hanswers : p.answers = false) (hopen : s.control.isOpen = true) {args : List Text}
    (hspelled : Spelled p value args) :
    Reads place s args (some ([(p, value)], s.control)) := by
  have hword := fun t => reads_word hs hplace (commandAt?_dash place s t)
  cases hspelled with
  | @switch name hname hp =>
    have hread := hword ('-' :: name.toList)
    rwa [scanWord_long hopen (long_ne_nil hname), scanLong_name hoffers hname,
      scanFlag_switch hopen hp hanswers] at hread
  | @long name hname hp =>
    have hread := hword ('-' :: (name.toList ++ '=' :: value))
    rwa [scanWord_long hopen (by simp), scanLong_joined hoffers hname,
      scanFlag_some hopen hp] at hread
  | longApart hname hp _ hvalue =>
    refine reads_apart hs hplace hopen hp hvalue ?_
    rw [scanWord_long hopen (long_ne_nil hname), scanLong_name hoffers hname,
      scanFlag_none hopen hp]
  | @short c hc hp _ hvalue =>
    have hread := hword (c :: value)
    rwa [scanWord_short hopen (dash_ne_short hc), scanShort_value hoffers hc hp,
      attachedTo_of_ne hvalue, scanFlag_some hopen hp] at hread
  | @shortEqual c hc hp =>
    have hread := hword (c :: '=' :: value)
    rwa [scanWord_short hopen (dash_ne_short hc), scanShort_value hoffers hc hp, attachedTo,
      scanFlag_some hopen hp] at hread
  | shortApart hc hp _ hvalue =>
    refine reads_apart hs hplace hopen hp hvalue ?_
    rw [scanWord_short hopen (dash_ne_short hc), scanShort_value hoffers hc hp, attachedTo,
      scanFlag_none hopen hp]

theorem control_of_scanFlag {g : Given} {k' : Control} (hp : p.takesValue = false)
    (h : scanFlag k p none = some (g, k')) : k' = k := by
  simp only [scanFlag, hp, Bool.false_eq_true, if_false, Option.ite_none_right_eq_some,
    Option.ite_none_left_eq_some] at h
  exact (Prod.mk.inj (Option.some.inj h.2.2)).2.symm

theorem readArguments_dash (htrailing : s.trailing = false) {letters : Text}
    (hletters : letters ≠ [] ∧ letters.head? ≠ some '-') (args : List Text) :
    readArguments place s (('-' :: letters) :: args) =
      readShort place s letters >>= fun s' => readArguments place s' args := by
  have hhelp : (('-' :: letters : Text) == helpCommand) = false := by
    simp [helpCommand]
  have hflag : readFlag place s ('-' :: letters) = (readShort place s letters).map .done := by
    refine readFlag.eq_4 _ _ _ ?_ ?_ hletters.1
    · rintro rfl
      exact hletters.2 rfl
    · rintro rest rfl
      exact hletters.2 rfl
  rw [readArguments, commandAt?_dash]
  dsimp only
  rw [hhelp, Bool.and_false, htrailing, hflag]
  cases readShort place s letters <;> rfl

/-- Letters behind one dash are read like letters with a dash each, up to one that takes a value. -/
theorem readArguments_letters (hs : s.Coherent) (htrailing : s.trailing = false) {c : Char}
    (hc : place.short? c = some p) (hp : p.takesValue = false) {letters : Text}
    (hletters : letters ≠ [] ∧ letters.head? ≠ some '-') (args : List Text) :
    readArguments place s (('-' :: c :: letters) :: args) =
      readArguments place s (['-', c] :: ('-' :: letters) :: args) := by
  have hdash : c ≠ '-' := dash_ne_short (by simpa using List.find?_some hc)
  have hshort : ∀ rest, readShort place s (c :: rest) =
      s.give p [] >>= fun s' => readShort place s' rest := by
    intro rest
    rw [readShort.eq_def]
    simp only [hc, hp, Bool.false_eq_true, if_false]
  rw [readArguments_dash htrailing (by simp [hdash]), readArguments_dash htrailing (by simp [hdash]),
    hshort, hshort]
  cases hgive : s.give p [] with
  | error e => rfl
  | ok s' =>
    have hyields := yields_flag hs (long?_of_place_short? hc) none
    simp only [hp, Bool.false_eq_true, if_false, Option.isSome_none, hgive] at hyields
    obtain ⟨-, g, hscan⟩ := hyields.of_ok
    have htrailing' : s'.trailing = false :=
      (congrArg Control.trailing (control_of_scanFlag hp hscan)).trans htrailing
    exact (readArguments_dash htrailing' hletters args).symm

/-- One of the flags that may stand on both sides of the command, with its value. -/
structure Setting where
  parameter : Parameter
  value : Text
  args : List Text
  shared : parameter ∈ Parameter.shared
  spelled : Spelled parameter value args

namespace Setting

def switch (p : Parameter) (name : String) (hname : p.long? = some name)
    (hp : p.takesValue = false) (shared : p ∈ Parameter.shared) : Setting :=
  ⟨p, [], _, shared, .switch hname hp⟩

def letter (p : Parameter) (c : Char) (value : Text) (hc : p.short? = some c)
    (hp : p.takesValue = true) (hvalue : LooksPlain value) (shared : p ∈ Parameter.shared) :
    Setting :=
  ⟨p, value, _, shared, .shortApart hc hp value hvalue⟩

end Setting

inductive Piece
  | word (arg : Text)
  | setting (x : Setting)

namespace Piece

def args : Piece → List Text
  | word arg => [arg]
  | setting x => x.args

def isWord : Piece → Bool
  | word _ => true
  | setting _ => false

def scan (place : Place) (k : Control) : Piece → Option (Given × Control)
  | word arg => scanWord place k arg
  | setting x => some ([(x.parameter, x.value)], k)

def fits (place : Place) (k : Control) : Piece → Bool
  | word arg => !(k.seeks place && (CommandName.ofText? arg).isSome)
  | setting _ => k.isOpen

end Piece

def scanPieces (place : Place) (k : Control) : List Piece → Option (Given × Control)
  | [] => some ([], k)
  | x :: rest => andThen (x.scan place k) fun k => scanPieces place k rest

def placed (place : Place) (k : Control) : List Piece → Bool
  | [] => true
  | x :: rest => x.fits place k && (x.scan place k).all fun r => placed place r.2 rest

/-- The place offers the flags that may stand on both sides of the command. None is required, and of
those only the two for attributes exclude each other. -/
structure Place.Shares (place : Place) : Prop where
  proper : place.Proper
  offers : ∀ p ∈ Parameter.shared, place.Offers p
  required : ∀ p ∈ place.required, p ∉ Parameter.shared
  attributes : Place.attributeConflict ∈ place.conflicts
  conflicts : ∀ c ∈ place.conflicts, c = Place.attributeConflict ∨
    c.1 ∉ Parameter.shared ∧ c.2 ∉ Parameter.shared

theorem answers_of_shared (hp : p ∈ Parameter.shared) : p.answers = false := by
  revert p
  decide

theorem fits_word_iff {arg : Text} :
    (Piece.word arg).fits place s.control = true ↔ commandAt? place s arg = none := by
  have hseeks : s.control.seeks place = (place.leads && !s.trailing && s.awaiting.isNone) :=
    (Bool.and_assoc ..).symm
  rw [Piece.fits, hseeks, commandAt?]
  cases place.leads && !s.trailing && s.awaiting.isNone <;>
    cases CommandName.ofText? arg <;> simp

theorem reads_piece (hplace : place.Shares) (hs : s.Coherent) (x : Piece)
    (hfits : x.fits place s.control = true) : Reads place s x.args (x.scan place s.control) := by
  cases x with
  | word arg => exact reads_word hs hplace.proper (fits_word_iff.1 hfits)
  | setting x =>
    exact reads_spelled hs hplace.proper (hplace.offers _ x.shared) (answers_of_shared x.shared)
      hfits x.spelled

theorem reads_pieces (hplace : place.Shares) (hs : s.Coherent) (pieces : List Piece)
    (hplaced : placed place s.control pieces = true) :
    Reads place s (pieces.flatMap Piece.args) (scanPieces place s.control pieces) := by
  induction pieces generalizing s with
  | nil => exact reads_nil hs
  | cons x rest ih =>
    rw [placed, Bool.and_eq_true, Option.all_eq_true] at hplaced
    obtain ⟨hfits, hrest⟩ := hplaced
    refine (reads_piece hplace hs x hfits).append fun s' hs' => ?_
    rintro ⟨g, hg⟩
    exact ih hs' (hrest _ hg)

end TextSieve.CommandLine
