import Mathlib.Tactic.Common
import TextSieve.Proofs.Query.Ahead

/-! A query that has been read is written so that it is read again. Every reader of a part of the
query is followed from the text it has read to the text that the part is displayed as: there it
reads the same, and to whatever came before it the two texts are alike. -/

namespace TextSieve

namespace Query

def Solid (t : Text) : Prop := ∃ c x, t = c :: x ∧ Unicode.isBlank c = false

theorem solid_cons {c : Char} (h : Unicode.isBlank c = false) (x : Text) : Solid (c :: x) :=
  ⟨c, x, rfl, h⟩

theorem Solid.append {t : Text} (h : Solid t) (x : Text) : Solid (t ++ x) := by
  obtain ⟨c, y, rfl, hc⟩ := h
  exact ⟨c, y ++ x, rfl, hc⟩

theorem Solid.trimStart {t : Text} (h : Solid t) : Text.trimStart t = t := by
  obtain ⟨c, y, rfl, hc⟩ := h
  simp [Text.trimStart, hc]

theorem trimStart_space (t : Text) : Text.trimStart (' ' :: t) = Text.trimStart t := rfl

theorem endsWord_space (t : Text) : endsWord (' ' :: t) = true := rfl

theorem startsBlank_space (sign t : Text) (h : sign.head? = some ' ') :
    startsBlank (sign ++ t) = true := by
  obtain ⟨s, rfl⟩ := List.head?_eq_some_iff.1 h
  rfl

theorem isBlank_of_isWordChar {c : Char} (h : isWordChar c = true) : Unicode.isBlank c = false := by
  cases hb : Unicode.isBlank c with
  | false => rfl
  | true => simp [isWordChar, hb] at h

theorem closesAhead_append {w : Text} (hslash : '/' ∉ w) (hback : '\\' ∉ w) (t : Text) :
    closesAhead (w ++ t) = closesAhead t := by
  induction w with
  | nil => rfl
  | cons c w ih =>
    obtain ⟨hs, hslash⟩ := List.ne_and_not_mem_of_not_mem_cons hslash
    obtain ⟨hb, hback⟩ := List.ne_and_not_mem_of_not_mem_cons hback
    rw [List.cons_append, closesAhead_cons hs.symm fun h => absurd h.symm hb]
    exact ih hslash hback

theorem closesAhead_trimStart (t : Text) : closesAhead (Text.trimStart t) = closesAhead t := by
  induction t with
  | nil => rfl
  | cons c t ih =>
    cases hb : Unicode.isBlank c with
    | false => simp [Text.trimStart, hb]
    | true =>
      have hslash : c ≠ '/' := fun h => absurd (h ▸ hb) (by decide)
      have hback : c ≠ '\\' := fun h => absurd (h ▸ hb) (by decide)
      rw [closesAhead_cons hslash fun h => absurd h hback, ← ih]
      simp [Text.trimStart, hb]

theorem keyword?_eq_some {word t after : Text} (h : keyword? word t = some after) :
    t = word ++ after ∧ endsWord after = true := by
  obtain ⟨hstrip, hends⟩ := Option.filter_eq_some_iff.1 h
  exact ⟨Text.stripPrefix?_eq_some_iff.1 hstrip, hends⟩

theorem keyword?_append {word after : Text} (h : endsWord after = true) :
    keyword? word (word ++ after) = some after := by
  rw [keyword?, Text.stripPrefix?_append]
  simp [h]

/-- What the reader reads is displayed as something it reads the same, up to any rest that admits
the end of such a part and has the same ahead. -/
def Redisplays (admits : Text → Prop) (read : Text → Reading Query) : Prop :=
  ∀ ⦃t q rest⦄, read t = .ok (q, rest) → Ends rest → Solid q.display ∧
    ∀ rest', admits rest' → closesAhead rest = closesAhead rest' →
      read (q.display ++ rest') = .ok (q, rest') ∧ Alike t (q.display ++ rest')

structure Joins (next? : Text → Option Text) (sign : Text) : Prop where
  next?_sign : ∀ x, Solid x → next? (sign ++ x) = some x
  ends_sign : ∀ x, Ends (sign ++ x)
  closesAhead_sign : ∀ x, closesAhead (sign ++ x) = closesAhead x
  sign_ne_nil : sign ≠ []
  startsBlank : ∀ {t start}, next? t = some start → startsBlank t = true
  closesAhead_next : ∀ {t start}, next? t = some start → closesAhead t = closesAhead start

def displayMore (sign : Text) (qs : List Query) : Text :=
  qs.flatMap fun q => sign ++ q.display

theorem displayAll_cons (sign : Text) (q : Query) (qs : List Query) :
    displayAll sign (q :: qs) = q.display ++ displayMore sign qs := by
  induction qs generalizing q with
  | nil => simp [displayAll, displayMore]
  | cons q' qs ih =>
    rw [displayAll, ih q']
    · simp [displayMore]
    · simp

section

variable {admits : Text → Prop} {next? : Text → Option Text} {sign : Text}
  {operand : Text → Reading Query} {combine : List Query → Query}

theorem readMore_of_none {t : Text} (h : next? t = none) :
    readMore next? operand t = .ok ([], t) := by
  unfold readMore
  simp [h]

theorem readMore_of_ok {t start rest : Text} {q : Query} (hnext : next? t = some start)
    (hstart : operand start = .ok (q, rest)) (hlt : rest.length < t.length) :
    readMore next? operand t =
      (readMore next? operand rest).map fun more => (q :: more.1, more.2) := by
  rw [readMore.eq_def]
  simp [hnext, hstart, hlt]

/-- The operands that follow are found again behind their signs. By induction along the reading: the
rest behind an operand is the text that the next one is read from. -/
theorem readMore_redisplay (hj : Joins next? sign) (hop : Redisplays admits operand)
    (hsign : ∀ x, admits (sign ++ x)) {t rest : Text} {qs : List Query}
    (h : readMore next? operand t = .ok (qs, rest)) (hrest : Ends rest) :
    Ends t ∧ ∀ rest', admits rest' → next? rest' = none → closesAhead rest = closesAhead rest' →
      admits (displayMore sign qs ++ rest') ∧
      closesAhead t = closesAhead (displayMore sign qs ++ rest') ∧
      readMore next? operand (displayMore sign qs ++ rest') = .ok (qs, rest') := by
  induction t using readMore.induct next? operand generalizing qs with
  | case1 t hnext =>
    rw [readMore_of_none hnext] at h
    obtain ⟨rfl, rfl⟩ := Prod.mk.inj (Except.ok.inj h)
    exact ⟨hrest, fun rest' ha hn hc => ⟨ha, hc, readMore_of_none hn⟩⟩
  | case2 t start hnext stop hstart =>
    unfold readMore at h
    simp [hnext, hstart] at h
  | case3 t start hnext q rest₁ hstart hlt ih =>
    rw [readMore_of_ok hnext hstart hlt] at h
    obtain ⟨⟨qs₁, rest₂⟩, hmore, heq⟩ := exists_of_map_eq_ok h
    obtain ⟨rfl, rfl⟩ : q :: qs₁ = qs ∧ rest₂ = rest := by simpa using heq
    obtain ⟨hends, hmore'⟩ := ih hmore
    refine ⟨ends_of_startsBlank (hj.startsBlank hnext), fun rest' ha hn hc => ?_⟩
    obtain ⟨ha₁, hc₁, hread₁⟩ := hmore' rest' ha hn hc
    obtain ⟨hsolid, hagain⟩ := hop hstart hends
    obtain ⟨hread, halike⟩ := hagain _ ha₁ hc₁
    have hsplit : displayMore sign (q :: qs₁) ++ rest' =
        sign ++ (q.display ++ (displayMore sign qs₁ ++ rest')) := by
      simp [displayMore]
    rw [hsplit]
    refine ⟨hsign _, ?_, ?_⟩
    · rw [hj.closesAhead_sign, hj.closesAhead_next hnext, halike.closesAhead]
    · have hpos : 0 < sign.length := List.length_pos_iff.2 hj.sign_ne_nil
      have hshort : (displayMore sign qs₁ ++ rest').length <
          (sign ++ (q.display ++ (displayMore sign qs₁ ++ rest'))).length := by
        simp
        omega
      rw [readMore_of_ok (hj.next?_sign _ (hsolid.append _)) hread hshort, hread₁]
      rfl
  | case4 t start hnext q rest₁ hstart hlt =>
    -- an operand that took nothing would end the sequence
    unfold readMore at h
    simp only [hnext, hstart, hlt, dite_false] at h
    obtain ⟨rfl, rfl⟩ := Prod.mk.inj (Except.ok.inj h)
    exact ⟨hrest, fun rest' ha hn hc => ⟨ha, hc, readMore_of_none hn⟩⟩

/-- Joined operands are displayed as they are read, up to where neither an operand nor another sign
follows. -/
theorem readJoined_redisplay (hj : Joins next? sign) (hop : Redisplays admits operand)
    (hsign : ∀ x, admits (sign ++ x))
    (hdisplay : ∀ qs, (combine qs).display = displayAll sign qs) :
    Redisplays (fun rest => admits rest ∧ next? rest = none)
      (readJoined combine next? operand) := by
  intro t q rest h hrest
  unfold readJoined at h
  split at h
  · cases h
  · rename_i q₁ rest₁ hfirst
    obtain ⟨⟨qs, rest₂⟩, hmore, heq⟩ := exists_of_map_eq_ok h
    obtain ⟨rfl, rfl⟩ : (if qs = [] then q₁ else combine (q₁ :: qs)) = q ∧ rest₂ = rest := by
      simpa using heq
    obtain ⟨hends, hmore'⟩ := readMore_redisplay hj hop hsign hmore hrest
    obtain ⟨hsolid, hagain⟩ := hop hfirst hends
    have hq : (if qs = [] then q₁ else combine (q₁ :: qs)).display =
        q₁.display ++ displayMore sign qs := by
      split
      · subst qs
        simp [displayMore]
      · rw [hdisplay, displayAll_cons]
    rw [hq]
    refine ⟨hsolid.append _, fun rest' hadmits hc => ?_⟩
    obtain ⟨ha, hn⟩ := hadmits
    obtain ⟨ha₁, hc₁, hread₁⟩ := hmore' rest' ha hn hc
    obtain ⟨hread, halike⟩ := hagain _ ha₁ hc₁
    rw [List.append_assoc]
    refine ⟨?_, halike⟩
    simp only [readJoined, hread, hread₁, Except.map]

end

theorem joins_and : Joins andNext? andSign where
  next?_sign x hx := by
    have htrim : Text.trimStart (andSign ++ x) = andWord ++ ' ' :: x := rfl
    unfold andNext?
    simp only [startsBlank_space andSign x rfl, if_true, htrim, keyword?_append (endsWord_space x),
      trimStart_space, hx.trimStart]
  ends_sign x := ends_of_startsBlank (startsBlank_space andSign x rfl)
  closesAhead_sign x := closesAhead_append (by decide) (by decide) x
  sign_ne_nil := by decide
  startsBlank h := by
    unfold andNext? at h
    split at h
    · assumption
    · cases h
  closesAhead_next {t start} h := by
    unfold andNext? at h
    split at h
    · simp only at h
      split at h
      · rename_i after hkeyword
        obtain rfl := Option.some.inj h
        rw [closesAhead_trimStart, ← closesAhead_trimStart t, (keyword?_eq_some hkeyword).1]
        exact closesAhead_append (by decide) (by decide) after
      · split at h
        · cases h
        · obtain rfl := Option.some.inj h
          exact (closesAhead_trimStart t).symm
    · cases h

theorem joins_or : Joins orNext? orSign where
  next?_sign x hx := by
    have htrim : Text.trimStart (orSign ++ x) = orWord ++ ' ' :: x := rfl
    unfold orNext?
    simp only [startsBlank_space orSign x rfl, if_true, htrim, keyword?_append (endsWord_space x),
      Option.map_some, trimStart_space, hx.trimStart]
  ends_sign x := ends_of_startsBlank (startsBlank_space orSign x rfl)
  closesAhead_sign x := closesAhead_append (by decide) (by decide) x
  sign_ne_nil := by decide
  startsBlank h := by
    unfold orNext? at h
    split at h
    · assumption
    · cases h
  closesAhead_next {t start} h := by
    unfold orNext? at h
    split at h
    · obtain ⟨after, hkeyword, rfl⟩ := Option.map_eq_some_iff.1 h
      rw [closesAhead_trimStart, ← closesAhead_trimStart t, (keyword?_eq_some hkeyword).1]
      exact closesAhead_append (by decide) (by decide) after
    · cases h

theorem andNext?_orSign (x : Text) : andNext? (orSign ++ x) = none := by
  have htrim : Text.trimStart (orSign ++ x) = orWord ++ ' ' :: x := rfl
  have hand : keyword? andWord (orWord ++ ' ' :: x) = none := rfl
  unfold andNext?
  simp [startsBlank_space orSign x rfl, htrim, hand, keyword?_append (endsWord_space x)]

def Final (t : Text) : Prop := (Ends t ∧ andNext? t = none) ∧ orNext? t = none

theorem readOr_redisplay {operand : Text → Reading Query} (hop : Redisplays Ends operand) :
    Redisplays Final (readOr operand) := by
  have hand : Redisplays (fun rest => Ends rest ∧ andNext? rest = none) (readAnd operand) :=
    readJoined_redisplay joins_and hop joins_and.ends_sign fun qs => by rw [display]
  exact readJoined_redisplay joins_or hand (fun x => ⟨joins_or.ends_sign x, andNext?_orSign x⟩)
    fun qs => by rw [display]

theorem final_nil : Final [] := ⟨⟨ends_nil, rfl⟩, rfl⟩

theorem final_close (x : Text) : Final (')' :: x) := ⟨⟨ends_close x, rfl⟩, rfl⟩

section

variable {operand : Text → Reading Query} {t rest : Text} {q : Query}

theorem readPhrase_of_cut? {text : Text} (hne : text ≠ [])
    (h : Text.cut? ['"'] t = some (text, rest)) : readPhrase t = .ok (phrase text, rest) := by
  obtain ⟨c, text, rfl⟩ := List.exists_cons_of_ne_nil hne
  unfold readPhrase
  rw [h]

theorem readPhrase_redisplay (h : readPhrase t = .ok (q, rest)) :
    ∃ x, q.display = '"' :: x ∧ ∀ rest', Ends rest → Ends rest' →
      closesAhead rest = closesAhead rest' →
        readPhrase (x ++ rest') = .ok (q, rest') ∧ Alike t (x ++ rest') := by
  unfold readPhrase at h
  split at h
  · cases h
  · cases h
  · rename_i text after hne hcut
    obtain ⟨rfl, rfl⟩ := Prod.mk.inj (Except.ok.inj h)
    refine ⟨text ++ ['"'], rfl, fun rest' he he' hc => ?_⟩
    refine ⟨?_, ?_⟩
    · exact readPhrase_of_cut? hne (Text.cut?_append hcut rest')
    · rw [Text.eq_of_cut? hcut]
      exact (he.alike he' hc).append _

theorem readGroup_of_readOr (hsolid : Solid q.display)
    (h : readOr operand (q.display ++ ')' :: rest) = .ok (q, ')' :: rest)) :
    readGroup operand (q.display ++ ')' :: rest) = .ok (group q, rest) := by
  unfold readGroup
  rw [(hsolid.append _).trimStart, h]
  rfl

theorem readGroup_redisplay (hop : Redisplays Ends operand)
    (h : readGroup operand t = .ok (q, rest)) :
    ∃ x, q.display = '(' :: x ∧ ∀ rest', closesAhead rest = closesAhead rest' →
      readGroup operand (x ++ rest') = .ok (q, rest') ∧ Alike ('(' :: t) ('(' :: (x ++ rest')) := by
  unfold readGroup at h
  split at h
  · cases h
  · rename_i q₁ rest₁ hinner
    split at h
    · rename_i rest₂ htrim
      obtain ⟨rfl, rfl⟩ := Prod.mk.inj (Except.ok.inj h)
      have hends : Ends rest₁ := ends_of_trimStart (htrim ▸ ends_close rest₂)
      obtain ⟨hsolid, hagain⟩ := readOr_redisplay hop hinner hends
      refine ⟨q₁.display ++ [')'], by rw [display]; rfl, fun rest' hc => ?_⟩
      have hc₁ : closesAhead rest₁ = closesAhead (')' :: rest') := by
        rw [← closesAhead_trimStart, htrim, closesAhead_cons (by decide) (by simp), hc,
          closesAhead_cons (by decide) (by simp)]
      obtain ⟨hread, halike⟩ := hagain _ (final_close rest') hc₁
      have hsplit : q₁.display ++ [')'] ++ rest' = q₁.display ++ ')' :: rest' := by simp
      rw [hsplit]
      refine ⟨readGroup_of_readOr hsolid hread, alike_of (by simp) (by simp) rfl ?_⟩
      rw [closesAhead_cons (by decide) (by simp), closesAhead_cons (by decide) (by simp),
        ← closesAhead_trimStart, halike.closesAhead]
    · cases h

theorem exists_of_readPattern (h : readPattern t = .ok (q, rest)) :
    ∃ p x, p ≠ [] ∧ t = '/' :: x ∧ Slashed.scanBody? x = some (p, rest) ∧ q = pattern p := by
  unfold readPattern at h
  split at h
  · cases h
  · cases h
  · rename_i p n hne hscan
    obtain ⟨rfl, rfl⟩ := Prod.mk.inj (Except.ok.inj h)
    obtain ⟨x, ht, -, hbody⟩ := Slashed.exists_of_scan? hscan
    exact ⟨p, x, hne, ht, hbody, rfl⟩

theorem pattern_display_append (p rest : Text) :
    (pattern p).display ++ rest = '/' :: (Slashed.encode p ++ '/' :: rest) :=
  Slashed.write_append p rest

theorem readPattern_of_scanBody? {x p : Text} (hp : p ≠ [])
    (h : Slashed.scanBody? x = some (p, rest)) :
    readPattern ('/' :: x) = .ok (pattern p, rest) := by
  obtain ⟨c, p, rfl⟩ := List.exists_cons_of_ne_nil hp
  simp only [readPattern, Slashed.scan?_of_scanBody? h, Slashed.dropBytes_of_scanBody? h]

theorem readPattern_display {p : Text} (hp : p ≠ []) (hlast : p.getLast? ≠ some '\\')
    (rest : Text) : readPattern ((pattern p).display ++ rest) = .ok (pattern p, rest) := by
  rw [pattern_display_append]
  exact readPattern_of_scanBody? hp (Slashed.scanBody?_write hlast rest)

theorem readPattern_redisplay : Redisplays Ends readPattern := by
  intro t q rest h hrest
  obtain ⟨p, x, hne, rfl, hbody, rfl⟩ := exists_of_readPattern h
  refine ⟨solid_cons (by decide) _, fun rest' hrest' hc => ⟨?_, ?_⟩⟩
  · exact readPattern_display hne (Slashed.getLast?_of_scanBody? hbody) rest'
  · have hx : '/' :: x = ['/'] ++ Slashed.encode p ++ ['/'] ++ rest := by
      rw [Slashed.eq_of_scanBody? hbody]
      simp
    have hdisplay : (pattern p).display ++ rest' =
        ['/'] ++ Slashed.encode p ++ ['/'] ++ rest' := rfl
    rw [hx, hdisplay]
    exact (hrest.alike hrest' hc).append _

theorem leadingWord_isWordChar {t : Text} {c : Char} (hc : c ∈ leadingWord t) :
    isWordChar c = true :=
  List.all_eq_true.1 (List.all_takeWhile) c hc

theorem leadingWord_append_drop (t : Text) : leadingWord t ++ t.drop (leadingWord t).length = t :=
  List.prefix_iff_eq_append.1 (List.takeWhile_prefix isWordChar)

inductive IsValue (operand : Text → Reading Query) : Text → Query → Text → Prop
  | group {x rest : Text} {q : Query} (h : readGroup operand x = .ok (q, rest)) :
    IsValue operand ('(' :: x) q rest
  | phrase {x rest : Text} {q : Query} (h : readPhrase x = .ok (q, rest)) :
    IsValue operand ('"' :: x) q rest
  | pattern {x p rest : Text} (hp : p ≠ []) (hscan : Slashed.scanBody? x = some (p, rest)) :
    IsValue operand ('/' :: x) (.pattern p) rest
  | word {w rest : Text} (hne : w ≠ []) (hw : ∀ c ∈ w, isWordChar c = true)
    (hstart : startsPattern (w ++ rest) = false) : IsValue operand (w ++ rest) (.word w) rest

theorem isValue_of_readValue (h : readValue operand t = .ok (q, rest)) :
    IsValue operand t q rest := by
  unfold readValue at h
  split at h
  · exact .group h
  · exact .phrase h
  · split at h
    · obtain ⟨p, x, hp, rfl, hscan, rfl⟩ := exists_of_readPattern h
      exact .pattern hp hscan
    · rename_i hstart
      split at h
      · cases h
      · rename_i hne
        obtain ⟨rfl, rfl⟩ := Prod.mk.inj (Except.ok.inj h)
        have hsplit := leadingWord_append_drop t
        rw [← hsplit] at hstart
        have hval : IsValue operand (leadingWord t ++ t.drop (leadingWord t).length)
            (.word (leadingWord t)) (t.drop (leadingWord t).length) :=
          .word hne (fun c => leadingWord_isWordChar) (by simpa using hstart)
        rwa [hsplit] at hval

theorem readValue_of_isWordChar {c : Char} (hc : isWordChar c = true) (x : Text) :
    readValue operand (c :: x) =
      if startsPattern (c :: x) then readPattern (c :: x)
      else .ok (word (leadingWord (c :: x)), (c :: x).drop (leadingWord (c :: x)).length) := by
  unfold readValue
  split
  · rename_i heq
    obtain ⟨rfl, -⟩ := List.cons.inj heq
    exact absurd hc (by decide)
  · rename_i heq
    obtain ⟨rfl, -⟩ := List.cons.inj heq
    exact absurd hc (by decide)
  · split
    · rfl
    · rw [if_neg (by simp [leadingWord, hc])]

theorem readValue_pattern {p : Text} (hp : p ≠ []) (hlast : p.getLast? ≠ some '\\')
    (hrest : Ends rest) :
    readValue operand ((pattern p).display ++ rest) = .ok (pattern p, rest) := by
  have hstart : startsPattern ((pattern p).display ++ rest) = true := by
    rw [pattern_display_append, startsPattern_of_scanBody? (Slashed.scanBody?_write hlast rest)]
    simp [hp, hrest.endsWord]
  rw [← readPattern_display hp hlast]
  exact (readValue_of_isWordChar (by decide) _).trans (if_pos hstart)

theorem readValue_redisplay (hop : Redisplays Ends operand) :
    Redisplays Ends (readValue operand) := by
  intro t q rest h hrest
  cases isValue_of_readValue h with
  | @group x q rest hgroup =>
    obtain ⟨y, hy, hagain⟩ := readGroup_redisplay hop hgroup
    rw [hy]
    exact ⟨solid_cons (by decide) y, fun rest' _ hc => hagain rest' hc⟩
  | @phrase x q rest hphrase =>
    obtain ⟨y, hy, hagain⟩ := readPhrase_redisplay hphrase
    rw [hy]
    refine ⟨solid_cons (by decide) y, fun rest' hrest' hc => ?_⟩
    obtain ⟨hread, halike⟩ := hagain rest' hrest hrest' hc
    exact ⟨hread, halike.append ['"']⟩
  | @pattern x p rest hp hscan =>
    have hpattern := readPattern_of_scanBody? hp hscan
    obtain ⟨hsolid, hagain⟩ := readPattern_redisplay hpattern hrest
    refine ⟨hsolid, fun rest' hrest' hc => ?_⟩
    obtain ⟨-, halike⟩ := hagain rest' hrest' hc
    exact ⟨readValue_pattern hp (Slashed.getLast?_of_scanBody? hscan) hrest', halike⟩
  | @word w rest hne hw hstart =>
    obtain ⟨c, y, rfl⟩ := List.exists_cons_of_ne_nil hne
    have hc := hw c List.mem_cons_self
    refine ⟨solid_cons (isBlank_of_isWordChar hc) y, fun rest' hrest' hahead => ⟨?_, ?_⟩⟩
    · have hagain : startsPattern (c :: (y ++ rest')) = false := by
        rw [← hstart]
        exact (startsPattern_append hne hrest hrest' hahead).symm
      have hword : leadingWord (c :: (y ++ rest')) = c :: y := leadingWord_append hw hrest'.endsWord
      have hdisplay : (word (c :: y)).display ++ rest' = c :: (y ++ rest') := rfl
      rw [hdisplay, readValue_of_isWordChar hc, hagain, hword]
      simp
    · exact (hrest.alike hrest' hahead).append (c :: y)

/-- The word that a value starts with is the same in writing, or it is the word of a pattern. -/
theorem leadingWord_display (hop : Redisplays Ends operand) (h : IsValue operand t q rest)
    (hrest : Ends rest) {rest' : Text} (hrest' : Ends rest') :
    leadingWord (q.display ++ rest') = leadingWord t ∨
      '/' ∈ leadingWord (q.display ++ rest') := by
  cases h with
  | @group x q rest hgroup =>
    obtain ⟨y, hy, -⟩ := readGroup_redisplay hop hgroup
    rw [hy]
    exact .inl rfl
  | @phrase x q rest hphrase =>
    obtain ⟨y, hy, -⟩ := readPhrase_redisplay hphrase
    rw [hy]
    exact .inl rfl
  | @pattern x p rest hp hscan => exact .inr List.mem_cons_self
  | @word w rest hne hw hstart =>
    refine .inl ?_
    rw [leadingWord_append hw hrest.endsWord]
    exact leadingWord_append hw hrest'.endsWord

inductive IsWord (delimiter : Option Text) (operand : Text → Reading Query) :
    Text → Query → Text → Prop
  | word {w rest : Text} (hne : w ≠ []) (hw : leadingWord (w ++ rest) = w)
    (hkey : isKeyword w = false) (hplain : fieldName? delimiter w = none) :
    IsWord delimiter operand (w ++ rest) (.word w) rest
  | field {name d after x rest : Text} {q : Query} (hd : delimiter = some d) (hne : name ≠ [])
    (hcut : Text.cut? d (leadingWord (name ++ d ++ x)) = some (name, after))
    (hkey : isKeyword (leadingWord (name ++ d ++ x)) = false)
    (h : readValue operand x = .ok (q, rest)) :
    IsWord delimiter operand (name ++ d ++ x) (.field name d q) rest

variable {delimiter : Option Text}

theorem fieldName?_eq_some {w name after : Text} (h : fieldName? delimiter w = some (name, after)) :
    ∃ d, delimiter = some d ∧ Text.cut? d w = some (name, after) ∧ name ≠ [] := by
  obtain ⟨d, hd, h⟩ := Option.bind_eq_some_iff.1 h
  obtain ⟨hcut, hne⟩ := Option.filter_eq_some_iff.1 h
  exact ⟨d, hd, hcut, by simpa using hne⟩

theorem isWord_of_readWord (h : readWord delimiter operand t = .ok (q, rest)) :
    IsWord delimiter operand t q rest := by
  simp only [readWord] at h
  split at h
  · cases h
  rename_i hw
  obtain ⟨hne, hkey⟩ := not_or.1 hw
  rw [Bool.not_eq_true] at hkey
  cases hname : fieldName? delimiter (leadingWord t) with
  | none =>
    obtain ⟨rfl, rfl⟩ : word (leadingWord t) = q ∧ t.drop (leadingWord t).length = rest := by
      cases delimiter <;> simpa [hname] using h
    have hsplit := leadingWord_append_drop t
    have hword : IsWord delimiter operand (leadingWord t ++ t.drop (leadingWord t).length)
        (.word (leadingWord t)) (t.drop (leadingWord t).length) :=
      .word hne (by rw [hsplit]) hkey hname
    rwa [hsplit] at hword
  | some found =>
    obtain ⟨name, after⟩ := found
    obtain ⟨d, rfl, hcut, hne'⟩ := fieldName?_eq_some hname
    simp only [hname] at h
    obtain ⟨⟨q₁, rest₁⟩, hval, heq⟩ := exists_of_map_eq_ok h
    obtain ⟨rfl, rfl⟩ := Prod.mk.inj heq
    have hprefix : name ++ d <+: t :=
      (Text.eq_of_cut? hcut ▸ List.prefix_append _ after).trans (List.takeWhile_prefix _)
    have ht : name ++ d ++ t.drop (name.length + d.length) = t := by
      rw [← List.length_append]
      exact List.prefix_iff_eq_append.1 hprefix
    have hfield : IsWord (some d) operand (name ++ d ++ t.drop (name.length + d.length))
        (.field name d q₁) rest₁ :=
      .field rfl hne' (ht.symm ▸ hcut) (ht.symm ▸ hkey) hval
    rwa [ht] at hfield

theorem readWord_word {w : Text} (hne : w ≠ []) (hw : leadingWord (w ++ rest) = w)
    (hkey : isKeyword w = false) (hplain : fieldName? delimiter w = none) :
    readWord delimiter operand (w ++ rest) = .ok (word w, rest) := by
  cases delimiter <;> simp [readWord, hw, hne, hkey, hplain]

theorem readWord_field {name d after x : Text} (hne : name ≠ [])
    (hcut : Text.cut? d (leadingWord (name ++ d ++ x)) = some (name, after))
    (hkey : isKeyword (leadingWord (name ++ d ++ x)) = false) :
    readWord (some d) operand (name ++ d ++ x) =
      (readValue operand x).map fun (q, rest) => (field name d q, rest) := by
  have hword : leadingWord (name ++ d ++ x) ≠ [] := by
    rw [Text.eq_of_cut? hcut]
    simp [hne]
  have hname : fieldName? (some d) (leadingWord (name ++ d ++ x)) = some (name, after) := by
    rw [fieldName?, Option.bind_some, hcut]
    simp [hne]
  have hdrop : (name ++ d ++ x).drop (name.length + d.length) = x := by
    rw [← List.length_append, List.drop_left]
  simp only [readWord, hword, hkey, hname, hdrop]
  simp

/-- Keywords are written in capital letters alone. -/
theorem isKeyword_eq_false_of_mem {w : Text} {c : Char} (hc : c.isUpper = false) (h : c ∈ w) :
    isKeyword w = false := by
  have hne : ∀ k : Text, k.all Char.isUpper = true → (w == k) = false := by
    intro k hk
    rw [beq_eq_false_iff_ne]
    rintro rfl
    have := List.all_eq_true.1 hk c h
    simp [hc] at this
  simp [isKeyword, hne andWord rfl, hne orWord rfl, hne notWord rfl]

/-- A word and a field are displayed with the word that they began with, up to the value. -/
theorem readWord_redisplay (hop : Redisplays Ends operand)
    (h : readWord delimiter operand t = .ok (q, rest)) (hrest : Ends rest) :
    ∃ w x y, w ≠ [] ∧ (∀ c ∈ w, isWordChar c = true) ∧ t = w ++ x ∧ q.display = w ++ y ∧
      ∀ rest', Ends rest' → closesAhead rest = closesAhead rest' →
        readWord delimiter operand (q.display ++ rest') = .ok (q, rest') ∧
        Alike t (q.display ++ rest') ∧ (w.length = 1 → Ends (y ++ rest')) := by
  cases isWord_of_readWord h with
  | @word w rest hne hw hkey hplain =>
    have hall : ∀ c ∈ w, isWordChar c = true := fun c hc => leadingWord_isWordChar (hw ▸ hc)
    refine ⟨w, rest, [], hne, hall, rfl, by simp [Query.word, display, displayLeaf], ?_⟩
    intro rest' hrest' hc
    refine ⟨?_, (hrest.alike hrest' hc).append w, fun _ => hrest'⟩
    exact readWord_word hne (leadingWord_append hall hrest'.endsWord) hkey hplain
  | @field name d after x rest q hd hne hcut hkey hval =>
    have hall : ∀ c ∈ name ++ d, isWordChar c = true := by
      intro c hc
      refine leadingWord_isWordChar (t := name ++ d ++ x) ?_
      rw [Text.eq_of_cut? hcut]
      exact List.mem_append_left after hc
    have hd' : d ≠ [] := by
      rintro rfl
      exact hne (Prod.mk.inj (Option.some.inj (hcut.symm.trans (Text.cut?_needle_append [] _)))).1
    have hlead : ∀ z, leadingWord (name ++ d ++ z) = name ++ d ++ leadingWord z :=
      fun z => List.takeWhile_append_of_pos hall
    obtain ⟨hsolid, hagain⟩ := readValue_redisplay hop hval hrest
    refine ⟨name ++ d, x, q.display, by simp [hne], hall, rfl, by simp [display], ?_⟩
    intro rest' hrest' hc
    obtain ⟨hread, halike⟩ := hagain rest' hrest' hc
    have hsplit : (field name d q).display ++ rest' = name ++ d ++ (q.display ++ rest') := by
      simp [display]
    have hcut' := Text.cut?_append hcut (leadingWord (q.display ++ rest'))
    have hkey' : isKeyword (name ++ d ++ leadingWord (q.display ++ rest')) = false := by
      rcases leadingWord_display hop (isValue_of_readValue hval) hrest hrest' with heq | hslash
      · rw [heq, ← hlead]
        exact hkey
      · exact isKeyword_eq_false_of_mem rfl (List.mem_append_right _ hslash)
    rw [← hlead] at hcut' hkey'
    have hlong : (name ++ d).length ≠ 1 := by
      have := List.length_pos_iff.2 hne
      have := List.length_pos_iff.2 hd'
      simp
      omega
    rw [hsplit, hd]
    refine ⟨?_, halike.append _, fun h => absurd h hlong⟩
    rw [readWord_field hne hcut' hkey', hread]
    rfl

theorem negated?_eq_some {r : Text} (h : negated? t = some r) :
    t.head? ≠ some '/' ∧ endsWord t = false ∧ closesAhead t = closesAhead r := by
  unfold negated? at h
  split at h
  · rename_i after hkey
    obtain rfl := Option.some.inj h
    rw [(keyword?_eq_some hkey).1, closesAhead_trimStart]
    exact ⟨by simp [notWord], rfl, closesAhead_append (by decide) (by decide) after⟩
  · split at h
    · split at h
      · obtain rfl := Option.some.inj h
        exact ⟨by simp, rfl, closesAhead_cons (by decide) fun h => absurd h (by decide)⟩
      · cases h
    · cases h

theorem negated?_notSign {x : Text} (hx : Solid x) : negated? (notSign ++ x) = some x := by
  have hkey : keyword? notWord (notSign ++ x) = some (' ' :: x) :=
    keyword?_append (endsWord_space x)
  unfold negated?
  simp [hkey, trimStart_space, hx.trimStart]

theorem dashNegates_of_isWordChar {c : Char} (hc : isWordChar c = true) (x : Text) :
    dashNegates (c :: x) = true := by
  have hparen : c ≠ ')' := by
    rintro rfl
    exact absurd hc (by decide)
  simp [dashNegates, isBlank_of_isWordChar hc, hparen]

/-- A word that starts with a dash would be read as a negation, unless it is the dash alone. -/
theorem eq_dash_of_negated? {w x : Text} (hw : ∀ c ∈ w, isWordChar c = true)
    (h : negated? (w ++ x) = none) (hdash : w.head? = some '-') : w = ['-'] := by
  obtain ⟨w, rfl⟩ := List.head?_eq_some_iff.1 hdash
  cases w with
  | nil => rfl
  | cons d w =>
    have hd := dashNegates_of_isWordChar (hw d (by simp)) (w ++ x)
    have hkey : keyword? notWord ('-' :: d :: (w ++ x)) = none := rfl
    simp [negated?, hkey, hd] at h

/-- A word does not negate unless it is a keyword or starts with a dash. A dash alone is a word only
where an operand may end. -/
theorem negated?_eq_none {w y : Text} (hne : w ≠ [])
    (hkey : isKeyword (leadingWord (w ++ y)) = false)
    (hdash : w.head? = some '-' → w = ['-'] ∧ Ends y) : negated? (w ++ y) = none := by
  have hnot : keyword? notWord (w ++ y) = none := by
    cases hk : keyword? notWord (w ++ y) with
    | none => rfl
    | some after =>
      obtain ⟨heq, hends⟩ := keyword?_eq_some hk
      have hword : ∀ c ∈ notWord, isWordChar c = true := List.all_eq_true.1 rfl
      rw [heq, leadingWord_append hword hends] at hkey
      exact absurd hkey (by decide)
  obtain ⟨c, w, rfl⟩ := List.exists_cons_of_ne_nil hne
  by_cases hc : c = '-'
  · subst hc
    obtain ⟨hw, hends⟩ := hdash rfl
    obtain rfl : w = [] := (List.cons.inj hw).2
    rw [List.cons_append, List.nil_append] at hnot ⊢
    unfold negated?
    simp [hnot, hends.dashNegates]
  · rw [List.cons_append] at hnot ⊢
    unfold negated?
    simp [hnot, hc]

theorem isKeyword_of_readWord (h : readWord delimiter operand t = .ok (q, rest)) :
    isKeyword (leadingWord t) = false := by
  cases isWord_of_readWord h with
  | @word w rest hne hw hkey hplain => rwa [hw]
  | @field name d after x rest q hd hne hcut hkey hval => exact hkey

theorem readPrimary_of_isWordChar {c : Char} (hc : isWordChar c = true) (hslash : c ≠ '/')
    (x : Text) : readPrimary delimiter operand (c :: x) = readWord delimiter operand (c :: x) := by
  unfold readPrimary
  split
  · rename_i heq
    obtain ⟨rfl, -⟩ := List.cons.inj heq
    exact absurd hc (by decide)
  · rename_i heq
    obtain ⟨rfl, -⟩ := List.cons.inj heq
    exact absurd hc (by decide)
  · rename_i heq
    exact absurd (List.cons.inj heq).1 hslash
  · rfl

/-- What is read without a negation in front is displayed without one. -/
theorem readPrimary_redisplay (hop : Redisplays Ends operand)
    (h : readPrimary delimiter operand t = .ok (q, rest)) (hrest : Ends rest)
    (hneg : negated? t = none) :
    Solid q.display ∧ ∀ rest', Ends rest' → closesAhead rest = closesAhead rest' →
      negated? (q.display ++ rest') = none ∧
      readPrimary delimiter operand (q.display ++ rest') = .ok (q, rest') ∧
      Alike t (q.display ++ rest') := by
  unfold readPrimary at h
  split at h
  · obtain ⟨y, hy, hagain⟩ := readGroup_redisplay hop h
    rw [hy]
    exact ⟨solid_cons (by decide) y, fun rest' _ hc => ⟨rfl, hagain rest' hc⟩⟩
  · obtain ⟨y, hy, hagain⟩ := readPhrase_redisplay h
    rw [hy]
    refine ⟨solid_cons (by decide) y, fun rest' hrest' hc => ⟨rfl, ?_⟩⟩
    obtain ⟨hread, halike⟩ := hagain rest' hrest hrest' hc
    exact ⟨hread, halike.append ['"']⟩
  · obtain ⟨p, x, -, -, -, rfl⟩ := exists_of_readPattern h
    obtain ⟨hsolid, hagain⟩ := readPattern_redisplay h hrest
    exact ⟨hsolid, fun rest' hrest' hc => ⟨rfl, hagain rest' hrest' hc⟩⟩
  · rename_i hslash
    obtain ⟨w, x, y, hne, hw, rfl, hy, hagain⟩ := readWord_redisplay hop h hrest
    obtain ⟨c, w, rfl⟩ := List.exists_cons_of_ne_nil hne
    have hc := hw c List.mem_cons_self
    have hcs : c ≠ '/' := by
      rintro rfl
      exact hslash _ rfl
    refine ⟨hy ▸ solid_cons (isBlank_of_isWordChar hc) _, fun rest' hrest' hahead => ?_⟩
    obtain ⟨hread, halike, hdash⟩ := hagain rest' hrest' hahead
    refine ⟨?_, ?_, halike⟩
    · have hkey := isKeyword_of_readWord hread
      rw [hy, List.append_assoc] at hkey ⊢
      refine negated?_eq_none hne hkey fun hhead => ?_
      have heq := eq_dash_of_negated? hw hneg hhead
      exact ⟨heq, hdash (by rw [heq]; rfl)⟩
    · rw [← hread, hy]
      exact readPrimary_of_isWordChar hc hcs _

end

theorem readOperand_redisplay (delimiter : Option Text) (depth : Nat) :
    Redisplays Ends (readOperand delimiter depth) := by
  induction depth with
  | zero =>
    intro t q rest h
    cases h
  | succ depth ih =>
    intro t q rest h hrest
    unfold readOperand at h
    split at h
    · rename_i r hneg
      obtain ⟨⟨q₁, rest₁⟩, hread₁, heq⟩ := exists_of_map_eq_ok h
      obtain ⟨rfl, rfl⟩ := Prod.mk.inj heq
      obtain ⟨hsolid, hagain⟩ := ih hread₁ hrest
      refine ⟨solid_cons (by decide) _, fun rest' hrest' hc => ?_⟩
      obtain ⟨hread, halike⟩ := hagain rest' hrest' hc
      have hdisplay : (not q₁).display ++ rest' = notSign ++ (q₁.display ++ rest') := by
        rw [display, List.append_assoc]
      rw [hdisplay]
      refine ⟨?_, ?_⟩
      · simp only [readOperand, negated?_notSign (hsolid.append rest'), hread]
        rfl
      · obtain ⟨hslash, hword, hahead⟩ := negated?_eq_some hneg
        refine alike_of hslash (by simp [notSign]) hword ?_
        rw [hahead, halike.closesAhead]
        exact (closesAhead_append (by decide) (by decide) _).symm
    · rename_i hneg
      obtain ⟨hsolid, hagain⟩ := readPrimary_redisplay ih h hrest hneg
      refine ⟨hsolid, fun rest' hrest' hc => ?_⟩
      obtain ⟨hneg', hread, halike⟩ := hagain rest' hrest' hc
      refine ⟨?_, halike⟩
      simp only [readOperand, hneg', hread]

/-- A query that can be read is displayed as one that reads to the same tree. -/
theorem parse_display {delimiter : Option Text} {t : Text} {q : Query}
    (h : parse delimiter t = .ok q) : parse delimiter q.display = .ok q := by
  have hread : readAll delimiter t = .ok q := by
    unfold parse at h
    split at h
    · rename_i heq
      rw [heq, Except.ok.inj h]
    · cases h
  unfold readAll at hread
  split at hread
  · cases hread
  rename_i q₁ rest hor
  split at hread
  · rename_i htrim
    obtain rfl := Except.ok.inj hread
    have hrest : Ends rest := ends_of_trimStart (htrim ▸ ends_nil)
    obtain ⟨hsolid, hagain⟩ := readOr_redisplay (readOperand_redisplay delimiter _) hor hrest
    have hahead : closesAhead rest = closesAhead [] := by
      rw [← closesAhead_trimStart, htrim]
    obtain ⟨hagain', -⟩ := hagain [] final_nil hahead
    rw [List.append_nil] at hagain'
    have hall : readAll delimiter q₁.display = .ok q₁ := by
      unfold readAll
      rw [hsolid.trimStart, hagain']
      rfl
    unfold parse
    rw [hall]
  · cases hread

/-- A value that starts like a pattern but is none, as what lies ahead shows, then a negation and a
group. -/
theorem parse_display_slashes :
    let tree := and [field ['f'] [':'] (word ['/', 'a']), .not (pattern ['c', '/', 'd']),
      group (word ['x'])]
    parse (some [':']) ['f', ':', '/', 'a', ' ', ' ', '-', '/', 'c', '\\', '/', 'd', '/', ' ', '(',
      ' ', 'x', ' ', ')'] = .ok tree ∧ parse (some [':']) tree.display = .ok tree := by
  have h : parse (some [':']) ['f', ':', '/', 'a', ' ', ' ', '-', '/', 'c', '\\', '/', 'd', '/',
      ' ', '(', ' ', 'x', ' ', ')'] =
      .ok (and [field ['f'] [':'] (word ['/', 'a']), .not (pattern ['c', '/', 'd']),
        group (word ['x'])]) := by decide +kernel
  exact ⟨h, parse_display h⟩

end Query

end TextSieve
