import TextSieve.Proofs.Pattern.Joined
import TextSieve.Proofs.Term.Anchoring

/-! Delimiters as a set. The fragment of a list of delimiters is the choice between what each of
them matches by itself, as long as no pattern among them leaves other flags behind than it finds; so
neither the order of the list nor its repetitions matter. A flag that is left behind changes what
the delimiters further on match. -/

namespace TextSieve

open Pattern Reader

variable {caseless : Bool}

def Text.Alike (caseless : Bool) (t t' : Text) : Prop :=
  if caseless then t.map Unicode.fold = t'.map Unicode.fold else t = t'

namespace Pattern

theorem matches_letters {t u w v : Text} :
    (Regex.cats (t.map (letter caseless))).Matches u w v ↔ w.Alike caseless t := by
  cases caseless with
  | false =>
    have hletter : letter false = fun c => .one (.single c) := rfl
    simp [hletter, Regex.matches_cats_single, Text.Alike]
  | true =>
    have hletter : letter true = fun c => .one (.caseless c) := rfl
    rw [hletter, Regex.matches_cats_one]
    simp only [CharSet.contains, beq_iff_eq, Text.Alike, if_true]
    rw [← List.forall₂_eq_eq_eq, List.forall₂_map_left_iff, List.forall₂_map_right_iff]

namespace Regex

theorem alts_cons {rs : List Regex} (r : Regex) (hne : rs ≠ []) :
    alts (r :: rs) = alt r (alts rs) := by
  obtain ⟨r', rs, rfl⟩ := List.exists_cons_of_ne_nil hne
  rfl

theorem isSet_alts {rs : List Regex} (hne : rs ≠ []) : (alts rs).isSet = rs.all isSet := by
  induction rs with
  | nil => exact absurd rfl hne
  | cons r rs ih =>
    by_cases hrest : rs = []
    · simp [hrest, alts]
    · rw [alts_cons r hrest, isSet, ih hrest, List.all_cons]

theorem size_le_alt (a b : Regex) : a.size ≤ (alt a b).size ∧ b.size ≤ (alt a b).size := by
  rw [size]
  split <;> omega

theorem size_alt_le {a b b' : Regex} (hset : b'.isSet = true → b.isSet = true)
    (h : b.size ≤ b'.size) : (alt a b).size ≤ (alt a b').size := by
  simp only [size, Bool.and_eq_true]
  by_cases hsets : a.isSet = true ∧ b'.isSet = true
  · rw [if_pos hsets, if_pos ⟨hsets.1, hset hsets.2⟩]
    omega
  · rw [if_neg hsets]
    split <;> omega

/-- More branches do not make a choice smaller. -/
theorem size_alts_le {rs rs' : List Regex} (h : rs.Sublist rs') :
    (alts rs).size ≤ (alts rs').size := by
  induction h with
  | slnil => exact Nat.le_refl _
  | @cons rs rs' r h ih =>
    by_cases hnil : rs' = []
    · obtain rfl : rs = [] := List.eq_nil_of_subset_nil (hnil ▸ h.subset)
      exact Nat.zero_le _
    · rw [alts_cons r hnil]
      exact Nat.le_trans ih (size_le_alt r _).2
  | @cons_cons rs rs' r h ih =>
    by_cases hnil : rs = []
    · subst hnil
      by_cases hnil' : rs' = []
      · exact hnil' ▸ Nat.le_refl _
      · rw [alts_cons r hnil']
        exact (size_le_alt r _).1
    · have hnil' : rs' ≠ [] := fun hnil' => hnil (List.eq_nil_of_subset_nil (hnil' ▸ h.subset))
      rw [alts_cons r hnil, alts_cons r hnil']
      refine size_alt_le (fun hset => ?_) ih
      rw [isSet_alts hnil'] at hset
      rw [isSet_alts hnil]
      exact List.all_eq_true.2 fun x hx => List.all_eq_true.1 hset x (h.subset hx)

end Regex

theorem Reader.regex_choice (s : Reader) :
    s.choice.regex = .alts (s.allBranches.reverse.map Branch.regex) := by
  rw [choice_eq]
  rfl

theorem regex_groupItem_branchesOf (es : List Reader) :
    (groupItem none (branchesOf es)).regex = .alts ((branchesOf es).map Branch.regex) := rfl

/-- The choice between patterns matches what one of them matches by itself. -/
theorem matches_branchesOf {es : List Reader} (hne : es ≠ []) {u w v : Text} :
    (groupItem none (branchesOf es)).regex.Matches u w v ↔
      ∃ e ∈ es, e.choice.regex.Matches u w v := by
  have hbranches : (branchesOf es).map Branch.regex ≠ [] := by
    obtain ⟨e, es, rfl⟩ := List.exists_cons_of_ne_nil hne
    simp [branchesOf, allBranches]
  have hown : ∀ e : Reader, e.choice.regex.Matches u w v ↔
      ∃ b ∈ e.allBranches, b.regex.Matches u w v := by
    intro e
    rw [regex_choice, Regex.matches_alts (by simp [allBranches])]
    simp
  rw [regex_groupItem_branchesOf, Regex.matches_alts hbranches]
  simp only [hown, branchesOf, List.mem_map, List.mem_flatMap, List.mem_reverse]
  constructor
  · intro h
    obtain ⟨_, ⟨b, ⟨e, he, hb⟩, rfl⟩, hmatch⟩ := h
    exact ⟨e, he, b, hb, hmatch⟩
  · intro h
    obtain ⟨e, he, b, hb, hmatch⟩ := h
    exact ⟨_, ⟨b, ⟨e, he, hb⟩, rfl⟩, hmatch⟩

theorem size_le_branchesOf {es : List Reader} {e : Reader} (he : e ∈ es) :
    e.choice.regex.size ≤ (groupItem none (branchesOf es)).regex.size := by
  rw [regex_choice, regex_groupItem_branchesOf]
  refine Regex.size_alts_le (List.Sublist.map _ ?_)
  exact List.sublist_flatten_of_mem (List.mem_map.2 ⟨e, he, rfl⟩)

end Pattern

namespace Delimiter

/-- What a delimiter matches by itself: its text, or what its pattern matches. -/
def Matches (caseless : Bool) (u w v : Text) : Delimiter → Prop
  | literal t => w.Alike caseless t
  | pattern source => ∃ r, Regex.ofPattern? caseless source = some r ∧ r.Matches u w v

def KeepsFlags (caseless : Bool) (source : Text) : Prop :=
  ∀ e ∈ Reader.read? { flags := { caseless := caseless } } 0 source,
    e.flags = { caseless := caseless }

instance (caseless : Bool) (source : Text) : Decidable (KeepsFlags caseless source) :=
  inferInstanceAs (Decidable (∀ e ∈ Reader.read? { flags := { caseless := caseless } } 0 source, _))

def literalRead (caseless : Bool) (t : Text) : Reader :=
  append { flags := { caseless := caseless } } (t.map (letterItem caseless))

theorem ownReading_escape (caseless : Bool) (t : Text) :
    OwnReading { caseless := caseless } (escape t) (literalRead caseless t) :=
  (readsAs_escape t).ownReading

theorem choice_literalRead (t : Text) :
    (literalRead caseless t).choice = .anyOf [letterBranch caseless t] := by
  rw [choice_eq, literalRead, allBranches_append rfl]
  rfl

theorem depth_literalRead (t : Text) : (literalRead caseless t).choice.depth ≤ 1 := by
  rw [choice_literalRead]
  exact depth_letterBranch t

theorem matches_literalRead {t u w v : Text} :
    (literalRead caseless t).choice.regex.Matches u w v ↔
      (literal t).Matches caseless u w v := by
  rw [choice_literalRead]
  simp only [Branch.anyOf, List.map_singleton, Regex.alts, regex_letterBranch, Matches]
  exact matches_letters

variable {d : Delimiter} {p : Text}

theorem eq_escape_of_branch {t : Text} (h : (literal t).branch = .ok p) : p = escape t := by
  simp only [branch] at h
  split_ifs at h
  exact (Except.ok.inj h).symm

theorem eq_source_of_branch {source : Text} (h : (pattern source).branch = .ok p) :
    p = source ∧ isPattern source = true := by
  simp only [branch] at h
  split_ifs at h with hempty hpattern
  exact ⟨(Except.ok.inj h).symm, hpattern⟩

/-- A delimiter that is accepted can be read by itself in both case modes. -/
theorem exists_ownReading (h : d.branch = .ok p) (caseless : Bool) :
    ∃ e, OwnReading { caseless := caseless } p e ∧ e.choice.depth ≤ nestLimit := by
  cases d with
  | literal t =>
    obtain rfl := eq_escape_of_branch h
    exact ⟨_, ownReading_escape caseless t, Nat.le_trans (depth_literalRead t) (by decide)⟩
  | pattern source =>
    obtain ⟨rfl, hpattern⟩ := eq_source_of_branch h
    obtain ⟨r, hr⟩ := Option.isSome_iff_exists.1 hpattern
    obtain ⟨e, he, hdepth, -, -⟩ := ofPattern?_eq_some_iff.1 hr
    obtain ⟨e', he', houtline⟩ := he.exists_of_outline (g := { caseless := caseless }) rfl
    refine ⟨e', he', ?_⟩
    rw [← depth_outline_choice, houtline, depth_outline_choice]
    exact hdepth

/-- What is read of an accepted delimiter matches what the delimiter matches, unless it is too
large. -/
theorem matches_iff (h : d.branch = .ok p) {e : Reader}
    (he : OwnReading { caseless := caseless } p e)
    (hsize : e.choice.regex.size ≤ Regex.sizeLimit) {u w v : Text} :
    e.choice.regex.Matches u w v ↔ d.Matches caseless u w v := by
  obtain ⟨e', he', hdepth⟩ := exists_ownReading h caseless
  obtain rfl := he.unique he'
  cases d with
  | literal t =>
    obtain rfl := eq_escape_of_branch h
    obtain rfl := he.unique (ownReading_escape caseless t)
    exact matches_literalRead
  | pattern source =>
    obtain ⟨rfl, -⟩ := eq_source_of_branch h
    have hr : Regex.ofPattern? caseless p = some e.choice.regex :=
      ofPattern?_eq_some_iff.2 ⟨e, he, hdepth, hsize, rfl⟩
    simp [Matches, hr]

theorem forall₂_of_mapM {ds : List Delimiter} {ps : List Text} (h : ds.mapM branch = .ok ps) :
    List.Forall₂ (fun d p => branch d = .ok p) ds ps := by
  induction ds generalizing ps with
  | nil =>
    obtain rfl : [] = ps := Except.ok.inj h
    exact .nil
  | cons d ds ih =>
    rw [List.mapM_cons] at h
    cases hd : d.branch with
    | error e => simp [hd, bind, Except.bind] at h
    | ok p =>
      cases hds : ds.mapM branch with
      | error e => simp [hd, hds, bind, Except.bind] at h
      | ok ps' =>
        simp only [hd, hds, bind, Except.bind] at h
        obtain rfl := Except.ok.inj h
        exact .cons hd (ih hds)

/-- The fragment is the choice between the branches of all delimiters. -/
theorem exists_branches_of_resolve {o : Options} {r : Resolved} (h : o.resolve = .ok r) :
    ∃ ps, List.Forall₂ (fun d p => branch d = .ok p) o.delimiters ps ∧ ps ≠ [] ∧
      r = ⟨o, choice ps⟩ := by
  unfold Options.resolve fragment at h
  split at h
  · cases h
  · rename_i hne
    cases hps : o.delimiters.mapM branch with
    | error e => simp [hps, Except.map] at h
    | ok ps =>
      rw [hps] at h
      obtain rfl := Except.ok.inj h
      have hall := forall₂_of_mapM hps
      refine ⟨ps, hall, ?_, rfl⟩
      rintro rfl
      exact hne (List.forall₂_nil_right_iff.1 hall)

end Delimiter

section

variable {ps : List Text} {es : List Reader} {body : Text} {rs : List Regex} {s : Reader}

/-- The delimiters in front of a term leave their names behind, unless they are refused. -/
theorem exists_read?_front (h : OwnReadings { caseless := caseless } ps es) (hne : ps ≠ [])
    (hs : Plain caseless s) (rest : Text) :
    s.read? 0 (['(', '?', ':'] ++ (['^'] ++ '|' :: Delimiter.choice ps) ++ [')'] ++ rest) = none ∨
      ∃ s', Plain caseless s' ∧ s'.names = namesOf es ++ s.names ∧
        (s.names.Nodup → s'.names.Nodup) ∧
        s.read? 0 (['(', '?', ':'] ++ (['^'] ++ '|' :: Delimiter.choice ps) ++ [')'] ++ rest) =
          s'.read? 0 rest := by
  let opened : Reader := (s.openGroup s.flags none).append [.term (.look .textStart) 0]
  let start : Reader := { opened with branches := opened.allBranches, items := [] }
  have hstart : Plain caseless start := ⟨hs.flags, hs.brackets⟩
  have hfront : s.Reads (['(', '?', ':'] ++ (['^'] ++ ['|'])) start := by
    have hopened : Plain caseless (s.openGroup s.flags none) := ⟨hs.flags, hs.brackets⟩
    have hlook := readsAs_look (.inl rfl) _ hopened
    exact (reads_openPlain hs).trans
      (hlook.trans (reads_bar ⟨hs.flags, hs.brackets⟩) (by simp)) (by simp)
  have hsplit : ['(', '?', ':'] ++ (['^'] ++ '|' :: Delimiter.choice ps) ++ [')'] ++ rest =
      (['(', '?', ':'] ++ (['^'] ++ ['|'])) ++ (Delimiter.choice ps ++ ')' :: rest) := by simp
  rw [hsplit, hfront _ (by simp [Delimiter.choice])]
  rcases h.read?_choice hne hstart (')' :: rest) with ⟨hsame, hnodup⟩ | ⟨hnone, -⟩
  · let last : Reader := { start.append [groupItem none (branchesOf es)] with
      names := namesOf es ++ start.names }
    let closed : Reader := { s.append [startItem (groupItem none (branchesOf es))] with
      names := namesOf es ++ s.names }
    have hclose : last.step? ')' rest = some (closed, 0) :=
      step?_close (s := last) hs.brackets rfl rest
    refine .inr ⟨closed, ⟨hs.flags, hs.brackets⟩, rfl, hnodup, ?_⟩
    rw [hsame, read?_cons, hclose]
    rfl
  · exact .inl hnone

/-- The delimiters behind a term are refused where their names are taken. -/
theorem read?_behind_taken (h : OwnReadings { caseless := caseless } ps es) (hne : ps ≠ [])
    (hs : Plain caseless s) (hnodup : s.names.Nodup) (htaken : namesOf es ⊆ s.names)
    (hnames : namesOf es ≠ []) (rest : Text) :
    s.read? 0 (['(', '?', ':'] ++ (Delimiter.choice ps ++ rest)) = none := by
  have hopened : Plain caseless (s.openGroup s.flags none) := ⟨hs.flags, hs.brackets⟩
  rw [reads_openPlain hs _ (by simp [Delimiter.choice])]
  rcases h.read?_choice hne hopened rest with ⟨-, hnodup'⟩ | ⟨hnone, -⟩
  · obtain ⟨name, hname⟩ := List.exists_mem_of_ne_nil _ hnames
    have hdisjoint := (List.nodup_append.1 (hnodup' hnodup)).2.2
    exact absurd rfl (hdisjoint name hname name (htaken hname))
  · exact hnone

/-- The fragment stands twice in the pattern of a term, so none of its groups can have a name. -/
theorem namesOf_eq_nil_of_read?_anchored (h : OwnReadings { caseless := caseless } ps es)
    (hne : ps ≠ []) (hB : MayReadAs caseless body rs) (hb : body.head? ≠ some '?')
    (hread : read? { flags := { caseless := caseless } } 0
      (anchored body (Delimiter.choice ps)) = some s) : namesOf es = [] := by
  by_contra hnames
  rw [anchored_eq] at hread
  rcases exists_read?_front h hne (s := { flags := { caseless := caseless } }) ⟨rfl, rfl⟩ _ with
    hnone | ⟨m, hm, hmnames, hmnodup, hfront⟩
  · rw [hnone] at hread
    cases hread
  rw [hfront] at hread
  have hbehind : (['(', '?', ':'] ++ (Delimiter.choice ps ++ '|' :: ['$']) ++ [')']).head? ≠
      some '?' := by simp
  rcases read?_term hB hb hm hbehind with hnone | ⟨hnew, is, -, hterm⟩
  · rw [hnone] at hread
    cases hread
  let n : Reader := { m.append [groupItem (some termGroup) [.ofItems is]] with
    names := termGroup :: m.names }
  have hn : Plain caseless n := ⟨hm.flags, hm.brackets⟩
  have hnodup : n.names.Nodup := List.nodup_cons.2 ⟨hnew, hmnodup .nil⟩
  have htaken : namesOf es ⊆ n.names := fun x hx => by simp [n, hmnames, hx]
  rw [hterm, List.append_assoc, List.append_assoc,
    read?_behind_taken h hne hn hnodup htaken hnames] at hread
  cases hread

end

theorem exists_mem_of_forall₂ {α β : Type} {R : α → β → Prop} {as : List α} {bs : List β}
    (h : List.Forall₂ R as bs) {b : β} (hb : b ∈ bs) : ∃ a ∈ as, R a b := by
  induction h with
  | nil => cases hb
  | @cons a b' as bs hab _ ih =>
    rcases List.mem_cons.1 hb with rfl | hb
    · exact ⟨a, List.mem_cons_self, hab⟩
    · obtain ⟨a', ha', hR⟩ := ih hb
      exact ⟨a', List.mem_cons_of_mem a ha', hR⟩

namespace Delimiter

variable {o : Options} {r : Resolved}

/-- Accepted delimiters can each be read by itself to something of which `Q` holds, if it holds of
what literal texts and the patterns among them are read to. -/
theorem exists_own {ds : List Delimiter} {ps : List Text} {Q : Reader → Prop}
    (hps : List.Forall₂ (fun d p => branch d = .ok p) ds ps)
    (hliteral : ∀ t, Q (literalRead caseless t))
    (hpattern : ∀ source, pattern source ∈ ds →
      ∀ e ∈ read? { flags := { caseless := caseless } } 0 source, Q e) {p : Text} (hp : p ∈ ps) :
    ∃ e, OwnReading { caseless := caseless } p e ∧ Q e := by
  obtain ⟨d, hd, hbranch⟩ := exists_mem_of_forall₂ hps hp
  obtain ⟨e, he, -⟩ := exists_ownReading hbranch caseless
  refine ⟨e, he, ?_⟩
  cases d with
  | literal t =>
    obtain rfl := eq_escape_of_branch hbranch
    obtain rfl := he.unique (ownReading_escape caseless t)
    exact hliteral t
  | pattern source =>
    obtain ⟨rfl, -⟩ := eq_source_of_branch hbranch
    exact hpattern _ hd e he.read

/-- Accepted delimiters that keep the flags are all read under the same flags. -/
theorem exists_ownReadings_of_keeps {ds : List Delimiter} {ps : List Text}
    (hps : List.Forall₂ (fun d p => branch d = .ok p) ds ps)
    (hkeeps : ∀ source, pattern source ∈ ds → KeepsFlags caseless source) :
    ∃ es, OwnReadings { caseless := caseless } ps es ∧
      List.Forall₂ (OwnReading { caseless := caseless }) ps es := by
  refine exists_ownReadings (S := fun f => f = { caseless := caseless }) ?_ ?_ rfl
  · rintro _ rfl
    rfl
  · rintro _ rfl p hp
    obtain ⟨e, he, hflags⟩ := exists_own hps (fun _ => rfl) hkeeps hp
    exact ⟨e, he, hflags, he⟩

/-- The choice between what is read of delimiters matches what one of the delimiters matches, unless
it is too large. -/
theorem matches_branchesOf_iff {ds : List Delimiter} {ps : List Text} {es : List Reader}
    (hps : List.Forall₂ (fun d p => branch d = .ok p) ds ps)
    (hes : List.Forall₂ (OwnReading { caseless := caseless }) ps es) (hne : ps ≠ [])
    (hsize : (groupItem none (branchesOf es)).regex.size ≤ Regex.sizeLimit) {u w v : Text} :
    (groupItem none (branchesOf es)).regex.Matches u w v ↔
      ∃ d ∈ ds, d.Matches caseless u w v := by
  have hone : ∀ {d p e}, branch d = .ok p → OwnReading { caseless := caseless } p e → e ∈ es →
      (e.choice.regex.Matches u w v ↔ d.Matches caseless u w v) := by
    intro d p e hd he hmem
    exact matches_iff hd he (Nat.le_trans (size_le_branchesOf hmem) hsize)
  have hsome : es ≠ [] := by
    rintro rfl
    exact hne (List.forall₂_nil_right_iff.1 hes)
  rw [matches_branchesOf hsome]
  constructor
  · intro h
    obtain ⟨e, he, hmatch⟩ := h
    obtain ⟨p, hp, hread⟩ := exists_mem_of_forall₂ hes he
    obtain ⟨d, hd, hbranch⟩ := exists_mem_of_forall₂ hps hp
    exact ⟨d, hd, (hone hbranch hread he).1 hmatch⟩
  · intro h
    obtain ⟨d, hd, hmatch⟩ := h
    obtain ⟨p, hp, hbranch⟩ := exists_mem_of_forall₂ hps.flip hd
    obtain ⟨e, he, hread⟩ := exists_mem_of_forall₂ hes.flip hp
    exact ⟨e, he, (hone hbranch hread he).2 hmatch⟩

/-- The fragment matches exactly what one of the delimiters matches. -/
theorem matches_fragment_iff (hr : o.resolve = .ok r)
    (hkeeps : ∀ source, pattern source ∈ o.delimiters → KeepsFlags caseless source) {F : Regex}
    (hF : Regex.ofPattern? caseless r.fragment = some F) {u w v : Text} :
    F.Matches u w v ↔ ∃ d ∈ o.delimiters, d.Matches caseless u w v := by
  obtain ⟨ps, hps, hne, rfl⟩ := exists_branches_of_resolve hr
  obtain ⟨es, hes, hall⟩ := exists_ownReadings_of_keeps hps hkeeps
  obtain ⟨s, hs, -, hsize, rfl⟩ := ofPattern?_eq_some_iff.1 hF
  have hread := hs.read
  have hplain : Plain caseless { flags := { caseless := caseless } } := ⟨rfl, rfl⟩
  rw [← List.append_nil (Delimiter.choice ps)] at hread
  rcases hes.read?_choice hne hplain [] with ⟨hsame, -⟩ | ⟨hnone, -⟩
  · rw [hsame, read?_nil] at hread
    obtain rfl := Option.some.inj hread
    exact matches_branchesOf_iff hps hall hne hsize
  · rw [hnone] at hread
    cases hread

/-- A term that is read gives its body between what the fragment stands for by itself. -/
theorem exists_fragment (hr : o.resolve = .ok r)
    (hkeeps : ∀ source, pattern source ∈ o.delimiters → KeepsFlags caseless source) {body : Text}
    {rs : List Regex} (hB : MayReadAs caseless body rs) (hb : body.head? ≠ some '?') {m : Regex}
    (h : Regex.ofPattern? caseless (anchored body r.fragment) = some m) :
    ∃ F, Regex.ofPattern? caseless r.fragment = some F ∧ m = delimited F (.cats rs) := by
  obtain ⟨ps, hps, hne, rfl⟩ := exists_branches_of_resolve hr
  obtain ⟨es, hes, -⟩ := exists_ownReadings_of_keeps hps hkeeps
  obtain ⟨s, hs, hdepth, hsize, rfl⟩ := ofPattern?_eq_some_iff.1 h
  have hnames := namesOf_eq_nil_of_read?_anchored hes hne hB hb hs.read
  have hg := hes.readsAs_choice hne (namesOf_eq_nil_iff.1 hnames)
  obtain ⟨is, names, rfl, rfl⟩ := exists_anchoredRead hg (by simp [choice]) hB hb hs.read
  rw [depth_anchoredRead] at hdepth
  rw [regex_anchoredRead, delimited] at hsize
  have hdepth' : (groupItem none (branchesOf es)).depth ≤ nestLimit := by omega
  have hsize' : (groupItem none (branchesOf es)).regex.size ≤ Regex.sizeLimit :=
    Nat.le_trans (Nat.le_trans (Regex.size_le_alt _ _).2 (Nat.le_add_right _ _)) hsize
  refine ⟨_, ofPattern?_eq_some_iff.2 ⟨_, hg.ownReading, hdepth', hsize', rfl⟩, ?_⟩
  exact regex_anchoredRead [.ofItems is] names

end Delimiter

/-- The text can be read as the core of the term with its wildcards next to it. -/
def FuzzyTerm.Fits (caseless : Bool) (f : FuzzyTerm) (t : Text) : Prop :=
  ∃ x w y, t = x ++ w ++ y ∧ Wildcard.Fills f.leading x ∧ w.Alike caseless f.core ∧
    Wildcard.Fills f.trailing y

theorem FuzzyTerm.matches_regexes {f : FuzzyTerm} {u w v : Text} :
    (Regex.cats (f.regexes caseless)).Matches u w v ↔ f.Fits caseless w := by
  simp only [regexes, Regex.matches_cats_append, Wildcard.matches_regexes, matches_letters]
  constructor
  · intro h
    obtain ⟨_, y, rfl, ⟨x, w, rfl, hx, hw⟩, hy⟩ := h
    exact ⟨x, w, y, rfl, hx, hw, hy⟩
  · intro h
    obtain ⟨x, w, y, rfl, hx, hw, hy⟩ := h
    exact ⟨x ++ w, y, rfl, ⟨x, w, rfl, hx, hw⟩, hy⟩

/-- Somewhere in the text the term has one occurrence of a delimiter or an end of the text on either
side. -/
def FuzzyTerm.Stands (caseless : Bool) (ds : List Delimiter) (f : FuzzyTerm) (t : Text) : Prop :=
  ∃ u l x r v, t = u ++ l ++ x ++ r ++ v ∧ f.Fits caseless x ∧
    (l = [] ∧ u = [] ∨ ∃ d ∈ ds, d.Matches caseless u l (x ++ r ++ v)) ∧
    ((∃ d ∈ ds, d.Matches caseless (u ++ l ++ x) r v) ∨ r = [] ∧ v = [])

theorem FuzzyTerm.stands_congr {ds ds' : List Delimiter} (h : ∀ d, d ∈ ds ↔ d ∈ ds')
    {f : FuzzyTerm} {t : Text} : f.Stands caseless ds t ↔ f.Stands caseless ds' t := by
  simp only [Stands, h]

/-- Under delimiters that keep the flags, a literal leaf holds of the texts it stands in. -/
theorem eval_iff_stands {o : Options} {r : Resolved} (hr : o.resolve = .ok r)
    (hkeeps : ∀ source, .pattern source ∈ o.delimiters →
      Delimiter.KeepsFlags o.ignoreCase source)
    (hregexp : o.regexp = false) {l : Leaf} (hl : l.kind ≠ .pattern) {extractor : Extractor}
    (hok : (CompiledTerm.compile (Context.key ⟨r, extractor⟩ l)).isOk = true) :
    ∃ F f, Regex.ofPattern? o.ignoreCase r.fragment = some F ∧ FuzzyTerm.parse l.text = .ok f ∧
      ∀ c : Cache, c.Faithful → ∀ text, ∃ b,
        (Query.eval ⟨r, extractor⟩ (.leaf l) text c).1 = .ok b ∧
        (b = true ↔ f.Stands o.ignoreCase o.delimiters text) := by
  obtain ⟨t, ht⟩ := exists_of_isOk hok
  obtain ⟨f, hf⟩ := exists_parse_of_compile ht
  obtain rfl : r.options = o := by
    obtain ⟨ps, -, -, rfl⟩ := Delimiter.exists_branches_of_resolve hr
    rfl
  have hkey : (Context.key ⟨r, extractor⟩ l).asPattern = false := by
    simp [Context.key, Leaf.isPattern, hl, hregexp]
  have hmatcher := matcher_of_compile ht hf r.options.ignoreCase
  rw [hkey] at hmatcher
  obtain ⟨F, hF, hdelimited⟩ :=
    Delimiter.exists_fragment hr hkeeps (mayReadAs_body f) (head?_body_ne f) hmatcher
  have hunion := fun u w v => Delimiter.matches_fragment_iff hr hkeeps hF (u := u) (w := w) (v := v)
  refine ⟨F, f, hF, hf, fun c hc text => ⟨_, (gives_eval_leaf ht text c hc).1, ?_⟩⟩
  have hmatch : t.isMatch r.options.ignoreCase text =
      (t.matcher r.options.ignoreCase).isMatch text := rfl
  rw [Context.ignoreCase, hmatch, hdelimited]
  simp only [Regex.isMatch_iff, matches_delimited, hunion, FuzzyTerm.matches_regexes]
  constructor
  · intro h
    obtain ⟨u, _, v, rfl, l, x, r, rfl, hl, hx, hr⟩ := h
    exact ⟨u, l, x, r, v, by simp, hx, hl, hr⟩
  · intro h
    obtain ⟨u, l, x, r, v, rfl, hx, hl, hr⟩ := h
    exact ⟨u, l ++ x ++ r, v, by simp, l, x, r, rfl, hl, hx, hr⟩

/-- As long as no pattern leaves other flags behind than it finds, the delimiters are a set: the
fragment matches exactly what one of them matches, and neither their order nor repetitions among
them change what a literal leaf holds of. -/
theorem eval_eq_of_mem_iff {o : Options} {ds : List Delimiter}
    (hmem : ∀ d, d ∈ ds ↔ d ∈ o.delimiters)
    (hkeeps : ∀ source, .pattern source ∈ o.delimiters →
      Delimiter.KeepsFlags o.ignoreCase source)
    (hregexp : o.regexp = false) {r r' : Resolved} (hr : o.resolve = .ok r)
    (hr' : { o with delimiters := ds }.resolve = .ok r') :
    (∀ F, Regex.ofPattern? o.ignoreCase r.fragment = some F → ∀ u w v,
      F.Matches u w v ↔ ∃ d ∈ o.delimiters, d.Matches o.ignoreCase u w v) ∧
    ∀ l : Leaf, l.kind ≠ .pattern → ∀ extractor,
      (CompiledTerm.compile (Context.key ⟨r, extractor⟩ l)).isOk = true →
      (CompiledTerm.compile (Context.key ⟨r', extractor⟩ l)).isOk = true →
      (Regex.ofPattern? o.ignoreCase r.fragment).isSome = true ∧
      ∃ f, FuzzyTerm.parse l.text = .ok f ∧
        ∀ c c' : Cache, c.Faithful → c'.Faithful → ∀ text, ∃ b,
          (Query.eval ⟨r, extractor⟩ (.leaf l) text c).1 = .ok b ∧
          (Query.eval ⟨r', extractor⟩ (.leaf l) text c').1 = .ok b ∧
          (b = true ↔ f.Stands o.ignoreCase o.delimiters text) := by
  refine ⟨fun F hF u w v => Delimiter.matches_fragment_iff hr hkeeps hF,
    fun l hl extractor hok hok' => ?_⟩
  have hkeeps' : ∀ source, .pattern source ∈ ds → Delimiter.KeepsFlags o.ignoreCase source :=
    fun source hsource => hkeeps source ((hmem _).1 hsource)
  obtain ⟨F, f, hF, hf, heval⟩ := eval_iff_stands hr hkeeps hregexp hl hok
  obtain ⟨_, f', -, hf', heval'⟩ := eval_iff_stands hr' hkeeps' hregexp hl hok'
  obtain rfl : f = f' := Except.ok.inj (hf.symm.trans hf')
  refine ⟨by rw [hF]; rfl, f, hf, fun c c' hc hc' text => ?_⟩
  obtain ⟨b, hb, hiff⟩ := heval c hc text
  obtain ⟨b', hb', hiff'⟩ := heval' c' hc' text
  have hsame : b' = b :=
    Bool.eq_iff_iff.2 (hiff'.trans ((FuzzyTerm.stands_congr hmem).trans hiff.symm))
  exact ⟨b, hb, hsame ▸ hb', hiff⟩

/-- A pattern with flags in a group of its own does not mind its place, nor how often its neighbour
is given. -/
theorem eval_delimiters_reordered :
    ∃ r r',
      ({ delimiters := [.pattern ['(', '?', 'i', ':', 'x', ')'], .literal ['y']]
         ignoreCase := false } : Options).resolve = .ok r ∧
      ({ delimiters := [.literal ['y'], .pattern ['(', '?', 'i', ':', 'x', ')'], .literal ['y']]
         ignoreCase := false } : Options).resolve = .ok r' ∧
      (Query.eval ⟨r, taggedFields⟩ (.leaf ⟨.word, ['a', '~']⟩) ['c', 'X', 'a', 't', 'y'] {}).1 =
        .ok true ∧
      (Query.eval ⟨r', taggedFields⟩ (.leaf ⟨.word, ['a', '~']⟩) ['c', 'X', 'a', 't', 'y'] {}).1 =
        .ok true := by
  let o : Options :=
    { delimiters := [.pattern ['(', '?', 'i', ':', 'x', ')'], .literal ['y']], ignoreCase := false }
  let ds : List Delimiter := [.literal ['y'], .pattern ['(', '?', 'i', ':', 'x', ')'],
    .literal ['y']]
  have hmem : ∀ d, d ∈ ds ↔ d ∈ o.delimiters := by
    intro d
    simp only [ds, o, List.mem_cons, List.not_mem_nil]
    tauto
  have hkeeps : ∀ source, .pattern source ∈ o.delimiters →
      Delimiter.KeepsFlags o.ignoreCase source := by
    intro source hsource
    obtain rfl : source = ['(', '?', 'i', ':', 'x', ')'] := by simpa [o] using hsource
    decide +kernel
  let r : Resolved := ⟨o, Delimiter.choice [['(', '?', 'i', ':', 'x', ')'], ['y']]⟩
  let r' : Resolved :=
    ⟨{ o with delimiters := ds }, Delimiter.choice [['y'], ['(', '?', 'i', ':', 'x', ')'], ['y']]⟩
  have hr : o.resolve = .ok r := rfl
  have hr' : { o with delimiters := ds }.resolve = .ok r' := rfl
  have hl : LeafKind.word ≠ .pattern := by decide
  obtain ⟨-, hleaf⟩ := eval_eq_of_mem_iff hmem hkeeps rfl hr hr'
  obtain ⟨-, f, -, heval⟩ := hleaf ⟨.word, ['a', '~']⟩ hl taggedFields (by decide +kernel)
    (by decide +kernel)
  obtain ⟨b, hb, hb', -⟩ := heval {} {} Cache.faithful_empty Cache.faithful_empty
    ['c', 'X', 'a', 't', 'y']
  have hfirst : (Query.eval ⟨r, taggedFields⟩ (.leaf ⟨.word, ['a', '~']⟩)
      ['c', 'X', 'a', 't', 'y'] {}).1 = .ok true := by decide +kernel
  obtain rfl : b = true := Except.ok.inj (hb.symm.trans hfirst)
  exact ⟨r, r', hr, hr', hb, hb'⟩

/-- A flag that a pattern leaves behind changes what its neighbour matches, so that the order of the
two counts. -/
theorem eval_delimiters_flagged :
    ∃ r r',
      ({ delimiters := [.pattern ['(', '?', 'i', ')', 'x'], .literal ['y']]
         ignoreCase := false } : Options).resolve = .ok r ∧
      ({ delimiters := [.literal ['y'], .pattern ['(', '?', 'i', ')', 'x']]
         ignoreCase := false } : Options).resolve = .ok r' ∧
      (Query.eval ⟨r, taggedFields⟩ (.leaf ⟨.word, ['c', 'a', 't']⟩) ['c', 'a', 't', 'Y'] {}).1 =
        .ok true ∧
      (Query.eval ⟨r', taggedFields⟩ (.leaf ⟨.word, ['c', 'a', 't']⟩) ['c', 'a', 't', 'Y'] {}).1 =
        .ok false :=
  ⟨_, _, rfl, rfl, by decide +kernel, by decide +kernel⟩

end TextSieve
