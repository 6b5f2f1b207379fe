import Mathlib.Data.List.Dedup
import TextSieve.Proofs.Cache.Faithful

/-! The accounts of a cache. What a new cache holds and has counted is known from the keys that it
was asked for: it holds one term for each key that compiles, a request that finds no term for its key
has compiled it, and one that fails leaves no trace. -/

namespace TextSieve

namespace Cache

/-- A request for the term of a key, with the cache that it met and the one that it left. -/
structure Request where
  before : Cache
  key : TermKey
  answer : Except Error Entry
  after : Cache

def requests (c : Cache) : List TermKey → List Request × Cache
  | [] => ([], c)
  | k :: ks =>
    let (answer, c') := fetch k c
    let (rest, c'') := c'.requests ks
    (⟨c, k, answer, c'⟩ :: rest, c'')

def successes (past : List Request) : Nat :=
  past.countP fun q => q.answer.isOk

@[simp] theorem successes_append_ok (past : List Request) (c c' : Cache) (k : TermKey)
    (a : Entry) : successes (past ++ [⟨c, k, .ok a, c'⟩]) = successes past + 1 := by
  rw [successes, List.countP_append]
  rfl

@[simp] theorem successes_append_error (past : List Request) (c c' : Cache) (k : TermKey)
    (e : Error) : successes (past ++ [⟨c, k, .error e, c'⟩]) = successes past := by
  rw [successes, List.countP_append]
  rfl

structure Accounted (past : List Request) (c : Cache) : Prop where
  compilations : c.compilations = c.entries.length
  /-- As many terms are stored as different keys were asked for that compile. -/
  entries : c.entries.length =
    ((past.map Request.key).filter fun k => (CompiledTerm.compile k).isOk).dedup.length
  hits : c.hits + c.entries.length = successes past
  /-- A request that fails changes nothing, and fails again whenever it is made. -/
  failed : ∀ q ∈ past, ∀ e, q.answer = .error e →
    q.after = q.before ∧ ∀ q' ∈ past, q'.key = q.key → q'.answer = .error e
  /-- Requests give the same stored term exactly if they ask for the same key. -/
  serial_eq_iff : ∀ q ∈ past, ∀ q' ∈ past, ∀ a a', q.answer = .ok a → q'.answer = .ok a' →
    (a.serial = a'.serial ↔ q.key = q'.key) ∧ (a = a' ↔ q.key = q'.key)
  /-- Two ways to write one fuzzy term compile alike, and are stored apart. -/
  term_eq : ∀ q ∈ past, ∀ q' ∈ past, ∀ a a', q.answer = .ok a → q'.answer = .ok a' →
    FuzzyTerm.parse q.key.term = FuzzyTerm.parse q'.key.term →
    q.key.asPattern = q'.key.asPattern → q.key.fragment = q'.key.fragment → a.term = a'.term

/-- All that a request can do: find a stored term, compile and store one, or fail. -/
theorem fetch_cases (c : Cache) (k : TermKey) :
    (∃ a ∈ c.entries, a.key = k ∧ fetch k c = (.ok a, { c with hits := c.hits + 1 })) ∨
    (c.find? k = none ∧ ∃ t, CompiledTerm.compile k = .ok t ∧
      fetch k c = (.ok (c.store k t).1, (c.store k t).2)) ∨
    ∃ e, CompiledTerm.compile k = .error e ∧ fetch k c = (.error e, c) := by
  cases hfind : c.find? k with
  | some a =>
    obtain ⟨ha, hk⟩ := mem_of_find? hfind
    exact .inl ⟨a, ha, hk, fetch_of_find? hfind⟩
  | none =>
    cases hcompile : CompiledTerm.compile k with
    | ok t => exact .inr (.inl ⟨rfl, t, rfl, by simp [fetch, hfind, hcompile]⟩)
    | error e => exact .inr (.inr ⟨e, rfl, fetch_of_error hfind hcompile⟩)

theorem key_ne_of_find? {c : Cache} {k : TermKey} (h : c.find? k = none) :
    ∀ a ∈ c.entries, a.key ≠ k := by
  intro a ha hk
  have hne := List.find?_eq_none.1 h a ha
  simp [hk] at hne

/-- What a key compiles to depends on its term only through what the term is read to. -/
theorem compile_eq_ok_of_parse {k k' : TermKey} {t : CompiledTerm}
    (hparse : FuzzyTerm.parse k.term = FuzzyTerm.parse k'.term)
    (hpattern : k.asPattern = k'.asPattern) (hfragment : k.fragment = k'.fragment)
    (h : CompiledTerm.compile k = .ok t) : CompiledTerm.compile k' = .ok t := by
  unfold CompiledTerm.compile at h ⊢
  rw [hparse, hpattern, hfragment] at h
  cases hf : FuzzyTerm.parse k'.term with
  | error e => simp [hf] at h
  | ok f =>
    simp only [hf] at h ⊢
    split at h
    · assumption
    · cases h

/-- What relates the stored terms to the requests so far. -/
structure Recorded (past : List Request) (c : Cache) : Prop where
  faithful : c.Faithful
  compilations : c.compilations = c.entries.length
  hits : c.hits + c.entries.length = successes past
  serials : c.entries.map Entry.serial = (List.range c.entries.length).reverse
  keys : (c.entries.map Entry.key).Nodup
  asked : ∀ a ∈ c.entries, a.key ∈ past.map Request.key
  answered : ∀ q ∈ past, ∀ a, q.answer = .ok a → a ∈ c.entries ∧ a.key = q.key
  failed : ∀ q ∈ past, ∀ e, q.answer = .error e →
    CompiledTerm.compile q.key = .error e ∧ q.after = q.before

theorem recorded_empty : Recorded [] {} where
  faithful := faithful_empty
  compilations := rfl
  hits := rfl
  serials := rfl
  keys := .nil
  asked := by simp
  answered := by simp
  failed := by simp

namespace Recorded

variable {past : List Request} {c : Cache} {k : TermKey}

theorem asked_append (h : Recorded past c) (q : Request) :
    ∀ a ∈ c.entries, a.key ∈ (past ++ [q]).map Request.key := by
  intro a ha
  rw [List.map_append]
  exact List.mem_append_left _ (h.asked a ha)

theorem found (h : Recorded past c) {a : Entry} (ha : a ∈ c.entries) :
    Recorded (past ++ [⟨c, a.key, .ok a, { c with hits := c.hits + 1 }⟩])
      { c with hits := c.hits + 1 } where
  faithful := h.faithful
  compilations := h.compilations
  hits := by
    rw [successes_append_ok, ← h.hits]
    exact Nat.add_right_comm c.hits 1 c.entries.length
  serials := h.serials
  keys := h.keys
  asked := h.asked_append _
  answered := by
    rw [List.forall_mem_append, List.forall_mem_singleton]
    refine ⟨h.answered, fun b hb => ?_⟩
    obtain rfl := Except.ok.inj hb
    exact ⟨ha, rfl⟩
  failed := by
    rw [List.forall_mem_append, List.forall_mem_singleton]
    exact ⟨h.failed, by simp⟩

theorem stored (h : Recorded past c) (hnew : c.find? k = none) {t : CompiledTerm}
    (ht : CompiledTerm.compile k = .ok t) :
    Recorded (past ++ [⟨c, k, .ok (c.store k t).1, (c.store k t).2⟩]) (c.store k t).2 where
  faithful := h.faithful.store ht
  compilations := congrArg (· + 1) h.compilations
  hits := by
    rw [successes_append_ok, ← h.hits]
    exact (Nat.add_assoc c.hits c.entries.length 1).symm
  serials := by
    simp only [store, List.map_cons, List.length_cons, List.range_succ, List.reverse_append,
      List.reverse_singleton, List.singleton_append]
    rw [h.serials]
  keys := by
    refine List.nodup_cons.2 ⟨fun hmem => ?_, h.keys⟩
    obtain ⟨a, ha, hk⟩ := List.mem_map.1 hmem
    exact key_ne_of_find? hnew a ha hk
  asked := by
    intro a ha
    rcases List.mem_cons.1 ha with rfl | ha
    · simp
    · exact h.asked_append _ a ha
  answered := by
    rw [List.forall_mem_append, List.forall_mem_singleton]
    refine ⟨fun q hq a ha => ?_, fun a ha => ?_⟩
    · obtain ⟨hmem, hkey⟩ := h.answered q hq a ha
      exact ⟨List.mem_cons_of_mem _ hmem, hkey⟩
    · obtain rfl := Except.ok.inj ha
      exact ⟨List.mem_cons_self, rfl⟩
  failed := by
    rw [List.forall_mem_append, List.forall_mem_singleton]
    exact ⟨h.failed, by simp⟩

theorem refused (h : Recorded past c) {fault : Error} (hk : CompiledTerm.compile k = .error fault) :
    Recorded (past ++ [⟨c, k, .error fault, c⟩]) c where
  faithful := h.faithful
  compilations := h.compilations
  hits := by rw [successes_append_error, h.hits]
  serials := h.serials
  keys := h.keys
  asked := h.asked_append _
  answered := by
    rw [List.forall_mem_append, List.forall_mem_singleton]
    exact ⟨h.answered, by simp⟩
  failed := by
    rw [List.forall_mem_append, List.forall_mem_singleton]
    refine ⟨h.failed, fun e he => ?_⟩
    obtain rfl := Except.error.inj he
    exact ⟨hk, rfl⟩

theorem request (h : Recorded past c) (k : TermKey) :
    Recorded (past ++ [⟨c, k, (fetch k c).1, (fetch k c).2⟩]) (fetch k c).2 := by
  rcases fetch_cases c k with ⟨a, ha, rfl, hfetch⟩ | ⟨hnew, t, ht, hfetch⟩ | ⟨e, he, hfetch⟩
  · rw [hfetch]
    exact h.found ha
  · rw [hfetch]
    exact h.stored hnew ht
  · rw [hfetch]
    exact h.refused he

theorem requests (h : Recorded past c) (ks : List TermKey) :
    Recorded (past ++ (c.requests ks).1) (c.requests ks).2 := by
  induction ks generalizing past c with
  | nil => simpa [Cache.requests] using h
  | cons k ks ih =>
    have hnext := ih (h.request k)
    rw [List.append_assoc] at hnext
    exact hnext

variable {q q' : Request} {a a' : Entry}

theorem serial_inj (h : Recorded past c) (ha : a ∈ c.entries) (ha' : a' ∈ c.entries)
    (hs : a.serial = a'.serial) : a = a' := by
  have hnodup : (c.entries.map Entry.serial).Nodup := by
    rw [h.serials]
    exact List.nodup_reverse.2 List.nodup_range
  exact List.inj_on_of_nodup_map hnodup ha ha' hs

theorem compile_answered (h : Recorded past c) (hq : q ∈ past) (ha : q.answer = .ok a) :
    CompiledTerm.compile q.key = .ok a.term := by
  obtain ⟨hmem, hkey⟩ := h.answered q hq a ha
  rw [← hkey]
  exact h.faithful a hmem

theorem key_mem_iff (h : Recorded past c) (k : TermKey) :
    k ∈ c.entries.map Entry.key ↔
      k ∈ past.map Request.key ∧ (CompiledTerm.compile k).isOk = true := by
  constructor
  · intro hk
    obtain ⟨a, ha, rfl⟩ := List.mem_map.1 hk
    exact ⟨h.asked a ha, by rw [h.faithful a ha]; rfl⟩
  · intro hk
    obtain ⟨hasked, hok⟩ := hk
    obtain ⟨q, hq, rfl⟩ := List.mem_map.1 hasked
    cases hanswer : q.answer with
    | ok a =>
      obtain ⟨hmem, hkey⟩ := h.answered q hq a hanswer
      exact List.mem_map.2 ⟨a, hmem, hkey⟩
    | error e =>
      rw [(h.failed q hq e hanswer).1] at hok
      cases hok

theorem accounted (h : Recorded past c) : Accounted past c where
  compilations := h.compilations
  entries := by
    rw [← List.length_map (f := Entry.key)]
    apply List.Perm.length_eq
    rw [List.perm_ext_iff_of_nodup h.keys (List.nodup_dedup _)]
    intro k
    rw [h.key_mem_iff, List.mem_dedup, List.mem_filter]
  hits := h.hits
  failed := by
    intro q hq e he
    obtain ⟨hcompile, hsame⟩ := h.failed q hq e he
    refine ⟨hsame, fun q' hq' hkey => ?_⟩
    cases hanswer : q'.answer with
    | ok a =>
      have hok := h.compile_answered hq' hanswer
      rw [hkey, hcompile] at hok
      cases hok
    | error e' =>
      have he' := (h.failed q' hq' e' hanswer).1
      rw [hkey, hcompile] at he'
      rw [Except.error.inj he']
  serial_eq_iff := by
    intro q hq q' hq' a a' ha ha'
    obtain ⟨hmem, hkey⟩ := h.answered q hq a ha
    obtain ⟨hmem', hkey'⟩ := h.answered q' hq' a' ha'
    have hsame : a = a' ↔ q.key = q'.key := by
      rw [← hkey, ← hkey']
      exact ⟨congrArg Entry.key, fun he => List.inj_on_of_nodup_map h.keys hmem hmem' he⟩
    exact ⟨⟨fun hs => hsame.1 (h.serial_inj hmem hmem' hs), fun he => by rw [hsame.2 he]⟩, hsame⟩
  term_eq := by
    intro q hq q' hq' a a' ha ha' hparse hpattern hfragment
    have hterm := h.compile_answered hq ha
    have hterm' := h.compile_answered hq' ha'
    rw [compile_eq_ok_of_parse hparse hpattern hfragment hterm] at hterm'
    exact Except.ok.inj hterm'

end Recorded

/-- However often and in whatever order a new cache is asked for terms, its accounts are right. -/
theorem accounted_requests (ks : List TermKey) :
    (requests {} ks).1.map Request.key = ks ∧
      Accounted (requests {} ks).1 (requests {} ks).2 := by
  constructor
  · have hkeys : ∀ c : Cache, (c.requests ks).1.map Request.key = ks := by
      induction ks with
      | nil => exact fun c => rfl
      | cons k ks ih => exact fun c => congrArg (k :: ·) (ih _)
    exact hkeys {}
  · exact (recorded_empty.requests ks).accounted

/-- Two ways to write one count: their patterns coincide, and each has an entry of its own. A term
that does not compile in between is not counted. -/
theorem accounted_counts :
    let count : TermKey := ⟨['2', '~', 'c', 'a', 't'], false, ['(', '?', ':', ' ', ')']⟩
    let padded : TermKey := { count with term := '0' :: count.term }
    let ks := [count, padded, { count with term := ['~'] }, count]
    let pattern := anchored ['.', '\x7b', '2', '\x7d', 'c', 'a', 't'] count.fragment
    Accounted (requests {} ks).1 (requests {} ks).2 ∧
      (requests {} ks).2.entries.length = 2 ∧ (requests {} ks).2.hits = 1 ∧
      (requests {} ks).1.map (fun q => q.answer.toOption.map fun a => (a.serial, a.term.pattern)) =
        [some (0, pattern), some (1, pattern), none, some (0, pattern)] :=
  ⟨(accounted_requests _).2, by decide +kernel, by decide +kernel, by decide +kernel⟩

end Cache

end TextSieve
