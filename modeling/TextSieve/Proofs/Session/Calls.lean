import TextSieve.Proofs.Cache.Faithful

/-! The calls of a session as data. A call answers, may change the session and may add to the cache;
no call lets what is in the cache decide its answer or the session after it. -/

namespace TextSieve

namespace Session

inductive Call
  | parse (query : Text)
  | setOptions (new : Override)
  | eval (text : Text)
  | evalWith (text : Text) (new : Override)
  | termsWith (new : Override)
  | fragments (text : Text)
  | compileTerms
deriving DecidableEq, Repr

inductive Answer
  | done (result : Except Error Unit)
  | truth (result : Except Error Bool)
  | terms (result : Except Error (List Text))
  | fragments (result : Except Error (List Fragment))
  | compiled (result : Except Error (List (Leaf × Except Error CompiledTerm)))

def asking {α : Type} (s : Session) (act : Cached α) (answer : Except Error α → Answer)
    (c : Cache) : Answer × Session × Cache :=
  (answer (act c).1, s, (act c).2)

def call (s : Session) (extractor : Extractor) (x : Call) (c : Cache) : Answer × Session × Cache :=
  match x with
  | .parse query => let (r, s) := s.parse query; (.done r, s, c)
  | .setOptions new => let (r, s) := s.setOptions new; (.done r, s, c)
  | .eval text => s.asking (s.eval extractor text) .truth c
  | .evalWith text new => s.asking (s.evalWith extractor text new) .truth c
  | .termsWith new => (.terms (s.termsWith new), s, c)
  | .fragments text => s.asking (s.fragments extractor text) .fragments c
  | .compileTerms => s.asking s.compileTerms .compiled c

theorem transparent_session_eval (s : Session) (extractor : Extractor) (text : Text) :
    Transparent (s.eval extractor text) := by
  refine (transparent_liftExcept _).bind fun q => ?_
  exact Query.transparent_eval _ q text

theorem transparent_evalWith (s : Session) (extractor : Extractor) (text : Text) (new : Override) :
    Transparent (s.evalWith extractor text new) := by
  refine (transparent_liftExcept _).bind fun r => ?_
  refine (transparent_liftExcept _).bind fun q => ?_
  exact Query.transparent_eval _ q text

theorem transparent_fragments (s : Session) (extractor : Extractor) (text : Text) :
    Transparent (s.fragments extractor text) := by
  refine (transparent_liftExcept _).bind fun q => ?_
  exact Query.transparent_fragmentsAt _ q text 0

theorem transparent_compileTerms (s : Session) : Transparent s.compileTerms := by
  refine (transparent_liftExcept _).bind fun q => ?_
  exact transparent_mapM (transparent_compileLeaf _) q.leaves

/-- The call does not tell faithful caches apart. -/
structure Indifferent (s : Session) (extractor : Extractor) (x : Call) : Prop where
  answer : ∀ {c c' : Cache}, c.Faithful → c'.Faithful →
    (s.call extractor x c).1 = (s.call extractor x c').1
  session : ∀ c c' : Cache, (s.call extractor x c).2.1 = (s.call extractor x c').2.1
  faithful : ∀ {c : Cache}, c.Faithful → (s.call extractor x c).2.2.Faithful

theorem indifferent_of_asking {α : Type} {s : Session} {extractor : Extractor} {x : Call}
    {act : Cached α} {answer : Except Error α → Answer}
    (hx : s.call extractor x = s.asking act answer) (h : Transparent act) :
    Indifferent s extractor x := by
  obtain ⟨a, ha⟩ := h
  refine ⟨?_, ?_, ?_⟩
  · intro c c' hc hc'
    simp only [hx, asking, (ha c hc).1, (ha c' hc').1]
  · intro c c'
    simp only [hx, asking]
  · intro c hc
    simp only [hx, asking]
    exact (ha c hc).2

theorem indifferent_call (s : Session) (extractor : Extractor) (x : Call) :
    Indifferent s extractor x := by
  cases x with
  | parse query => exact ⟨fun _ _ => rfl, fun _ _ => rfl, id⟩
  | setOptions new => exact ⟨fun _ _ => rfl, fun _ _ => rfl, id⟩
  | termsWith new => exact ⟨fun _ _ => rfl, fun _ _ => rfl, id⟩
  | eval text => exact indifferent_of_asking rfl (transparent_session_eval s extractor text)
  | evalWith text new => exact indifferent_of_asking rfl (transparent_evalWith s extractor text new)
  | fragments text => exact indifferent_of_asking rfl (transparent_fragments s extractor text)
  | compileTerms => exact indifferent_of_asking rfl (transparent_compileTerms s)

end Session

end TextSieve
