import TextSieve.Query.Slashed

/-!
Query trees. The leaves are terms; inner nodes negate, join or group queries, or apply one to the
values of a field.
-/

namespace TextSieve

inductive LeafKind
  | word
  /-- A word whose text is a pattern already. -/
  | pattern
  | phrase
deriving DecidableEq, Repr

structure Leaf where
  kind : LeafKind
  text : Text
deriving DecidableEq, Repr

def Leaf.isPattern (l : Leaf) : Bool :=
  l.kind == .pattern

inductive Query
  | leaf (l : Leaf)
  /-- The query `inner` on the values of a field, written with the given attribute delimiter. -/
  | field (name attributeDelimiter : Text) (inner : Query)
  | not (child : Query)
  | and (children : List Query)
  | or (children : List Query)
  | group (child : Query)
deriving Repr

namespace Query

def word (t : Text) : Query := leaf ⟨.word, t⟩

def pattern (t : Text) : Query := leaf ⟨.pattern, t⟩

def phrase (t : Text) : Query := leaf ⟨.phrase, t⟩

/-! ### Equality -/

mutual
def decEq (a b : Query) : Decidable (a = b) :=
  match a, b with
  | leaf l, leaf m => if h : l = m then isTrue (by rw [h]) else isFalse (by simpa using h)
  | field n d q, field n' d' q' =>
    match decEq q q' with
    | isTrue h =>
      if h' : n = n' ∧ d = d' then isTrue (by rw [h, h'.1, h'.2])
      else isFalse fun e => h' (by injection e; simp_all)
    | isFalse h => isFalse fun e => h (by injection e)
  | not q, not q' =>
    match decEq q q' with
    | isTrue h => isTrue (by rw [h])
    | isFalse h => isFalse fun e => h (by injection e)
  | and qs, and qs' =>
    match decEqList qs qs' with
    | isTrue h => isTrue (by rw [h])
    | isFalse h => isFalse fun e => h (by injection e)
  | or qs, or qs' =>
    match decEqList qs qs' with
    | isTrue h => isTrue (by rw [h])
    | isFalse h => isFalse fun e => h (by injection e)
  | group q, group q' =>
    match decEq q q' with
    | isTrue h => isTrue (by rw [h])
    | isFalse h => isFalse fun e => h (by injection e)
  | leaf _, field .. | leaf _, not _ | leaf _, and _ | leaf _, or _ | leaf _, group _
  | field .., leaf _ | field .., not _ | field .., and _ | field .., or _ | field .., group _
  | not _, leaf _ | not _, field .. | not _, and _ | not _, or _ | not _, group _
  | and _, leaf _ | and _, field .. | and _, not _ | and _, or _ | and _, group _
  | or _, leaf _ | or _, field .. | or _, not _ | or _, and _ | or _, group _
  | group _, leaf _ | group _, field .. | group _, not _ | group _, and _ | group _, or _ =>
    isFalse nofun

def decEqList (as bs : List Query) : Decidable (as = bs) :=
  match as, bs with
  | [], [] => isTrue rfl
  | a :: as, b :: bs =>
    match decEq a b, decEqList as bs with
    | isTrue h, isTrue h' => isTrue (by rw [h, h'])
    | isFalse h, _ => isFalse fun e => h (by injection e)
    | _, isFalse h => isFalse fun e => h (by injection e)
  | [], _ :: _ | _ :: _, [] => isFalse nofun
end

instance : DecidableEq Query := decEq

/-! ### Leaves -/

mutual
/-- All leaves from left to right. -/
def leaves : Query → List Leaf
  | leaf l => [l]
  | field _ _ q | not q | group q => leaves q
  | and qs | or qs => leavesOfAll qs

def leavesOfAll : List Query → List Leaf
  | [] => []
  | q :: qs => leaves q ++ leavesOfAll qs
end

mutual
/-- Walks through the leaves from left to right and hands the text of each to the visitor. -/
def visit {σ : Type} (visitor : σ → Text → σ) : Query → σ → σ
  | leaf l, s => visitor s l.text
  | field _ _ q, s | not q, s | group q, s => visit visitor q s
  | and qs, s | or qs, s => visitAll visitor qs s

def visitAll {σ : Type} (visitor : σ → Text → σ) : List Query → σ → σ
  | [], s => s
  | q :: qs, s => visitAll visitor qs (visit visitor q s)
end

/-- The texts that a visitor collects. -/
def terms (q : Query) : List Text :=
  q.visit (fun ts t => ts ++ [t]) []

/-! ### Display -/

def displayLeaf (l : Leaf) : Text :=
  match l.kind with
  | .word => l.text
  | .pattern => Slashed.write l.text
  | .phrase => ['"'] ++ l.text ++ ['"']

def andSign : Text := [' ', 'A', 'N', 'D', ' ']

def orSign : Text := [' ', 'O', 'R', ' ']

def notSign : Text := ['N', 'O', 'T', ' ']

mutual
/-- The query in writing. -/
def display : Query → Text
  | leaf l => displayLeaf l
  | field name d q => name ++ d ++ display q
  | not q => notSign ++ display q
  | and qs => displayAll andSign qs
  | or qs => displayAll orSign qs
  | group q => ['('] ++ display q ++ [')']

def displayAll (sign : Text) : List Query → Text
  | [] => []
  | [q] => display q
  | q :: qs => display q ++ sign ++ displayAll sign qs
end

end Query

end TextSieve
