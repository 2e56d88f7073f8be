import DocQuery.Document.Matching

/-
  Matching clauses that join others.
  Lists of clauses match piece by piece, so a conjunction, a negation and a disjunction of clauses
  mean what their names say.
-/

namespace DocQuery.Document

variable (doc : Json)

attribute [local simp] isMatch allMatch anyMatch

@[simp] theorem allMatch_nil : allMatch doc [] = true := by
  simp

@[simp] theorem allMatch_cons (c : Clause) (cs : List Clause) :
    allMatch doc (c :: cs) = (isMatch doc c && allMatch doc cs) := by
  simp

@[simp] theorem anyMatch_nil : anyMatch doc [] = false := by
  simp

@[simp] theorem anyMatch_cons (c : Clause) (cs : List Clause) :
    anyMatch doc (c :: cs) = (isMatch doc c || anyMatch doc cs) := by
  simp

@[simp] theorem allMatch_append (cs ds : List Clause) :
    allMatch doc (cs ++ ds) = (allMatch doc cs && allMatch doc ds) := by
  induction cs with
  | nil => simp
  | cons c cs ih => simp [ih, Bool.and_assoc]

@[simp] theorem anyMatch_append (cs ds : List Clause) :
    anyMatch doc (cs ++ ds) = (anyMatch doc cs || anyMatch doc ds) := by
  induction cs with
  | nil => simp
  | cons c cs ih => simp [ih, Bool.or_assoc]

@[simp] theorem isMatch_matchAll : isMatch doc .matchAll = true := by
  simp

@[simp] theorem isMatch_matchNone : isMatch doc .matchNone = false := by
  simp

@[simp] theorem isMatch_allOf (cs : List Clause) :
    isMatch doc (.allOf cs) = allMatch doc cs := by
  simp [Clause.allOf]

@[simp] theorem isMatch_noneOf (cs : List Clause) :
    isMatch doc (.noneOf cs) = !anyMatch doc cs := by
  simp [Clause.noneOf]

/-- An empty disjunction would match everything. -/
theorem isMatch_anyOf {cs : List Clause} (h : cs ≠ []) :
    isMatch doc (.anyOf cs) = anyMatch doc cs := by
  simp [Clause.anyOf, h]

end DocQuery.Document
