import DocQuery.Proofs.Document.Matching

/-
  The fields of a clause.
  A clause looks at a document through the fields it names only, so it does not tell documents apart
  that have the same values there (`isMatch_congr`).
-/

namespace DocQuery

namespace Clause

mutual

/-- The names of fields in a clause and in all clauses inside it. -/
def fields : Clause → List String
  | matchAll => []
  | matchNone => []
  | term field _ => [field]
  | terms field _ => [field]
  | range field _ => [field]
  | matchPhrase field _ => [field]
  | queryString fields _ => fields
  | phraseStart fields _ _ => fields
  | present field => [field]
  | bool must mustNot should => fieldsAll must ++ fieldsAll mustNot ++ fieldsAll should

/-- The names of fields in some clauses. -/
def fieldsAll : List Clause → List String
  | [] => []
  | c :: rest => fields c ++ fieldsAll rest

end

attribute [local simp] fields fieldsAll

@[simp] theorem fieldsAll_singleton (c : Clause) : fieldsAll [c] = c.fields := by
  simp

@[simp] theorem fieldsAll_append (cs ds : List Clause) :
    fieldsAll (cs ++ ds) = fieldsAll cs ++ fieldsAll ds := by
  induction cs with
  | nil => simp
  | cons c cs ih => simp [ih]

@[simp] theorem fields_allOf (cs : List Clause) : (allOf cs).fields = fieldsAll cs := by
  simp [allOf]

@[simp] theorem fields_noneOf (cs : List Clause) : (noneOf cs).fields = fieldsAll cs := by
  simp [noneOf]

@[simp] theorem fields_anyOf (cs : List Clause) : (anyOf cs).fields = fieldsAll cs := by
  simp [anyOf]

end Clause

namespace Document

open Clause

variable {d e : Json}

theorem someValue_congr {field : String} (h : fieldValues d field = fieldValues e field)
    (test : Json → Bool) : someValue d field test = someValue e field test := by
  rw [someValue, h, someValue]

theorem any_someValue_congr {fields : List String}
    (h : ∀ field ∈ fields, fieldValues d field = fieldValues e field) (test : Json → Bool) :
    (fields.any fun field => someValue d field test) =
      fields.any fun field => someValue e field test := by
  induction fields with
  | nil => rw [List.any_nil, List.any_nil]
  | cons field fields ih =>
    obtain ⟨hfield, hfields⟩ := List.forall_mem_cons.1 h
    rw [List.any_cons, List.any_cons, someValue_congr hfield, ih hfields]

mutual

/-- Documents with the same values in the fields of a clause are matched alike. -/
theorem isMatch_congr : ∀ c : Clause,
    (∀ field ∈ c.fields, fieldValues d field = fieldValues e field) → isMatch d c = isMatch e c
  | .matchAll, _ => rfl
  | .matchNone, _ => rfl
  | .term field value, h => someValue_congr (h field (by simp [fields])) _
  | .terms field values, h => someValue_congr (h field (by simp [fields])) _
  | .range field bounds, h => someValue_congr (h field (by simp [fields])) _
  | .matchPhrase field query, h => someValue_congr (h field (by simp [fields])) _
  | .queryString fields query, h => any_someValue_congr h _
  | .phraseStart fields query limit, h => any_someValue_congr h _
  | .present field, h => by
    have hfield := h field (by simp [fields])
    rw [isMatch, isMatch, hfield]
  | .bool must mustNot should, h => by
    rw [fields, List.forall_mem_append, List.forall_mem_append] at h
    obtain ⟨⟨hmust, hmustNot⟩, hshould⟩ := h
    rw [isMatch, isMatch, allMatch_congr must hmust, anyMatch_congr mustNot hmustNot,
      anyMatch_congr should hshould]

theorem allMatch_congr : ∀ cs : List Clause,
    (∀ field ∈ fieldsAll cs, fieldValues d field = fieldValues e field) →
      allMatch d cs = allMatch e cs
  | [], _ => rfl
  | c :: cs, h => by
    rw [fieldsAll, List.forall_mem_append] at h
    rw [allMatch_cons, allMatch_cons, isMatch_congr c h.1, allMatch_congr cs h.2]

theorem anyMatch_congr : ∀ cs : List Clause,
    (∀ field ∈ fieldsAll cs, fieldValues d field = fieldValues e field) →
      anyMatch d cs = anyMatch e cs
  | [], _ => rfl
  | c :: cs, h => by
    rw [fieldsAll, List.forall_mem_append] at h
    rw [anyMatch_cons, anyMatch_cons, isMatch_congr c h.1, anyMatch_congr cs h.2]

end

end Document

end DocQuery
