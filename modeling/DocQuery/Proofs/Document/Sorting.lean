import DocQuery.Document.Order

/-
  Sorting documents.
  Sorting moves items and does nothing else to them, and an item passes only what it is less than
  (`sublist_sortBy`). Where the order fits together on the items, the result ascends and items that
  tie keep their places (`sortBy_pairwise`). These facts leave one arrangement of documents with
  positions, their stable sort (`IsStableSort`), and so picking some documents out of a sorted list
  is the same as sorting the ones picked out (`sortDocuments_filter`).
-/

namespace DocQuery.Document

section

variable {α : Type} {order : α → α → Ordering}

/-! ## Moving items -/

theorem insertDescending_perm (x : α) (ys : List α) :
    (insertDescending order x ys).Perm (x :: ys) := by
  induction ys with
  | nil => exact List.Perm.refl _
  | cons y ys ih =>
    rw [insertDescending]
    split
    · exact (ih.cons y).trans (List.Perm.swap x y ys)
    · exact List.Perm.refl _

theorem foldl_insertDescending_perm (xs acc : List α) :
    (xs.foldl (fun acc x => insertDescending order x acc) acc).Perm (xs ++ acc) := by
  induction xs generalizing acc with
  | nil => exact List.Perm.refl _
  | cons x xs ih =>
    rw [List.foldl_cons]
    have hx : (xs ++ insertDescending order x acc).Perm (xs ++ x :: acc) :=
      (insertDescending_perm x acc).append_left xs
    exact (ih _).trans (hx.trans List.perm_middle)

theorem sortBy_perm (xs : List α) : (sortBy order xs).Perm xs := by
  have h : (xs.foldl (fun acc x => insertDescending order x acc) []).Perm (xs ++ []) :=
    foldl_insertDescending_perm xs []
  rw [List.append_nil] at h
  exact (List.reverse_perm _).trans h

theorem sublist_insertDescending (x : α) (ys : List α) :
    ys.Sublist (insertDescending order x ys) := by
  induction ys with
  | nil => exact List.nil_sublist _
  | cons y ys ih =>
    rw [insertDescending]
    split
    · exact ih.cons_cons y
    · exact List.sublist_cons_self x _

/-- An item stops at the first one that it is not less than, so it stays behind all such items. -/
theorem cons_sublist_insertDescending {x : α} {ts ys : List α} (hts : ts.Sublist ys)
    (h : ∀ t ∈ ts, order x t ≠ .lt) : (x :: ts).Sublist (insertDescending order x ys) := by
  induction ys with
  | nil => exact hts.cons_cons x
  | cons y ys ih =>
    rw [insertDescending]
    split
    · next hlt =>
      cases hts with
      | cons _ hrest => exact (ih hrest).cons y
      | cons_cons _ _ => exact absurd hlt (h y List.mem_cons_self)
    · exact hts.cons_cons x

theorem foldl_insertDescending_sublist {ts xs us acc : List α} (hts : ts.Sublist xs)
    (hus : us.Sublist acc) (hpairs : ts.Pairwise fun a b => order b a ≠ .lt)
    (h : ∀ u ∈ us, ∀ t ∈ ts, order t u ≠ .lt) :
    (ts.reverse ++ us).Sublist (xs.foldl (fun acc x => insertDescending order x acc) acc) := by
  induction xs generalizing ts us acc with
  | nil =>
    rw [List.eq_nil_of_sublist_nil hts]
    exact hus
  | cons x xs ih =>
    rw [List.foldl_cons]
    cases hts with
    | cons _ hrest => exact ih hrest (hus.trans (sublist_insertDescending x acc)) hpairs h
    | @cons_cons ts _ _ hrest =>
      obtain ⟨hx, hpairs⟩ := List.pairwise_cons.1 hpairs
      have hinserted := cons_sublist_insertDescending hus fun u hu => h u hu x List.mem_cons_self
      rw [List.reverse_cons, List.append_assoc]
      refine ih hrest hinserted hpairs (List.forall_mem_cons.2 ⟨hx, fun u hu t ht => ?_⟩)
      exact h u hu t (List.mem_cons_of_mem x ht)

/-- Items that are in order already keep their order, whatever stands between them. -/
theorem sublist_sortBy {ts xs : List α} (hts : ts.Sublist xs)
    (hpairs : ts.Pairwise fun a b => order b a ≠ .lt) : ts.Sublist (sortBy order xs) := by
  have h := foldl_insertDescending_sublist hts List.Sublist.slnil hpairs (by simp)
  rw [List.append_nil] at h
  rw [sortBy, ← List.reverse_sublist, List.reverse_reverse]
  exact h

theorem sortBy_eq_self {xs : List α} (h : xs.Pairwise fun a b => order b a ≠ .lt) :
    sortBy order xs = xs :=
  ((sublist_sortBy (List.Sublist.refl xs) h).eq_of_length (sortBy_perm xs).length_eq.symm).symm

/-! ## Ascending and stable -/

/-- An order that fits together on the items with a property: turning a pair round turns its order
round, and what is not greater stays so along a chain. -/
structure IsOrderOn (order : α → α → Ordering) (p : α → Prop) : Prop where
  swap : ∀ {a b}, p a → p b → order b a = (order a b).swap
  trans : ∀ {a b c}, p a → p b → p c → (order a b).isLE → (order b c).isLE → (order a c).isLE

/-- Whether an item goes before another in a stable sort: it is less, or it ties and stood
earlier. -/
def StablyBefore (order : α → α → Ordering) (earlier : α → α → Prop) (a b : α) : Prop :=
  order a b = .lt ∨ order a b = .eq ∧ earlier a b

theorem stablyBefore_of_isLE {earlier : α → α → Prop} {a b : α} (h : (order a b).isLE)
    (hearlier : earlier a b) : StablyBefore order earlier a b := by
  cases hab : order a b with
  | lt => exact .inl hab
  | eq => exact .inr ⟨hab, hearlier⟩
  | gt => rw [hab] at h; cases h

theorem StablyBefore.isLE {earlier : α → α → Prop} {a b : α} (h : StablyBefore order earlier a b) :
    (order a b).isLE := by
  rcases h with h | ⟨h, -⟩ <;> rw [h] <;> rfl

namespace IsOrderOn

variable {p : α → Prop}

theorem isLE_of_ne_lt (h : IsOrderOn order p) {a b : α} (ha : p a) (hb : p b)
    (hne : order a b ≠ .lt) : (order b a).isLE := by
  rw [h.swap ha hb]
  cases hab : order a b with
  | lt => exact absurd hab hne
  | _ => rfl

theorem lt_of_lt_of_isLE (h : IsOrderOn order p) {a b c : α} (ha : p a) (hb : p b) (hc : p c)
    (hab : order a b = .lt) (hbc : (order b c).isLE) : order a c = .lt := by
  have hac : (order a c).isLE := h.trans ha hb hc (by rw [hab]; rfl) hbc
  cases hac' : order a c with
  | lt => rfl
  | gt => rw [hac'] at hac; cases hac
  | eq =>
    -- a tie of the ends would lead back from the middle to the start
    have hca : (order c a).isLE := by rw [h.swap ha hc, hac']; rfl
    have hba := h.trans hb hc ha hbc hca
    rw [h.swap ha hb, hab] at hba
    cases hba

theorem lt_of_isLE_of_lt (h : IsOrderOn order p) {a b c : α} (ha : p a) (hb : p b) (hc : p c)
    (hab : (order a b).isLE) (hbc : order b c = .lt) : order a c = .lt := by
  have hac : (order a c).isLE := h.trans ha hb hc hab (by rw [hbc]; rfl)
  cases hac' : order a c with
  | lt => rfl
  | gt => rw [hac'] at hac; cases hac
  | eq =>
    have hca : (order c a).isLE := by rw [h.swap ha hc, hac']; rfl
    have hcb := h.trans hc ha hb hca hab
    rw [h.swap hb hc, hbc] at hcb
    cases hcb

theorem mono (h : IsOrderOn order p) {q : α → Prop} (hq : ∀ a, q a → p a) : IsOrderOn order q where
  swap ha hb := h.swap (hq _ ha) (hq _ hb)
  trans ha hb hc := h.trans (hq _ ha) (hq _ hb) (hq _ hc)

end IsOrderOn

variable {p : α → Prop} {earlier : α → α → Prop}

/-- The item passes the ones it is less than and stops behind those it ties with, which stood before
it. -/
theorem insertDescending_pairwise (h : IsOrderOn order p) {x : α} {ys : List α} (hx : p x)
    (hys : ∀ y ∈ ys, p y) (hearlier : ∀ y ∈ ys, earlier y x)
    (hsorted : ys.Pairwise fun a b => StablyBefore order earlier b a) :
    (insertDescending order x ys).Pairwise fun a b => StablyBefore order earlier b a := by
  induction ys with
  | nil => exact List.pairwise_singleton _ _
  | cons y ys ih =>
    obtain ⟨hy, hys⟩ := List.forall_mem_cons.1 hys
    obtain ⟨hyx, hearlier⟩ := List.forall_mem_cons.1 hearlier
    obtain ⟨hfirst, hrest⟩ := List.pairwise_cons.1 hsorted
    rw [insertDescending]
    split
    · next hlt =>
      refine List.pairwise_cons.2 ⟨fun z hz => ?_, ih hys hearlier hrest⟩
      rcases List.mem_cons.1 ((insertDescending_perm x ys).mem_iff.1 hz) with rfl | hz
      · exact .inl hlt
      · exact hfirst z hz
    · next hne =>
      have hle := h.isLE_of_ne_lt hx hy hne
      refine List.pairwise_cons.2 ⟨List.forall_mem_cons.2 ⟨?_, fun z hz => ?_⟩, hsorted⟩
      · exact stablyBefore_of_isLE hle hyx
      · have hzx := h.trans (hys z hz) hy hx (hfirst z hz).isLE hle
        exact stablyBefore_of_isLE hzx (hearlier z hz)

theorem foldl_insertDescending_pairwise (h : IsOrderOn order p) (xs acc : List α)
    (hp : ∀ x ∈ acc ++ xs, p x) (hearlier : xs.Pairwise earlier)
    (hacc : ∀ y ∈ acc, ∀ x ∈ xs, earlier y x)
    (hsorted : acc.Pairwise fun a b => StablyBefore order earlier b a) :
    (xs.foldl (fun acc x => insertDescending order x acc) acc).Pairwise
      fun a b => StablyBefore order earlier b a := by
  induction xs generalizing acc with
  | nil => exact hsorted
  | cons x xs ih =>
    obtain ⟨hx, hxs⟩ := List.pairwise_cons.1 hearlier
    have hmem : ∀ y ∈ insertDescending order x acc, y = x ∨ y ∈ acc := fun y hy =>
      List.mem_cons.1 ((insertDescending_perm x acc).mem_iff.1 hy)
    rw [List.foldl_cons]
    refine ih _ ?_ hxs ?_ ?_
    · intro y hy
      rcases List.mem_append.1 hy with hy | hy
      · rcases hmem y hy with rfl | hy
        · exact hp y (by simp)
        · exact hp y (List.mem_append_left _ hy)
      · exact hp y (by simp [hy])
    · intro y hy z hz
      rcases hmem y hy with rfl | hy
      · exact hx z hz
      · exact hacc y hy z (List.mem_cons_of_mem x hz)
    · refine insertDescending_pairwise h (hp x (by simp)) (fun y hy => hp y (by simp [hy]))
        (fun y hy => hacc y hy x List.mem_cons_self) hsorted

/-- A sorted list ascends, and items that tie keep their places. -/
theorem sortBy_pairwise (h : IsOrderOn order p) {xs : List α} (hp : ∀ x ∈ xs, p x)
    (hearlier : xs.Pairwise earlier) :
    (sortBy order xs).Pairwise (StablyBefore order earlier) := by
  rw [sortBy, List.pairwise_reverse]
  exact foldl_insertDescending_pairwise h xs [] hp hearlier (by simp) List.Pairwise.nil

end

/-! ## Documents with positions -/

/-- Whether a document goes before another in a stable sort: the keys put it first, or it ties on
all of them and has the smaller position. -/
def Precedes (keys : List SortField) : Nat × Json → Nat × Json → Prop :=
  StablyBefore (fun a b => compareDocuments keys a.2 b.2) fun a b => a.1 < b.1

/-- A list that has the documents of another in the order of a stable sort. -/
structure IsStableSort (keys : List SortField) (docs sorted : Positioned) : Prop where
  perm : sorted.Perm docs
  ordered : sorted.Pairwise (Precedes keys)

section

variable {keys : List SortField} {docs : Positioned} {p : Json → Prop}

theorem sortDocuments_perm (keys : List SortField) (docs : Positioned) :
    (sortDocuments keys docs).Perm docs :=
  sortBy_perm docs

theorem IsOrderOn.positioned (h : IsOrderOn (compareDocuments keys) p) :
    IsOrderOn (fun a b : Nat × Json => compareDocuments keys a.2 b.2) fun d => p d.2 where
  swap ha hb := h.swap ha hb
  trans ha hb hc := h.trans ha hb hc

theorem sortDocuments_isStableSort (h : IsOrderOn (compareDocuments keys) p)
    (hp : ∀ d ∈ docs, p d.2) (hpositions : docs.Pairwise fun a b => a.1 < b.1) :
    IsStableSort keys docs (sortDocuments keys docs) where
  perm := sortDocuments_perm keys docs
  ordered := sortBy_pairwise h.positioned hp hpositions

/-- No two documents precede each other. -/
theorem not_precedes_of_precedes (h : IsOrderOn (compareDocuments keys) p) {a b : Nat × Json}
    (ha : p a.2) (hb : p b.2) (hab : Precedes keys a b) : ¬Precedes keys b a := by
  have hswap : compareDocuments keys b.2 a.2 = (compareDocuments keys a.2 b.2).swap := h.swap ha hb
  simp only [Precedes, StablyBefore, hswap] at hab ⊢
  rcases hab with hab | ⟨hab, hpos⟩
  · rw [hab]
    simp
  · rw [hab]
    simp only [Ordering.swap_eq, reduceCtorEq, false_or, true_and]
    omega

/-- Documents have one stable sort. -/
theorem IsStableSort.unique (h : IsOrderOn (compareDocuments keys) p) (hp : ∀ d ∈ docs, p d.2)
    {as bs : Positioned} (ha : IsStableSort keys docs as) (hb : IsStableSort keys docs bs) :
    as = bs := by
  refine List.Perm.eq_of_pairwise ?_ ha.ordered hb.ordered (ha.perm.trans hb.perm.symm)
  intro a b hamem hbmem hab hba
  have hpa := hp a (ha.perm.mem_iff.1 hamem)
  have hpb := hp b (hb.perm.mem_iff.1 hbmem)
  exact absurd hba (not_precedes_of_precedes h hpa hpb hab)

theorem IsStableSort.filter {sorted : Positioned} (h : IsStableSort keys docs sorted)
    (f : Nat × Json → Bool) : IsStableSort keys (docs.filter f) (sorted.filter f) where
  perm := h.perm.filter f
  ordered := h.ordered.filter f

/-- Sorting some of the documents gives the part of the sorted list that has them. -/
theorem sortDocuments_filter (h : IsOrderOn (compareDocuments keys) p) (hp : ∀ d ∈ docs, p d.2)
    (hpositions : docs.Pairwise fun a b => a.1 < b.1) (f : Nat × Json → Bool) :
    sortDocuments keys (docs.filter f) = (sortDocuments keys docs).filter f := by
  have hpart : ∀ d ∈ docs.filter f, p d.2 := fun d hd => hp d (List.mem_filter.1 hd).1
  have hsorted := sortDocuments_isStableSort h hpart (hpositions.filter f)
  exact hsorted.unique h hpart ((sortDocuments_isStableSort h hp hpositions).filter f)

end

end DocQuery.Document
