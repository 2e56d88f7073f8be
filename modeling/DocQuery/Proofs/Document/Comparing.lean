import DocQuery.Proofs.Document.Sorting

/-
  When documents and keys are in order.
  Sort keys put documents in order if the first values of every field are in order
  (`compareDocuments_isOrderOn`), and so are then the keys of groups (`compareKeys_isOrderOn`).
  Values are in order on one scale: numbers, truth values, instants, or texts that are no instants
  (`ComparableIn.isOrderOn`). Turning a pair round turns its order round on all values, whatever
  they are (`compareDocuments_swap`, `compareKeys_swap`).
-/

namespace DocQuery

/-- A kind of values that compare with each other. -/
inductive Scale where
  | numbers
  | truthValues
  | instants
  /-- Texts that are no instants. -/
  | texts
deriving DecidableEq

/-- The scale of a value; null, lists and objects have none. -/
def Json.scale? : Json → Option Scale
  | .number _ => some .numbers
  | .bool _ => some .truthValues
  | .string s => some (if (Instant.parse? s).isSome then .instants else .texts)
  | _ => none

instance : Std.TransCmp Instant.order :=
  inferInstanceAs (Std.TransCmp (compareLex (compareOn Instant.seconds) (compareOn Instant.nanos)))

namespace Document

/-! ## Orders made of others -/

namespace IsOrderOn

variable {α β : Type} {order : α → α → Ordering} {p : α → Prop}

/-- An order that compares items by some measure of theirs. -/
theorem of_measure (cmp : β → β → Ordering) [Std.TransCmp cmp] (measures : β → α → Prop)
    (hp : ∀ a, p a → ∃ x, measures x a)
    (horder : ∀ {x y a b}, measures x a → measures y b → order a b = cmp x y) :
    IsOrderOn order p where
  swap ha hb := by
    obtain ⟨x, hx⟩ := hp _ ha
    obtain ⟨y, hy⟩ := hp _ hb
    rw [horder hx hy, horder hy hx]
    exact Std.OrientedCmp.eq_swap
  trans ha hb hc hab hbc := by
    obtain ⟨x, hx⟩ := hp _ ha
    obtain ⟨y, hy⟩ := hp _ hb
    obtain ⟨z, hz⟩ := hp _ hc
    rw [horder hx hy] at hab
    rw [horder hy hz] at hbc
    rw [horder hx hz]
    exact Std.TransCmp.isLE_trans hab hbc

theorem comap (h : IsOrderOn order p) (f : β → α) :
    IsOrderOn (fun a b => order (f a) (f b)) fun a => p (f a) where
  swap ha hb := h.swap ha hb
  trans ha hb hc := h.trans ha hb hc

theorem reverse (h : IsOrderOn order p) : IsOrderOn (fun a b => (order a b).swap) p where
  swap ha hb := congrArg Ordering.swap (h.swap ha hb)
  trans ha hb hc hab hbc := by
    rw [← h.swap ha hb] at hab
    rw [← h.swap hb hc] at hbc
    rw [← h.swap ha hc]
    exact h.trans hc hb ha hbc hab

/-- An order that looks at a second one where the first ties. -/
theorem followedBy (h : IsOrderOn order p) {next : α → α → Ordering} (hnext : IsOrderOn next p) :
    IsOrderOn (fun a b => (order a b).then (next a b)) p where
  swap ha hb := by rw [h.swap ha hb, hnext.swap ha hb, Ordering.swap_then]
  trans ha hb hc hab hbc := by
    rw [Ordering.isLE_then_iff_and] at hab hbc ⊢
    refine ⟨h.trans ha hb hc hab.1 hbc.1, ?_⟩
    rcases hab.2 with hlt | hab'
    · exact .inl (h.lt_of_lt_of_isLE ha hb hc hlt hbc.1)
    · rcases hbc.2 with hlt | hbc'
      · exact .inl (h.lt_of_isLE_of_lt ha hb hc hab.1 hlt)
      · exact .inr (hnext.trans ha hb hc hab' hbc')

end IsOrderOn

/-- An order of items some of which may be missing: those come last. -/
def missingLast {α : Type} (order : α → α → Ordering) : Option α → Option α → Ordering
  | none, none => .eq
  | none, some _ => .gt
  | some _, none => .lt
  | some x, some y => order x y

theorem missingLast_swap {α : Type} {order : α → α → Ordering} {x y : Option α}
    (h : ∀ a ∈ x, ∀ b ∈ y, order b a = (order a b).swap) :
    missingLast order y x = (missingLast order x y).swap := by
  cases x with
  | none => cases y <;> rfl
  | some a =>
    cases y with
    | none => rfl
    | some b => exact h a rfl b rfl

theorem IsOrderOn.missingLast {α : Type} {order : α → α → Ordering} {p : α → Prop}
    (h : IsOrderOn order p) : IsOrderOn (missingLast order) fun x => ∀ a ∈ x, p a where
  swap ha hb := missingLast_swap fun _ hx _ hy => h.swap (ha _ hx) (hb _ hy)
  trans {a b c} ha hb hc hab hbc := by
    cases c with
    | none => cases a <;> rfl
    | some z =>
      cases b with
      | none => cases hbc
      | some y =>
        cases a with
        | none => cases hab
        | some x => exact h.trans (ha x rfl) (hb y rfl) (hc z rfl) hab hbc

/-! ## Values, documents and keys -/

/-- The order of two values; values that do not compare tie. -/
def valueOrder (a b : Json) : Ordering :=
  (compareValues a b).getD .eq

theorem compareTexts_of_parse?_eq_none {a b : String}
    (h : Instant.parse? a = none ∨ Instant.parse? b = none) : compareTexts a b = compare a b := by
  rw [compareTexts]
  rcases h with ha | hb
  · rw [ha]
  · rw [hb]
    cases Instant.parse? a <;> rfl

theorem compareTexts_of_parse? {a b : String} {s t : Instant} (ha : Instant.parse? a = some s)
    (hb : Instant.parse? b = some t) : compareTexts a b = s.order t := by
  rw [compareTexts, ha, hb]

theorem compareTexts_swap (a b : String) : compareTexts b a = (compareTexts a b).swap := by
  cases ha : Instant.parse? a with
  | none =>
    rw [compareTexts_of_parse?_eq_none (.inl ha), compareTexts_of_parse?_eq_none (.inr ha)]
    exact Std.OrientedOrd.eq_swap
  | some s =>
    cases hb : Instant.parse? b with
    | none =>
      rw [compareTexts_of_parse?_eq_none (.inl hb), compareTexts_of_parse?_eq_none (.inr hb)]
      exact Std.OrientedOrd.eq_swap
    | some t =>
      rw [compareTexts_of_parse? ha hb, compareTexts_of_parse? hb ha]
      exact Std.OrientedCmp.eq_swap

theorem valueOrder_swap (x y : Json) : valueOrder y x = (valueOrder x y).swap := by
  cases x with
  | number m => cases y <;> first | exact Std.OrientedOrd.eq_swap | rfl
  | bool a => cases y <;> first | exact Std.OrientedOrd.eq_swap | rfl
  | string a => cases y <;> first | exact compareTexts_swap a _ | rfl
  | _ => cases y <;> rfl

theorem valueOrder_isOrderOn (scale : Scale) :
    IsOrderOn valueOrder fun v => v.scale? = some scale := by
  cases scale with
  | numbers =>
    refine .of_measure compare (fun (n : Int) v => ∃ m, v = .number m ∧ m.value = n) ?_ ?_
    · intro v hv
      cases v with
      | number m => exact ⟨m.value, m, rfl, rfl⟩
      | string s => simp only [Json.scale?] at hv; split at hv <;> cases hv
      | _ => cases hv
    · rintro _ _ _ _ ⟨m, rfl, rfl⟩ ⟨n, rfl, rfl⟩
      rfl
  | truthValues =>
    refine .of_measure compare (fun (b : Bool) v => v = .bool b) ?_ ?_
    · intro v hv
      cases v with
      | bool b => exact ⟨b, rfl⟩
      | string s => simp only [Json.scale?] at hv; split at hv <;> cases hv
      | _ => cases hv
    · rintro _ _ _ _ rfl rfl
      rfl
  | instants =>
    refine .of_measure Instant.order
      (fun t v => ∃ s, v = .string s ∧ Instant.parse? s = some t) ?_ ?_
    · intro v hv
      cases v with
      | string s =>
        cases hs : Instant.parse? s with
        | none => simp [Json.scale?, hs] at hv
        | some t => exact ⟨t, s, rfl, hs⟩
      | _ => cases hv
    · rintro _ _ _ _ ⟨a, rfl, ha⟩ ⟨b, rfl, hb⟩
      exact compareTexts_of_parse? ha hb
  | texts =>
    refine .of_measure compare
      (fun (s : String) v => v = .string s ∧ Instant.parse? s = none) ?_ ?_
    · intro v hv
      cases v with
      | string s =>
        cases hs : Instant.parse? s with
        | none => exact ⟨s, rfl, hs⟩
        | some t => simp [Json.scale?, hs] at hv
      | _ => cases hv
    · rintro _ _ _ _ ⟨rfl, ha⟩ ⟨rfl, hb⟩
      exact compareTexts_of_parse?_eq_none (.inl ha)

/-- Whether the first values that some documents have in a field lie on one scale. -/
def ComparableIn (field : String) (p : Json → Prop) : Prop :=
  ∃ scale, ∀ doc, p doc → ∀ v ∈ firstValue? doc field, v.scale? = some scale

theorem ComparableIn.mono {field : String} {p q : Json → Prop} (h : ComparableIn field p)
    (hq : ∀ doc, q doc → p doc) : ComparableIn field q := by
  obtain ⟨scale, hscale⟩ := h
  exact ⟨scale, fun doc hdoc => hscale doc (hq doc hdoc)⟩

/-- The first values that some documents have in a field. -/
def ValuesIn (field : String) (p : Json → Prop) (v : Json) : Prop :=
  ∃ doc, p doc ∧ firstValue? doc field = some v

/-- Values on one scale are in order. -/
theorem ComparableIn.isOrderOn {field : String} {p : Json → Prop} (h : ComparableIn field p) :
    IsOrderOn valueOrder (ValuesIn field p) := by
  obtain ⟨scale, hscale⟩ := h
  refine (valueOrder_isOrderOn scale).mono ?_
  rintro v ⟨doc, hdoc, hv⟩
  exact hscale doc hdoc v hv

/-- Whether the first values of some documents lie on one scale can be decided. -/
theorem comparableIn_of_all {field : String} {docs : List Json} (scale : Scale)
    (h : (docs.all fun doc => (firstValue? doc field).all fun v => v.scale? == some scale) = true) :
    ComparableIn field (· ∈ docs) := by
  refine ⟨scale, fun doc hdoc v hv => ?_⟩
  have hall := List.all_eq_true.1 h doc hdoc
  rw [hv, Option.all_some] at hall
  exact beq_iff_eq.1 hall

section

variable {p : Json → Prop}

theorem compareBy_eq_missingLast (key : SortField) (a b : Json) :
    compareBy key a b = missingLast
      (match key.order with
        | .asc => valueOrder
        | .desc => fun x y => (valueOrder x y).swap)
      (firstValue? a key.field) (firstValue? b key.field) := by
  unfold compareBy missingLast
  cases firstValue? a key.field with
  | none => cases firstValue? b key.field <;> rfl
  | some x =>
    cases firstValue? b key.field with
    | none => rfl
    | some y => cases key.order <;> rfl

/-- An ascending key orders documents that have values as it orders these. -/
theorem compareBy_asc {field : String} {a b x y : Json} (ha : firstValue? a field = some x)
    (hb : firstValue? b field = some y) : compareBy ⟨field, .asc⟩ a b = valueOrder x y := by
  unfold compareBy
  rw [ha, hb]
  rfl

/-- One ascending key orders documents that have values as it orders these. -/
theorem compareDocuments_asc {field : String} {a b x y : Json} (ha : firstValue? a field = some x)
    (hb : firstValue? b field = some y) :
    compareDocuments [⟨field, .asc⟩] a b = valueOrder x y := by
  rw [compareDocuments, compareBy_asc ha hb, compareDocuments, Ordering.then_eq]

theorem compareBy_swap (key : SortField) (a b : Json) :
    compareBy key b a = (compareBy key a b).swap := by
  rw [compareBy_eq_missingLast, compareBy_eq_missingLast]
  refine missingLast_swap fun x _ y _ => ?_
  cases key.order with
  | asc => exact valueOrder_swap x y
  | desc => exact congrArg Ordering.swap (valueOrder_swap x y)

theorem compareDocuments_swap (keys : List SortField) (a b : Json) :
    compareDocuments keys b a = (compareDocuments keys a b).swap := by
  induction keys with
  | nil => rfl
  | cons key keys ih =>
    rw [compareDocuments, compareDocuments, compareBy_swap, ih, Ordering.swap_then]

theorem compareKeys_swap (as bs : List Json) : compareKeys bs as = (compareKeys as bs).swap := by
  induction as generalizing bs with
  | nil => cases bs <;> rfl
  | cons a as ih =>
    cases bs with
    | nil => rfl
    | cons b bs =>
      rw [compareKeys, compareKeys, ih, Ordering.swap_then]
      exact congrArg (Ordering.then · _) (valueOrder_swap a b)

theorem compareBy_isOrderOn {key : SortField} (h : IsOrderOn valueOrder (ValuesIn key.field p)) :
    IsOrderOn (compareBy key) p := by
  have horder : IsOrderOn (compareBy key) fun doc =>
      ∀ v ∈ firstValue? doc key.field, ValuesIn key.field p v := by
    rw [funext fun a => funext (compareBy_eq_missingLast key a)]
    cases key.order with
    | asc => exact h.missingLast.comap (firstValue? · key.field)
    | desc => exact h.reverse.missingLast.comap (firstValue? · key.field)
  exact horder.mono fun doc hdoc v hv => ⟨doc, hdoc, hv⟩

/-- Sort keys put documents in order whose values are in order in every field. -/
theorem compareDocuments_isOrderOn {keys : List SortField}
    (h : ∀ key ∈ keys, IsOrderOn valueOrder (ValuesIn key.field p)) :
    IsOrderOn (compareDocuments keys) p := by
  induction keys with
  | nil => exact ⟨fun _ _ => rfl, fun _ _ _ _ _ => rfl⟩
  | cons key keys ih =>
    obtain ⟨hkey, hkeys⟩ := List.forall_mem_cons.1 h
    exact (compareBy_isOrderOn hkey).followedBy (ih hkeys)

/-- The key of a document in some fields: the first value of each, if it has them all. -/
def keyOf? (fields : List String) (doc : Json) : Option (List Json) :=
  fields.mapM (firstValue? doc)

theorem keyOf?_nil (doc : Json) : keyOf? [] doc = some [] := rfl

theorem keyOf?_cons_eq_some {field : String} {fields : List String} {doc : Json}
    {key : List Json} :
    keyOf? (field :: fields) doc = some key ↔
      ∃ v vs, firstValue? doc field = some v ∧ keyOf? fields doc = some vs ∧ key = v :: vs := by
  simp only [keyOf?, List.mapM_cons, Option.bind_eq_bind, Option.bind_eq_some_iff, Option.pure_def,
    Option.some.injEq]
  constructor
  · rintro ⟨v, hv, vs, hvs, rfl⟩
    exact ⟨v, vs, hv, hvs, rfl⟩
  · rintro ⟨v, vs, hv, hvs, rfl⟩
    exact ⟨v, hv, vs, hvs, rfl⟩

/-- Comparing the keys of two documents is sorting the documents by the fields of the keys. -/
theorem compareKeys_eq_compareDocuments {fields : List String} {a b : Json} {as bs : List Json}
    (ha : keyOf? fields a = some as) (hb : keyOf? fields b = some bs) :
    compareKeys as bs = compareDocuments (fields.map fun field => ⟨field, .asc⟩) a b := by
  induction fields generalizing as bs with
  | nil =>
    rw [keyOf?_nil] at ha hb
    cases ha
    cases hb
    rfl
  | cons field fields ih =>
    obtain ⟨x, xs, hx, hxs, has⟩ := keyOf?_cons_eq_some.1 ha
    obtain ⟨y, ys, hy, hys, hbs⟩ := keyOf?_cons_eq_some.1 hb
    rw [has, hbs, compareKeys, ih hxs hys, List.map_cons, compareDocuments, compareBy_asc hx hy,
      valueOrder]

/-- The keys of documents are in order whose values are in order in every field. -/
theorem compareKeys_isOrderOn {fields : List String}
    (h : ∀ field ∈ fields, IsOrderOn valueOrder (ValuesIn field p)) :
    IsOrderOn compareKeys fun key => ∃ doc, p doc ∧ keyOf? fields doc = some key := by
  have hdocs : IsOrderOn (compareDocuments (fields.map fun field => ⟨field, .asc⟩)) p := by
    refine compareDocuments_isOrderOn fun key hkey => ?_
    obtain ⟨field, hfield, rfl⟩ := List.mem_map.1 hkey
    exact h field hfield
  constructor
  · intro as bs _ _
    exact compareKeys_swap as bs
  · rintro as bs cs ⟨a, hpa, ha⟩ ⟨b, hpb, hb⟩ ⟨c, hpc, hc⟩ hab hbc
    rw [compareKeys_eq_compareDocuments ha hb] at hab
    rw [compareKeys_eq_compareDocuments hb hc] at hbc
    rw [compareKeys_eq_compareDocuments ha hc]
    exact hdocs.trans hpa hpb hpc hab hbc

end

end Document

end DocQuery
