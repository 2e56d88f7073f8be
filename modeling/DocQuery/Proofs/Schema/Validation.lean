import DocQuery.Proofs.Entries
import DocQuery.Schema.Reader
import Mathlib.Data.List.Count
import Mathlib.Data.List.Nodup
import Mathlib.Data.List.Perm.Basic

/-
  What the check of a declaration finds.
  A declaration passes exactly if its name is not blank, its fields are sound and their names differ
  (`validate_eq_ok`). The check walks through the fields one by one, but every fault and every
  shared name is listed as often as it occurs, and the lists are sorted; so the order of the fields
  is not seen in the result (`validate_eq_of_perm`, `validate_exact`).
-/

namespace DocQuery

/-! ## Faults of a field -/

/-- What can be wrong with the declaration of a field. -/
inductive FieldFault where
  | noMembers
  | strayMembers
  | strayKeyword
deriving DecidableEq

namespace FieldFault

/-- Whether a declaration has a fault: an enumeration without members, another field with members,
or an untokenised form of a field that holds no text. -/
def Of (field : FieldDeclaration) : FieldFault → Prop
  | noMembers => field.type = .enumeration ∧ field.members = []
  | strayMembers => field.type ≠ .enumeration ∧ field.members ≠ []
  | strayKeyword => field.keyword = true ∧ field.type ≠ .text ∧ field.type ≠ .identifier

instance (field : FieldDeclaration) : DecidablePred (Of field)
  | noMembers => inferInstanceAs (Decidable (_ ∧ _))
  | strayMembers => inferInstanceAs (Decidable (_ ∧ _))
  | strayKeyword => inferInstanceAs (Decidable (_ ∧ _))

/-- What a message says of a fault behind the name of the property. -/
def note : FieldFault → String
  | noMembers => " (enum without members)"
  | strayMembers => " (members on a non-enum field)"
  | strayKeyword => " (keyword on a non-text field)"

/-- How a message names a fault of the field of a property. -/
def describe (property : String) (fault : FieldFault) : String :=
  property ++ fault.note

/-- The last characters of a text tell the faults apart, whatever the property is called. -/
theorem describe_inj {p q : String} {f g : FieldFault} (h : f.describe p = g.describe q) :
    p = q ∧ f = g := by
  have hlength : ∀ fault : FieldFault, 10 ≤ fault.note.toList.reverse.length := by
    intro fault
    cases fault <;> decide
  have hend (p : String) (f : FieldFault) :
      (f.describe p).toList.reverse.take 10 = f.note.toList.reverse.take 10 := by
    rw [describe, String.toList_append, List.reverse_append,
      List.take_append_of_le_length (hlength f)]
  have hfault : f = g := by
    have hnotes := hend p f
    rw [h, hend q g] at hnotes
    revert hnotes
    cases f <;> cases g <;> decide
  subst hfault
  exact ⟨String.append_left_inj _ |>.1 h, rfl⟩

end FieldFault

/-- Whether a declaration has no fault. -/
def FieldDeclaration.IsSound (field : FieldDeclaration) : Prop :=
  ∀ fault, ¬FieldFault.Of field fault

/-- A field is sound if it has members exactly as an enumeration, and an untokenised form only as a
text or an identifier. -/
theorem FieldDeclaration.isSound_iff {field : FieldDeclaration} : field.IsSound ↔
    (field.type = .enumeration ↔ field.members ≠ []) ∧
      (field.keyword = true → field.type = .text ∨ field.type = .identifier) := by
  constructor
  · intro h
    have hmembers : ¬(field.type = .enumeration ∧ field.members = []) := h .noMembers
    have hstray : ¬(field.type ≠ .enumeration ∧ field.members ≠ []) := h .strayMembers
    have hkeyword : ¬(field.keyword = true ∧ field.type ≠ .text ∧ field.type ≠ .identifier) :=
      h .strayKeyword
    tauto
  · rintro ⟨hmembers, hkeyword⟩ fault hfault
    cases fault with
    | noMembers => exact hmembers.1 hfault.1 hfault.2
    | strayMembers => exact hfault.1 (hmembers.2 hfault.2)
    | strayKeyword => exact (hkeyword hfault.1).elim hfault.2.1 hfault.2.2

/-- The faults of a declaration. -/
def FieldDeclaration.faults (field : FieldDeclaration) : List FieldFault :=
  [.noMembers, .strayMembers, .strayKeyword].filter (FieldFault.Of field)

theorem FieldDeclaration.mem_faults {field : FieldDeclaration} {fault : FieldFault} :
    fault ∈ field.faults ↔ fault.Of field := by
  cases fault <;> simp [faults]

theorem FieldDeclaration.faults_eq_nil {field : FieldDeclaration} :
    field.faults = [] ↔ field.IsSound := by
  simp only [List.eq_nil_iff_forall_not_mem, mem_faults, IsSound]

theorem FieldDeclaration.nodup_faults (field : FieldDeclaration) : field.faults.Nodup :=
  .filter _ (by decide)

namespace IndexDeclaration

theorem fieldFaults_eq (property : String) (field : FieldDeclaration) :
    fieldFaults property field = field.faults.map (FieldFault.describe property) := by
  obtain ⟨type, keyword, rename, representation, members⟩ := field
  cases type <;> cases keyword <;> cases members <;> rfl

/-! ## Sorted lists -/

theorem sorted_perm (ss : List String) : (sorted ss).Perm ss :=
  List.mergeSort_perm ss _

theorem pairwise_sorted (ss : List String) : (sorted ss).Pairwise (· ≤ ·) := by
  have h : (sorted ss).Pairwise fun a b => decide (a ≤ b) = true := by
    refine List.pairwise_mergeSort (fun a b c hab hbc => ?_) (fun a b => ?_) ss
    · exact decide_eq_true (le_trans (of_decide_eq_true hab) (of_decide_eq_true hbc))
    · simpa using le_total a b
  exact h.imp of_decide_eq_true

/-- The only ascending list of some texts is the sorted one. -/
theorem eq_sorted {ss ts : List String} (hperm : ts.Perm ss) (hts : ts.Pairwise (· ≤ ·)) :
    ts = sorted ss :=
  (hperm.trans (sorted_perm ss).symm).eq_of_pairwise (fun _ _ _ _ hab hba => le_antisymm hab hba)
    hts (pairwise_sorted ss)

theorem sorted_eq_nil {ss : List String} : sorted ss = [] ↔ ss = [] := by
  rw [← List.length_eq_zero_iff, (sorted_perm ss).length_eq, List.length_eq_zero_iff]

theorem sorted_eq_of_perm {ss ts : List String} (h : ss.Perm ts) : sorted ss = sorted ts :=
  eq_sorted ((sorted_perm ss).trans h) (pairwise_sorted ss)

/-! ## Repeated names -/

/-- A name is repeated each time but the first, and each time if it was seen before. -/
theorem count_repeatedAfter (seen names : List String) (name : String) :
    (repeatedAfter seen names).count name =
      if name ∈ seen then names.count name else names.count name - 1 := by
  induction names generalizing seen with
  | nil => simp [repeatedAfter]
  | cons first rest ih =>
    rw [repeatedAfter, List.count_cons]
    split
    · next hseen =>
      rw [List.count_cons, ih]
      have hseen : first ∈ seen := by simpa using hseen
      by_cases hfirst : first = name
      · subst hfirst
        simp [hseen]
      · simp [hfirst]
    · next hseen =>
      rw [ih]
      have hseen : first ∉ seen := by simpa using hseen
      by_cases hfirst : first = name
      · subst hfirst
        simp [hseen]
      · simp [hfirst, Ne.symm hfirst]

theorem count_repeated (names : List String) (name : String) :
    (repeatedAfter [] names).count name = names.count name - 1 := by
  rw [count_repeatedAfter, if_neg List.not_mem_nil]

theorem repeated_eq_nil {names : List String} : repeatedAfter [] names = [] ↔ names.Nodup := by
  rw [List.eq_nil_iff_forall_not_mem, List.nodup_iff_count_le_one]
  refine forall_congr' fun name => ?_
  rw [← List.count_eq_zero, count_repeated, Nat.sub_eq_zero_iff_le]

theorem repeated_perm {xs ys : List String} (h : xs.Perm ys) :
    (repeatedAfter [] xs).Perm (repeatedAfter [] ys) := by
  refine List.perm_iff_count.2 fun name => ?_
  rw [count_repeated, count_repeated, h.count_eq]

/-! ## The fields of an index -/

/-- The properties that have a field. -/
def properties (index : IndexDeclaration) : List String :=
  index.fields.map Prod.fst

/-- Whether every property stands in a declaration once. -/
def IsKeyed (index : IndexDeclaration) : Prop :=
  index.properties.Nodup

/-- The names of all fields. -/
def fieldNames (index : IndexDeclaration) : List String :=
  index.properties.map index.fieldName

/-- What is wrong with the fields, one after another. -/
def faults (index : IndexDeclaration) : List String :=
  index.fields.flatMap fun e => fieldFaults e.1 e.2

variable {index : IndexDeclaration}

theorem field?_eq_some (h : index.IsKeyed) {property : String} {field : FieldDeclaration} :
    index.field? property = some field ↔ (property, field) ∈ index.fields :=
  ⟨Entries.mem_of_lookup, Entries.lookup_of_mem h⟩

theorem mem_properties_of_field? {property : String} {field : FieldDeclaration}
    (h : index.field? property = some field) : property ∈ index.properties :=
  List.mem_map_of_mem (Entries.mem_of_lookup h)

theorem mem_faults (h : index.IsKeyed) {text : String} :
    text ∈ index.faults ↔ ∃ property field fault, index.field? property = some field ∧
      FieldFault.Of field fault ∧ text = fault.describe property := by
  simp only [faults, fieldFaults_eq, List.mem_flatMap, List.mem_map, FieldDeclaration.mem_faults,
    Prod.exists, field?_eq_some h]
  constructor
  · rintro ⟨property, field, hfield, fault, hfault, rfl⟩
    exact ⟨property, field, fault, hfield, hfault, rfl⟩
  · rintro ⟨property, field, fault, hfield, hfault, rfl⟩
    exact ⟨property, field, hfield, fault, hfault, rfl⟩

/-- No fault is listed twice, because its text gives the property and the fault back. -/
theorem nodup_faults (h : index.IsKeyed) : index.faults.Nodup := by
  refine List.nodup_flatMap.2 ⟨fun e _ => ?_, (List.pairwise_map.1 h).imp fun {e f} hne => ?_⟩
  · rw [fieldFaults_eq]
    exact (e.2.nodup_faults).map fun _ _ hsame => (FieldFault.describe_inj hsame).2
  · intro text he hf
    simp only [fieldFaults_eq, List.mem_map] at he hf
    obtain ⟨_, -, rfl⟩ := he
    obtain ⟨_, -, hsame⟩ := hf
    exact hne (FieldFault.describe_inj hsame).1.symm

theorem faults_eq_nil (h : index.IsKeyed) : index.faults = [] ↔
    ∀ property field, index.field? property = some field → field.IsSound := by
  simp only [faults, fieldFaults_eq, List.flatMap_eq_nil_iff, List.map_eq_nil_iff, Prod.forall,
    field?_eq_some h, FieldDeclaration.faults_eq_nil]

theorem nodup_fieldNames (h : index.IsKeyed) : index.fieldNames.Nodup ↔
    ∀ p ∈ index.properties, ∀ q ∈ index.properties,
      index.fieldName p = index.fieldName q → p = q :=
  List.nodup_map_iff_inj_on h

/-- Different names are those of different properties. -/
theorem isKeyed_of_nodup_fieldNames (h : index.fieldNames.Nodup) : index.IsKeyed :=
  .of_map _ h

/-! ## The check -/

/-- The faults of the fields as the check lists them. -/
def faultList (index : IndexDeclaration) : List String :=
  sorted index.faults

/-- The names that several properties share, as the check lists them. -/
def sharedList (index : IndexDeclaration) : List String :=
  sorted (repeatedAfter [] index.fieldNames)

theorem validate_eq (index : IndexDeclaration) : index.validate =
    if Text.isBlankText index.name = true then .error (.invalidSchema .emptyName)
    else if index.faultList ≠ [] then .error (.invalidSchema (.rejectedFields index.faultList))
    else if index.sharedList ≠ [] then .error (.invalidSchema (.sharedNames index.sharedList))
    else .ok () := by
  have hisEmpty (ss : List String) : (!ss.isEmpty) = true ↔ sorted ss ≠ [] := by
    rw [Bool.not_eq_true', ← Bool.not_eq_true, List.isEmpty_iff, Ne, sorted_eq_nil]
  have hnames : (index.fields.map fun e => index.fieldName e.1) = index.fieldNames := by
    rw [fieldNames, properties, List.map_map]
    rfl
  unfold validate
  dsimp only
  rw [hnames]
  simp only [hisEmpty]
  rfl

theorem faultList_eq_nil : index.faultList = [] ↔ index.faults = [] :=
  sorted_eq_nil

theorem sharedList_eq_nil : index.sharedList = [] ↔ index.fieldNames.Nodup :=
  sorted_eq_nil.trans repeated_eq_nil

theorem validate_eq_ok : index.validate = .ok () ↔
    Text.isBlankText index.name = false ∧ index.faults = [] ∧ index.fieldNames.Nodup := by
  rw [validate_eq, ← faultList_eq_nil, ← sharedList_eq_nil]
  split_ifs <;> simp_all

/-- The fields of a valid declaration are sound. -/
theorem isSound_of_validate (h : index.validate = .ok ()) {property : String}
    {field : FieldDeclaration} (hfield : index.field? property = some field) : field.IsSound := by
  obtain ⟨-, hfaults, hnames⟩ := validate_eq_ok.1 h
  exact (faults_eq_nil (isKeyed_of_nodup_fieldNames hnames)).1 hfaults property field hfield

/-- The list of the faults holds the text of every fault of every field, and none twice. -/
theorem eq_faultList_iff (h : index.IsKeyed) {texts : List String} :
    texts = index.faultList ↔ texts.Pairwise (· < ·) ∧
      ∀ text, text ∈ texts ↔ ∃ property field fault, index.field? property = some field ∧
        FieldFault.Of field fault ∧ text = fault.describe property := by
  have hnodup := nodup_faults h
  constructor
  · rintro rfl
    refine ⟨?_, fun text => (sorted_perm _).mem_iff.trans (mem_faults h)⟩
    have hne : index.faultList.Nodup := (sorted_perm _).nodup_iff.2 hnodup
    exact ((pairwise_sorted index.faults).and hne).imp fun hab => lt_of_le_of_ne hab.1 hab.2
  · rintro ⟨hlt, hmem⟩
    refine eq_sorted ?_ (hlt.imp le_of_lt)
    exact (List.perm_ext_iff_of_nodup (hlt.imp ne_of_lt) hnodup).2 fun text =>
      (hmem text).trans (mem_faults h).symm

/-- The list of the shared names holds every name as often as there are properties with the name,
but for one. -/
theorem eq_sharedList_iff {names : List String} :
    names = index.sharedList ↔ names.Pairwise (· ≤ ·) ∧
      ∀ name, names.count name = index.fieldNames.count name - 1 := by
  constructor
  · rintro rfl
    refine ⟨pairwise_sorted _, fun name => ?_⟩
    rw [sharedList, (sorted_perm _).count_eq, count_repeated]
  · rintro ⟨hle, hcount⟩
    refine eq_sorted (List.perm_iff_count.2 fun name => ?_) hle
    rw [hcount, count_repeated]

/-! ## The order of the fields -/

theorem fieldName_of_perm {fields : List (String × FieldDeclaration)} (h : index.IsKeyed)
    (hfields : fields.Perm index.fields) (property : String) :
    ({ index with fields } : IndexDeclaration).fieldName property = index.fieldName property := by
  unfold fieldName field?
  rw [Entries.lookup_eq_of_perm hfields.symm h]

/-- The result of the check does not depend on the order of the fields. -/
theorem validate_eq_of_perm {fields : List (String × FieldDeclaration)} (h : index.IsKeyed)
    (hfields : fields.Perm index.fields) :
    ({ index with fields } : IndexDeclaration).validate = index.validate := by
  have hfaults : ({ index with fields } : IndexDeclaration).faultList = index.faultList :=
    sorted_eq_of_perm (hfields.flatMap_right _)
  have hnames : ({ index with fields } : IndexDeclaration).fieldNames.Perm index.fieldNames := by
    unfold fieldNames
    rw [funext (fieldName_of_perm h hfields)]
    exact (hfields.map _).map _
  have hshared : ({ index with fields } : IndexDeclaration).sharedList = index.sharedList :=
    sorted_eq_of_perm (repeated_perm hnames)
  rw [validate_eq, validate_eq, hfaults, hshared]

/-! ## Refusals -/

/-- Why a declaration is refused, and with what text. Blank names come first, then what is wrong
with single fields, each fault once, and then the names that several properties share, each as often
as it is repeated. -/
inductive RefusedFor (index : IndexDeclaration) : SchemaError → String → Prop where
  | emptyName (hname : Text.isBlankText index.name = true) :
    RefusedFor index .emptyName "invalid index declaration: the index name must not be empty"
  | rejectedFields {faults : List String} (hname : Text.isBlankText index.name = false)
    (hsome : faults ≠ []) (hsorted : faults.Pairwise (· < ·))
    (hfaults : ∀ text, text ∈ faults ↔ ∃ property field fault,
      index.field? property = some field ∧ FieldFault.Of field fault ∧
      text = fault.describe property) :
    RefusedFor index (.rejectedFields faults) ("invalid index declaration: " ++
      (toString faults.length ++ " fields are incorrectly declared: " ++ ", ".intercalate faults))
  | sharedNames {names : List String} (hname : Text.isBlankText index.name = false)
    (hfields : ∀ property field, index.field? property = some field → field.IsSound)
    (hsome : names ≠ []) (hsorted : names.Pairwise (· ≤ ·))
    (hcount : ∀ name, names.count name = index.fieldNames.count name - 1) :
    RefusedFor index (.sharedNames names) ("invalid index declaration: " ++
      ("multiple properties resolve to the same field: " ++ ", ".intercalate names))

/-- The error of the check, if there is one, tells why the declaration is refused. -/
theorem validate_eq_error (h : index.IsKeyed) {e : QueryError} : index.validate = .error e ↔
    ∃ cause, e = .invalidSchema cause ∧ index.RefusedFor cause e.message := by
  have hsound := faultList_eq_nil.trans (faults_eq_nil h)
  rw [validate_eq]
  constructor
  · intro herror
    split_ifs at herror with hname hfaults hshared
    · cases herror
      exact ⟨_, rfl, .emptyName hname⟩
    · cases herror
      obtain ⟨hsorted, hmem⟩ := (eq_faultList_iff h).1 rfl
      exact ⟨_, rfl, .rejectedFields (by simpa using hname) hfaults hsorted hmem⟩
    · cases herror
      obtain ⟨hsorted, hcount⟩ := eq_sharedList_iff.1 (Eq.refl index.sharedList)
      have hfields := hsound.1 (not_not.1 hfaults)
      exact ⟨_, rfl, .sharedNames (by simpa using hname) hfields hshared hsorted hcount⟩
  · rintro ⟨cause, rfl, hrefused⟩
    generalize (QueryError.invalidSchema cause).message = text at hrefused
    cases hrefused with
    | emptyName hname => rw [if_pos hname]
    | rejectedFields hname hsome hsorted hfaults =>
      obtain rfl := (eq_faultList_iff h).2 ⟨hsorted, hfaults⟩
      rw [if_neg (by simp [hname]), if_pos hsome]
    | sharedNames hname hfields hsome hsorted hcount =>
      obtain rfl := eq_sharedList_iff.2 ⟨hsorted, hcount⟩
      rw [if_neg (by simp [hname]), if_neg (not_not.2 (hsound.2 hfields)), if_pos hsome]

/-! ## Declarations that are made -/

theorem isKeyed_withField (h : index.IsKeyed) (property : String) (field : FieldDeclaration) :
    (index.withField property field).IsKeyed := by
  unfold IsKeyed properties withField
  dsimp only
  split
  · have hkeys : (index.fields.map fun e => if e.1 == property then (property, field) else e).map
        Prod.fst = index.properties := by
      rw [List.map_map]
      refine List.map_congr_left fun e _ => ?_
      by_cases he : e.1 = property <;> simp [he]
    rw [hkeys]
    exact h
  · next hnew =>
    have hfresh : property ∉ index.properties := by
      simpa [properties] using hnew
    rw [List.map_append]
    exact h.append (List.nodup_singleton property)
      (List.disjoint_singleton.2 hfresh)

/-- A declaration that is read names every property once. -/
theorem isKeyed_of_read {d : Draft} (h : IndexDeclaration.read d = some index) : index.IsKeyed := by
  have hfold (fields : List (String × FieldDeclaration)) (start : IndexDeclaration)
      (hstart : start.IsKeyed) :
      (fields.foldl (fun index e => index.withField e.1 e.2) start).IsKeyed := by
    induction fields generalizing start with
    | nil => exact hstart
    | cons e fields ih => exact ih _ (isKeyed_withField hstart e.1 e.2)
  simp only [IndexDeclaration.read, Option.bind_eq_bind, Option.bind_eq_some_iff] at h
  obtain ⟨entries, -, name, -, naming, -, fields, -, h⟩ := h
  cases h
  exact hfold fields _ List.nodup_nil

end IndexDeclaration

/-! ## Main theorem -/

/-- The check passes exactly the declarations with a name, with sound fields and with names that
differ. It refuses the others for the reasons and in the words of `RefusedFor`, and the order of the
fields is not seen in its result. -/
theorem validate_exact {index : IndexDeclaration} (hkeyed : index.IsKeyed) :
    (index.validate = .ok () ↔
      Text.isBlankText index.name = false ∧
      (∀ property field, index.field? property = some field →
        (field.type = .enumeration ↔ field.members ≠ []) ∧
        (field.keyword = true → field.type = .text ∨ field.type = .identifier)) ∧
      ∀ p ∈ index.properties, ∀ q ∈ index.properties,
        index.fieldName p = index.fieldName q → p = q) ∧
    (∀ e, index.validate = .error e ↔
      ∃ cause, e = .invalidSchema cause ∧ index.RefusedFor cause e.message) ∧
    ∀ fields, fields.Perm index.fields →
      ({ index with fields } : IndexDeclaration).validate = index.validate := by
  refine ⟨?_, fun e => IndexDeclaration.validate_eq_error hkeyed,
    fun fields hfields => IndexDeclaration.validate_eq_of_perm hkeyed hfields⟩
  rw [IndexDeclaration.validate_eq_ok, IndexDeclaration.faults_eq_nil hkeyed,
    IndexDeclaration.nodup_fieldNames hkeyed]
  simp only [FieldDeclaration.isSound_iff]

/-- Three properties with one name: it is listed twice, whichever of them stands first. -/
theorem validate_exact_ticket :
    let fields : List (String × FieldDeclaration) :=
      [("Name", { type := .text }), ("name", { type := .text }),
        ("Title", .renamed { type := .text } "name")]
    let index : IndexDeclaration := { name := "tickets", fields }
    let refused : QueryError := .invalidSchema (.sharedNames ["name", "name"])
    index.IsKeyed ∧ index.validate = .error refused ∧
      ({ index with fields := fields.reverse } : IndexDeclaration).validate = .error refused ∧
      refused.message =
        "invalid index declaration: multiple properties resolve to the same field: name, name" := by
  intro fields index refused
  have hkeyed : index.IsKeyed := by unfold IndexDeclaration.IsKeyed; decide
  have hnames : index.fieldNames = ["name", "name", "name"] := by decide +kernel
  obtain ⟨-, herror, horder⟩ := validate_exact hkeyed
  have hrefused : index.validate = .error refused := by
    refine (herror refused).2 ⟨_, rfl, .sharedNames (by decide) (fun property field hfield => ?_)
      (by decide) (by decide) fun name => ?_⟩
    · have hmem := (IndexDeclaration.field?_eq_some hkeyed).1 hfield
      have hsound : ∀ e ∈ fields, e.2.type = .text ∧ e.2.members = [] := by decide
      obtain ⟨htype, hmembers⟩ := hsound _ hmem
      exact FieldDeclaration.isSound_iff.2 (by simp_all)
    · rw [hnames]
      rcases eq_or_ne name "name" with rfl | hname
      · rfl
      · simp [hname.symm]
  refine ⟨hkeyed, hrefused, ?_, by rfl⟩
  rw [horder _ fields.reverse_perm, hrefused]

end DocQuery
