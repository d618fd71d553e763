import Mathlib.Data.Int.Notation
import Mathlib.Data.List.Nodup

/-!
# Custom field values

The definitions of the custom fields, the table of their values under its unique key, and how a
saved entity is mirrored into the table.
-/

namespace Kanzan.CustomFields

/-- `FieldType`. -/
inductive FieldType where
  | text
  | textarea
  | number
  | date
  | select
  | multiselect
  | checkbox
  | file
  deriving DecidableEq, Repr

/-- `ModuleType`. -/
inductive ModuleType where
  | ticket
  | contact
  | company
  deriving DecidableEq, Repr

/-- A JSON value; a number is known by its literal. -/
inductive Json where
  | null
  | bool (value : Bool)
  | number (literal : String)
  | string (value : String)
  | array (items : List Json)
  | object (items : List (String × Json))

/-- A `Decimal`: a coefficient and a power of ten, or an infinity or not a number. -/
inductive Decimal where
  | finite (coefficient exponent : ℤ)
  | special (text : String)
  deriving DecidableEq, Repr

/-- The typed columns of a `CustomFieldValue`. -/
structure Columns where
  text : Option String := none
  number : Option Decimal := none
  date : Option ℤ := none
  bool : Option Bool := none
  deriving DecidableEq, Repr

/-- The conversions of Python and Django. -/
structure Library where
  str : Json → String
  dumps : List Json → String
  truthy : Json → Bool
  /-- `Decimal(text)`; nothing where it raises. -/
  decimal : String → Option Decimal
  /-- `parse_datetime`, which raises on a date that does not exist. -/
  parseDatetime : String → Except Unit (Option ℤ)
  /-- What the table keeps of the columns; nothing where the save raises. -/
  save : Columns → Option Columns

structure CustomFieldDefinition where
  id : ℕ
  tenant : ℕ
  module : ModuleType
  slug : String
  fieldType : FieldType
  isActive : Bool := true
  deriving DecidableEq, Repr

/-- The definitions, under their primary key and under `unique_together`. -/
structure Schema where
  rows : List CustomFieldDefinition
  id_inj : ∀ first ∈ rows, ∀ second ∈ rows, first.id = second.id → first = second
  slug_inj : ∀ first ∈ rows, ∀ second ∈ rows, first.tenant = second.tenant →
    first.module = second.module → first.slug = second.slug → first = second

/-- A dictionary. -/
structure Dict where
  items : List (String × Json)
  nodup : (items.map Prod.fst).Nodup

/-- A row of one of the modules. -/
abbrev Object := ModuleType × ℕ

/-- A ticket, contact or company that is saved. -/
structure Entity where
  object : Object
  tenant : ℕ
  customData : Dict

abbrev Values := ℕ → Object → Option Columns

namespace Schema

def switch (id : ℕ) (isActive : Bool) (row : CustomFieldDefinition) : CustomFieldDefinition :=
  if row.id = id then { row with isActive := isActive } else row

theorem keys_switch (id : ℕ) (isActive : Bool) (row : CustomFieldDefinition) :
    (switch id isActive row).id = row.id ∧ (switch id isActive row).tenant = row.tenant ∧
      (switch id isActive row).module = row.module ∧ (switch id isActive row).slug = row.slug := by
  rw [switch]
  split
  · exact ⟨rfl, rfl, rfl, rfl⟩
  · exact ⟨rfl, rfl, rfl, rfl⟩

def setActive (schema : Schema) (id : ℕ) (isActive : Bool) : Schema where
  rows := schema.rows.map (switch id isActive)
  id_inj := by
    intro first hfirst second hsecond hid
    obtain ⟨one, hone, rfl⟩ := List.mem_map.mp hfirst
    obtain ⟨two, htwo, rfl⟩ := List.mem_map.mp hsecond
    rw [(keys_switch id isActive one).1, (keys_switch id isActive two).1] at hid
    rw [schema.id_inj one hone two htwo hid]
  slug_inj := by
    intro first hfirst second hsecond htenant hmodule hslug
    obtain ⟨one, hone, rfl⟩ := List.mem_map.mp hfirst
    obtain ⟨two, htwo, rfl⟩ := List.mem_map.mp hsecond
    obtain ⟨-, htenant₁, hmodule₁, hslug₁⟩ := keys_switch id isActive one
    obtain ⟨-, htenant₂, hmodule₂, hslug₂⟩ := keys_switch id isActive two
    rw [htenant₁, htenant₂] at htenant
    rw [hmodule₁, hmodule₂] at hmodule
    rw [hslug₁, hslug₂] at hslug
    rw [schema.slug_inj one hone two htwo htenant hmodule hslug]

end Schema

section Sync

variable (library : Library) (schema : Schema) (entity : Entity)

/-- `_build_value_kwargs`; nothing where it raises. -/
def buildValueKwargs (fieldType : FieldType) (value : Json) : Option Columns :=
  match value with
  | .null => some {}
  | _ =>
    match fieldType with
    | .text => some { text := some (library.str value) }
    | .textarea => some { text := some (library.str value) }
    | .file => some { text := some (library.str value) }
    | .select => some { text := some (library.str value) }
    | .multiselect =>
      match value with
      | .array items => some { text := some (library.dumps items) }
      | _ => some { text := some (library.str value) }
    | .number =>
      match library.decimal (library.str value) with
      | some number => some { number := some number }
      | none => some { text := some (library.str value) }
    | .date =>
      match value with
      | .string text =>
        match library.parseDatetime text with
        | .ok (some date) => some { date := some date }
        | .ok none => some { text := some text }
        | .error _ => none
      | _ => some { text := some (library.str value) }
    | .checkbox =>
      match value with
      | .bool value => some { bool := some value }
      | _ => some { bool := some (library.truthy value) }

/-- What the table keeps of a value of a field; nothing where `update_or_create` raises. -/
def stored (field : CustomFieldDefinition) (value : Json) : Option Columns :=
  (buildValueKwargs library field.fieldType value).bind library.save

def isFor (field : CustomFieldDefinition) : Bool :=
  field.tenant = entity.tenant && field.module = entity.object.1

/-- `definitions.get(slug)`. -/
def definitionOf (slug : String) : Option CustomFieldDefinition :=
  schema.rows.find? fun field => isFor entity field && field.isActive && field.slug = slug

/-- `update_or_create`. -/
def upsert (values : Values) (field : ℕ) (object : Object) (columns : Columns) : Values :=
  Function.update values field (Function.update (values field) object (some columns))

/-- The loop over `custom_data`, and whether it ran to its end. -/
def syncItems : Values → List (String × Json) → Values × Bool
  | values, [] => (values, true)
  | values, (slug, value) :: rest =>
    match definitionOf schema entity slug with
    | none => syncItems values rest
    | some field =>
      match stored library field value with
      | none => (values, false)
      | some columns => syncItems (upsert values field.id entity.object columns) rest

/-- `processed_field_ids`. -/
def processed (items : List (String × Json)) : List ℕ :=
  items.filterMap fun item => (definitionOf schema entity item.1).map CustomFieldDefinition.id

def prune (values : Values) : Values := fun field object =>
  if object = entity.object && (schema.rows.any fun row => row.id = field && isFor entity row) &&
      !(processed schema entity entity.customData.items).contains field then none
  else values field object

/-- `sync_custom_field_values`. -/
def syncCustomFieldValues (values : Values) : Values :=
  let synced := syncItems library schema entity values entity.customData.items
  if synced.2 then prune schema entity synced.1 else synced.1

/-- The receivers of `post_save`, which catch what a sync raises. -/
def receive (values : Values) : Values :=
  if entity.customData.items.isEmpty then values
  else syncCustomFieldValues library schema entity values

end Sync

variable {slug : String} {value : Json}

section Laws

variable {library : Library} {schema : Schema} {entity : Entity} {values : Values}
variable {field : CustomFieldDefinition} {items : List (String × Json)}

theorem isFor_iff :
    isFor entity field = true ↔ field.tenant = entity.tenant ∧ field.module = entity.object.1 := by
  rw [isFor, Bool.and_eq_true, decide_eq_true_eq, decide_eq_true_eq]

theorem definitionOf_eq_some :
    definitionOf schema entity slug = some field ↔
      field ∈ schema.rows ∧ isFor entity field = true ∧ field.isActive = true ∧
        field.slug = slug := by
  constructor
  · intro hfound
    have hfield := List.find?_some hfound
    rw [Bool.and_eq_true, Bool.and_eq_true, decide_eq_true_eq] at hfield
    exact ⟨List.mem_of_find?_eq_some hfound, hfield.1.1, hfield.1.2, hfield.2⟩
  · rintro ⟨hmem, hfor, hactive, rfl⟩
    rw [definitionOf]
    cases hfound : schema.rows.find? fun row =>
        isFor entity row && row.isActive && row.slug = field.slug with
    | none =>
      have habsent := List.find?_eq_none.mp hfound field hmem
      simp [hfor, hactive] at habsent
    | some found =>
      have hrow := List.find?_some hfound
      rw [Bool.and_eq_true, Bool.and_eq_true, decide_eq_true_eq] at hrow
      obtain ⟨htenant, hmodule⟩ := isFor_iff.mp hrow.1.1
      obtain ⟨htenant', hmodule'⟩ := isFor_iff.mp hfor
      rw [schema.slug_inj found (List.mem_of_find?_eq_some hfound) field hmem
        (htenant.trans htenant'.symm) (hmodule.trans hmodule'.symm) hrow.2]

/-! ## The loop -/

theorem syncItems_skip (hnone : definitionOf schema entity slug = none) :
    syncItems library schema entity values ((slug, value) :: items) =
      syncItems library schema entity values items := by
  rw [syncItems, hnone]

theorem syncItems_stop (hfield : definitionOf schema entity slug = some field)
    (hstored : stored library field value = none) :
    syncItems library schema entity values ((slug, value) :: items) = (values, false) := by
  rw [syncItems, hfield]
  simp only [hstored]

theorem syncItems_store {columns : Columns} (hfield : definitionOf schema entity slug = some field)
    (hstored : stored library field value = some columns) :
    syncItems library schema entity values ((slug, value) :: items) =
      syncItems library schema entity (upsert values field.id entity.object columns) items := by
  rw [syncItems, hfield]
  simp only [hstored]

theorem syncItems_finished :
    (syncItems library schema entity values items).2 = true ↔
      ∀ item ∈ items, ∀ field, definitionOf schema entity item.1 = some field →
        (stored library field item.2).isSome = true := by
  induction items generalizing values with
  | nil => exact iff_of_true rfl fun _ hmem => absurd hmem List.not_mem_nil
  | cons item rest ih =>
    obtain ⟨slug, value⟩ := item
    rw [List.forall_mem_cons]
    rcases Option.eq_none_or_eq_some (definitionOf schema entity slug) with
      hnone | ⟨field, hfield⟩
    · rw [syncItems_skip hnone, ih]
      refine (and_iff_right ?_).symm
      intro field hsome
      cases hnone.symm.trans hsome
    · rcases Option.eq_none_or_eq_some (stored library field value) with
        hstored | ⟨columns, hstored⟩
      · rw [syncItems_stop hfield hstored]
        refine iff_of_false Bool.false_ne_true ?_
        rintro ⟨hfirst, -⟩
        have hsome := hfirst field hfield
        rw [hstored] at hsome
        cases hsome
      · rw [syncItems_store hfield hstored, ih]
        refine (and_iff_right ?_).symm
        intro other hother
        obtain rfl := Option.some.inj (hfield.symm.trans hother)
        rw [hstored]
        rfl

theorem syncItems_of_untouched {id : ℕ} {object : Object}
    (huntouched : object = entity.object → ∀ item ∈ items, ∀ field,
      definitionOf schema entity item.1 = some field → field.id ≠ id) :
    (syncItems library schema entity values items).1 id object = values id object := by
  induction items generalizing values with
  | nil => rfl
  | cons item rest ih =>
    obtain ⟨slug, value⟩ := item
    have hrest := fun heq item hmem => huntouched heq item (List.mem_cons_of_mem _ hmem)
    rcases Option.eq_none_or_eq_some (definitionOf schema entity slug) with
      hnone | ⟨field, hfield⟩
    · rw [syncItems_skip hnone]
      exact ih hrest
    · rcases Option.eq_none_or_eq_some (stored library field value) with
        hstored | ⟨columns, hstored⟩
      · rw [syncItems_stop hfield hstored]
      · rw [syncItems_store hfield hstored, ih hrest, upsert]
        by_cases hid : id = field.id
        · subst hid
          rw [Function.update_self]
          refine Function.update_of_ne ?_ ..
          intro heq
          exact huntouched heq (slug, value) List.mem_cons_self field hfield rfl
        · rw [Function.update_of_ne hid]

theorem syncItems_of_mem (hnodup : (items.map Prod.fst).Nodup)
    (hfinished : (syncItems library schema entity values items).2 = true)
    (hmem : (slug, value) ∈ items) (hfield : definitionOf schema entity slug = some field) :
    (syncItems library schema entity values items).1 field.id entity.object =
      stored library field value := by
  induction items generalizing values with
  | nil => cases hmem
  | cons item rest ih =>
    obtain ⟨first, firstValue⟩ := item
    obtain ⟨hhead, hrest⟩ := List.nodup_cons.mp hnodup
    rcases Option.eq_none_or_eq_some (definitionOf schema entity first) with
      hnone | ⟨other, hother⟩
    · rw [syncItems_skip hnone] at hfinished ⊢
      rcases List.mem_cons.mp hmem with heq | hmem
      · cases heq
        cases hnone.symm.trans hfield
      · exact ih hrest hfinished hmem
    · rcases Option.eq_none_or_eq_some (stored library other firstValue) with
        hstored | ⟨columns, hstored⟩
      · rw [syncItems_stop hother hstored] at hfinished
        cases hfinished
      · rw [syncItems_store hother hstored] at hfinished ⊢
        rcases List.mem_cons.mp hmem with heq | hmem
        · cases heq
          obtain rfl := Option.some.inj (hother.symm.trans hfield)
          rw [syncItems_of_untouched, upsert, Function.update_self, Function.update_self,
            hstored]
          -- No other key names the field, so the rest of the loop leaves it alone.
          intro _ item hitem later hlater heq
          obtain ⟨hrow, -, -, hslug⟩ := definitionOf_eq_some.mp hfield
          obtain ⟨hrow', -, -, hslug'⟩ := definitionOf_eq_some.mp hlater
          obtain rfl := schema.id_inj later hrow' _ hrow heq
          exact hhead (List.mem_map.mpr ⟨item, hitem, hslug'.symm.trans hslug⟩)
        · exact ih hrest hfinished hmem

theorem mem_processed {id : ℕ} :
    id ∈ processed schema entity items ↔
      ∃ item ∈ items, ∃ field, definitionOf schema entity item.1 = some field ∧ field.id = id := by
  simp only [processed, List.mem_filterMap, Option.map_eq_some_iff]

end Laws

end Kanzan.CustomFields
