import Kanzan.CustomFields.Values
import Kanzan.Support.Runs

/-!
# Values over a history of saves

Saves of tickets, contacts and companies, and definitions that are switched off and on in between.
Beside the values stand those that a field had when it was last deactivated.
-/

namespace Kanzan.CustomFields

open Support

/-- The tables, and the values of every field when it was deactivated. -/
structure Registry where
  schema : Schema
  values : Values := fun _ _ => none
  retained : Values := fun _ _ => none

inductive Event where
  | save (entity : Entity)
  | setActive (id : ℕ) (isActive : Bool)

namespace Registry

variable (library : Library) (registry : Registry)

def isActive (id : ℕ) : Bool := registry.schema.rows.any fun row => row.id = id && row.isActive

def step (registry : Registry) : Event → Registry
  | .save entity =>
    { registry with values := receive library registry.schema entity registry.values }
  | .setActive id isActive =>
    { registry with
      schema := registry.schema.setActive id isActive
      retained :=
        if registry.isActive id && !isActive then
          Function.update registry.retained id (registry.values id)
        else registry.retained }

/-! ## The property and the condition -/

/-- The row of a field for a saved entity. -/
structure Mirrors (entity : Entity) (field : CustomFieldDefinition) : Prop where
  present : field.isActive = true → ∀ value, (field.slug, value) ∈ entity.customData.items →
    ∃ columns, stored library field value = some columns ∧
      registry.values field.id entity.object = some columns
  absent : field.isActive = true → field.slug ∉ entity.customData.items.map Prod.fst →
    registry.values field.id entity.object = none
  kept : field.isActive = false →
    registry.values field.id entity.object = registry.retained field.id entity.object

def Faithful : Event → Prop
  | .save entity => ∀ field ∈ registry.schema.rows, isFor entity field = true →
      (registry.step library (.save entity)).Mirrors library entity field
  | .setActive _ _ => True

/-- What a save needs of its dictionary and of the rows. -/
structure Accepts (entity : Entity) (field : CustomFieldDefinition) : Prop where
  /-- Every value can be stored. -/
  storable : field.isActive = true → ∀ value, (field.slug, value) ∈ entity.customData.items →
    (stored library field value).isSome = true
  /-- There is nothing to remove when the dictionary is empty. -/
  cleared : field.isActive = true → entity.customData.items = [] →
    registry.values field.id entity.object = none
  /-- There is nothing to lose when it is not. -/
  spared : field.isActive = false → entity.customData.items ≠ [] →
    registry.values field.id entity.object = none

def Admits : Event → Prop
  | .save entity => ∀ field ∈ registry.schema.rows, isFor entity field = true →
      registry.Accepts library entity field
  | .setActive _ _ => True

/-- The rows of an inactive field are those it had when it was deactivated. -/
def Retains : Prop :=
  ∀ field ∈ registry.schema.rows, field.isActive = false → ∀ object,
    registry.values field.id object = registry.retained field.id object

end Registry

section Laws

variable {library : Library} {schema : Schema} {entity : Entity} {values : Values}
variable {field : CustomFieldDefinition}

/-! ## What a save leaves -/

theorem receive_of_empty (hempty : entity.customData.items = []) :
    receive library schema entity values = values := by
  rw [receive, hempty]
  rfl

theorem notMem_processed (hfield : field ∈ schema.rows)
    (hskipped : field.isActive = true → isFor entity field = true →
      field.slug ∉ entity.customData.items.map Prod.fst) :
    field.id ∉ processed schema entity entity.customData.items := by
  rw [mem_processed]
  rintro ⟨item, hitem, found, hfound, heq⟩
  obtain ⟨hrow, hfor, hactive, hslug⟩ := definitionOf_eq_some.mp hfound
  obtain rfl := schema.id_inj found hrow field hfield heq
  exact hskipped hactive hfor (List.mem_map.mpr ⟨item, hitem, hslug.symm⟩)

/-- What such a field keeps: everything, except the row of the entity if a sync runs to its end. -/
theorem receive_of_skipped (hfield : field ∈ schema.rows)
    (hskipped : field.isActive = true → isFor entity field = true →
      field.slug ∉ entity.customData.items.map Prod.fst) (object : Object) :
    receive library schema entity values field.id object =
      if entity.customData.items ≠ [] ∧
          (syncItems library schema entity values entity.customData.items).2 = true ∧
          object = entity.object ∧ isFor entity field = true then none
      else values field.id object := by
  have hnot := notMem_processed hfield hskipped
  have hloop : (syncItems library schema entity values entity.customData.items).1 field.id
      object = values field.id object := by
    refine syncItems_of_untouched fun _ item hitem found hfound heq => ?_
    exact hnot (mem_processed.mpr ⟨item, hitem, found, hfound, heq⟩)
  have hany : (schema.rows.any fun row => row.id = field.id && isFor entity row) =
      isFor entity field := by
    rw [Bool.eq_iff_iff, List.any_eq_true]
    constructor
    · rintro ⟨row, hrow, hfor⟩
      rw [Bool.and_eq_true, decide_eq_true_eq] at hfor
      obtain rfl := schema.id_inj row hrow field hfield hfor.1
      exact hfor.2
    · intro hfor
      exact ⟨field, hfield, by simp [hfor]⟩
  rw [receive]
  cases hempty : entity.customData.items with
  | nil => simp
  | cons item rest =>
    rw [← hempty]
    have hne : entity.customData.items ≠ [] := by simp [hempty]
    rw [if_neg (by simp [hempty]), syncCustomFieldValues]
    cases hfinished : (syncItems library schema entity values entity.customData.items).2 with
    | false => simp [hloop]
    | true =>
      have hcontains : (processed schema entity entity.customData.items).contains field.id =
          false := by
        rw [← Bool.not_eq_true, List.contains_iff_mem]
        exact hnot
      rw [if_pos rfl, prune, hany, hloop, hcontains]
      simp [hne]

theorem receive_of_key (hfield : field ∈ schema.rows) (hfor : isFor entity field = true)
    (hactive : field.isActive = true) {value : Json}
    (hmem : (field.slug, value) ∈ entity.customData.items)
    (hfinished : (syncItems library schema entity values entity.customData.items).2 = true) :
    receive library schema entity values field.id entity.object = stored library field value := by
  have hfound : definitionOf schema entity field.slug = some field :=
    definitionOf_eq_some.mpr ⟨hfield, hfor, hactive, rfl⟩
  have hne : entity.customData.items.isEmpty = false := by
    cases hempty : entity.customData.items with
    | nil =>
      rw [hempty] at hmem
      cases hmem
    | cons item rest => rfl
  have hprocessed : (processed schema entity entity.customData.items).contains field.id = true :=
    List.contains_iff_mem.mpr (mem_processed.mpr ⟨_, hmem, field, hfound, rfl⟩)
  rw [receive, hne, if_neg Bool.false_ne_true, syncCustomFieldValues, hfinished, if_pos rfl, prune,
    hprocessed, Bool.not_true, Bool.and_false, if_neg Bool.false_ne_true]
  exact syncItems_of_mem entity.customData.nodup hfinished hmem hfound

theorem finished_of_storable
    (hstorable : ∀ field ∈ schema.rows, isFor entity field = true → field.isActive = true →
      ∀ value, (field.slug, value) ∈ entity.customData.items →
        (stored library field value).isSome = true) :
    (syncItems library schema entity values entity.customData.items).2 = true := by
  rw [syncItems_finished]
  rintro ⟨slug, value⟩ hitem field hfound
  obtain ⟨hrow, hfor, hactive, rfl⟩ := definitionOf_eq_some.mp hfound
  exact hstorable field hrow hfor hactive value hitem

end Laws

namespace Registry

variable {library : Library} {registry : Registry} {entity : Entity}
variable {field : CustomFieldDefinition}

theorem notMem_of_inactive (hinactive : field.isActive = false) :
    field.isActive = true → isFor entity field = true →
      field.slug ∉ entity.customData.items.map Prod.fst := by
  intro hactive
  rw [hinactive] at hactive
  cases hactive

/-! ## One save -/

/-- A save that can store every value, and has nothing to lose, is mirrored. -/
theorem mirrors_of_accepts (retains : registry.Retains)
    (accepts : ∀ field ∈ registry.schema.rows, isFor entity field = true →
      registry.Accepts library entity field) (hfield : field ∈ registry.schema.rows)
    (hfor : isFor entity field = true) :
    (registry.step library (.save entity)).Mirrors library entity field := by
  have hfinished : (syncItems library registry.schema entity registry.values
      entity.customData.items).2 = true :=
    finished_of_storable fun field hfield hfor => (accepts field hfield hfor).storable
  refine ⟨?_, ?_, ?_⟩
  · intro hactive value hmem
    obtain ⟨columns, hstored⟩ :=
      Option.isSome_iff_exists.mp ((accepts field hfield hfor).storable hactive value hmem)
    refine ⟨columns, hstored, ?_⟩
    rw [← hstored]
    exact receive_of_key hfield hfor hactive hmem hfinished
  · intro hactive habsent
    refine (receive_of_skipped hfield (fun _ _ => habsent) entity.object).trans ?_
    split
    · rfl
    · rename_i hkept
      refine (accepts field hfield hfor).cleared hactive ?_
      by_contra hne
      exact hkept ⟨hne, hfinished, rfl, hfor⟩
  · intro hinactive
    refine (receive_of_skipped hfield (notMem_of_inactive hinactive) entity.object).trans ?_
    split
    · rename_i hlost
      rw [← (accepts field hfield hfor).spared hinactive hlost.1]
      exact retains field hfield hinactive entity.object
    · exact retains field hfield hinactive entity.object

/-- A save that is mirrored could store every value, and had nothing to lose. -/
theorem accepts_of_mirrors (retains : registry.Retains)
    (mirrors : ∀ field ∈ registry.schema.rows, isFor entity field = true →
      (registry.step library (.save entity)).Mirrors library entity field)
    (hfield : field ∈ registry.schema.rows) (hfor : isFor entity field = true) :
    registry.Accepts library entity field := by
  have hstorable : ∀ field ∈ registry.schema.rows, isFor entity field = true →
      field.isActive = true → ∀ value, (field.slug, value) ∈ entity.customData.items →
        (stored library field value).isSome = true := by
    intro field hfield hfor hactive value hmem
    obtain ⟨columns, hstored, -⟩ := (mirrors field hfield hfor).present hactive value hmem
    exact Option.isSome_iff_exists.mpr ⟨columns, hstored⟩
  refine ⟨hstorable field hfield hfor, ?_, ?_⟩
  · intro hactive hempty
    have habsent := (mirrors field hfield hfor).absent hactive (by simp [hempty])
    change receive library registry.schema entity registry.values field.id entity.object = none
      at habsent
    rwa [receive_of_empty hempty] at habsent
  · intro hinactive hne
    have hkept := (mirrors field hfield hfor).kept hinactive
    change receive library registry.schema entity registry.values field.id entity.object =
      registry.retained field.id entity.object at hkept
    rw [receive_of_skipped hfield (notMem_of_inactive hinactive),
      if_pos ⟨hne, finished_of_storable hstorable, rfl, hfor⟩] at hkept
    rw [retains field hfield hinactive, hkept]

theorem faithful_iff (retains : registry.Retains) (event : Event) :
    registry.Faithful library event ↔ registry.Admits library event := by
  cases event with
  | save entity =>
    exact ⟨fun mirrors _ hfield => accepts_of_mirrors retains mirrors hfield,
      fun accepts _ hfield => mirrors_of_accepts retains accepts hfield⟩
  | setActive id isActive => exact Iff.rfl

/-! ## What is retained -/

theorem retains_save (retains : registry.Retains)
    (accepts : ∀ field ∈ registry.schema.rows, isFor entity field = true →
      registry.Accepts library entity field) :
    (registry.step library (.save entity)).Retains := by
  intro field hfield hinactive object
  refine (receive_of_skipped hfield (notMem_of_inactive hinactive) object).trans ?_
  split
  · rename_i hlost
    obtain ⟨hne, -, rfl, hfor⟩ := hlost
    rw [← (accepts field hfield hfor).spared hinactive hne]
    exact retains field hfield hinactive entity.object
  · exact retains field hfield hinactive object

theorem isActive_iff {row : CustomFieldDefinition} (hrow : row ∈ registry.schema.rows) :
    registry.isActive row.id = row.isActive := by
  rw [isActive, Bool.eq_iff_iff, List.any_eq_true]
  constructor
  · rintro ⟨other, hother, hactive⟩
    rw [Bool.and_eq_true, decide_eq_true_eq] at hactive
    obtain rfl := registry.schema.id_inj other hother row hrow hactive.1
    exact hactive.2
  · intro hactive
    exact ⟨row, hrow, by simp [hactive]⟩

theorem retains_setActive (retains : registry.Retains) (id : ℕ) (isActive : Bool) :
    (registry.step library (.setActive id isActive)).Retains := by
  intro field hfield hinactive object
  obtain ⟨row, hrow, rfl⟩ := List.mem_map.mp hfield
  rw [(Schema.keys_switch id isActive row).1]
  by_cases hid : row.id = id
  · subst hid
    rw [Schema.switch, if_pos rfl] at hinactive
    obtain rfl : isActive = false := hinactive
    change registry.values row.id object = (if registry.isActive row.id && !false then
      Function.update registry.retained row.id (registry.values row.id)
      else registry.retained) row.id object
    rw [isActive_iff hrow]
    cases hactive : row.isActive with
    | true => simp
    | false => simpa using retains row hrow hactive object
  · rw [Schema.switch, if_neg hid] at hinactive
    change registry.values row.id object = (if registry.isActive id && !isActive then
      Function.update registry.retained id (registry.values id)
      else registry.retained) row.id object
    rw [retains row hrow hinactive object]
    split
    · rw [Function.update_of_ne hid]
    · rfl

/-! ## Runs -/

/--
Over any history of saves and switches, the rows after each save mirror its dictionary, and those of
inactive fields are retained, exactly if every save can store every value, has nothing to lose, and
nothing to remove when its dictionary is empty.
-/
theorem every_faithful_iff (library : Library) (schema : Schema) (events : List Event) :
    Every (step library) (Faithful library) { schema := schema } events ↔
      Every (step library) (Admits library) { schema := schema } events := by
  refine every_iff_every ?_ (fun _ event (retains : Retains _) => faithful_iff retains event)
    (fun _ _ _ _ => rfl) events
  intro registry event retains admits
  cases event with
  | save entity => exact retains_save retains admits
  | setActive id isActive => exact retains_setActive retains id isActive

/-- Texts as they are, everything else refused. -/
def texts : Library where
  str
    | .string text => text
    | _ => ""
  dumps _ := ""
  truthy _ := true
  decimal _ := none
  parseDatetime _ := .ok none
  save := some

/-- The tickets of tenant 1 have a text field. -/
def regions : Schema where
  rows := [⟨0, 1, .ticket, "region", .text, true⟩]
  id_inj := by
    intro first hfirst second hsecond _
    rw [List.mem_singleton.mp hfirst, List.mem_singleton.mp hsecond]
  slug_inj := by
    intro first hfirst second hsecond _ _ _
    rw [List.mem_singleton.mp hfirst, List.mem_singleton.mp hsecond]

/-- Ticket 5 with one key. -/
def ticket (slug text : String) : Entity where
  object := (.ticket, 5)
  tenant := 1
  customData := ⟨[(slug, .string text)], List.nodup_singleton slug⟩

/-- The region of the ticket is lost by its first save after the field is deactivated. -/
theorem not_every_faithful_deactivated :
    ¬Every (step texts) (Faithful texts) { schema := regions }
      [.save (ticket "region" "EU"), .setActive 0 false, .save (ticket "source" "email")] := by
  rintro ⟨-, -, faithful, -⟩
  have hkept := (faithful ⟨0, 1, .ticket, "region", .text, false⟩ List.mem_cons_self rfl).kept rfl
  revert hkept
  decide +kernel

end Registry

end Kanzan.CustomFields
