import Mathlib.Data.List.Forall2
import Mathlib.Data.List.Nodup
import FaultContext.Json.Fields
import FaultContext.Json.Value
import FaultContext.Proofs.Dictionaries
import FaultContext.Proofs.JsonLayout

/-!
# Records inside JSON, written and read

A record is written as an object with one slot for each field name, some of them left empty. What
reads a record back asks for fields by name only, so it sees the slots whatever the order of the
members is: as they were written, or with the names in order.
-/

namespace FaultContext.Json

set_option autoImplicit false

/-- The members found under some names are what the slots of these names hold. -/
structure Shows (names : List Text) (slots : List (Option (Text × Value)))
    (members : List (Text × Value)) : Prop where
  distinct : (members.map Prod.fst).Nodup
  found : ∀ entry ∈ names.zip slots, members.lookup entry.1 = entry.2.map Prod.snd

/-- What is in the slot has this name. -/
def Bears (name : Text) (slot : Option (Text × Value)) : Prop := ∀ entry ∈ slot, entry.1 = name

/-- Each slot bears the name of its place. -/
def Aligned (names : List Text) (slots : List (Option (Text × Value))) : Prop :=
  List.Forall₂ Bears names slots

variable {names : List Text} {slots : List (Option (Text × Value))}
  {members : List (Text × Value)}

theorem bears_member (name : String) (value : Value) : Bears name.toList (member name value) := by
  rintro entry found
  cases found
  rfl

theorem bears_optional {α : Type} (name : String) (toValue : α → Value) (value : Option α) :
    Bears name.toList (member? name toValue value) := by
  cases value with
  | none => rintro entry found; cases found
  | some content => rintro entry found; cases found; rfl

theorem names_sublist (aligned : Aligned names slots) :
    ((slots.filterMap id).map Prod.fst).Sublist names := by
  induction aligned with
  | nil => exact .slnil
  | cons named _ ih =>
      rename_i name slot names slots _
      cases slot with
      | none => exact ih.cons name
      | some entry =>
          obtain rfl := named entry rfl
          exact ih.cons_cons entry.1

theorem lookup_of_absent {name : Text} (absent : name ∉ members.map Prod.fst) :
    members.lookup name = none := by
  rw [List.lookup_eq_none_iff]
  intro entry member
  have apart : name ≠ entry.1 := by
    rintro rfl
    exact absent (List.mem_map.2 ⟨entry, member, rfl⟩)
  simpa using apart

theorem shows_slots (aligned : Aligned names slots) (distinct : names.Nodup) :
    Shows names slots (slots.filterMap id) := by
  refine ⟨(names_sublist aligned).nodup distinct, ?_⟩
  induction aligned with
  | nil =>
      intro entry member
      cases member
  | cons named others ih =>
      rename_i name slot names slots
      obtain ⟨fresh, apart⟩ := List.nodup_cons.1 distinct
      have absent : name ∉ (slots.filterMap id).map Prod.fst := fun held =>
        fresh ((names_sublist others).subset held)
      intro entry member
      rcases List.mem_cons.1 member with rfl | later
      · -- An empty slot hides nothing: no later slot bears its name.
        cases slot with
        | none => exact lookup_of_absent absent
        | some held =>
            obtain rfl := named held rfl
            exact List.lookup_cons_self
      · have other : entry.1 ≠ name := by
          rintro rfl
          exact fresh (List.of_mem_zip later).1
        have unequal : (entry.1 == name) = false := by simpa using other
        cases slot with
        | none => exact ih apart entry later
        | some held =>
            obtain rfl := named held rfl
            calc
              List.lookup entry.1 (held :: slots.filterMap id) =
                  (slots.filterMap id).lookup entry.1 := by rw [List.lookup_cons, unequal]
              _ = entry.2.map Prod.snd := ih apart entry later

/-- Putting the names in order changes nothing under them. -/
theorem shows_in_order (shows : Shows names slots members) :
    Shows names slots (Dictionary.ofList members).entries :=
  ⟨Dictionary.keys_nodup _, fun entry member =>
    (Dictionary.get_of_list shows.distinct entry.1).trans (shows.found entry member)⟩

namespace Fields

theorem of_object (names : List Text) (distinct : (members.map Prod.fst).Nodup) :
    of? names (.object members) = some ⟨false, members⟩ := by
  have once (name : Text) : (members.filter fun entry => entry.1 == name).length ≤ 1 := by
    have count := List.nodup_iff_count_le_one.1 distinct name
    rw [List.count, List.countP_map, List.countP_eq_length_filter] at count
    exact count
  rw [of?, if_pos]
  simp [once]

section Slots

variable {α : Type} {name : String} {decode : Decoder α} {value : Value}

theorem required_found (shows : Shows names slots members)
    (written : (name.toList, member name value) ∈ names.zip slots) :
    required ⟨false, members⟩ name decode = decode value := by
  rw [required, shows.found _ written]
  rfl

theorem nullable_found (shows : Shows names slots members)
    (written : (name.toList, member name value) ∈ names.zip slots) :
    nullable ⟨false, members⟩ name decode = asNullable decode value := by
  simp only [nullable, shows.found _ written]
  rfl

theorem default_found {fallback : α} (shows : Shows names slots members)
    (written : (name.toList, member name value) ∈ names.zip slots) :
    withDefault ⟨false, members⟩ name fallback decode = decode value := by
  simp only [withDefault, shows.found _ written]
  rfl

theorem default_optional {content : Option Text} (shows : Shows names slots members)
    (written : (name.toList, member? name .text content) ∈ names.zip slots) :
    withDefault ⟨false, members⟩ name none (asNullable asText) = some content := by
  simp only [withDefault, shows.found _ written]
  cases content <;> rfl

end Slots

end Fields

theorem nullable_text (content : Option Text) :
    asNullable asText (textOrNull content) = some content := by
  cases content <;> rfl

theorem map_m_inverse {α β : Type} {write : α → β} {read : β → Option α} {items : List α}
    (inverse : ∀ item ∈ items, read (write item) = some item) :
    (items.map write).mapM read = some items := by
  induction items with
  | nil => rfl
  | cons item items ih =>
      rw [List.map_cons, List.mapM_cons, inverse item List.mem_cons_self,
        ih fun other member => inverse other (List.mem_cons_of_mem item member)]
      rfl

theorem plain_array_of {α : Type} {write : α → Value} {items : List α}
    (each : ∀ item ∈ items, Plain (write item)) : Plain (.array (items.map write)) := by
  refine .array _ fun value held => ?_
  obtain ⟨item, member, rfl⟩ := List.mem_map.1 held
  exact each item member

theorem plain_object_of (each : ∀ slot ∈ slots, ∀ entry ∈ slot, Plain entry.2) :
    Plain (objectOf slots) := by
  refine .object _ fun entry held => ?_
  obtain ⟨slot, member, same⟩ := List.mem_filterMap.1 held
  exact each slot member entry same

theorem plain_member {name : String} {value : Value} (plain : Plain value) :
    ∀ entry ∈ member name value, Plain entry.2 := by
  rintro entry held
  cases held
  exact plain

theorem plain_optional (name : String) (content : Option Text) :
    ∀ entry ∈ member? name .text content, Plain entry.2 := by
  cases content with
  | none => rintro entry held; cases held
  | some content =>
      rintro entry held
      cases held
      exact .text content

theorem ordered_items_eq (items : List Value) : orderedItems items = items.map ordered := by
  induction items with
  | nil => rfl
  | cons item items ih => rw [orderedItems, ih, List.map_cons]

theorem ordered_members_eq (members : List (Text × Value)) :
    orderedMembers members = members.map fun entry => (entry.1, ordered entry.2) := by
  induction members with
  | nil => rfl
  | cons entry members ih => rw [orderedMembers, ih, List.map_cons]

theorem plain_ordered {value : Value} (plain : Plain value) : Plain (ordered value) := by
  induction plain with
  | null => exact .null
  | bool flag => exact .bool flag
  | integer number least greatest => exact .integer number least greatest
  | text content => exact .text content
  | array items each ih =>
      rw [ordered, ordered_items_eq]
      exact plain_array_of ih
  | object members each ih =>
      rw [ordered, ordered_members_eq]
      refine .object _ fun entry held => ?_
      obtain ⟨original, member, rfl⟩ := List.mem_map.1 (Dictionary.mem_of_list held)
      exact ih original member

end FaultContext.Json
