import FaultContext.Text.Basic

/-!
# Dictionaries

A finite map from texts whose entries stand in the order of their keys, compared character by
character. For valid text this is also the order of the UTF-8 bytes. The order is part of the type,
so two dictionaries with the same entries are the same.
-/

namespace FaultContext

set_option autoImplicit false

namespace Text

def precedes : Text → Text → Bool
  | _, [] => false
  | [], _ :: _ => true
  | a :: s, b :: t => a.toNat < b.toNat || (a == b && precedes s t)

theorem precedes_irrefl (s : Text) : precedes s s = false := by
  induction s with
  | nil => rfl
  | cons c s ih => simp [precedes, ih]

theorem precedes_trans {r s t : Text} (first : precedes r s = true) (second : precedes s t = true) :
    precedes r t = true := by
  induction r generalizing s t with
  | nil =>
      cases t with
      | nil => cases s <;> simp [precedes] at second
      | cons b t => rfl
  | cons a r ih =>
      cases s with
      | nil => simp [precedes] at first
      | cons b s =>
          cases t with
          | nil => simp [precedes] at second
          | cons c t =>
              simp only [precedes, Bool.or_eq_true, Bool.and_eq_true, decide_eq_true_eq,
                beq_iff_eq] at first second ⊢
              rcases first with lower | ⟨rfl, first⟩
              · rcases second with further | ⟨rfl, _⟩
                · exact Or.inl (by omega)
                · exact Or.inl lower
              · rcases second with further | ⟨rfl, second⟩
                · exact Or.inl further
                · exact Or.inr ⟨rfl, ih first second⟩

theorem precedes_of_ne {s t : Text} (differ : s ≠ t) (behind : precedes s t = false) :
    precedes t s = true := by
  induction s generalizing t with
  | nil =>
      cases t with
      | nil => exact absurd rfl differ
      | cons b t => simp [precedes] at behind
  | cons a s ih =>
      cases t with
      | nil => rfl
      | cons b t =>
          simp only [precedes, Bool.or_eq_false_iff, Bool.and_eq_false_iff, decide_eq_false_iff_not,
            beq_eq_false_iff_ne, Bool.or_eq_true, Bool.and_eq_true, decide_eq_true_eq,
            beq_iff_eq] at behind ⊢
          by_cases same : a = b
          · subst same
            have tails : s ≠ t := fun equal => differ (by rw [equal])
            exact Or.inr ⟨rfl, ih tails (by simpa using behind.2)⟩
          · have codes : a.toNat ≠ b.toNat := fun equal => same (Char.toNat_inj.1 equal)
            exact Or.inl (by omega)

end Text

structure Dictionary (α : Type) where
  entries : List (Text × α)
  ordered : entries.Pairwise fun one other => Text.precedes one.1 other.1 = true
deriving DecidableEq

namespace Dictionary

variable {α : Type}

def empty : Dictionary α := ⟨[], .nil⟩

instance : Inhabited (Dictionary α) := ⟨empty⟩

def get? (dictionary : Dictionary α) (key : Text) : Option α := dictionary.entries.lookup key

def contains (dictionary : Dictionary α) (key : Text) : Bool := (dictionary.get? key).isSome

def keys (dictionary : Dictionary α) : List Text := dictionary.entries.map (·.1)

/-- Sets the value of a key in ordered entries. -/
def insertEntry (key : Text) (value : α) : List (Text × α) → List (Text × α)
  | [] => [(key, value)]
  | entry :: rest =>
      if entry.1 = key then (key, value) :: rest
      else if Text.precedes key entry.1 then (key, value) :: entry :: rest
      else entry :: insertEntry key value rest

theorem mem_insertEntry {key : Text} {value : α} {entries : List (Text × α)} {entry : Text × α}
    (found : entry ∈ insertEntry key value entries) : entry = (key, value) ∨ entry ∈ entries := by
  induction entries with
  | nil => simp_all [insertEntry]
  | cons head rest ih =>
      rw [insertEntry] at found
      split at found
      · rcases List.mem_cons.1 found with rfl | found
        · exact Or.inl rfl
        · exact Or.inr (List.mem_cons_of_mem _ found)
      · split at found
        · rcases List.mem_cons.1 found with rfl | found
          · exact Or.inl rfl
          · exact Or.inr found
        · rcases List.mem_cons.1 found with rfl | found
          · exact Or.inr (List.mem_cons_self ..)
          · exact (ih found).imp id (List.mem_cons_of_mem _)

theorem ordered_insertEntry (key : Text) (value : α) {entries : List (Text × α)}
    (ordered : entries.Pairwise fun one other => Text.precedes one.1 other.1 = true) :
    (insertEntry key value entries).Pairwise fun one other => Text.precedes one.1 other.1 = true := by
  induction entries with
  | nil => simp [insertEntry]
  | cons head rest ih =>
      obtain ⟨front, tail⟩ := List.pairwise_cons.1 ordered
      rw [insertEntry]
      split
      · rename_i same
        exact List.pairwise_cons.2 ⟨fun entry found => same ▸ front entry found, tail⟩
      · rename_i differs
        split
        · rename_i early
          refine List.pairwise_cons.2 ⟨fun entry found => ?_, ordered⟩
          rcases List.mem_cons.1 found with rfl | found
          · exact early
          · exact Text.precedes_trans early (front entry found)
        · rename_i late
          refine List.pairwise_cons.2 ⟨fun entry found => ?_, ih tail⟩
          rcases mem_insertEntry found with same | found
          · rw [same]
            exact Text.precedes_of_ne (Ne.symm differs) (by simpa using late)
          · exact front entry found

def insert (dictionary : Dictionary α) (key : Text) (value : α) : Dictionary α :=
  ⟨insertEntry key value dictionary.entries, ordered_insertEntry key value dictionary.ordered⟩

/-- The dictionary of some entries; of two with the same key the later one counts. -/
def ofList (entries : List (Text × α)) : Dictionary α :=
  entries.foldl (fun dictionary entry => dictionary.insert entry.1 entry.2) empty

end Dictionary

end FaultContext
