import Mathlib.Tactic.SplitIfs
import FaultContext.Text.Dictionary

/-!
# Dictionaries and their entries

What is found in a dictionary behind an insertion, and in one that is made from entries. Keys stand
in their order and none stands twice, so a dictionary is what its own entries make.
-/

namespace FaultContext

set_option autoImplicit false

namespace Dictionary

variable {α : Type}

theorem lookup_insert_entry_self (key : Text) (value : α) (entries : List (Text × α)) :
    (insertEntry key value entries).lookup key = some value := by
  induction entries with
  | nil => simp [insertEntry]
  | cons entry rest ih =>
      obtain ⟨name, held⟩ := entry
      rw [insertEntry]
      split_ifs with same early
      · simp
      · simp
      · have apart : (key == name) = false := by simpa using Ne.symm same
        simpa [List.lookup_cons, apart] using ih

theorem lookup_insert_entry_other (key other : Text) (value : α) (entries : List (Text × α))
    (different : other ≠ key) :
    (insertEntry key value entries).lookup other = entries.lookup other := by
  have apart : (other == key) = false := by simpa using different
  induction entries with
  | nil => simp [insertEntry, List.lookup_cons, apart]
  | cons entry rest ih =>
      obtain ⟨name, held⟩ := entry
      rw [insertEntry]
      split_ifs with same early
      · simp only at same
        subst same
        simp [List.lookup_cons, apart]
      · simp [List.lookup_cons, apart]
      · simp [List.lookup_cons, ih]

theorem get_insert_self (dictionary : Dictionary α) (key : Text) (value : α) :
    (dictionary.insert key value).get? key = some value :=
  lookup_insert_entry_self key value dictionary.entries

theorem get_insert_other (dictionary : Dictionary α) (key other : Text) (value : α)
    (different : other ≠ key) :
    (dictionary.insert key value).get? other = dictionary.get? other :=
  lookup_insert_entry_other key other value dictionary.entries different

/-- Of two insertions under one key the later one counts. -/
theorem insert_entry_again (key : Text) (value later : α) (entries : List (Text × α)) :
    insertEntry key later (insertEntry key value entries) = insertEntry key later entries := by
  induction entries with
  | nil => simp [insertEntry]
  | cons entry rest ih =>
      rw [insertEntry]
      split_ifs with same early
      · simp [insertEntry, same]
      · simp [insertEntry, same, early]
      · simp [insertEntry, same, early, ih]

theorem insert_again (dictionary : Dictionary α) (key : Text) (value later : α) :
    (dictionary.insert key value).insert key later = dictionary.insert key later := by
  have entries := insert_entry_again key value later dictionary.entries
  unfold insert
  rw [Dictionary.mk.injEq]
  exact entries

theorem keys_nodup (dictionary : Dictionary α) : (dictionary.entries.map Prod.fst).Nodup := by
  rw [List.Nodup, List.pairwise_map]
  refine dictionary.ordered.imp ?_
  intro one other before same
  rw [same, Text.precedes_irrefl] at before
  cases before

theorem mem_foldl_insert {entries : List (Text × α)} {dictionary : Dictionary α} {entry : Text × α}
    (found : entry ∈ (entries.foldl (fun dictionary entry => dictionary.insert entry.1 entry.2)
      dictionary).entries) : entry ∈ entries ∨ entry ∈ dictionary.entries := by
  induction entries generalizing dictionary with
  | nil => exact Or.inr found
  | cons first entries ih =>
      rcases ih found with later | earlier
      · exact Or.inl (List.mem_cons_of_mem first later)
      · rcases mem_insertEntry earlier with rfl | before
        · exact Or.inl List.mem_cons_self
        · exact Or.inr before

theorem mem_of_list {entries : List (Text × α)} {entry : Text × α}
    (found : entry ∈ (ofList entries).entries) : entry ∈ entries := by
  rcases mem_foldl_insert found with member | nothing
  · exact member
  · cases nothing

/-- Under a key stands what the entries have there, or else what was there before. -/
theorem get_foldl_insert (entries : List (Text × α)) (distinct : (entries.map Prod.fst).Nodup)
    (dictionary : Dictionary α) (key : Text) :
    (entries.foldl (fun dictionary entry => dictionary.insert entry.1 entry.2) dictionary).get? key =
      (entries.lookup key).or (dictionary.get? key) := by
  induction entries generalizing dictionary with
  | nil => rfl
  | cons entry entries ih =>
      obtain ⟨name, value⟩ := entry
      obtain ⟨fresh, others⟩ := List.nodup_cons.1 distinct
      rw [List.foldl_cons, ih others]
      by_cases same : key = name
      · subst same
        have absent : entries.lookup key = none := by
          rw [List.lookup_eq_none_iff]
          intro entry member
          have apart : key ≠ entry.1 := by
            intro same
            exact fresh (List.mem_map.2 ⟨entry, member, same.symm⟩)
          simpa using apart
        rw [absent, List.lookup_cons_self, get_insert_self]
        rfl
      · have apart : (key == name) = false := by simpa using same
        rw [get_insert_other _ _ _ _ same, List.lookup_cons, apart]

theorem get_of_list {entries : List (Text × α)} (distinct : (entries.map Prod.fst).Nodup)
    (key : Text) : (ofList entries).get? key = entries.lookup key := by
  rw [ofList, get_foldl_insert entries distinct]
  exact Option.or_none

theorem insert_entry_last {key : Text} {value : α} {entries : List (Text × α)}
    (last : ∀ entry ∈ entries, Text.precedes entry.1 key = true) :
    insertEntry key value entries = entries ++ [(key, value)] := by
  induction entries with
  | nil => rfl
  | cons entry entries ih =>
      have before := last entry List.mem_cons_self
      have apart : entry.1 ≠ key := by
        intro same
        rw [same, Text.precedes_irrefl] at before
        cases before
      have behind : Text.precedes key entry.1 ≠ true := by
        intro after
        have cycle := Text.precedes_trans before after
        rw [Text.precedes_irrefl] at cycle
        cases cycle
      rw [insertEntry, if_neg apart, if_neg behind,
        ih fun entry member => last entry (List.mem_cons_of_mem _ member)]
      rfl

theorem entries_foldl_insert (entries : List (Text × α)) (dictionary : Dictionary α)
    (ordered : (dictionary.entries ++ entries).Pairwise fun one other =>
      Text.precedes one.1 other.1 = true) :
    (entries.foldl (fun dictionary entry => dictionary.insert entry.1 entry.2) dictionary).entries =
      dictionary.entries ++ entries := by
  induction entries generalizing dictionary with
  | nil => simp
  | cons entry entries ih =>
      have last : ∀ earlier ∈ dictionary.entries, Text.precedes earlier.1 entry.1 = true := by
        intro earlier member
        exact (List.pairwise_append.1 ordered).2.2 earlier member entry List.mem_cons_self
      have grown : (dictionary.insert entry.1 entry.2).entries = dictionary.entries ++ [entry] :=
        insert_entry_last last
      rw [List.foldl_cons, ih]
      · rw [grown, List.append_assoc]
        rfl
      · rw [grown, List.append_assoc]
        exact ordered

theorem of_list_entries (dictionary : Dictionary α) : ofList dictionary.entries = dictionary := by
  have same := entries_foldl_insert dictionary.entries empty dictionary.ordered
  obtain ⟨entries, ordered⟩ := dictionary
  rw [ofList, Dictionary.mk.injEq]
  exact same

end Dictionary

end FaultContext
