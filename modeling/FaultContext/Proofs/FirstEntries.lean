import Mathlib.Data.List.DropRight
import FaultContext.Proofs.CacheInclusion

/-!
# What a cache without replacement holds

A cache that takes nothing more once it is full holds the keys that came first, each with the lines it
came with. What came counts from the last time the cache was cleared; asking for a key has no part in
it, and neither has what comes again or too late.
-/

namespace FaultContext.Lookup.Cache

set_option autoImplicit false

def Operation.entry? : Operation → Option (Text × Lines)
  | .insert key lines => some (key, lines)
  | .get _ | .clear => none

/-- What the operations insert after the last of them that clears the cache, the earliest first. -/
def inserted (operations : List Operation) : List (Text × Lines) :=
  (operations.rtakeWhile (· != .clear)).filterMap Operation.entry?

/-- The keys of some entries, each where it comes first. -/
def firstKeys (entries : List (Text × Lines)) : List Text := (entries.map Prod.fst).eraseDups

section Entries

variable {key : Text} {entries : List (Text × Lines)}

theorem inserted_clear (operations : List Operation) : inserted (operations ++ [.clear]) = [] := by
  rw [inserted, List.rtakeWhile_concat]
  rfl

theorem inserted_get (operations : List Operation) (key : Text) :
    inserted (operations ++ [.get key]) = inserted operations := by
  have stays : (Operation.get key != .clear) = true := rfl
  rw [inserted, List.rtakeWhile_concat, if_pos stays, List.filterMap_append]
  exact List.append_nil _

theorem inserted_insert (operations : List Operation) (key : Text) (lines : Lines) :
    inserted (operations ++ [.insert key lines]) = inserted operations ++ [(key, lines)] := by
  have stays : (Operation.insert key lines != .clear) = true := rfl
  rw [inserted, List.rtakeWhile_concat, if_pos stays, List.filterMap_append]
  rfl

theorem mem_first_keys_iff : key ∈ firstKeys entries ↔ key ∈ entries.map Prod.fst :=
  List.mem_eraseDups

theorem lookup_of_mem_first_keys (member : key ∈ firstKeys entries) :
    ∃ lines, entries.lookup key = some lines := by
  obtain ⟨entry, held, same⟩ := List.mem_map.1 (mem_first_keys_iff.1 member)
  refine Option.isSome_iff_exists.1 (List.lookup_isSome_iff.2 ⟨entry, held, ?_⟩)
  exact beq_iff_eq.2 same.symm

theorem lookup_of_not_mem_first_keys (absent : key ∉ firstKeys entries) :
    entries.lookup key = none := by
  refine List.lookup_eq_none_iff.2 ?_
  intro entry held
  have apart : key ≠ entry.1 := by
    rintro rfl
    exact absent (mem_first_keys_iff.2 (List.mem_map_of_mem held))
  simpa using apart

theorem first_keys_known (lines : Lines) (member : key ∈ firstKeys entries) :
    firstKeys (entries ++ [(key, lines)]) = firstKeys entries := by
  have known := mem_first_keys_iff.1 member
  simp [firstKeys, List.eraseDups_append, List.removeAll, known]

theorem first_keys_fresh (lines : Lines) (absent : key ∉ firstKeys entries) :
    firstKeys (entries ++ [(key, lines)]) = firstKeys entries ++ [key] := by
  have fresh := mt mem_first_keys_iff.2 absent
  simp [firstKeys, List.eraseDups_append, List.removeAll, fresh, List.eraseDups_cons]

end Entries

/-- The cache is frozen and holds, of some entries, the first keys that there is room for, each as it
comes first. -/
structure Gathers (capacity : Nat) (entries : List (Text × Lines)) (cache : Cache) : Prop where
  policy : cache.policy = .freeze
  room : cache.capacity = capacity
  keys : cache.keys = (firstKeys entries).take capacity
  values : ∀ key ∈ cache.keys, cache.entries.lookup key = entries.lookup key

variable {capacity : Nat} {key : Text} {entries : List (Text × Lines)} {cache : Cache}

theorem insert_present (present : key ∈ cache.keys) (lines : Lines) :
    cache.insert key lines = cache := by
  rw [insert, contains_iff_mem_keys.2 present, if_pos rfl]

theorem insert_full (policy : cache.policy = .freeze) (full : cache.capacity ≤ cache.size)
    (key : Text) (lines : Lines) : cache.insert key lines = cache := by
  rw [insert, policy]
  dsimp only
  rw [if_neg (Nat.not_lt.2 full), ite_self]

theorem insert_fresh (policy : cache.policy = .freeze) (absent : key ∉ cache.keys)
    (room : cache.size < cache.capacity) (lines : Lines) :
    cache.insert key lines = { cache with entries := cache.entries ++ [(key, lines)] } := by
  rw [insert, not_contains_of_lookup (lookup_of_not_mem_keys absent), policy]
  simp only [Bool.false_eq_true, if_false, if_pos room]

theorem gathers_start (capacity : Nat) :
    Gathers capacity [] { policy := .freeze, capacity := capacity } :=
  ⟨rfl, rfl, List.take_nil.symm, fun _ member => nomatch member⟩

theorem gathers_size (gathers : Gathers capacity entries cache) :
    cache.size = min capacity (firstKeys entries).length := by
  have count : cache.keys.length = cache.size := List.length_map ..
  rw [← count, gathers.keys, List.length_take]

theorem mem_first_keys_of_held (gathers : Gathers capacity entries cache) (held : key ∈ cache.keys) :
    key ∈ firstKeys entries := by
  rw [gathers.keys] at held
  exact List.mem_of_mem_take held

theorem values_append (gathers : Gathers capacity entries cache) (held : key ∈ cache.keys)
    (more : List (Text × Lines)) :
    cache.entries.lookup key = (entries ++ more).lookup key := by
  obtain ⟨lines, found⟩ := lookup_of_mem_first_keys (mem_first_keys_of_held gathers held)
  rw [gathers.values key held, List.lookup_append, found, Option.some_or]

/-- What comes again or too late leaves the cache as it is. -/
theorem gathers_passed (gathers : Gathers capacity entries cache) (lines : Lines)
    (passed : key ∈ firstKeys entries ∨ capacity ≤ (firstKeys entries).length) :
    Gathers capacity (entries ++ [(key, lines)]) cache := by
  refine ⟨gathers.policy, gathers.room, ?_, fun held member => values_append gathers member _⟩
  by_cases known : key ∈ firstKeys entries
  · rw [first_keys_known lines known]
    exact gathers.keys
  · have late := passed.resolve_left known
    rw [first_keys_fresh lines known, List.take_append_of_le_length late]
    exact gathers.keys

theorem gathers_added (gathers : Gathers capacity entries cache) (lines : Lines)
    (absent : key ∉ cache.keys) (room : (firstKeys entries).length < capacity) :
    Gathers capacity (entries ++ [(key, lines)])
      { cache with entries := cache.entries ++ [(key, lines)] } := by
  -- Nothing was refused so far, so a key that is not held did not come before.
  have whole : cache.keys = firstKeys entries := by
    rw [gathers.keys, List.take_of_length_le room.le]
  have fresh : key ∉ firstKeys entries := whole ▸ absent
  have further : (firstKeys entries ++ [key]).length ≤ capacity := by
    rw [List.length_append]
    exact room
  refine ⟨gathers.policy, gathers.room, ?_, ?_⟩
  · rw [first_keys_fresh lines fresh, List.take_of_length_le further, ← whole]
    exact List.map_append
  · intro held member
    dsimp only
    rw [List.lookup_append, List.lookup_append]
    by_cases earlier : held ∈ cache.keys
    · rw [gathers.values held earlier]
    · have before : held ∉ firstKeys entries := whole ▸ earlier
      rw [lookup_of_not_mem_keys earlier, lookup_of_not_mem_first_keys before]

theorem insert_gathers (gathers : Gathers capacity entries cache) (key : Text) (lines : Lines) :
    Gathers capacity (entries ++ [(key, lines)]) (cache.insert key lines) := by
  have size := gathers_size gathers
  by_cases held : key ∈ cache.keys
  · rw [insert_present held]
    exact gathers_passed gathers lines (.inl (mem_first_keys_of_held gathers held))
  · by_cases room : (firstKeys entries).length < capacity
    · have spare : cache.size < cache.capacity := by
        rw [size, gathers.room]
        omega
      rw [insert_fresh gathers.policy held spare]
      exact gathers_added gathers lines held room
    · have full : cache.capacity ≤ cache.size := by
        rw [size, gathers.room]
        omega
      rw [insert_full gathers.policy full]
      exact gathers_passed gathers lines (.inr (Nat.not_lt.1 room))

theorem perform_gathers {operations : List Operation}
    (gathers : Gathers capacity (inserted operations) cache) (operation : Operation) :
    Gathers capacity (inserted (operations ++ [operation])) (cache.perform operation) := by
  cases operation with
  | insert key lines =>
      rw [inserted_insert]
      exact insert_gathers gathers key lines
  | get key =>
      rw [inserted_get, perform, get_freeze gathers.policy]
      exact gathers
  | clear =>
      rw [inserted_clear]
      exact ⟨gathers.policy, gathers.room, List.take_nil.symm, fun _ member => nomatch member⟩

theorem perform_all_gathers (capacity : Nat) (operations : List Operation) :
    Gathers capacity (inserted operations)
      (performAll { policy := .freeze, capacity := capacity } operations) := by
  induction operations using List.reverseRecOn with
  | nil => exact gathers_start capacity
  | append_singleton operations operation ih =>
      rw [performAll, List.foldl_append]
      exact perform_gathers ih operation

theorem perform_full (policy : cache.policy = .freeze) (full : cache.capacity ≤ cache.size)
    (operation : Operation) (kept : operation ≠ .clear) : cache.perform operation = cache := by
  cases operation with
  | insert key lines => exact insert_full policy full key lines
  | get key => exact get_freeze policy
  | clear => exact absurd rfl kept

/-- Once it is full, a cache without replacement stays as it is until it is cleared. -/
theorem perform_all_full (policy : cache.policy = .freeze) (full : cache.capacity ≤ cache.size)
    (operations : List Operation) (kept : .clear ∉ operations) :
    cache.performAll operations = cache := by
  induction operations with
  | nil => rfl
  | cons operation operations ih =>
      obtain ⟨here, later⟩ := List.ne_and_not_mem_of_not_mem_cons kept
      rw [performAll, List.foldl_cons, perform_full policy full operation (Ne.symm here)]
      exact ih later

theorem gathers_get (gathers : Gathers capacity entries cache) (key : Text) :
    (cache.get key).1 =
      if key ∈ (firstKeys entries).take capacity then entries.lookup key else none := by
  rw [← gathers.keys, get]
  dsimp only
  split_ifs with held
  · exact gathers.values key held
  · exact lookup_of_not_mem_keys held

/-- After any operations on an empty cache without replacement its keys are the first that were
inserted since it was last cleared, as many as there is room for, and each has the lines with which it
was first inserted. Asking changes nothing, and a key that is refused because the cache is full stays
out of it until it is cleared. -/
theorem freeze_contents_exact (capacity : Nat) (operations : List Operation) :
    let empty : Cache := { policy := .freeze, capacity := capacity }
    let reached := empty.performAll operations
    let first := (firstKeys (inserted operations)).take capacity
    reached.keys = first ∧
      (∀ key, (reached.get key).1 =
        if key ∈ first then (inserted operations).lookup key else none) ∧
      (∀ key, (reached.get key).2 = reached) ∧
      (capacity ≤ reached.size → ∀ key later, reached.contains key = false → .clear ∉ later →
        (∀ lines, reached.insert key lines = reached) ∧
          (reached.performAll later).contains key = false) := by
  intro empty reached first
  have gathers : Gathers capacity (inserted operations) reached :=
    perform_all_gathers capacity operations
  refine ⟨gathers.keys, gathers_get gathers, fun key => get_freeze gathers.policy, ?_⟩
  intro full key later absent kept
  have stuck : reached.capacity ≤ reached.size := gathers.room ▸ full
  refine ⟨insert_full gathers.policy stuck key, ?_⟩
  rw [perform_all_full gathers.policy stuck later kept]
  exact absent

theorem freeze_contents_exact_refused :
    let empty : Cache := { policy := .freeze, capacity := 2 }
    let operations : List Operation := [.insert "z".toList [], .clear, .insert "a".toList ["x".toList],
      .get "c".toList, .insert "a".toList [], .insert "b".toList [], .insert "c".toList []]
    let reached := empty.performAll operations
    reached.keys = ["a".toList, "b".toList] ∧
      (reached.get "a".toList).1 = some ["x".toList] ∧
      2 ≤ reached.size ∧ reached.contains "c".toList = false ∧
      (reached.performAll [.get "c".toList, .insert "c".toList []]).contains "c".toList = false := by
  intro empty operations reached
  obtain ⟨keys, lines, -, refused⟩ := freeze_contents_exact 2 operations
  have full : 2 ≤ reached.size := by decide +kernel
  have absent : reached.contains "c".toList = false := by decide +kernel
  obtain ⟨-, out⟩ := refused full "c".toList [.get "c".toList, .insert "c".toList []] absent
    (by decide)
  exact ⟨keys.trans (by decide +kernel), (lines "a".toList).trans (by decide +kernel), full, absent,
    out⟩

end FaultContext.Lookup.Cache
