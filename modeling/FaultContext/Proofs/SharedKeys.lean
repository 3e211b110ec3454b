import FaultContext.Proofs.CacheInclusion
import FaultContext.Trace.Frame

/-!
# Lookups that share an entry

A key is the type and the file with a mark between them, and the mark may also stand in the type or in
the file. So a key can be cut in several ways, and lookups that come from different cuts of one key
are one lookup to the cache: the second of them is answered with the source of the first.
-/

namespace FaultContext.Lookup

set_option autoImplicit false

open Files (Disk)

/-- The first type ends before a mark of the other one, and what stands between that mark and the end
of the other type begins the first file. -/
def CutBefore (one file other next : Text) : Prop :=
  ∃ middle, other = one ++ '#' :: middle ∧ file = middle ++ '#' :: next

theorem same_or_cut_before {one file other next : Text}
    (prior : ∃ middle, other = one ++ middle ∧ '#' :: file = middle ++ '#' :: next) :
    (one = other ∧ file = next) ∨ CutBefore one file other next := by
  obtain ⟨middle, longer, rest⟩ := prior
  rcases List.cons_eq_append_iff.1 rest with ⟨rfl, behind⟩ | ⟨inner, rfl, behind⟩
  · left
    rw [longer, List.append_nil]
    exact ⟨rfl, (List.cons.inj behind).2.symm⟩
  · right
    exact ⟨inner, longer, behind⟩

theorem key_eq_iff (one file other next : Text) :
    Cache.key one file = Cache.key other next ↔
      (one = other ∧ file = next) ∨ CutBefore one file other next ∨
        CutBefore other next one file := by
  unfold Cache.key
  constructor
  · intro same
    rcases List.append_eq_append_iff.1 same with prior | prior
    · rcases same_or_cut_before prior with equal | cut
      · exact .inl equal
      · exact .inr (.inl cut)
    · rcases same_or_cut_before prior with ⟨types, files⟩ | cut
      · exact .inl ⟨types.symm, files.symm⟩
      · exact .inr (.inr cut)
  · rintro (⟨rfl, rfl⟩ | ⟨middle, rfl, rfl⟩ | ⟨middle, rfl, rfl⟩)
    · rfl
    · rw [List.append_assoc, List.cons_append]
    · rw [List.append_assoc, List.cons_append]

namespace Cache

variable {cache : Cache} {key : Text}

theorem lookup_get (cache : Cache) (key other : Text) :
    (cache.get key).2.entries.lookup other = cache.entries.lookup other := by
  rw [get]
  dsimp only
  split
  · exact lookup_promote
  · rfl

/-- What an absent key is entered with stands under it, if the cache takes it. -/
theorem lookup_insert_taken (absent : cache.entries.lookup key = none) (lines : Lines)
    (taken : (cache.insert key lines).contains key = true) :
    (cache.insert key lines).entries.lookup key = some lines := by
  rw [insert, not_contains_of_lookup absent, if_neg Bool.false_ne_true] at taken ⊢
  cases policy : cache.policy with
  | lru =>
      rw [policy] at taken
      dsimp only at taken ⊢
      cases room : cache.capacity with
      | zero =>
          rw [room] at taken
          cases taken
      | succ count => exact List.lookup_cons_self
  | freeze =>
      rw [policy] at taken
      dsimp only at taken ⊢
      split_ifs at taken ⊢ with room
      · rw [List.lookup_append, absent]
        exact List.lookup_cons_self
      · rw [not_contains_of_lookup absent] at taken
        cases taken

end Cache

variable {places : Places} {disk : Disk} {qualifiedType fileName : Text} {state : FinderState}

theorem find_source_present {lines : Lines}
    (found : state.cache.entries.lookup (Cache.key qualifiedType fileName) = some lines) :
    (findSource places disk qualifiedType fileName state).1 = lines := by
  rw [findSource, Cache.get, found]

theorem find_source_absent
    (absent : state.cache.entries.lookup (Cache.key qualifiedType fileName) = none) :
    (findSource places disk qualifiedType fileName state).1 =
      sourceOf places disk qualifiedType fileName := by
  rw [findSource, Cache.get, absent]
  rfl

/-- A lookup whose entry is in the cache afterwards has left its answer there. -/
theorem find_source_leaves
    (kept : (findSource places disk qualifiedType fileName state).2.cache.contains
      (Cache.key qualifiedType fileName) = true) :
    (findSource places disk qualifiedType fileName state).2.cache.entries.lookup
        (Cache.key qualifiedType fileName) =
      some (findSource places disk qualifiedType fileName state).1 := by
  rw [find_source_cache] at kept ⊢
  cases held : state.cache.entries.lookup (Cache.key qualifiedType fileName) with
  | some lines =>
      have member : Cache.key qualifiedType fileName ∈ state.cache.keys :=
        Cache.contains_iff_mem_keys.1 (Cache.contains_of_lookup held)
      rw [Cache.look_present member, Cache.lookup_get, held, find_source_present held]
  | none =>
      have missing : Cache.key qualifiedType fileName ∉ state.cache.keys := by
        rw [← Cache.contains_iff_mem_keys, Cache.not_contains_of_lookup held]
        exact Bool.false_ne_true
      rw [Cache.look_absent missing] at kept ⊢
      rw [Cache.lookup_insert_taken held _ kept, find_source_absent held]

/-- Two lookups have one key just when they are the same lookup, or one type ends before a mark of the
other and the rest of the other stands before a mark in the first file. Then the second gets what the
first left in the cache, whatever its own source is. -/
theorem entry_shared_iff (one file other next : Text) :
    (Cache.key one file = Cache.key other next ↔
        (one = other ∧ file = next) ∨ CutBefore one file other next ∨
          CutBefore other next one file) ∧
      (Cache.key one file = Cache.key other next →
        ∀ places here there state,
          let first := findSource places here one file state
          first.2.cache.contains (Cache.key one file) = true →
            (findSource places there other next first.2).1 = first.1 ∧
              Hits places there other next first.2) := by
  refine ⟨key_eq_iff one file other next, ?_⟩
  intro shared places here there state first kept
  have left := find_source_leaves kept
  rw [shared] at left
  constructor
  · exact find_source_present left
  · rw [hits_iff]
    exact Cache.contains_of_lookup left

/-- A disk with a file `c` below `/w`, and none with a mark in its name. -/
def plainFile : Disk :=
  ⟨.directory [("w".toList, .directory [("c".toList, .file ⟨#[120, 10]⟩)])], "/w".toList⟩

/-- In the other order the second lookup gets the miss of the first, and its own file is not read. -/
theorem entry_shared_iff_missed :
    CutBefore "a".toList "b#c".toList "a#b".toList "c".toList ∧
      let first := findSource oneRoot plainFile "a".toList "b#c".toList (.start .freeze 1 {})
      first.2.cache.contains (Cache.key "a".toList "b#c".toList) = true ∧
        sourceOf oneRoot plainFile "a#b".toList "c".toList = ["x".toList] ∧
        (findSource oneRoot plainFile "a#b".toList "c".toList first.2).1 = [] := by
  have cut : CutBefore "a".toList "b#c".toList "a#b".toList "c".toList := ⟨"b".toList, rfl, rfl⟩
  refine ⟨cut, ?_⟩
  intro first
  have kept : first.2.cache.contains (Cache.key "a".toList "b#c".toList) = true := by decide +kernel
  have missed : first.1 = [] := by decide +kernel
  obtain ⟨shared, second⟩ := entry_shared_iff "a".toList "b#c".toList "a#b".toList "c".toList
  obtain ⟨answer, -⟩ := second (shared.2 (.inr (.inl cut))) oneRoot plainFile plainFile
    (.start .freeze 1 {}) kept
  refine ⟨kept, by decide +kernel, ?_⟩
  rw [answer]
  exact missed

/-- Two frames of traces differ in type and file and share a key. The source of the second is not
there, and it gets that of the first. -/
theorem entry_shared_by_frames :
    ∃ first second : Trace.Frame, ∃ file next,
      Trace.Frame.parse? "at a#b.run(c)".toList = some first ∧ first.fileName = some file ∧
      Trace.Frame.parse? "at a.run(b#c)".toList = some second ∧ second.fileName = some next ∧
      first.qualifiedType ≠ second.qualifiedType ∧ file ≠ next ∧
      Cache.key first.qualifiedType file = Cache.key second.qualifiedType next ∧
      sourceOf oneRoot plainFile second.qualifiedType next = [] ∧
      (serveAll oneRoot plainFile [.find first.qualifiedType file, .find second.qualifiedType next]
        (.start .lru 100 {})).1 = [some ["x".toList], some ["x".toList]] := by
  refine ⟨⟨"a#b".toList, "run".toList, some "c".toList, none⟩,
    ⟨"a".toList, "run".toList, some "b#c".toList, none⟩, "c".toList, "b#c".toList, ?_⟩
  refine ⟨?_, rfl, ?_, rfl, ?_, ?_, rfl, ?_, ?_⟩ <;> decide +kernel

end FaultContext.Lookup
