import Mathlib.Tactic.SplitIfs
import FaultContext.Lookup.Search

/-!
# What the source cache holds

Over a disk that stays as it is, a cache holds nothing but what searching would find again, however
entries are moved to the front, given up or refused. So an answer from the cache is the answer of a
search, provided that two questions never share a key.
-/

namespace FaultContext.Lookup

set_option autoImplicit false

open Files (Disk)

/-- What the search for a source comes to: a source without lines where it finds nothing. -/
def sourceOf (places : Places) (disk : Disk) (qualifiedType fileName : Text) : Lines :=
  (search places disk qualifiedType fileName).getD []

/-- Questions of which no two different ones share a key. -/
def KeysApart (asked : Text → Text → Prop) : Prop :=
  ∀ one file other next, asked one file → asked other next →
    Cache.key one file = Cache.key other next → one = other ∧ file = next

theorem first_mark_unique (mark : Char) (front other back next : Text) (absent : mark ∉ front)
    (missing : mark ∉ other) (same : front ++ mark :: back = other ++ mark :: next) :
    front = other ∧ back = next := by
  induction front generalizing other with
  | nil =>
      cases other with
      | nil => exact ⟨rfl, by simpa using same⟩
      | cons c other =>
          obtain ⟨rfl, -⟩ := List.cons.inj same
          exact absurd (List.mem_cons_self ..) missing
  | cons c front ih =>
      cases other with
      | nil =>
          obtain ⟨rfl, -⟩ := List.cons.inj same
          exact absurd (List.mem_cons_self ..) absent
      | cons d other =>
          obtain ⟨rfl, rest⟩ := List.cons.inj same
          obtain ⟨rfl, rfl⟩ := ih other (fun member => absent (List.mem_cons_of_mem _ member))
            (fun member => missing (List.mem_cons_of_mem _ member)) rest
          exact ⟨rfl, rfl⟩

/-- Types without the mark of the keys keep the keys apart, whatever the files are called. -/
theorem keys_apart_without_mark : KeysApart fun qualifiedType _ => '#' ∉ qualifiedType := by
  intro one file other next absent missing same
  exact first_mark_unique '#' one other file next absent missing same

theorem mem_of_lookup {entries : List (Text × Lines)} {key : Text} {lines : Lines}
    (found : entries.lookup key = some lines) : (key, lines) ∈ entries := by
  obtain ⟨before, after, rfl, -⟩ := List.lookup_eq_some_iff.1 found
  exact List.mem_append_right before List.mem_cons_self

namespace Cache

theorem mem_promote {key : Text} {entries : List (Text × Lines)} {entry : Text × Lines}
    (member : entry ∈ promote key entries) : entry ∈ entries := by
  rw [promote] at member
  split at member
  · rename_i lines found
    rcases List.mem_cons.1 member with rfl | kept
    · exact mem_of_lookup found
    · exact (List.mem_filter.1 kept).1
  · exact member

theorem mem_get {cache : Cache} {key : Text} {entry : Text × Lines}
    (member : entry ∈ (cache.get key).2.entries) : entry ∈ cache.entries := by
  rw [get] at member
  dsimp only at member
  split at member
  · exact mem_promote member
  · exact member

theorem mem_insert {cache : Cache} {key : Text} {lines : Lines} {entry : Text × Lines}
    (member : entry ∈ (cache.insert key lines).entries) :
    entry = (key, lines) ∨ entry ∈ cache.entries := by
  rw [insert] at member
  split at member
  · exact Or.inr member
  · split at member
    · exact List.mem_cons.1 (List.mem_of_mem_take member)
    · split at member
      · rcases List.mem_append.1 member with old | new
        · exact Or.inr old
        · exact Or.inl (List.mem_singleton.1 new)
      · exact Or.inr member

end Cache

/-- Every entry of the cache is what the search comes to for a question of this kind. -/
def Faithful (places : Places) (disk : Disk) (asked : Text → Text → Prop) (cache : Cache) : Prop :=
  ∀ entry ∈ cache.entries, ∃ qualifiedType fileName, asked qualifiedType fileName ∧
    entry = (Cache.key qualifiedType fileName, sourceOf places disk qualifiedType fileName)

/-- Through a cache that is faithful a question is answered as without one, and the cache stays so. -/
theorem find_source_spec (places : Places) (disk : Disk) (asked : Text → Text → Prop)
    (apart : KeysApart asked) (qualifiedType fileName : Text) (question : asked qualifiedType fileName)
    (state : FinderState) (faithful : Faithful places disk asked state.cache) :
    (findSource places disk qualifiedType fileName state).1 =
        sourceOf places disk qualifiedType fileName ∧
      Faithful places disk asked (findSource places disk qualifiedType fileName state).2.cache := by
  rw [findSource]
  split
  · rename_i lines cache found
    have held : state.cache.entries.lookup (Cache.key qualifiedType fileName) = some lines :=
      congrArg Prod.fst found
    have kept : (state.cache.get (Cache.key qualifiedType fileName)).2 = cache :=
      congrArg Prod.snd found
    obtain ⟨other, next, earlier, same⟩ := faithful _ (mem_of_lookup held)
    obtain ⟨keys, rfl⟩ := Prod.mk.inj same
    obtain ⟨rfl, rfl⟩ := apart _ _ _ _ question earlier keys
    refine ⟨rfl, fun entry member => faithful entry ?_⟩
    exact Cache.mem_get (kept ▸ member)
  · rename_i cache found
    have kept : (state.cache.get (Cache.key qualifiedType fileName)).2 = cache :=
      congrArg Prod.snd found
    refine ⟨rfl, fun entry member => ?_⟩
    rcases Cache.mem_insert member with new | old
    · exact ⟨qualifiedType, fileName, question, new⟩
    · exact faithful entry (Cache.mem_get (kept ▸ old))

end FaultContext.Lookup
