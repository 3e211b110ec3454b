import FaultContext.Proofs.Recency
import FaultContext.Proofs.SourceRequests

/-!
# A larger source cache holds more

Two finders serve the same requests, one with less room for sources than the other. Entries carry the
lines that were read when they were made, which may differ between the two, so only keys are compared.
Whatever is moved to the front, given up or refused, the keys of the larger cache begin with those of
the smaller one: under `lru` both begin with the key used last, under `freeze` with the key entered
first.
-/

namespace FaultContext.Lookup

set_option autoImplicit false

open Files (Disk)

namespace Cache

def keys (cache : Cache) : List Text := cache.entries.map Prod.fst

/-- The cache after a lookup; `lines` is what a search has to say if the key has no entry. -/
def look (cache : Cache) (key : Text) (lines : Lines) : Cache :=
  match cache.get key with
  | (some _, next) => next
  | (none, next) => next.insert key lines

variable {cache small large : Cache} {key : Text}

theorem contains_iff_mem_keys : cache.contains key = true ↔ key ∈ cache.keys := by
  rw [contains, List.lookup_isSome_iff, keys, List.mem_map]
  constructor
  · rintro ⟨entry, held, same⟩
    exact ⟨entry, held, (eq_of_beq same).symm⟩
  · rintro ⟨entry, held, rfl⟩
    exact ⟨entry, held, beq_self_eq_true _⟩

theorem lookup_of_mem_keys (member : key ∈ cache.keys) :
    ∃ held, cache.entries.lookup key = some held :=
  Option.isSome_iff_exists.1 (contains_iff_mem_keys.2 member)

theorem lookup_of_not_mem_keys (absent : key ∉ cache.keys) : cache.entries.lookup key = none := by
  rw [← Option.not_isSome_iff_eq_none]
  exact fun found => absent (contains_iff_mem_keys.1 found)

theorem look_present (member : key ∈ cache.keys) (lines : Lines) :
    cache.look key lines = (cache.get key).2 := by
  obtain ⟨held, found⟩ := lookup_of_mem_keys member
  simp only [look, get, found]

theorem look_absent (absent : key ∉ cache.keys) (lines : Lines) :
    cache.look key lines = cache.insert key lines := by
  have missing := lookup_of_not_mem_keys absent
  have passed : cache.get key = (none, cache) := by
    rw [get, missing, promote_absent missing]
    split <;> rfl
  rw [look, passed]

theorem keys_get_lru (lru : cache.policy = .lru) (member : key ∈ cache.keys) :
    (cache.get key).2.keys = key :: cache.keys.filter (· != key) := by
  obtain ⟨held, found⟩ := lookup_of_mem_keys member
  rw [get, lru]
  simp only [keys, promote_present found, inFront, List.map_cons, List.filter_map]
  rfl

theorem get_freeze (freeze : cache.policy = .freeze) : (cache.get key).2 = cache := by
  rw [get, freeze]

theorem keys_insert_lru (lru : cache.policy = .lru) (absent : key ∉ cache.keys) (lines : Lines) :
    (cache.insert key lines).keys = (key :: cache.keys).take cache.capacity := by
  rw [insert, not_contains_of_lookup (lookup_of_not_mem_keys absent), lru]
  simp only [keys, Bool.false_eq_true, if_false, List.map_take, List.map_cons]

theorem keys_insert_freeze (freeze : cache.policy = .freeze) (absent : key ∉ cache.keys)
    (lines : Lines) :
    (cache.insert key lines).keys =
      if cache.keys.length < cache.capacity then cache.keys ++ [key] else cache.keys := by
  have count : cache.keys.length = cache.size := List.length_map ..
  rw [insert, not_contains_of_lookup (lookup_of_not_mem_keys absent), freeze, count]
  simp only [Bool.false_eq_true, if_false]
  by_cases room : cache.size < cache.capacity
  · rw [if_pos room, if_pos room, keys, List.map_append]
    rfl
  · rw [if_neg room, if_neg room]

theorem get_room (cache : Cache) (key : Text) :
    (cache.get key).2.policy = cache.policy ∧ (cache.get key).2.capacity = cache.capacity := by
  rw [get]
  dsimp only
  split <;> exact ⟨rfl, rfl⟩

theorem insert_room (cache : Cache) (key : Text) (lines : Lines) :
    (cache.insert key lines).policy = cache.policy ∧
      (cache.insert key lines).capacity = cache.capacity := by
  rw [insert]
  split
  · exact ⟨rfl, rfl⟩
  · split
    · exact ⟨rfl, rfl⟩
    · split <;> exact ⟨rfl, rfl⟩

theorem look_room (cache : Cache) (key : Text) (lines : Lines) :
    (cache.look key lines).policy = cache.policy ∧
      (cache.look key lines).capacity = cache.capacity := by
  by_cases member : key ∈ cache.keys
  · rw [look_present member]
    exact get_room cache key
  · rw [look_absent member]
    exact insert_room cache key lines

/-- The keys of the larger cache begin with those of the smaller one, and a smaller cache that takes
nothing more once it is full has refused no key before. -/
structure Extends (small large : Cache) : Prop where
  policy : small.policy = large.policy
  room : small.capacity ≤ large.capacity
  front : small.keys <+: large.keys
  spare : small.policy = .freeze → small.keys.length < small.capacity → small.keys = large.keys

theorem keys_look_lru_prefix (extended : Extends small large) (lru : small.policy = .lru)
    (key : Text) (lines others : Lines) :
    (small.look key lines).keys <+: (large.look key others).keys := by
  have same : large.policy = .lru := extended.policy ▸ lru
  by_cases inSmall : key ∈ small.keys
  · have inLarge : key ∈ large.keys := extended.front.subset inSmall
    rw [look_present inSmall, look_present inLarge, keys_get_lru lru inSmall,
      keys_get_lru same inLarge]
    exact (List.prefix_cons_inj key).2 (extended.front.filter _)
  · rw [look_absent inSmall, keys_insert_lru lru inSmall]
    by_cases inLarge : key ∈ large.keys
    · -- The smaller cache has given the key up, so taking it out of the larger one takes it from
      -- behind the keys that both have.
      have others : small.keys.filter (· != key) = small.keys := by
        rw [List.filter_eq_self]
        intro name member
        simpa using ne_of_mem_of_not_mem member inSmall
      have front : small.keys <+: large.keys.filter (· != key) :=
        others ▸ extended.front.filter (· != key)
      rw [look_present inLarge, keys_get_lru same inLarge]
      exact (List.take_prefix _ _).trans ((List.prefix_cons_inj key).2 front)
    · rw [look_absent inLarge, keys_insert_lru same inLarge]
      have front : key :: small.keys <+: key :: large.keys :=
        (List.prefix_cons_inj key).2 extended.front
      exact (front.take _).trans (List.take_prefix_take_left extended.room)

theorem keys_prefix_insert_freeze (freeze : cache.policy = .freeze) (absent : key ∉ cache.keys)
    (lines : Lines) : cache.keys <+: (cache.insert key lines).keys := by
  rw [keys_insert_freeze freeze absent]
  split
  · exact List.prefix_append _ _
  · exact List.prefix_rfl

theorem keys_prefix_look_freeze (freeze : cache.policy = .freeze) (key : Text) (lines : Lines) :
    cache.keys <+: (cache.look key lines).keys := by
  by_cases member : key ∈ cache.keys
  · rw [look_present member, get_freeze freeze]
  · rw [look_absent member]
    exact keys_prefix_insert_freeze freeze member lines

theorem look_extends_freeze (extended : Extends small large) (freeze : small.policy = .freeze)
    (key : Text) (lines others : Lines) :
    (small.look key lines).keys <+: (large.look key others).keys ∧
      ((small.look key lines).keys.length < small.capacity →
        (small.look key lines).keys = (large.look key others).keys) := by
  have same : large.policy = .freeze := extended.policy ▸ freeze
  by_cases spare : small.keys.length < small.capacity
  · -- Nothing was refused so far, so both hold the same keys and have room for this one.
    have equal := extended.spare freeze spare
    have further : large.keys.length < large.capacity :=
      equal ▸ spare.trans_le extended.room
    have next : (small.look key lines).keys = (large.look key others).keys := by
      by_cases member : key ∈ small.keys
      · rw [look_present member, look_present (equal ▸ member), get_freeze freeze, get_freeze same,
          equal]
      · rw [look_absent member, look_absent (equal ▸ member), keys_insert_freeze freeze member,
          keys_insert_freeze same (equal ▸ member), if_pos spare, if_pos further, equal]
    exact ⟨next ▸ List.prefix_rfl, fun _ => next⟩
  · have kept : (small.look key lines).keys = small.keys := by
      by_cases member : key ∈ small.keys
      · rw [look_present member, get_freeze freeze]
      · rw [look_absent member, keys_insert_freeze freeze member, if_neg spare]
    rw [kept]
    exact ⟨extended.front.trans (keys_prefix_look_freeze same key others),
      fun room => absurd room spare⟩

theorem look_extends (extended : Extends small large) (key : Text) (lines others : Lines) :
    Extends (small.look key lines) (large.look key others) := by
  obtain ⟨smallPolicy, smallRoom⟩ := look_room small key lines
  obtain ⟨largePolicy, largeRoom⟩ := look_room large key others
  have policy : (small.look key lines).policy = (large.look key others).policy := by
    rw [smallPolicy, largePolicy, extended.policy]
  have room : (small.look key lines).capacity ≤ (large.look key others).capacity := by
    rw [smallRoom, largeRoom]
    exact extended.room
  cases kind : small.policy with
  | lru =>
      refine ⟨policy, room, keys_look_lru_prefix extended kind key lines others, ?_⟩
      intro freeze
      rw [smallPolicy, kind] at freeze
      cases freeze
  | freeze =>
      obtain ⟨front, spare⟩ := look_extends_freeze extended kind key lines others
      exact ⟨policy, room, front, fun _ few => spare (smallRoom ▸ few)⟩

theorem clear_extends (extended : Extends small large) : Extends small.clear large.clear :=
  ⟨extended.policy, extended.room, List.prefix_rfl, fun _ _ => rfl⟩

theorem start_extends (policy : CachePolicy) {few many : Nat} (room : few ≤ many) :
    Extends { policy := policy, capacity := few } { policy := policy, capacity := many } :=
  ⟨rfl, room, List.prefix_rfl, fun _ _ => rfl⟩

end Cache

open Cache (Extends)

variable {places : Places} {disk : Disk} {small large : FinderState}

theorem find_source_cache (places : Places) (disk : Disk) (qualifiedType fileName : Text)
    (state : FinderState) :
    (findSource places disk qualifiedType fileName state).2.cache =
      state.cache.look (Cache.key qualifiedType fileName)
        (sourceOf places disk qualifiedType fileName) := by
  rw [findSource, Cache.look]
  cases state.cache.get (Cache.key qualifiedType fileName) with
  | mk found next => cases found <;> rfl

theorem find_source_counts (places : Places) (disk : Disk) (qualifiedType fileName : Text)
    (state : FinderState) :
    (findSource places disk qualifiedType fileName state).2.tally.source =
      state.tally.source.record (state.cache.contains (Cache.key qualifiedType fileName)) := by
  rw [findSource, Cache.contains, Cache.get]
  cases state.cache.entries.lookup (Cache.key qualifiedType fileName) <;> rfl

/-- A lookup that is counted as a hit of the cache. -/
def Hits (places : Places) (disk : Disk) (qualifiedType fileName : Text) (state : FinderState) :
    Prop :=
  (findSource places disk qualifiedType fileName state).2.tally.source.hits =
    state.tally.source.hits + 1

theorem hits_iff (places : Places) (disk : Disk) (qualifiedType fileName : Text)
    (state : FinderState) :
    Hits places disk qualifiedType fileName state ↔
      state.cache.contains (Cache.key qualifiedType fileName) = true := by
  rw [Hits, find_source_counts, Metrics.HitCount.record]
  cases state.cache.contains (Cache.key qualifiedType fileName) <;> simp

/-- The larger finder holds more and has missed less often. -/
structure DoesNoWorse (small large : FinderState) : Prop where
  holds : Extends small.cache large.cache
  misses : large.tally.source.misses ≤ small.tally.source.misses

theorem contains_extends {small large : Cache} (extended : Extends small large) {key : Text}
    (held : small.contains key = true) : large.contains key = true :=
  Cache.contains_iff_mem_keys.2 (extended.front.subset (Cache.contains_iff_mem_keys.1 held))

theorem find_source_no_worse (better : DoesNoWorse small large) (places : Places) (disk : Disk)
    (qualifiedType fileName : Text) :
    DoesNoWorse (findSource places disk qualifiedType fileName small).2
      (findSource places disk qualifiedType fileName large).2 := by
  refine ⟨?_, ?_⟩
  · rw [find_source_cache, find_source_cache]
    exact Cache.look_extends better.holds _ _ _
  · have fewer := better.misses
    have inherited : small.cache.contains (Cache.key qualifiedType fileName) = true →
        large.cache.contains (Cache.key qualifiedType fileName) = true := contains_extends better.holds
    rw [find_source_counts, find_source_counts, Metrics.HitCount.record, Metrics.HitCount.record]
    cases held : small.cache.contains (Cache.key qualifiedType fileName) with
    | true =>
        rw [inherited held]
        exact fewer
    | false =>
        cases large.cache.contains (Cache.key qualifiedType fileName)
        · exact Nat.succ_le_succ fewer
        · exact Nat.le_succ_of_le fewer

theorem serve_no_worse (better : DoesNoWorse small large) (places : Places) (disk : Disk)
    (request : Request) :
    DoesNoWorse (serve places disk request small).2 (serve places disk request large).2 := by
  cases request with
  | find qualifiedType fileName => exact find_source_no_worse better places disk qualifiedType fileName
  | clear => exact ⟨Cache.clear_extends better.holds, better.misses⟩

/-- The finder after some requests, each with the disk as it is then. -/
def serveOver (places : Places) : List (Disk × Request) → FinderState → FinderState
  | [], state => state
  | (disk, request) :: requests, state => serveOver places requests (serve places disk request state).2

theorem serve_over_no_worse (better : DoesNoWorse small large) (places : Places)
    (requests : List (Disk × Request)) :
    DoesNoWorse (serveOver places requests small) (serveOver places requests large) := by
  induction requests generalizing small large with
  | nil => exact better
  | cons request requests ih => exact ih (serve_no_worse better places request.1 request.2)

/-- With more room no more lookups miss, and each lookup that hits with less room hits. -/
theorem larger_cache_no_worse (places : Places) (policy : CachePolicy) (few many : Nat)
    (room : few ≤ many) (tally : Metrics.Tally) (requests : List (Disk × Request)) :
    let small := FinderState.start policy few tally
    let large := FinderState.start policy many tally
    (serveOver places requests large).tally.source.misses ≤
        (serveOver places requests small).tally.source.misses ∧
      ∀ earlier disk qualifiedType fileName later,
        requests = earlier ++ (disk, .find qualifiedType fileName) :: later →
          Hits places disk qualifiedType fileName (serveOver places earlier small) →
            Hits places disk qualifiedType fileName (serveOver places earlier large) := by
  intro small large
  have start : DoesNoWorse small large := ⟨Cache.start_extends policy room, Nat.le_refl _⟩
  refine ⟨(serve_over_no_worse start places requests).misses, ?_⟩
  intro earlier disk qualifiedType fileName later _ hit
  rw [hits_iff] at hit ⊢
  exact contains_extends (serve_over_no_worse start places earlier).holds hit

/-- One type, the same again, another one, and the first once more. -/
def alternating : List (Disk × Request) :=
  [(oneFile, .find "p.A".toList "A.java".toList), (oneFile, .find "p.A".toList "A.java".toList),
    (oneFile, .find "p.B".toList "B.java".toList), (oneFile, .find "p.A".toList "A.java".toList)]

theorem larger_cache_no_worse_alternating :
    let small := FinderState.start .lru 1 {}
    let large := FinderState.start .lru 2 {}
    (serveOver oneRoot alternating small).tally.source = ⟨1, 3⟩ ∧
      (serveOver oneRoot alternating large).tally.source = ⟨2, 2⟩ ∧
      (serveOver oneRoot alternating large).tally.source.misses ≤
        (serveOver oneRoot alternating small).tally.source.misses ∧
      Hits oneRoot oneFile "p.A".toList "A.java".toList
        (serveOver oneRoot (alternating.take 1) large) := by
  intro small large
  obtain ⟨misses, hits⟩ := larger_cache_no_worse oneRoot .lru 1 2 (by decide) {} alternating
  refine ⟨by decide +kernel, by decide +kernel, misses, ?_⟩
  refine hits (alternating.take 1) oneFile "p.A".toList "A.java".toList (alternating.drop 2) rfl ?_
  rw [hits_iff]
  decide +kernel

end FaultContext.Lookup
