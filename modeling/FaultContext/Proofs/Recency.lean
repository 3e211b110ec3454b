import Mathlib.Data.Finset.Card
import FaultContext.Lookup.Cache

/-!
# What an LRU cache holds

The contents of a cache that gives up the entry used longest ago can be read off its history. Without a
bound it would hold all that was added since it was cleared, the latest used in front; with room for
some entries it holds that many of the front. How far in front an entry stands is how many other keys
were used after it.
-/

namespace FaultContext.Lookup

set_option autoImplicit false

namespace Cache

inductive Operation where
  | insert (key : Text) (lines : Lines)
  | get (key : Text)
  | clear
deriving DecidableEq, Repr

def perform (cache : Cache) : Operation → Cache
  | .insert key lines => cache.insert key lines
  | .get key => (cache.get key).2
  | .clear => cache.clear

def performAll (cache : Cache) (operations : List Operation) : Cache :=
  operations.foldl perform cache

/-- What an operation does: it adds an absent key, hits a present one, empties the cache or passes. -/
inductive Effect where
  | added (key : Text) (lines : Lines)
  | hit (key : Text)
  | cleared
  | passed
deriving DecidableEq, Repr

def Effect.key? : Effect → Option Text
  | .added key _ | .hit key => some key
  | .cleared | .passed => none

def effect (cache : Cache) : Operation → Effect
  | .insert key lines => if cache.contains key then .passed else .added key lines
  | .get key => if cache.contains key then .hit key else .passed
  | .clear => .cleared

/-- The effects of operations one after the other, the latest in front. -/
def history (cache : Cache) : List Operation → List Effect → List Effect
  | [], past => past
  | operation :: operations, past =>
      history (cache.perform operation) operations (cache.effect operation :: past)

def Effect.linesOf? (key : Text) : Effect → Option Lines
  | .added other lines => if other = key then some lines else none
  | _ => none

/-- The lines with which a key was last added since the cache was cleared. -/
def lastAdded (key : Text) (past : List Effect) : Option Lines :=
  (past.takeWhile (· != .cleared)).findSome? (Effect.linesOf? key)

/-- The keys that were used since a key was last used itself. -/
def usedSince (key : Text) (past : List Effect) : List Text :=
  (past.takeWhile fun effect => effect.key? != some key).filterMap Effect.key?

/-- The entries with a new one in front, instead of any that the key has among them. -/
def inFront (key : Text) (lines : Lines) (entries : List (Text × Lines)) : List (Text × Lines) :=
  (key, lines) :: entries.filter fun entry => entry.1 != key

theorem promote_present {key : Text} {lines : Lines} {entries : List (Text × Lines)}
    (found : entries.lookup key = some lines) : promote key entries = inFront key lines entries := by
  rw [promote, found, inFront]

theorem promote_absent {key : Text} {entries : List (Text × Lines)}
    (absent : entries.lookup key = none) : promote key entries = entries := by
  rw [promote, absent]

/-- What a cache without a bound would hold, the latest used in front. -/
def ranked : List Effect → List (Text × Lines)
  | [] => []
  | .cleared :: _ => []
  | .passed :: past => ranked past
  | .added key lines :: past => inFront key lines (ranked past)
  | .hit key :: past => promote key (ranked past)

def ahead (key : Text) (entries : List (Text × Lines)) : List Text :=
  (entries.takeWhile fun entry => entry.1 != key).map Prod.fst

section Entries

variable {key other : Text} {lines : Lines} {entries : List (Text × Lines)}

theorem lookup_cons_other (apart : key ≠ other) :
    ((other, lines) :: entries).lookup key = entries.lookup key := by
  have unequal : (key == other) = false := by simpa using apart
  rw [List.lookup_cons, unequal]

theorem filter_cons_other (apart : key ≠ other) :
    (((other, lines) :: entries).filter fun entry => entry.1 != key) =
      (other, lines) :: entries.filter fun entry => entry.1 != key := by
  have stays : (other != key) = true := by simpa using Ne.symm apart
  exact List.filter_cons_of_pos stays

theorem filter_cons_self :
    (((key, lines) :: entries).filter fun entry => entry.1 != key) =
      entries.filter fun entry => entry.1 != key :=
  List.filter_cons_of_neg (by simp)

theorem lookup_filter_other (apart : key ≠ other) :
    (entries.filter fun entry => entry.1 != other).lookup key = entries.lookup key := by
  induction entries with
  | nil => rfl
  | cons entry entries ih =>
      obtain ⟨name, held⟩ := entry
      by_cases dropped : other = name
      · subst dropped
        rw [filter_cons_self, lookup_cons_other apart, ih]
      · rw [filter_cons_other dropped, List.lookup_cons, List.lookup_cons, ih]

theorem lookup_in_front_self : (inFront key lines entries).lookup key = some lines :=
  List.lookup_cons_self

theorem lookup_in_front_other (apart : key ≠ other) :
    (inFront other lines entries).lookup key = entries.lookup key := by
  rw [inFront, lookup_cons_other apart, lookup_filter_other apart]

theorem lookup_promote : (promote other entries).lookup key = entries.lookup key := by
  cases found : entries.lookup other with
  | none => rw [promote_absent found]
  | some held =>
      rw [promote_present found]
      by_cases same : key = other
      · subst same
        rw [lookup_in_front_self, found]
      · exact lookup_in_front_other same

theorem ahead_cons_self : ahead key ((key, lines) :: entries) = [] := by
  simp [ahead]

theorem ahead_cons_other (apart : key ≠ other) :
    ahead key ((other, lines) :: entries) = other :: ahead key entries := by
  have passed : (other != key) = true := by simpa using Ne.symm apart
  simp [ahead, passed]

/-- As far as there is room in front of it, a key is found. -/
theorem lookup_take (count : Nat) :
    (entries.take count).lookup key =
      if (ahead key entries).length < count then entries.lookup key else none := by
  induction entries generalizing count with
  | nil => simp
  | cons entry entries ih =>
      obtain ⟨name, held⟩ := entry
      cases count with
      | zero => simp
      | succ count =>
          by_cases same : key = name
          · subst same
            simp [ahead_cons_self]
          · rw [List.take_succ_cons, lookup_cons_other same, lookup_cons_other same,
              ahead_cons_other same, List.length_cons, ih]
            simp only [Nat.add_lt_add_iff_right]

theorem ahead_filter_other (apart : key ≠ other) :
    ahead key (entries.filter fun entry => entry.1 != other) =
      (ahead key entries).filter (· != other) := by
  induction entries with
  | nil => rfl
  | cons entry entries ih =>
      obtain ⟨name, held⟩ := entry
      by_cases dropped : other = name
      · subst dropped
        rw [filter_cons_self, ahead_cons_other apart, List.filter_cons_of_neg (by simp), ih]
      · rw [filter_cons_other dropped]
        by_cases same : key = name
        · subst same
          rw [ahead_cons_self, ahead_cons_self]
          rfl
        · have stays : (name != other) = true := by simpa using Ne.symm dropped
          rw [ahead_cons_other same, ahead_cons_other same, ih]
          exact (List.filter_cons_of_pos (p := (· != other)) stays).symm

theorem ahead_in_front_self : ahead key (inFront key lines entries) = [] :=
  ahead_cons_self

theorem ahead_in_front_other (apart : key ≠ other) :
    ahead key (inFront other lines entries) = other :: (ahead key entries).filter (· != other) := by
  rw [inFront, ahead_cons_other apart, ahead_filter_other apart]

theorem nodup_in_front (distinct : (entries.map Prod.fst).Nodup) :
    ((inFront key lines entries).map Prod.fst).Nodup := by
  have kept : ((entries.filter fun entry => entry.1 != key).map Prod.fst).Sublist
      (entries.map Prod.fst) := List.filter_sublist.map Prod.fst
  refine List.nodup_cons.2 ⟨?_, kept.nodup distinct⟩
  intro member
  obtain ⟨entry, held, same⟩ := List.mem_map.1 member
  have apart : (entry.1 != key) = true := (List.mem_filter.1 held).2
  simp [same] at apart

theorem filter_absent (absent : entries.lookup key = none) :
    (entries.filter fun entry => entry.1 != key) = entries := by
  refine List.filter_eq_self.2 ?_
  intro entry member
  have apart := List.lookup_eq_none_iff.1 absent entry member
  simpa using Ne.symm (by simpa using apart)

theorem take_filter_absent (count : Nat) (absent : (entries.take count).lookup key = none) :
    (entries.filter fun entry => entry.1 != key).take count = entries.take count := by
  induction entries generalizing count with
  | nil => rfl
  | cons entry entries ih =>
      obtain ⟨name, held⟩ := entry
      cases count with
      | zero => rfl
      | succ count =>
          rw [List.take_succ_cons] at absent
          by_cases same : key = name
          · subst same
            rw [List.lookup_cons_self] at absent
            cases absent
          · rw [lookup_cons_other same] at absent
            rw [filter_cons_other same, List.take_succ_cons, List.take_succ_cons, ih count absent]

/-- Of the front that a key stands in, the others are one fewer. -/
theorem take_filter_present (distinct : (entries.map Prod.fst).Nodup) (count : Nat)
    (found : (entries.take (count + 1)).lookup key ≠ none) :
    (entries.filter fun entry => entry.1 != key).take count =
      (entries.take (count + 1)).filter fun entry => entry.1 != key := by
  induction entries generalizing count with
  | nil => simp
  | cons entry entries ih =>
      obtain ⟨name, held⟩ := entry
      obtain ⟨fresh, others⟩ := List.nodup_cons.1 distinct
      rw [List.take_succ_cons] at found ⊢
      by_cases same : key = name
      · subst same
        have absent : entries.lookup key = none := by
          refine List.lookup_eq_none_iff.2 ?_
          intro other member
          have apart : key ≠ other.1 := by
            intro same
            exact fresh (List.mem_map.2 ⟨other, member, same.symm⟩)
          simpa using apart
        have front : (entries.take count).lookup key = none :=
          (List.take_prefix count entries).lookup_eq_none absent
        rw [filter_cons_self, filter_cons_self, filter_absent absent, filter_absent front]
      · rw [lookup_cons_other same] at found
        rw [filter_cons_other same, filter_cons_other same]
        cases count with
        | zero => exact absurd rfl found
        | succ count => rw [List.take_succ_cons, ih others count found]

/-- Giving up the entry used longest ago is keeping the front. -/
theorem take_added (count : Nat) (absent : (entries.take count).lookup key = none) :
    ((key, lines) :: entries.take count).take count = (inFront key lines entries).take count := by
  cases count with
  | zero => rfl
  | succ count =>
      have front : (entries.take count).lookup key = none :=
        (List.take_prefix_take_left (Nat.le_succ count)).lookup_eq_none absent
      rw [inFront, List.take_succ_cons, List.take_succ_cons, List.take_take,
        Nat.min_eq_left (Nat.le_succ count), take_filter_absent count front]

theorem lookup_of_lookup_take {count : Nat} (found : (entries.take count).lookup key = some lines) :
    entries.lookup key = some lines := by
  rw [lookup_take] at found
  split at found
  · exact found
  · cases found

/-- A hit moves the same entry to the front, whether or not there is a bound. -/
theorem take_promoted (distinct : (entries.map Prod.fst).Nodup) (count : Nat)
    (found : (entries.take count).lookup key = some lines) :
    promote key (entries.take count) = (promote key entries).take count := by
  rw [promote_present found, promote_present (lookup_of_lookup_take found)]
  cases count with
  | zero => cases found
  | succ count =>
      have present : (entries.take (count + 1)).lookup key ≠ none := by
        rw [found]
        exact Option.some_ne_none lines
      rw [inFront, inFront, List.take_succ_cons, take_filter_present distinct count present]

end Entries

variable {key : Text} {past : List Effect}

theorem ranked_nodup (past : List Effect) : ((ranked past).map Prod.fst).Nodup := by
  induction past with
  | nil => exact List.nodup_nil
  | cons effect past ih =>
      cases effect with
      | added key lines => exact nodup_in_front ih
      | cleared => exact List.nodup_nil
      | passed => exact ih
      | hit key =>
          rw [ranked]
          cases found : (ranked past).lookup key with
          | none =>
              rw [promote_absent found]
              exact ih
          | some lines =>
              rw [promote_present found]
              exact nodup_in_front ih

theorem lookup_ranked (key : Text) (past : List Effect) :
    (ranked past).lookup key = lastAdded key past := by
  induction past with
  | nil => rfl
  | cons effect past ih =>
      cases effect with
      | cleared => rfl
      | passed => exact ih
      | hit other => exact lookup_promote.trans ih
      | added other lines =>
          by_cases same : key = other
          · subst same
            rw [ranked, lookup_in_front_self]
            simp [lastAdded, Effect.linesOf?]
          · rw [ranked, lookup_in_front_other same, ih]
            simp [lastAdded, Effect.linesOf?, Ne.symm same]

def Grounded : List Effect → Prop
  | [] => True
  | .hit key :: past => lastAdded key past ≠ none ∧ Grounded past
  | .added _ _ :: past | .cleared :: past | .passed :: past => Grounded past

theorem used_since_self {effect : Effect} (used : effect.key? = some key) :
    usedSince key (effect :: past) = [] := by
  simp [usedSince, used]

theorem used_since_other {effect : Effect} {other : Text} (used : effect.key? = some other)
    (apart : key ≠ other) : usedSince key (effect :: past) = other :: usedSince key past := by
  simp [usedSince, used, Ne.symm apart]

theorem used_since_unused {effect : Effect} (unused : effect.key? = none) :
    usedSince key (effect :: past) = usedSince key past := by
  simp [usedSince, unused]

theorem last_added_other {lines : Lines} {other : Text} (apart : key ≠ other) :
    lastAdded key (.added other lines :: past) = lastAdded key past := by
  simp [lastAdded, Effect.linesOf?, Ne.symm apart]

theorem ahead_used {effect : Effect} {other : Text} {held : Lines}
    (used : effect.key? = some other)
    (front : ranked (effect :: past) = inFront other held (ranked past))
    (earlier : key ≠ other → (ahead key (ranked past)).toFinset = (usedSince key past).toFinset) :
    (ahead key (ranked (effect :: past))).toFinset = (usedSince key (effect :: past)).toFinset := by
  by_cases same : key = other
  · subst same
    rw [front, ahead_in_front_self, used_since_self used]
  · rw [front, ahead_in_front_other same, used_since_other used same, List.toFinset_cons,
      List.toFinset_cons, ← earlier same]
    ext name
    by_cases first : name = other <;> simp [first]

/-- In front of a key stand those that were used since it was used itself. -/
theorem ahead_ranked {lines : Lines} (grounded : Grounded past)
    (added : lastAdded key past = some lines) :
    (ahead key (ranked past)).toFinset = (usedSince key past).toFinset := by
  induction past with
  | nil => cases added
  | cons effect past ih =>
      cases effect with
      | cleared => cases added
      | passed =>
          rw [used_since_unused rfl]
          exact ih grounded added
      | hit other =>
          -- Only a key that is there is hit, so there is an entry to move to the front.
          obtain ⟨present, before⟩ := grounded
          obtain ⟨held, found⟩ := Option.ne_none_iff_exists'.1 present
          rw [← lookup_ranked] at found
          exact ahead_used rfl (promote_present found) fun _ => ih before added
      | added other held =>
          refine ahead_used rfl rfl fun apart => ih grounded ?_
          rw [last_added_other apart] at added
          exact added

/-- The cache is the front of what it would hold without a bound. -/
structure Follows (capacity : Nat) (past : List Effect) (cache : Cache) : Prop where
  policy : cache.policy = .lru
  room : cache.capacity = capacity
  entries : cache.entries = (ranked past).take capacity
  grounded : Grounded past

variable {capacity : Nat} {cache : Cache}

theorem contains_of_lookup {lines : Lines} (found : cache.entries.lookup key = some lines) :
    cache.contains key = true := by
  rw [contains, found]
  rfl

theorem not_contains_of_lookup (absent : cache.entries.lookup key = none) :
    cache.contains key = false := by
  rw [contains, absent]
  rfl

theorem get_follows (follows : Follows capacity past cache) (key : Text) :
    Follows capacity (cache.effect (.get key) :: past) (cache.get key).2 := by
  have kept : (cache.get key).2 = { cache with entries := promote key cache.entries } := by
    rw [get, follows.policy]
  rw [kept, effect]
  cases found : cache.entries.lookup key with
  | none =>
      rw [not_contains_of_lookup found, promote_absent found]
      exact ⟨follows.policy, follows.room, follows.entries, follows.grounded⟩
  | some lines =>
      rw [contains_of_lookup found]
      rw [follows.entries] at found
      have added : lastAdded key past = some lines := by
        rw [← lookup_ranked]
        exact lookup_of_lookup_take found
      refine ⟨follows.policy, follows.room, ?_, ?_, follows.grounded⟩
      · dsimp only
        rw [follows.entries]
        exact take_promoted (ranked_nodup past) capacity found
      · rw [added]
        exact Option.some_ne_none lines

theorem insert_follows (follows : Follows capacity past cache) (key : Text) (lines : Lines) :
    Follows capacity (cache.effect (.insert key lines) :: past) (cache.insert key lines) := by
  rw [effect, insert]
  cases found : cache.entries.lookup key with
  | some held =>
      rw [contains_of_lookup found, if_pos rfl, if_pos rfl]
      exact ⟨follows.policy, follows.room, follows.entries, follows.grounded⟩
  | none =>
      rw [not_contains_of_lookup found, follows.policy]
      rw [follows.entries] at found
      refine ⟨rfl, follows.room, ?_, follows.grounded⟩
      dsimp only
      rw [follows.entries, follows.room]
      exact take_added capacity found

theorem perform_follows (follows : Follows capacity past cache) (operation : Operation) :
    Follows capacity (cache.effect operation :: past) (cache.perform operation) := by
  cases operation with
  | insert key lines => exact insert_follows follows key lines
  | get key => exact get_follows follows key
  | clear => exact ⟨follows.policy, follows.room, List.take_nil.symm, follows.grounded⟩

theorem perform_all_follows (follows : Follows capacity past cache) (operations : List Operation) :
    Follows capacity (cache.history operations past) (cache.performAll operations) := by
  induction operations generalizing cache past with
  | nil => exact follows
  | cons operation operations ih => exact ih (perform_follows follows operation)

theorem follows_start (capacity : Nat) : Follows capacity [] { policy := .lru, capacity := capacity } :=
  ⟨rfl, rfl, List.take_nil.symm, trivial⟩

/-- What is found under a key is what it was last added with since the cache was cleared, unless the
keys used since its own last use are too many. -/
theorem follows_lookup (follows : Follows capacity past cache) (key : Text) (lines : Lines) :
    cache.entries.lookup key = some lines ↔
      lastAdded key past = some lines ∧ (usedSince key past).toFinset.card < capacity := by
  -- No key stands twice in front of another, so counting those in front counts distinct ones.
  have front (added : lastAdded key past = some lines) :
      (ahead key (ranked past)).length = (usedSince key past).toFinset.card := by
    have kept : (ahead key (ranked past)).Sublist ((ranked past).map Prod.fst) :=
      (List.takeWhile_sublist _).map Prod.fst
    rw [← ahead_ranked follows.grounded added,
      List.toFinset_card_of_nodup (kept.nodup (ranked_nodup past))]
  rw [follows.entries, lookup_take, lookup_ranked]
  constructor
  · intro found
    split at found
    · rename_i near
      exact ⟨found, front found ▸ near⟩
    · cases found
  · rintro ⟨added, few⟩
    rw [if_pos (front added ▸ few)]
    exact added

theorem follows_size (follows : Follows capacity past cache) : cache.size ≤ capacity := by
  rw [size, follows.entries]
  exact List.length_take_le capacity (ranked past)

theorem follows_nodup (follows : Follows capacity past cache) :
    (cache.entries.map Prod.fst).Nodup := by
  rw [follows.entries]
  exact ((List.take_sublist capacity (ranked past)).map Prod.fst).nodup (ranked_nodup past)

/-- The contents after any operations on an empty cache, read off what they did. -/
theorem lru_contents_exact (capacity : Nat) (operations : List Operation) :
    let empty : Cache := { policy := .lru, capacity := capacity }
    let reached := empty.performAll operations
    let past := empty.history operations []
    (∀ key, reached.contains key = true ↔
        lastAdded key past ≠ none ∧ (usedSince key past).toFinset.card < capacity) ∧
      (∀ key lines, (reached.get key).1 = some lines ↔
        lastAdded key past = some lines ∧ (usedSince key past).toFinset.card < capacity) ∧
      (∀ key lines, reached.contains key = true → reached.insert key lines = reached) ∧
      reached.size ≤ capacity ∧ (reached.entries.map Prod.fst).Nodup := by
  intro empty reached past
  have follows : Follows capacity past reached := perform_all_follows (follows_start capacity) operations
  refine ⟨?_, follows_lookup follows, ?_, follows_size follows, follows_nodup follows⟩
  · intro key
    rw [contains, Option.isSome_iff_exists, Option.ne_none_iff_exists']
    constructor
    · rintro ⟨lines, found⟩
      obtain ⟨added, few⟩ := (follows_lookup follows key lines).1 found
      exact ⟨⟨lines, added⟩, few⟩
    · rintro ⟨⟨lines, added⟩, few⟩
      exact ⟨lines, (follows_lookup follows key lines).2 ⟨added, few⟩⟩
  · intro key lines present
    rw [insert, present]
    rfl

example :
    let empty : Cache := { policy := .lru, capacity := 2 }
    let operations : List Operation := [.insert "a".toList ["x".toList], .insert "b".toList [],
      .get "a".toList, .insert "a".toList [], .insert "c".toList []]
    let past := empty.history operations []
    past = [.added "c".toList [], .passed, .hit "a".toList, .added "b".toList [],
        .added "a".toList ["x".toList]] ∧
      usedSince "b".toList past = ["c".toList, "a".toList] ∧
      (empty.performAll operations).entries = [("c".toList, []), ("a".toList, ["x".toList])] := by
  decide

end Cache

end FaultContext.Lookup
