import FaultContext.Text.LowerCase

/-!
# The source cache

A bounded memory of source files. What a key was first entered with stays its value for as long as it
is in the cache, and a miss is remembered as a file without lines. A full cache either gives up the
entry that was used longest ago or takes nothing more; with a capacity of zero it takes nothing at all.
The table of an `lru` cache is set aside for all its entries at once, so on a machine that has no room
for that table there is no such cache.
-/

namespace FaultContext.Lookup

set_option autoImplicit false

/-- What a full cache does with a new entry. -/
inductive CachePolicy where
  | lru
  | freeze
deriving DecidableEq, Repr

namespace CachePolicy

def name : CachePolicy → Text
  | .lru => "lru".toList
  | .freeze => "freeze".toList

/-- The policy of exactly this name. -/
def named? (name : Text) : Option CachePolicy :=
  if name = "lru".toList then some .lru else if name = "freeze".toList then some .freeze else none

/-- The policy of a name in any case, or what is wrong with it. -/
def parse (text : Text) : Except Text CachePolicy :=
  match named? (Text.lower text) with
  | some policy => .ok policy
  | none =>
      .error ("unknown cache policy '".toList ++ Text.lower text ++ "', expected lru or freeze".toList)

end CachePolicy

abbrev Lines := List Text

/-- A cache. With `lru` its entries stand with the latest used one first, with `freeze` in the order
in which they were entered. -/
structure Cache where
  policy : CachePolicy
  capacity : Nat
  entries : List (Text × Lines) := []
deriving DecidableEq, Repr

/-- The most bytes that one table may take. -/
def mostBytes : Nat := 9223372036854775807

/-- The tables that a machine can set aside, by how many entries they are made for. An entry takes at
least a byte. -/
structure Room where
  holds : Nat → Bool
  bounded (entries : Nat) : holds entries = true → entries ≤ mostBytes

/-- The room of a machine that has every byte it can address. A table has a power of two of places, each
of seventeen bytes, and seven places of eight are for entries. -/
def Room.addressable : Room where
  holds entries := entries ≤ 252201579132747776
  bounded entries held := Nat.le_trans (of_decide_eq_true held) (by decide)

namespace Cache

/-- A new cache. With `freeze` its table grows with the entries. -/
def create? (room : Room) (policy : CachePolicy) (capacity : Nat) : Option Cache :=
  match policy with
  | .lru => if capacity = 0 ∨ room.holds capacity then some { policy, capacity } else none
  | .freeze => some { policy, capacity }

theorem create_eq_none_iff {room : Room} {policy : CachePolicy} {capacity : Nat} :
    create? room policy capacity = none ↔
      policy = .lru ∧ capacity ≠ 0 ∧ room.holds capacity = false := by
  cases policy <;> simp [create?]

def key (qualifiedType fileName : Text) : Text := qualifiedType ++ '#' :: fileName

def size (cache : Cache) : Nat := cache.entries.length

def contains (cache : Cache) (key : Text) : Bool := (cache.entries.lookup key).isSome

/-- The entries with the one of the key in front. -/
def promote (key : Text) (entries : List (Text × Lines)) : List (Text × Lines) :=
  match entries.lookup key with
  | some lines => (key, lines) :: entries.filter fun entry => entry.1 != key
  | none => entries

/-- The lines under a key. Asking counts as a use. -/
def get (cache : Cache) (key : Text) : Option Lines × Cache :=
  (cache.entries.lookup key,
    match cache.policy with
    | .lru => { cache with entries := promote key cache.entries }
    | .freeze => cache)

/-- Enters the lines of a key, unless it has an entry. -/
def insert (cache : Cache) (key : Text) (lines : Lines) : Cache :=
  if cache.contains key then cache
  else
    match cache.policy with
    | .lru => { cache with entries := ((key, lines) :: cache.entries).take cache.capacity }
    | .freeze =>
        if cache.size < cache.capacity then { cache with entries := cache.entries ++ [(key, lines)] }
        else cache

def clear (cache : Cache) : Cache := { cache with entries := [] }

end Cache

end FaultContext.Lookup
