import FaultContext.Proofs.SourceCache

/-!
# Requests for sources

A finder serves requests for sources and requests to forget all that it has found. Whatever its cache
keeps, gives up, refuses or forgets in the meantime, it answers as if it had searched each time, as
long as no two sources that are asked for share a key.
-/

namespace FaultContext.Lookup

set_option autoImplicit false

open Files (Disk)

inductive Request where
  | find (qualifiedType fileName : Text)
  | clear
deriving DecidableEq, Repr

def FinderState.start (policy : CachePolicy) (capacity : Nat) (tally : Metrics.Tally) : FinderState where
  cache := { policy := policy, capacity := capacity }
  tally := tally

/-- Serves one request; only a request for a source has an answer. -/
def serve (places : Places) (disk : Disk) : Request → FinderState → Option Lines × FinderState
  | .find qualifiedType fileName, state =>
      let (lines, state) := findSource places disk qualifiedType fileName state
      (some lines, state)
  | .clear, state => (none, { state with cache := state.cache.clear })

def serveAll (places : Places) (disk : Disk) :
    List Request → FinderState → List (Option Lines) × FinderState
  | [], state => ([], state)
  | request :: requests, state =>
      let (answer, state) := serve places disk request state
      let (answers, state) := serveAll places disk requests state
      (answer :: answers, state)

/-- The answer of a search of its own. -/
def searchAnswer (places : Places) (disk : Disk) : Request → Option Lines
  | .find qualifiedType fileName => some (sourceOf places disk qualifiedType fileName)
  | .clear => none

variable {places : Places} {disk : Disk} {asked : Text → Text → Prop}

theorem faithful_clear (places : Places) (disk : Disk) (asked : Text → Text → Prop) (cache : Cache) :
    Faithful places disk asked cache.clear := by
  intro entry member
  cases member

theorem serve_spec (apart : KeysApart asked) (request : Request)
    (question : ∀ qualifiedType fileName, request = .find qualifiedType fileName →
      asked qualifiedType fileName)
    (state : FinderState) (faithful : Faithful places disk asked state.cache) :
    (serve places disk request state).1 = searchAnswer places disk request ∧
      Faithful places disk asked (serve places disk request state).2.cache := by
  cases request with
  | clear => exact ⟨rfl, faithful_clear places disk asked state.cache⟩
  | find qualifiedType fileName =>
      obtain ⟨said, next⟩ := find_source_spec places disk asked apart qualifiedType fileName
        (question qualifiedType fileName rfl) state faithful
      exact ⟨congrArg some said, next⟩

theorem serve_all_spec (apart : KeysApart asked) (requests : List Request)
    (questions : ∀ qualifiedType fileName, .find qualifiedType fileName ∈ requests →
      asked qualifiedType fileName)
    (state : FinderState) (faithful : Faithful places disk asked state.cache) :
    (serveAll places disk requests state).1 = requests.map (searchAnswer places disk) := by
  induction requests generalizing state with
  | nil => rfl
  | cons request requests ih =>
      have question : ∀ qualifiedType fileName, request = .find qualifiedType fileName →
          asked qualifiedType fileName := by
        rintro qualifiedType fileName rfl
        exact questions qualifiedType fileName List.mem_cons_self
      obtain ⟨said, next⟩ := serve_spec apart request question state faithful
      have others := ih (fun qualifiedType fileName member =>
        questions qualifiedType fileName (List.mem_cons_of_mem request member)) _ next
      rw [List.map_cons, ← said, ← others]
      rfl

/-- Every answer is that of a search, whatever the room and the policy of the cache. -/
theorem cached_answers_are_searches (places : Places) (disk : Disk) (policy : CachePolicy)
    (capacity : Nat) (tally : Metrics.Tally) (requests : List Request)
    (apart : KeysApart fun qualifiedType fileName => .find qualifiedType fileName ∈ requests) :
    (serveAll places disk requests (.start policy capacity tally)).1 =
      requests.map (searchAnswer places disk) := by
  refine serve_all_spec apart requests (fun _ _ member => member) _ ?_
  exact faithful_clear places disk _ (FinderState.start policy capacity tally).cache

def oneFile : Disk :=
  ⟨.directory [("w".toList, .directory [("A.java".toList, .file ⟨#[120, 10]⟩)])], "/w".toList⟩

def oneRoot : Places where
  sourceRoots := ["/w".toList]
  excluded := []
  useArchives := false
  archives := []
  dependencyCaches := []
  maxSourceArchives := 0

def crowding : List Request :=
  [.find "p.A".toList "A.java".toList, .find "p.B".toList "B.java".toList,
    .find "p.A".toList "A.java".toList, .clear, .find "p.B".toList "B.java".toList]

theorem cached_answers_are_searches_crowded :
    (KeysApart fun qualifiedType fileName => .find qualifiedType fileName ∈ crowding) ∧
      (serveAll oneRoot oneFile crowding (.start .lru 1 {})).1 =
        [some ["x".toList], some [], some ["x".toList], none, some []] := by
  have unmarked : ∀ qualifiedType fileName, .find qualifiedType fileName ∈ crowding →
      '#' ∉ qualifiedType := by
    intro qualifiedType fileName member
    simp only [crowding, List.mem_cons, Request.find.injEq, reduceCtorEq, List.not_mem_nil, or_false,
      false_or] at member
    rcases member with ⟨rfl, -⟩ | ⟨rfl, -⟩ | ⟨rfl, -⟩ | ⟨rfl, -⟩ <;> decide
  have apart : KeysApart fun qualifiedType fileName => .find qualifiedType fileName ∈ crowding := by
    intro one file other next first second same
    exact keys_apart_without_mark one file other next (unmarked one file first)
      (unmarked other next second) same
  refine ⟨apart, ?_⟩
  rw [cached_answers_are_searches oneRoot oneFile .lru 1 {} crowding apart]
  decide +kernel

end FaultContext.Lookup
