import Mathlib.Algebra.GroupWithZero.Nat
import Mathlib.Data.List.Pairwise
import Mathlib.Data.List.Sort
import FaultContext.Metrics.Latency

/-!
# What a percentile says of the durations

Every duration is counted in one bucket, the first whose bound it does not exceed. So the counts of the
buckets up to a bound add up to the durations that do not exceed it, and the search for a rank ends at the
first bound that so many durations keep to, or behind all bounds.
-/

namespace FaultContext.Metrics

set_option autoImplicit false

theorem Duration.microseconds_short {duration : Duration} (short : duration ≤ 2 ^ 64 - 1) :
    Duration.microseconds duration = duration / 1000 := by
  have kept : duration / 1000 < 2 ^ 64 :=
    Nat.lt_of_le_of_lt (Nat.div_le_self duration 1000) (Nat.lt_of_le_pred (by decide) short)
  exact Nat.mod_eq_of_lt kept

/-- One more in a bucket is one more in every sum that takes this bucket in. -/
theorem sum_take_modify (counts : List Nat) (bucket taken : Nat) (inside : bucket < counts.length) :
    ((counts.modify bucket (· + 1)).take taken).sum =
      (counts.take taken).sum + if bucket < taken then 1 else 0 := by
  rw [List.take_modify]
  split_ifs with among
  · have held : bucket < (counts.take taken).length := by
      rw [List.length_take]
      omega
    obtain ⟨front, count, back, shape, -, changed⟩ := List.exists_of_modify (· + 1) held
    rw [changed, shape, List.sum_append, List.sum_append, List.sum_cons, List.sum_cons]
    omega
  · have beyond : (counts.take taken).length ≤ bucket := by
      rw [List.length_take]
      omega
    rw [List.modify_eq_self beyond, Nat.add_zero]

namespace Histogram

/-- The histogram of some durations. -/
def ofList (bounds : List Nat) (durations : List Duration) : Histogram :=
  durations.foldl record (ofBounds bounds)

/-- How many of the durations are, in whole microseconds, no longer than a bound. -/
def atMost (durations : List Duration) (bound : Nat) : Nat :=
  durations.countP fun duration => duration / 1000 ≤ bound

theorem bucket_of_le_length (bounds : List Nat) (micros : Nat) :
    bucketOf bounds micros ≤ bounds.length := List.findIdx_le_length

/-- A duration passes over a place just when it exceeds the bound there: the earlier bounds, which may be
equal to it, are no larger. -/
theorem lt_bucket_of_iff {bounds : List Nat} (ascending : bounds.SortedLE) (micros place : Nat)
    (inside : place < bounds.length) :
    place < bucketOf bounds micros ↔ bounds[place] < micros := by
  rw [bucketOf, List.lt_findIdx_iff]
  constructor
  · rintro ⟨_, missed⟩
    simpa using missed place (Nat.le_refl _)
  · intro exceeded
    refine ⟨inside, fun earlier upTo => ?_⟩
    simpa using (ascending.getElem_le_getElem_of_le upTo).trans_lt exceeded

@[simp] theorem bounds_record (histogram : Histogram) (duration : Duration) :
    (histogram.record duration).bounds = histogram.bounds := rfl

theorem sum_take_record (histogram : Histogram) (duration : Duration) (taken : Nat) :
    ((histogram.record duration).counts.take taken).sum =
      (histogram.counts.take taken).sum +
        if bucketOf histogram.bounds (Duration.microseconds duration) < taken then 1 else 0 := by
  apply sum_take_modify
  have known := bucket_of_le_length histogram.bounds (Duration.microseconds duration)
  rw [histogram.length_counts]
  omega

theorem sum_take_run (durations : List Duration) (histogram : Histogram) (taken : Nat) :
    ((durations.foldl record histogram).counts.take taken).sum =
      (histogram.counts.take taken).sum +
        durations.countP fun duration =>
          bucketOf histogram.bounds (Duration.microseconds duration) < taken := by
  induction durations generalizing histogram with
  | nil => rfl
  | cons duration durations ih =>
      rw [List.foldl_cons, ih, bounds_record, sum_take_record, List.countP_cons]
      simp only [decide_eq_true_eq]
      omega

/-- The search for a rank ends at the first place among the bounds where the counts, added up, reach it. -/
theorem bound_at_first (rank beyond start : Nat) (counts bounds : List Nat)
    (shape : counts.length = bounds.length + 1) (reached : rank ≤ start + counts.sum) :
    (∃ place, ∃ inside : place < bounds.length,
      boundAt rank beyond start counts bounds = bounds[place] ∧
      rank ≤ start + (counts.take (place + 1)).sum ∧
      ∀ earlier < place, start + (counts.take (earlier + 1)).sum < rank) ∨
    (boundAt rank beyond start counts bounds = beyond ∧
      ∀ place < bounds.length, start + (counts.take (place + 1)).sum < rank) := by
  induction bounds generalizing counts start with
  | nil =>
      obtain ⟨count, rfl⟩ := List.length_eq_one_iff.1 shape
      right
      refine ⟨?_, fun place inside => absurd inside (Nat.not_lt_zero place)⟩
      rw [List.sum_singleton] at reached
      rw [boundAt, if_pos reached]
      rfl
  | cons bound bounds ih =>
      cases counts with
      | nil => cases shape
      | cons count counts =>
          -- Behind the first bucket the sums start with what it holds, as the search does.
          have further : ∀ place, start + ((count :: counts).take (place + 1)).sum =
              start + count + (counts.take place).sum := by
            intro place
            rw [List.take_succ_cons, List.sum_cons, Nat.add_assoc]
          simp only [further, List.length_cons]
          rw [boundAt]
          by_cases here : rank ≤ start + count
          · left
            rw [if_pos here]
            refine ⟨0, Nat.zero_lt_succ _, rfl, by simpa using here, ?_⟩
            intro earlier before
            cases before
          · rw [if_neg here]
            have rest : rank ≤ start + count + counts.sum := by
              rw [List.sum_cons] at reached
              omega
            rcases ih (start + count) counts (Nat.succ.inj shape) rest with
              ⟨place, inside, answer, within, missed⟩ | ⟨answer, missed⟩
            · left
              refine ⟨place + 1, Nat.succ_lt_succ inside, answer, within, ?_⟩
              rintro (_ | earlier) before
              · simpa using here
              · exact missed earlier (Nat.lt_of_succ_lt_succ before)
            · right
              refine ⟨answer, ?_⟩
              rintro (_ | place) inside
              · simpa using here
              · exact missed place (Nat.lt_of_succ_lt_succ inside)

section Recorded

variable (bounds : List Nat) (durations : List Duration)

theorem bounds_of_list : (ofList bounds durations).bounds = bounds := by
  have kept (histogram : Histogram) : (durations.foldl record histogram).bounds = histogram.bounds := by
    induction durations generalizing histogram with
    | nil => rfl
    | cons duration durations ih => rw [List.foldl_cons, ih, bounds_record]
  exact kept (ofBounds bounds)

theorem sum_take_of_list (taken : Nat) :
    ((ofList bounds durations).counts.take taken).sum =
      durations.countP fun duration => bucketOf bounds (Duration.microseconds duration) < taken := by
  have empty : ((ofBounds bounds).counts.take taken).sum = 0 := by
    simp [ofBounds, List.take_replicate]
  rw [ofList, sum_take_run, empty, Nat.zero_add]
  rfl

/-- Every duration is counted, and counted once. -/
theorem sum_of_list : (ofList bounds durations).counts.sum = durations.length := by
  rw [← List.take_length (l := (ofList bounds durations).counts), sum_take_of_list,
    List.countP_eq_length, length_counts, bounds_of_list]
  intro duration _
  simpa using Nat.lt_succ_of_le (bucket_of_le_length bounds (Duration.microseconds duration))

variable {bounds durations}

/-- The counts up to a bound are the durations that keep to it. -/
theorem sum_take_eq_at_most (ascending : bounds.SortedLE)
    (short : ∀ duration ∈ durations, duration ≤ 2 ^ 64 - 1) (place : Nat)
    (inside : place < bounds.length) :
    ((ofList bounds durations).counts.take (place + 1)).sum = atMost durations bounds[place] := by
  rw [sum_take_of_list, atMost]
  apply List.countP_congr
  intro duration member
  rw [decide_eq_true_iff, decide_eq_true_iff, Nat.lt_succ_iff, ← Nat.not_lt,
    lt_bucket_of_iff ascending _ place inside, Nat.not_lt,
    Duration.microseconds_short (short duration member)]

theorem at_most_mono (durations : List Duration) {bound larger : Nat} (ordered : bound ≤ larger) :
    atMost durations bound ≤ atMost durations larger := by
  apply List.countP_mono_left
  intro duration _ kept
  rw [decide_eq_true_iff] at kept ⊢
  exact Nat.le_trans kept ordered

/-- What stands for a rank: the first bound that so many durations keep to, or ten times the last. -/
theorem at_rank_first (filled : bounds ≠ []) (ascending : bounds.SortedLE)
    (short : ∀ duration ∈ durations, duration ≤ 2 ^ 64 - 1) (rank : Nat)
    (known : rank ≤ durations.length) :
    (∃ place, ∃ inside : place < bounds.length,
      (ofList bounds durations).atRank rank = bounds[place] ∧
      rank ≤ atMost durations bounds[place] ∧
      ∀ earlier, ∀ before : earlier < place, atMost durations bounds[earlier] < rank) ∨
    ((ofList bounds durations).atRank rank = bounds.getLast filled * 10 ∧
      atMost durations (bounds.getLast filled) < rank) := by
  have sums := sum_take_eq_at_most ascending short
  have shape : (ofList bounds durations).counts.length = bounds.length + 1 := by
    rw [length_counts, bounds_of_list]
  have reached : rank ≤ 0 + (ofList bounds durations).counts.sum := by
    rw [sum_of_list, Nat.zero_add]
    exact known
  rw [atRank, bounds_of_list]
  rcases bound_at_first rank (overflowBound bounds) 0 _ bounds shape reached with
    ⟨place, inside, answer, within, missed⟩ | ⟨answer, missed⟩
  · left
    refine ⟨place, inside, answer, ?_, ?_⟩
    · rw [← sums place inside]
      simpa using within
    · intro earlier before
      rw [← sums earlier (before.trans inside)]
      simpa using missed earlier before
  · right
    have final : bounds.length - 1 < bounds.length :=
      Nat.sub_one_lt (Nat.ne_of_gt (List.length_pos_iff.2 filled))
    constructor
    · rw [answer, overflowBound, List.getLast?_eq_some_getLast filled]
      rfl
    · rw [List.getLast_eq_getElem, ← sums _ final]
      simpa using missed _ final

theorem percentile_at_rank (recorded : durations ≠ []) (percent : Binary64) :
    (ofList bounds durations).percentile percent =
      (ofList bounds durations).atRank (rankOf durations.length percent) * 1000 := by
  have counted : (ofList bounds durations).total = durations.length := sum_of_list bounds durations
  rw [percentile, counted, if_neg (List.length_eq_zero_iff.not.2 recorded)]

end Recorded

/-- The counts agree with the durations, and a percentile is the first bound that as many durations keep
to as its rank asks for, or ten times the last bound where too few do. -/
theorem percentile_tells_rank (bounds : List Nat) (durations : List Duration) (filled : bounds ≠ [])
    (ascending : bounds.SortedLE) (short : ∀ duration ∈ durations, duration ≤ 2 ^ 64 - 1) :
    let histogram := ofList bounds durations
    let last := bounds.getLast filled
    histogram.counts.sum = durations.length ∧
      (∀ place, ∀ inside : place < bounds.length,
        (histogram.counts.take (place + 1)).sum = atMost durations bounds[place]) ∧
      (∀ rank ≤ durations.length,
        (rank ≤ atMost durations last →
          ∃ place, ∃ inside : place < bounds.length, histogram.atRank rank = bounds[place] ∧
            rank ≤ atMost durations bounds[place] ∧
            ∀ earlier, ∀ before : earlier < place, atMost durations bounds[earlier] < rank) ∧
        (atMost durations last < rank → histogram.atRank rank = last * 10)) ∧
      ∀ percent, durations ≠ [] →
        histogram.percentile percent = histogram.atRank (rankOf durations.length percent) * 1000 := by
  intro histogram last
  refine ⟨sum_of_list bounds durations, sum_take_eq_at_most ascending short, ?_,
    fun percent recorded => percentile_at_rank recorded percent⟩
  intro rank known
  rcases at_rank_first filled ascending short rank known with
    ⟨place, inside, answer, within, missed⟩ | ⟨answer, few⟩
  · have ordered : bounds[place] ≤ last :=
      ascending.pairwise.rel_getLast (List.getElem_mem inside)
    have enough : rank ≤ atMost durations last :=
      within.trans (at_most_mono durations ordered)
    exact ⟨fun _ => ⟨place, inside, answer, within, missed⟩,
      fun few => absurd enough few.not_ge⟩
  · exact ⟨fun enough => absurd enough few.not_ge, fun _ => answer⟩

/-- Eleven microseconds pass over two equal bounds, and a quarter of a second passes over all of them. -/
theorem percentile_tells_rank_repeated :
    let bounds := [10, 10, 100]
    let durations : List Duration := [250000000, 11000, 10999]
    let histogram := ofList bounds durations
    bounds ≠ [] ∧ bounds.SortedLE ∧ (∀ duration ∈ durations, duration ≤ 2 ^ 64 - 1) ∧
      2 ≤ durations.length ∧ 2 ≤ atMost durations 100 ∧ atMost durations 100 < 3 ∧
      (∃ place, ∃ inside : place < bounds.length,
        histogram.atRank 2 = bounds[place] ∧ atMost durations bounds[place] = 2) ∧
      histogram.atRank 3 = 1000 ∧
      durations ≠ [] ∧ histogram.percentile (Binary64.ofNat 100) = 1000000 := by
  intro bounds durations histogram
  have ascending : bounds.SortedLE := List.sortedLE_iff_pairwise.2 (by decide)
  have short : ∀ duration ∈ durations, duration ≤ 2 ^ 64 - 1 := by decide
  obtain ⟨-, -, ranks, percents⟩ :=
    percentile_tells_rank bounds durations (by decide) ascending short
  obtain ⟨place, inside, answer, within, -⟩ := (ranks 2 (by decide)).1 (by decide)
  have most : atMost durations bounds[place] ≤ 2 :=
    at_most_mono durations (ascending.pairwise.rel_getLast (List.getElem_mem inside))
  have beyond : histogram.atRank 3 = 1000 := (ranks 3 (by decide)).2 (by decide)
  have all : rankOf durations.length (Binary64.ofNat 100) = 3 := by decide
  have last : histogram.percentile (Binary64.ofNat 100) = 1000000 := by
    rw [percents _ (by decide), all, beyond]
  exact ⟨by decide, ascending, short, by decide, by decide, by decide,
    ⟨place, inside, answer, most.antisymm within⟩, beyond, by decide, last⟩

end Histogram

end FaultContext.Metrics
