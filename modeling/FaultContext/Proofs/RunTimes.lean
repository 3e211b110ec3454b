import Mathlib.Algebra.GroupWithZero.Nat
import Mathlib.Data.List.Induction
import Mathlib.Data.List.Perm.Basic
import FaultContext.Metrics.Latency

/-!
# What a latency says of the runs

However often an operation ran and in whatever order, its latency tells the number of the runs, their sum,
the shortest and the longest of them, and a mean between these two. Before the first run the shortest is
longer than any run that 64 bits of nanoseconds can hold, so the first run replaces it.
-/

namespace FaultContext.Metrics

set_option autoImplicit false

theorem Histogram.record_comm (histogram : Histogram) (one other : Duration) :
    (histogram.record one).record other = (histogram.record other).record one := by
  simp only [Histogram.record, Histogram.mk.injEq, true_and]
  by_cases same : bucketOf histogram.bounds (Duration.microseconds one) =
      bucketOf histogram.bounds (Duration.microseconds other)
  · rw [same]
  · exact List.modify_modify_ne _ _ _ same

namespace Latency

theorem record_comm (latency : Latency) (one other : Duration) :
    (latency.record one).record other = (latency.record other).record one := by
  simp only [record, Latency.mk.injEq, true_and]
  exact ⟨Nat.add_right_comm .., Nat.min_right_comm .., Nat.max_right_comm ..,
    Histogram.record_comm latency.histogram one other⟩

instance : RightCommutative record := ⟨record_comm⟩

/-- The figures of some runs. What a fresh latency starts with counts among them: the longest duration of
all where the shortest is sought, and zero where the longest is. -/
structure Sums (latency : Latency) (durations : List Duration) : Prop where
  count : latency.count = durations.length
  total : latency.total = durations.sum
  shortest : (Duration.longest :: durations).min? = some latency.shortest
  longest : (0 :: durations).max? = some latency.longest

theorem sums_record {latency : Latency} {durations : List Duration} (sums : latency.Sums durations)
    (duration : Duration) : (latency.record duration).Sums (durations ++ [duration]) := by
  obtain ⟨count, total, shortest, longest⟩ := sums
  rw [List.min?_cons', Option.some.injEq] at shortest
  rw [List.max?_cons', Option.some.injEq] at longest
  constructor
  · simp [record, count]
  · simp [record, total]
  · rw [List.min?_cons', List.foldl_concat, shortest]
    rfl
  · rw [List.max?_cons', List.foldl_concat, longest]
    rfl

theorem sums_of_list (durations : List Duration) : (ofList durations).Sums durations := by
  induction durations using List.reverseRecOn with
  | nil => exact ⟨rfl, rfl, rfl, rfl⟩
  | append_singleton durations duration ih =>
      rw [ofList, List.foldl_concat]
      exact sums_record ih duration

variable {durations : List Duration}

/-- No run is as long as the longest duration of all, so the shortest is one of the runs. -/
theorem min_of_list (ran : durations ≠ [])
    (short : ∀ duration ∈ durations, duration ≤ 2 ^ 64 - 1) :
    durations.min? = some (ofList durations).shortest := by
  obtain ⟨among, least⟩ := List.min?_eq_some_iff.1 (sums_of_list durations).shortest
  have lower : ∀ duration ∈ durations, (ofList durations).shortest ≤ duration :=
    fun duration member => least duration (List.mem_cons_of_mem _ member)
  apply List.min?_eq_some_iff.2
  refine ⟨?_, lower⟩
  rcases List.mem_cons.1 among with unreplaced | member
  · obtain ⟨duration, member⟩ := List.exists_mem_of_ne_nil durations ran
    have bounded : Duration.longest ≤ 2 ^ 64 - 1 := by
      rw [← unreplaced]
      exact Nat.le_trans (lower duration member) (short duration member)
    exact absurd bounded (by decide)
  · exact member

theorem max_of_list (ran : durations ≠ []) :
    durations.max? = some (ofList durations).longest := by
  obtain ⟨among, greatest⟩ := List.max?_eq_some_iff.1 (sums_of_list durations).longest
  have upper : ∀ duration ∈ durations, duration ≤ (ofList durations).longest :=
    fun duration member => greatest duration (List.mem_cons_of_mem _ member)
  apply List.max?_eq_some_iff.2
  refine ⟨?_, upper⟩
  rcases List.mem_cons.1 among with none | member
  · obtain ⟨duration, member⟩ := List.exists_mem_of_ne_nil durations ran
    have instant : duration = 0 := Nat.le_zero.1 (none ▸ upper duration member)
    rw [none, ← instant]
    exact member
  · exact member

/-- The mean is no longer than the longest run, so that 64 bits hold all of it. -/
theorem average_of_list (ran : durations ≠ [])
    (short : ∀ duration ∈ durations, duration ≤ 2 ^ 64 - 1) :
    (ofList durations).average = durations.sum / durations.length := by
  have greatest := max_of_list ran
  have bounded : durations.sum / durations.length ≤ 2 ^ 64 - 1 :=
    Nat.le_trans (List.sum_div_length_le_max_of_max?_eq_some_nat greatest)
      (short _ (List.max?_eq_some_iff.1 greatest).1)
  have sums := sums_of_list durations
  rw [average, sums.count, sums.total, if_neg (List.length_eq_zero_iff.not.2 ran)]
  exact Nat.mod_eq_of_lt (Nat.lt_of_le_pred (by decide) bounded)

/-- The latency of some runs has their number, their sum, which no addition on the way takes out of range,
the least and the greatest of them, and between these the whole of their mean. Their order is nothing to
it. -/
theorem latency_of_durations (durations : List Duration) (ran : durations ≠ [])
    (short : ∀ duration ∈ durations, duration ≤ 2 ^ 64 - 1)
    (fits : durations.sum ≤ Duration.longest) :
    let latency := ofList durations
    latency.count = durations.length ∧
      latency.total = durations.sum ∧
      (∀ earlier, earlier <+: durations → (ofList earlier).total ≤ Duration.longest) ∧
      durations.min? = some latency.shortest ∧
      durations.max? = some latency.longest ∧
      latency.average = latency.total / latency.count ∧
      latency.shortest ≤ latency.average ∧ latency.average ≤ latency.longest ∧
      ∀ others, others.Perm durations → ofList others = latency := by
  intro latency
  have sums := sums_of_list durations
  have least := min_of_list ran short
  have greatest := max_of_list ran
  have mean := average_of_list ran short
  refine ⟨sums.count, sums.total, ?_, least, greatest, ?_, ?_, ?_, ?_⟩
  · rintro earlier ⟨later, rfl⟩
    rw [(sums_of_list earlier).total]
    rw [List.sum_append] at fits
    exact Nat.le_trans (Nat.le_add_right ..) fits
  · rw [mean, sums.total, sums.count]
  · rw [mean]
    exact List.le_sum_div_length_of_min?_eq_some_nat least
  · rw [mean]
    exact List.sum_div_length_le_max_of_max?_eq_some_nat greatest
  · intro others permuted
    exact permuted.foldl_eq _

theorem latency_of_durations_edge :
    let most : Duration := 2 ^ 64 - 1
    let durations := [most, 1, most]
    let latency := ofList durations
    durations ≠ [] ∧ (∀ duration ∈ durations, duration ≤ 2 ^ 64 - 1) ∧
      durations.sum ≤ Duration.longest ∧ latency.count = 3 ∧
      durations.min? = some latency.shortest ∧ durations.max? = some latency.longest ∧
      latency.shortest ≤ latency.average ∧ latency.average ≤ latency.longest ∧
      ofList [1, most, most] = latency := by
  intro most durations latency
  have short : ∀ duration ∈ durations, duration ≤ 2 ^ 64 - 1 := by decide
  have fits : durations.sum ≤ Duration.longest := by decide
  obtain ⟨count, -, -, least, greatest, -, lower, upper, order⟩ :=
    latency_of_durations durations (by decide) short fits
  exact ⟨by decide, short, fits, count, least, greatest, lower, upper,
    order _ (List.Perm.swap most 1 [most])⟩

end Latency

end FaultContext.Metrics
