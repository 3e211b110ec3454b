import FaultContext.Decimal.Binary64
import FaultContext.Text.Basic

/-!
# Latency of one operation

How often an operation ran and how long it took: the number of runs, their total, the shortest and
the longest one, and a histogram.

A duration is a number of nanoseconds. It is printed in the largest unit that it reaches, with two
decimals; rounding never changes the unit. A histogram counts durations by ascending bounds in
microseconds: a duration falls into the first bucket whose bound it does not exceed, and into one more
bucket behind the last bound. A percentile is answered by the bound of the bucket in which its rank
lies.
-/

namespace FaultContext.Metrics

set_option autoImplicit false

/-! ## Durations -/

/-- A duration in nanoseconds. -/
abbrev Duration := Nat

namespace Duration

/-- The longest duration that a clock can tell. -/
def longest : Duration := 18446744073709551615999999999

/-- Whole microseconds, as a number of 64 bits. -/
def microseconds (duration : Duration) : Nat := duration / 1000 % Nat.pow 2 64

/-- Two decimals of `duration` in a unit of `size` nanoseconds. -/
def inUnit (duration : Duration) (size : Nat) (name : String) : Text :=
  let hundredths := Decimal.roundHalfEven (duration * 100) size
  Text.ofNat (hundredths / 100) ++ '.' :: Text.ofNat (hundredths % 100 / 10) ++
    Text.ofNat (hundredths % 10) ++ name.toList

def render (duration : Duration) : Text :=
  if 1000000000 ≤ duration then inUnit duration 1000000000 "s"
  else if 1000000 ≤ duration then inUnit duration 1000000 "ms"
  else if 1000 ≤ duration then inUnit duration 1000 "µs"
  else inUnit duration 1 "ns"

end Duration

/-! ## Histograms -/

/-- Counts by bucket, one more than there are bounds. -/
structure Histogram where
  bounds : List Nat
  counts : List Nat
  length_counts : counts.length = bounds.length + 1
deriving Repr, DecidableEq

namespace Histogram

def ofBounds (bounds : List Nat) : Histogram where
  bounds := bounds
  counts := List.replicate (bounds.length + 1) 0
  length_counts := by simp

/-- The bounds for work of this library: from ten microseconds to one second. -/
def latencyBounds : List Nat := [10, 100, 1000, 10000, 100000, 1000000]

def bucketOf (bounds : List Nat) (micros : Nat) : Nat := bounds.findIdx fun bound => micros ≤ bound

def record (histogram : Histogram) (duration : Duration) : Histogram where
  bounds := histogram.bounds
  counts := histogram.counts.modify (bucketOf histogram.bounds (Duration.microseconds duration)) (· + 1)
  length_counts := by simp [histogram.length_counts]

def total (histogram : Histogram) : Nat := histogram.counts.foldr (· + ·) 0

/-- What stands for a duration behind the last bound: ten times that bound. -/
def overflowBound (bounds : List Nat) : Nat := bounds.getLast?.getD 0 * 10

/-- The bound of the first bucket at which the counts, added up from `before`, reach `rank`. -/
def boundAt (rank beyond before : Nat) : List Nat → List Nat → Nat
  | [], _ => 0
  | count :: counts, bounds =>
      if rank ≤ before + count then bounds.head?.getD beyond
      else boundAt rank beyond (before + count) counts bounds.tail

/-- The bound, in microseconds, of the bucket that holds the duration of a rank. -/
def atRank (histogram : Histogram) (rank : Nat) : Nat :=
  boundAt rank (overflowBound histogram.bounds) 0 histogram.counts histogram.bounds

/-- The rank of a percentile among `total` durations, rounded up. -/
def rankOf (total : Nat) (percent : Binary64) : Nat :=
  (((Binary64.ofNat total).mul percent).div (Binary64.ofNat 100)).ceilNat (Nat.pow 2 64 - 1)

/-- A bound for the given percentage of the durations, zero when there are none. -/
def percentile (histogram : Histogram) (percent : Binary64) : Duration :=
  if histogram.total = 0 then 0 else histogram.atRank (rankOf histogram.total percent) * 1000

def p99 (histogram : Histogram) : Duration := histogram.percentile (Binary64.ofNat 99)

end Histogram

/-! ## Runs -/

/-- The runs of one operation. Before the first one the shortest is the longest that there can be. -/
structure Latency where
  count : Nat := 0
  total : Duration := 0
  shortest : Duration := Duration.longest
  longest : Duration := 0
  histogram : Histogram := .ofBounds Histogram.latencyBounds
deriving Repr, DecidableEq

namespace Latency

def record (latency : Latency) (duration : Duration) : Latency where
  count := latency.count + 1
  total := latency.total + duration
  shortest := min latency.shortest duration
  longest := max latency.longest duration
  histogram := latency.histogram.record duration

def ofList (durations : List Duration) : Latency := durations.foldl record {}

/-- The mean, rounded down and kept to 64 bits; zero when nothing ran. -/
def average (latency : Latency) : Duration :=
  if latency.count = 0 then 0 else latency.total / latency.count % Nat.pow 2 64

end Latency

end FaultContext.Metrics
