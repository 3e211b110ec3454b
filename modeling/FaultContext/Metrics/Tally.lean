import FaultContext.Metrics.Latency
import FaultContext.Text.Dictionary

/-!
# The tally of a pipeline

What one enriching pipeline counts: spans that went through, came out enriched or failed, hits and
misses of its two memories, and the latency of its operations by name. A report is the tally as text for
people: the counts, then one line for each operation in the order of the names.
-/

namespace FaultContext.Metrics

set_option autoImplicit false

structure HitCount where
  hits : Nat := 0
  misses : Nat := 0
deriving Repr, DecidableEq

def HitCount.record (counted : HitCount) (hit : Bool) : HitCount :=
  if hit then { counted with hits := counted.hits + 1 }
  else { counted with misses := counted.misses + 1 }

structure Tally where
  processed : Nat := 0
  enriched : Nat := 0
  failures : Nat := 0
  classification : HitCount := {}
  source : HitCount := {}
  operations : Dictionary Latency := .empty

namespace Tally

def spanProcessed (tally : Tally) : Tally := { tally with processed := tally.processed + 1 }

def spanEnriched (tally : Tally) : Tally := { tally with enriched := tally.enriched + 1 }

def enrichmentFailed (tally : Tally) : Tally := { tally with failures := tally.failures + 1 }

def classified (tally : Tally) (hit : Bool) : Tally :=
  { tally with classification := tally.classification.record hit }

def lookedUp (tally : Tally) (hit : Bool) : Tally := { tally with source := tally.source.record hit }

def operation? (tally : Tally) (name : Text) : Option Latency := tally.operations.get? name

def ran (tally : Tally) (name : Text) (duration : Duration) : Tally :=
  { tally with
    operations := tally.operations.insert name (((tally.operation? name).getD {}).record duration) }

end Tally

inductive Operation where
  | batchExport
  | classify
  | sourceLookup
  | extract
  | serialize
deriving DecidableEq, Repr

def Operation.name : Operation → Text
  | .batchExport => "export".toList
  | .classify => "classify".toList
  | .sourceLookup => "source_lookup".toList
  | .extract => "extract".toList
  | .serialize => "serialize".toList

/-- An operation of the pipeline ran. A pure pipeline has no clock, so its runs count as instant. -/
def Tally.performed (tally : Tally) (operation : Operation) : Tally := tally.ran operation.name 0

/-! ## The report -/

def operationLine (name : Text) (latency : Latency) : Text :=
  "  ".toList ++ name ++ ": ".toList ++ Text.ofNat latency.count ++ " ops, avg ".toList ++
    Duration.render latency.average ++ ", p99 ".toList ++ Duration.render latency.histogram.p99 ++ ['\n']

def HitCount.render (counted : HitCount) : Text :=
  Text.ofNat counted.hits ++ " hits, ".toList ++ Text.ofNat counted.misses ++ " misses".toList

def Tally.report (tally : Tally) (uptime : Duration) : Text :=
  "=== Enrichment Report ===\n\nUptime: ".toList ++ Duration.render uptime ++
    "\nSpans: ".toList ++ Text.ofNat tally.processed ++ " processed, ".toList ++
    Text.ofNat tally.enriched ++ " enriched, ".toList ++ Text.ofNat tally.failures ++
    " failed\nClassification cache: ".toList ++ tally.classification.render ++
    "\nSource cache: ".toList ++ tally.source.render ++ "\n\n".toList ++
    (if tally.operations.entries.isEmpty then []
     else "Operation Metrics:\n".toList ++
       tally.operations.entries.flatMap fun entry => operationLine entry.1 entry.2)

end FaultContext.Metrics
