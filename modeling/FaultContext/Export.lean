import FaultContext.Detail.Enricher
import FaultContext.Failure
import FaultContext.Files.Disk
import FaultContext.Json.Writer
import FaultContext.Span.Basic
import FaultContext.Span.Wire

/-!
# Sinks

Where finished spans go: a state machine that takes batches, can be told to flush and to shut down,
and answers each call with success or with a failure.

One sink keeps its batches to be looked at. It can be made to refuse every batch with a message, and
after its shutdown it refuses them all. Another one writes each span as JSON and a line end, in one line
or over several. Its first shutdown flushes; after it every batch is refused, and further shutdowns do
nothing. The enriching sink stands in front of another one. Each batch is enriched and passed on in its
order, flush and shutdown are passed on as they are, and every answer is that of the sink behind.
-/

namespace FaultContext.Export

set_option autoImplicit false

open Detail (Enricher Session)
open Files (Disk)
open FaultContext.Span (Exported)

abbrev Reply := Except ExportError Unit

/-- A sink with a state of type `δ`. -/
structure Sink (δ : Type) where
  deliver : Disk → List Exported → δ → Reply × δ
  flush : δ → Reply × δ
  shutdown : δ → Reply × δ

/-- A call to a sink, with the disk as it is then. -/
inductive Call where
  | deliver (disk : Disk) (batch : List Exported)
  | flush
  | shutdown

def Sink.call {δ : Type} (sink : Sink δ) : Call → δ → Reply × δ
  | .deliver disk batch => sink.deliver disk batch
  | .flush => sink.flush
  | .shutdown => sink.shutdown

def Sink.run {δ : Type} (sink : Sink δ) : List Call → δ → List Reply × δ
  | [], state => ([], state)
  | call :: calls, state =>
      let (reply, state) := sink.call call state
      let (replies, state) := sink.run calls state
      (reply :: replies, state)

/-! ## Keeping spans in memory -/

structure Memory where
  batches : List (List Exported) := []
  flushes : Nat := 0
  isShutdown : Bool := false

namespace Memory

def spans (memory : Memory) : List Exported := memory.batches.flatten

def reset (memory : Memory) : Memory := { memory with batches := [] }

/-- Takes a batch, unless it is shut down or has a failure to report. -/
def deliver (failure : Option Text) (batch : List Exported) (memory : Memory) : Reply × Memory :=
  if memory.isShutdown then (.error .alreadyShutdown, memory)
  else
    match failure with
    | some message => (.error (.failed message), memory)
    | none => (.ok (), { memory with batches := memory.batches ++ [batch] })

def sink (failure : Option Text) : Sink Memory where
  deliver := fun _ => deliver failure
  flush := fun memory => (.ok (), { memory with flushes := memory.flushes + 1 })
  shutdown := fun memory => (.ok (), { memory with isShutdown := true })

end Memory

/-! ## Writing spans to a stream -/

/-- A stream to write to, which may refuse to write or to flush. -/
structure Writer where
  writeFailure : Option IoFailure := none
  flushFailure : Option IoFailure := none
deriving DecidableEq, Repr

structure Stream where
  written : Text := []
  isShutdown : Bool := false
deriving DecidableEq, Repr

namespace Stream

def encode (pretty : Bool) (exported : Exported) : Text :=
  if pretty then Json.pretty exported.toJson else Json.compact exported.toJson

/-- A batch as it is written: a line end behind each span. -/
def encodeBatch (pretty : Bool) (batch : List Exported) : Text :=
  batch.flatMap fun exported => encode pretty exported ++ ['\n']

/-- Writes a batch. A writer that refuses takes nothing, though an empty batch needs no writing. -/
def deliver (writer : Writer) (pretty : Bool) (batch : List Exported) (stream : Stream) :
    Reply × Stream :=
  if stream.isShutdown then (.error .alreadyShutdown, stream)
  else
    match writer.writeFailure, batch with
    | some failure, _ :: _ => (.error (ExportError.ofIo failure), stream)
    | _, _ => (.ok (), { stream with written := stream.written ++ encodeBatch pretty batch })

def flushReply (writer : Writer) : Reply :=
  match writer.flushFailure with
  | some failure => .error (ExportError.ofIo failure)
  | none => .ok ()

/-- Shuts down, flushing the first time. -/
def shutdown (writer : Writer) (stream : Stream) : Reply × Stream :=
  if stream.isShutdown then (.ok (), stream)
  else (flushReply writer, { stream with isShutdown := true })

def sink (writer : Writer) (pretty : Bool) : Sink Stream where
  deliver := fun _ => deliver writer pretty
  flush := fun stream => (flushReply writer, stream)
  shutdown := shutdown writer

end Stream

/-! ## Enriching on the way out -/

namespace Enriching

variable {σ δ : Type}

structure State (σ δ : Type) where
  session : Session σ
  behind : δ

def deliver (enricher : Enricher σ) (behind : Sink δ) (disk : Disk) (batch : List Exported)
    (state : State σ δ) : Reply × State σ δ :=
  let (enriched, session) := enricher.enrichBatch disk batch state.session
  let (reply, next) := behind.deliver disk enriched state.behind
  (reply, ⟨{ session with tally := session.tally.performed .batchExport }, next⟩)

def flush (behind : Sink δ) (state : State σ δ) : Reply × State σ δ :=
  let (reply, next) := behind.flush state.behind
  (reply, { state with behind := next })

/-- Forgets the sources and passes a shutdown on. -/
def shutdown (behind : Sink δ) (state : State σ δ) : Reply × State σ δ :=
  let (reply, next) := behind.shutdown state.behind
  (reply, ⟨Enricher.clearCache state.session, next⟩)

/-- The enriching sink in front of another one. -/
def sink (enricher : Enricher σ) (behind : Sink δ) : Sink (State σ δ) where
  deliver := deliver enricher behind
  flush := flush behind
  shutdown := shutdown behind

end Enriching

end FaultContext.Export
