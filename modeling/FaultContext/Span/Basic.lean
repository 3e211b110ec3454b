import FaultContext.Decimal.Binary64
import FaultContext.Text.Dictionary
import FaultContext.Text.LowerCase

/-!
# Spans

Finished spans of a distributed trace with their attributes and events. An event counts as an
exception by its name or by the attribute that tells the type of an exception, and it carries the
printed stack trace as another attribute.

A span goes out as it came in, or as a view of it that shows other events. The view keeps the span
behind it, and everything but the events is read from there.
-/

namespace FaultContext.Span

set_option autoImplicit false

inductive AttributeValue where
  | bool (value : Bool)
  | integer (value : Int64)
  | number (value : Binary64)
  | text (content : Text)
  | texts (items : List Text)
deriving DecidableEq

def AttributeValue.asText? : AttributeValue → Option Text
  | .text content => some content
  | _ => none

/-- Attributes in the order of their keys. -/
abbrev Attributes := Dictionary AttributeValue

def exceptionType : Text := "exception.type".toList

def exceptionMessage : Text := "exception.message".toList

def exceptionStacktrace : Text := "exception.stacktrace".toList

/-- The attribute that enrichment adds. -/
def exceptionStackDetails : Text := "exception.stack_details".toList

inductive Kind where
  | internal
  | server
  | client
  | producer
  | consumer
deriving DecidableEq, Repr

inductive StatusCode where
  | unset
  | ok
  | error
deriving DecidableEq, Repr

structure Status where
  code : StatusCode := .unset
  description : Option Text := none
deriving DecidableEq, Repr

def Status.failed (description : Text) : Status := ⟨.error, some description⟩

def Status.isError (status : Status) : Bool := status.code == .error

/-- Something that happened during a span, at a time in nanoseconds. -/
structure Event where
  name : Text
  time : UInt64 := 0
  attributes : Attributes := .empty
deriving DecidableEq

namespace Event

def withAttribute (event : Event) (key : Text) (value : AttributeValue) : Event :=
  { event with attributes := event.attributes.insert key value }

/-- The conventional event of an exception. -/
def exception (time : UInt64) (type message stacktrace : Text) : Event :=
  (((⟨"exception".toList, time, .empty⟩ : Event).withAttribute exceptionType (.text type)).withAttribute
    exceptionMessage (.text message)).withAttribute exceptionStacktrace (.text stacktrace)

def textAttribute? (event : Event) (key : Text) : Option Text :=
  (event.attributes.get? key).bind AttributeValue.asText?

def isException (event : Event) : Bool :=
  let name := Text.lower event.name
  Text.occurs "exception".toList name || Text.occurs "error".toList name ||
    event.attributes.contains exceptionType

/-- The printed stack trace, unless it is empty. -/
def stacktrace? (event : Event) : Option Text :=
  (event.textAttribute? exceptionStacktrace).filter fun trace => !trace.isEmpty

end Event

end FaultContext.Span

namespace FaultContext

structure Span where
  traceId : Text
  spanId : Text
  parentSpanId : Option Text := none
  name : Text
  kind : Span.Kind := .internal
  startTime : UInt64 := 0
  endTime : UInt64 := 0
  attributes : Span.Attributes := .empty
  events : List Span.Event := []
  status : Span.Status := {}
  instrumentationScope : Option Text := none
deriving DecidableEq

namespace Span

/-- Whether the span has anything that enrichment could work on. -/
def needsEnrichment (span : Span) : Bool := span.status.isError || span.events.any Event.isException

/-! ## Spans on their way out -/

/-- A span that is handed to an exporter. -/
inductive Exported where
  | plain (span : Span)
  | enriched (span : Span) (events : List Event)
deriving DecidableEq

namespace Exported

def source : Exported → Span
  | .plain span => span
  | .enriched span _ => span

def isEnriched : Exported → Bool
  | .plain _ => false
  | .enriched _ _ => true

def events : Exported → List Event
  | .plain span => span.events
  | .enriched _ events => events

/-- A span of its own that says what the view says. -/
def toSpan : Exported → Span
  | .plain span => span
  | .enriched span events => { span with events := events }

end Exported

end Span

end FaultContext
