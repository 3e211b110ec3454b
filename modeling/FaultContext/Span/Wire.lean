import FaultContext.Json.Fields
import FaultContext.Span.Basic

/-!
# Spans as JSON

The names of the fields and which of them may be missing. Absent texts are left out when a span is
written. An attribute is told apart by what it is: a whole number outside of 64 signed bits becomes a
double, and null, objects and lists of anything but texts are no attributes.
-/

namespace FaultContext.Span

set_option autoImplicit false

open Json (Value Fields Decoder)

def textsValue (items : List Text) : Value := .array (items.map .text)

namespace AttributeValue

def toJson : AttributeValue → Value
  | .bool value => .bool value
  | .integer value => .integer value.toInt
  | .number value => .number value
  | .text content => .text content
  | .texts items => textsValue items

def ofJson? : Decoder AttributeValue
  | .bool value => some (.bool value)
  | .integer value =>
      if Json.minSigned64 ≤ value ∧ value ≤ Json.maxSigned64 then some (.integer (Int64.ofInt value))
      else some (.number (Binary64.ofInt value))
  | .number value => some (.number value)
  | .text content => some (.text content)
  | .array items => (items.mapM Json.asText).map .texts
  | _ => none

end AttributeValue

def attributesToJson (attributes : Attributes) : Value :=
  .object (attributes.entries.map fun entry => (entry.1, entry.2.toJson))

/-- The attributes of an object; of two with the same key the later one counts. -/
def attributesOfJson? : Decoder Attributes
  | .object members =>
      (members.mapM fun member =>
        (AttributeValue.ofJson? member.2).map fun value => (member.1, value)).map Dictionary.ofList
  | _ => none

def wordValue (word : UInt64) : Value := .integer word.toNat

def asWord : Decoder UInt64 := fun value => (Json.asNat value).map UInt64.ofNat

def Kind.name : Kind → Text
  | .internal => "internal".toList
  | .server => "server".toList
  | .client => "client".toList
  | .producer => "producer".toList
  | .consumer => "consumer".toList

def Kind.named? (name : Text) : Option Kind :=
  [Kind.internal, .server, .client, .producer, .consumer].find? fun kind => kind.name == name

def StatusCode.name : StatusCode → Text
  | .unset => "unset".toList
  | .ok => "ok".toList
  | .error => "error".toList

def StatusCode.named? (name : Text) : Option StatusCode :=
  [StatusCode.unset, .ok, .error].find? fun code => code.name == name

namespace Status

def fieldNames : List Text := ["code", "description"].map String.toList

def toJson (status : Status) : Value :=
  Json.objectOf
    [Json.member "code" (.text status.code.name),
      Json.member? "description" .text status.description]

def ofJson? : Decoder Status := fun value => do
  let fields ← Fields.of? fieldNames value
  return {
    code := ← fields.required "code" (Json.asChoice StatusCode.named?)
    description := ← fields.withDefault "description" none (Json.asNullable Json.asText) }

end Status

namespace Event

def fieldNames : List Text := ["name", "time_unix_nano", "attributes"].map String.toList

def toJson (event : Event) : Value :=
  Json.objectOf
    [Json.member "name" (.text event.name),
      Json.member "time_unix_nano" (wordValue event.time),
      Json.member "attributes" (attributesToJson event.attributes)]

def ofJson? : Decoder Event := fun value => do
  let fields ← Fields.of? fieldNames value
  return {
    name := ← fields.required "name" Json.asText
    time := ← fields.withDefault "time_unix_nano" 0 asWord
    attributes := ← fields.withDefault "attributes" .empty attributesOfJson? }

end Event

def fieldNames : List Text :=
  ["trace_id", "span_id", "parent_span_id", "name", "kind", "start_time_unix_nano",
    "end_time_unix_nano", "attributes", "events", "status", "instrumentation_scope"].map String.toList

def toJson (span : Span) : Value :=
  Json.objectOf
    [Json.member "trace_id" (.text span.traceId),
      Json.member "span_id" (.text span.spanId),
      Json.member? "parent_span_id" .text span.parentSpanId,
      Json.member "name" (.text span.name),
      Json.member "kind" (.text span.kind.name),
      Json.member "start_time_unix_nano" (wordValue span.startTime),
      Json.member "end_time_unix_nano" (wordValue span.endTime),
      Json.member "attributes" (attributesToJson span.attributes),
      Json.member "events" (.array (span.events.map Event.toJson)),
      Json.member "status" span.status.toJson,
      Json.member? "instrumentation_scope" .text span.instrumentationScope]

def ofJson? : Decoder Span := fun value => do
  let fields ← Fields.of? fieldNames value
  return {
    traceId := ← fields.required "trace_id" Json.asText
    spanId := ← fields.required "span_id" Json.asText
    parentSpanId := ← fields.withDefault "parent_span_id" none (Json.asNullable Json.asText)
    name := ← fields.required "name" Json.asText
    kind := ← fields.withDefault "kind" .internal (Json.asChoice Kind.named?)
    startTime := ← fields.withDefault "start_time_unix_nano" 0 asWord
    endTime := ← fields.withDefault "end_time_unix_nano" 0 asWord
    attributes := ← fields.withDefault "attributes" .empty attributesOfJson?
    events := ← fields.withDefault "events" [] (Json.asList Event.ofJson?)
    status := ← fields.withDefault "status" {} Status.ofJson?
    instrumentationScope :=
      ← fields.withDefault "instrumentation_scope" none (Json.asNullable Json.asText) }

/-- What a view shows, as an object, without making a span of its own. -/
def Exported.toJson (exported : Exported) : Value :=
  let source := exported.source
  Json.objectOf
    [Json.member "trace_id" (.text source.traceId),
      Json.member "span_id" (.text source.spanId),
      Json.member? "parent_span_id" .text source.parentSpanId,
      Json.member "name" (.text source.name),
      Json.member "kind" (.text source.kind.name),
      Json.member "start_time_unix_nano" (wordValue source.startTime),
      Json.member "end_time_unix_nano" (wordValue source.endTime),
      Json.member "attributes" (attributesToJson source.attributes),
      Json.member "events" (.array (exported.events.map Event.toJson)),
      Json.member "status" source.status.toJson,
      Json.member? "instrumentation_scope" .text source.instrumentationScope]

end FaultContext.Span
