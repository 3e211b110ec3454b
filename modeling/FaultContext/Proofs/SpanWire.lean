import FaultContext.Proofs.JsonFields
import FaultContext.Span.Wire

/-!
# Spans on the wire

A span that is written is read back as it was: each attribute comes back as the kind of value that it
is, a text that is absent stays absent, and times keep all their bits. A double may lose its digits on
the way and is left out here. A view of a span writes its fields without making a span of its own, and
writes what that span would.
-/

namespace FaultContext.Span

set_option autoImplicit false

open Json (Aligned Shows Plain Value)

/-- A value that is no double. -/
def AttributeValue.Exact : AttributeValue → Prop
  | .number _ => False
  | .bool _ | .integer _ | .text _ | .texts _ => True

instance : DecidablePred AttributeValue.Exact
  | .number _ => .isFalse id
  | .bool _ | .integer _ | .text _ | .texts _ => .isTrue trivial

/-- No attribute is a double. -/
def AttributesExact (attributes : Attributes) : Prop := ∀ entry ∈ attributes.entries, entry.2.Exact

instance : DecidablePred AttributesExact := fun attributes =>
  inferInstanceAs (Decidable (∀ entry ∈ attributes.entries, entry.2.Exact))

/-- Neither the span nor one of its events has a double for an attribute. -/
structure Exact (span : Span) : Prop where
  attributes : AttributesExact span.attributes
  events : ∀ event ∈ span.events, AttributesExact event.attributes

instance : DecidablePred Exact := fun span =>
  decidable_of_iff (AttributesExact span.attributes ∧
      ∀ event ∈ span.events, AttributesExact event.attributes)
    ⟨fun parts => ⟨parts.1, parts.2⟩, fun exact => ⟨exact.attributes, exact.events⟩⟩

section Attributes

variable {value : AttributeValue} {attributes : Attributes}

theorem int64_bounds (number : Int64) :
    Json.minSigned64 ≤ number.toInt ∧ number.toInt ≤ Json.maxSigned64 := by
  have least := number.le_toInt
  have greatest := number.toInt_lt
  simp only [Json.minSigned64, Json.maxSigned64]
  omega

theorem attribute_read_back (exact : value.Exact) :
    AttributeValue.ofJson? value.toJson = some value := by
  cases value with
  | bool flag => rfl
  | integer number =>
      rw [AttributeValue.toJson, AttributeValue.ofJson?, if_pos (int64_bounds number),
        Int64.ofInt_toInt]
  | number double => cases exact
  | text content => rfl
  | texts items =>
      have each : ∀ item ∈ items, Json.asText (.text item) = some item := fun _ _ => rfl
      rw [AttributeValue.toJson, textsValue, AttributeValue.ofJson?, Json.map_m_inverse each]
      rfl

theorem plain_attribute (exact : value.Exact) : Plain value.toJson := by
  cases value with
  | bool flag => exact .bool flag
  | integer number =>
      obtain ⟨least, greatest⟩ := int64_bounds number
      exact .integer _ least (Int.le_trans greatest (by decide))
  | number double => cases exact
  | text content => exact .text content
  | texts items => exact Json.plain_array_of fun content _ => .text content

theorem attributes_read_back (exact : AttributesExact attributes) :
    attributesOfJson? (attributesToJson attributes) = some attributes := by
  have each : ∀ entry ∈ attributes.entries,
      (AttributeValue.ofJson? entry.2.toJson).map (fun value => (entry.1, value)) = some entry := by
    intro entry member
    rw [attribute_read_back (exact entry member)]
    rfl
  rw [attributesToJson, attributesOfJson?, Json.map_m_inverse each, Option.map_some,
    Dictionary.of_list_entries]

theorem plain_attributes (exact : AttributesExact attributes) :
    Plain (attributesToJson attributes) := by
  refine .object _ fun member held => ?_
  obtain ⟨entry, found, rfl⟩ := List.mem_map.1 held
  exact plain_attribute (exact entry found)

end Attributes

theorem word_read_back (word : UInt64) : asWord (wordValue word) = some word := by
  have bounds : (0 : Int) ≤ word.toNat ∧ (word.toNat : Int) ≤ Text.maxWord64 := by
    have fits := word.toNat_lt
    simp only [Text.maxWord64]
    omega
  rw [asWord, wordValue, Json.asNat, Json.asIntegerWithin, if_pos bounds]
  simp

theorem plain_word (word : UInt64) : Plain (wordValue word) := by
  have fits := word.toNat_lt
  refine .integer _ ?_ ?_
  · simp only [Json.Numeral.minInteger]
    omega
  · simp only [Text.maxWord64]
    omega

namespace Status

def slots (status : Status) : List (Option (Text × Value)) :=
  [Json.member "code" (.text status.code.name),
    Json.member? "description" .text status.description]

theorem code_read_back (code : StatusCode) :
    Json.asChoice StatusCode.named? (.text code.name) = some code := by
  cases code <;> rfl

theorem shows_slots (status : Status) :
    Shows fieldNames status.slots (status.slots.filterMap id) := by
  have aligned : Aligned fieldNames status.slots :=
    .cons (Json.bears_member _ _) (.cons (Json.bears_optional _ _ _) .nil)
  exact Json.shows_slots aligned (by decide)

theorem status_read_back (status : Status) : ofJson? status.toJson = some status := by
  have shows := status.shows_slots
  let fields : Json.Fields := ⟨false, status.slots.filterMap id⟩
  have code : fields.required "code" (Json.asChoice StatusCode.named?) = some status.code :=
    (Json.Fields.required_found shows (List.mem_of_getElem? (i := 0) rfl)).trans
      (code_read_back status.code)
  have description : fields.withDefault "description" none (Json.asNullable Json.asText) =
      some status.description :=
    Json.Fields.default_optional shows (List.mem_of_getElem? (i := 1) rfl)
  have read : Json.Fields.of? fieldNames status.toJson = some fields :=
    Json.Fields.of_object fieldNames shows.distinct
  rw [ofJson?, read]
  simp only [Option.bind_eq_bind, Option.bind_some, Option.pure_def, code, description]

theorem plain_status (status : Status) : Plain status.toJson := by
  refine Json.plain_object_of ?_
  simp only [List.mem_cons, List.not_mem_nil, or_false, forall_eq_or_imp, forall_eq]
  exact ⟨Json.plain_member (.text _), Json.plain_optional _ _⟩

end Status

namespace Event

def slots (event : Event) : List (Option (Text × Value)) :=
  [Json.member "name" (.text event.name), Json.member "time_unix_nano" (wordValue event.time),
    Json.member "attributes" (attributesToJson event.attributes)]

theorem shows_slots (event : Event) : Shows fieldNames event.slots (event.slots.filterMap id) := by
  have aligned : Aligned fieldNames event.slots :=
    .cons (Json.bears_member _ _) (.cons (Json.bears_member _ _)
      (.cons (Json.bears_member _ _) .nil))
  exact Json.shows_slots aligned (by decide)

theorem event_read_back {event : Event} (exact : AttributesExact event.attributes) :
    ofJson? event.toJson = some event := by
  have shows := event.shows_slots
  let fields : Json.Fields := ⟨false, event.slots.filterMap id⟩
  have name : fields.required "name" Json.asText = some event.name :=
    Json.Fields.required_found shows (List.mem_of_getElem? (i := 0) rfl)
  have time : fields.withDefault "time_unix_nano" 0 asWord = some event.time :=
    (Json.Fields.default_found shows (List.mem_of_getElem? (i := 1) rfl)).trans
      (word_read_back event.time)
  have attributes : fields.withDefault "attributes" .empty attributesOfJson? =
      some event.attributes :=
    (Json.Fields.default_found shows (List.mem_of_getElem? (i := 2) rfl)).trans
      (attributes_read_back exact)
  have read : Json.Fields.of? fieldNames event.toJson = some fields :=
    Json.Fields.of_object fieldNames shows.distinct
  rw [ofJson?, read]
  simp only [Option.bind_eq_bind, Option.bind_some, Option.pure_def, name, time, attributes]

theorem plain_event {event : Event} (exact : AttributesExact event.attributes) :
    Plain event.toJson := by
  refine Json.plain_object_of ?_
  simp only [List.mem_cons, List.not_mem_nil, or_false, forall_eq_or_imp, forall_eq]
  exact ⟨Json.plain_member (.text _), Json.plain_member (plain_word _),
    Json.plain_member (plain_attributes exact)⟩

end Event

def slots (span : Span) : List (Option (Text × Value)) :=
  [Json.member "trace_id" (.text span.traceId),
    Json.member "span_id" (.text span.spanId),
    Json.member? "parent_span_id" .text span.parentSpanId,
    Json.member "name" (.text span.name),
    Json.member "kind" (.text span.kind.name),
    Json.member "start_time_unix_nano" (wordValue span.startTime),
    Json.member "end_time_unix_nano" (wordValue span.endTime),
    Json.member "attributes" (attributesToJson span.attributes),
    Json.member "events" (.array (span.events.map Event.toJson)),
    Json.member "status" span.status.toJson,
    Json.member? "instrumentation_scope" .text span.instrumentationScope]

variable {span : Span}

theorem kind_read_back (kind : Kind) :
    Json.asChoice Kind.named? (.text kind.name) = some kind := by
  cases kind <;> rfl

theorem events_read_back (exact : span.Exact) :
    Json.asList Event.ofJson? (.array (span.events.map Event.toJson)) = some span.events :=
  Json.map_m_inverse fun event member => Event.event_read_back (exact.events event member)

theorem shows_slots (span : Span) : Shows fieldNames span.slots (span.slots.filterMap id) := by
  have aligned : Aligned fieldNames span.slots := by
    simp only [Aligned, fieldNames, slots, List.map, List.forall₂_cons, Json.bears_member,
      Json.bears_optional, true_and, List.Forall₂.nil]
  exact Json.shows_slots aligned (by decide)

theorem span_read_back (exact : span.Exact) : ofJson? span.toJson = some span := by
  have shows := span.shows_slots
  let fields : Json.Fields := ⟨false, span.slots.filterMap id⟩
  have traceId : fields.required "trace_id" Json.asText = some span.traceId :=
    Json.Fields.required_found shows (List.mem_of_getElem? (i := 0) rfl)
  have spanId : fields.required "span_id" Json.asText = some span.spanId :=
    Json.Fields.required_found shows (List.mem_of_getElem? (i := 1) rfl)
  have parentSpanId : fields.withDefault "parent_span_id" none (Json.asNullable Json.asText) =
      some span.parentSpanId :=
    Json.Fields.default_optional shows (List.mem_of_getElem? (i := 2) rfl)
  have name : fields.required "name" Json.asText = some span.name :=
    Json.Fields.required_found shows (List.mem_of_getElem? (i := 3) rfl)
  have kind : fields.withDefault "kind" .internal (Json.asChoice Kind.named?) = some span.kind :=
    (Json.Fields.default_found shows (List.mem_of_getElem? (i := 4) rfl)).trans
      (kind_read_back span.kind)
  have startTime : fields.withDefault "start_time_unix_nano" 0 asWord = some span.startTime :=
    (Json.Fields.default_found shows (List.mem_of_getElem? (i := 5) rfl)).trans
      (word_read_back span.startTime)
  have endTime : fields.withDefault "end_time_unix_nano" 0 asWord = some span.endTime :=
    (Json.Fields.default_found shows (List.mem_of_getElem? (i := 6) rfl)).trans
      (word_read_back span.endTime)
  have attributes : fields.withDefault "attributes" .empty attributesOfJson? =
      some span.attributes :=
    (Json.Fields.default_found shows (List.mem_of_getElem? (i := 7) rfl)).trans
      (attributes_read_back exact.attributes)
  have events : fields.withDefault "events" [] (Json.asList Event.ofJson?) = some span.events :=
    (Json.Fields.default_found shows (List.mem_of_getElem? (i := 8) rfl)).trans
      (events_read_back exact)
  have status : fields.withDefault "status" {} Status.ofJson? = some span.status :=
    (Json.Fields.default_found shows (List.mem_of_getElem? (i := 9) rfl)).trans
      (Status.status_read_back span.status)
  have scope : fields.withDefault "instrumentation_scope" none (Json.asNullable Json.asText) =
      some span.instrumentationScope :=
    Json.Fields.default_optional shows (List.mem_of_getElem? (i := 10) rfl)
  have read : Json.Fields.of? fieldNames span.toJson = some fields :=
    Json.Fields.of_object fieldNames shows.distinct
  rw [ofJson?, read]
  simp only [Option.bind_eq_bind, Option.bind_some, Option.pure_def, traceId, spanId, parentSpanId,
    name, kind, startTime, endTime, attributes, events, status, scope]

theorem plain_events (exact : span.Exact) : Plain (.array (span.events.map Event.toJson)) :=
  Json.plain_array_of fun event member => Event.plain_event (exact.events event member)

theorem plain_span (exact : span.Exact) : Plain span.toJson := by
  refine Json.plain_object_of ?_
  simp only [List.mem_cons, List.not_mem_nil, or_false, forall_eq_or_imp, forall_eq]
  exact ⟨Json.plain_member (.text _), Json.plain_member (.text _), Json.plain_optional _ _,
    Json.plain_member (.text _), Json.plain_member (.text _), Json.plain_member (plain_word _),
    Json.plain_member (plain_word _), Json.plain_member (plain_attributes exact.attributes),
    Json.plain_member (plain_events exact), Json.plain_member (Status.plain_status span.status),
    Json.plain_optional _ _⟩

/-- The span that a text spells. -/
def read? (text : Text) : Option Span := (Json.read? text).bind ofJson?

theorem view_to_json (exported : Exported) : exported.toJson = exported.toSpan.toJson := by
  cases exported <;> rfl

theorem compact_read_back (exact : span.Exact) : read? (Json.compact span.toJson) = some span := by
  rw [read?, Json.read_compact (plain_span exact)]
  exact span_read_back exact

theorem pretty_read_back (exact : span.Exact) : read? (Json.pretty span.toJson) = some span := by
  rw [read?, Json.read_pretty (plain_span exact)]
  exact span_read_back exact

/-- A view is written as the span that it shows, and a span without doubles is read back. -/
theorem view_written_and_span_read_back :
    (∀ exported : Exported, Json.compact exported.toJson = Json.compact exported.toSpan.toJson ∧
        Json.pretty exported.toJson = Json.pretty exported.toSpan.toJson) ∧
      ∀ span : Span, span.Exact →
        read? (Json.compact span.toJson) = some span ∧
          read? (Json.pretty span.toJson) = some span := by
  constructor
  · intro exported
    rw [view_to_json]
    exact ⟨rfl, rfl⟩
  · intro span exact
    exact ⟨compact_read_back exact, pretty_read_back exact⟩

/-- Every kind of attribute but doubles, with numbers and texts at the edge of what there is. -/
def mixedAttributes : Attributes := .ofList
  [("whole".toList, .integer 9223372036854775807), ("least".toList, .integer (-9223372036854775808)),
    ("".toList, .bool false), ("12".toList, .text "12".toList), ("true".toList, .text "true".toList),
    ("none".toList, .texts []), ("\"\\\n".toList, .texts ["".toList, "\r\n\t\u0001".toList])]

/-- A span with all of its fields set, the times to the latest there is. -/
def crowded : Span where
  traceId := "\n".toList
  spanId := []
  parentSpanId := some []
  name := "é𝄞".toList
  kind := .consumer
  startTime := 18446744073709551615
  endTime := 18446744073709551614
  attributes := mixedAttributes
  events := [⟨"first".toList, 18446744073709551615, mixedAttributes⟩, ⟨[], 0, .empty⟩]
  status := .failed []
  instrumentationScope := some "null".toList

theorem view_written_and_span_read_back_crowded :
    (crowded.Exact ∧ read? (Json.compact crowded.toJson) = some crowded ∧
        read? (Json.pretty crowded.toJson) = some crowded) ∧
      Json.compact (Exported.enriched crowded []).toJson =
        Json.compact ({ crowded with events := [] } : Span).toJson := by
  have exact : crowded.Exact := by decide
  exact ⟨⟨exact, view_written_and_span_read_back.2 crowded exact⟩,
    (view_written_and_span_read_back.1 (.enriched crowded [])).1⟩

end FaultContext.Span
