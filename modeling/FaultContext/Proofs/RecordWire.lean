import FaultContext.CommandLine.Run
import FaultContext.Proofs.JsonFields

/-!
# Records on the wire

Records that are written as one line of JSON are read back as they were, and so are those that a
command prints over several lines with their members in order: what it prints comes from reading that
one line, which never goes wrong.
-/

namespace FaultContext.Detail.Record

set_option autoImplicit false

open Json (Aligned Shows Plain)

/-- The lines of a record are signed numbers of 64 bits. -/
structure Fits (record : Record) : Prop where
  line : Json.minSigned64 ≤ record.line ∧ record.line ≤ Json.maxSigned64
  startLine : Json.minSigned64 ≤ record.startLine ∧ record.startLine ≤ Json.maxSigned64
  endLine : Json.minSigned64 ≤ record.endLine ∧ record.endLine ≤ Json.maxSigned64

def slots (record : Record) : List (Option (Text × Json.Value)) :=
  [Json.member "function_name" (.text record.functionName),
    Json.member "file" (Json.textOrNull record.file),
    Json.member "line" (.integer record.line),
    Json.member "language" (.text record.language),
    Json.member "is_external" (.bool record.isExternal),
    Json.member "start_line" (.integer record.startLine),
    Json.member "end_line" (.integer record.endLine),
    Json.member "function_body" (.text record.functionBody)]

variable {record : Record} {records : List Record}

theorem to_json_slots (record : Record) : record.toJson = Json.objectOf record.slots := rfl

theorem aligned_slots (record : Record) : Aligned fieldNames record.slots := by
  simp only [Aligned, fieldNames, slots, List.map, List.forall₂_cons, Json.bears_member, true_and,
    List.Forall₂.nil]

theorem field_names_nodup : fieldNames.Nodup := by decide

theorem as_signed {number : Int} (bounds : Json.minSigned64 ≤ number ∧ number ≤ Json.maxSigned64) :
    Json.asSigned (.integer number) = some number :=
  if_pos bounds

theorem of_json_shown (fits : record.Fits) {members : List (Text × Json.Value)}
    (shows : Shows fieldNames record.slots members) :
    ofJson? (.object members) = some record := by
  let fields : Json.Fields := ⟨false, members⟩
  have functionName : fields.required "function_name" Json.asText = some record.functionName :=
    Json.Fields.required_found shows (List.mem_of_getElem? (i := 0) rfl)
  have file : fields.nullable "file" Json.asText = some record.file :=
    (Json.Fields.nullable_found shows (List.mem_of_getElem? (i := 1) rfl)).trans
      (Json.nullable_text record.file)
  have line : fields.required "line" Json.asSigned = some record.line :=
    (Json.Fields.required_found shows (List.mem_of_getElem? (i := 2) rfl)).trans
      (as_signed fits.line)
  have language : fields.required "language" Json.asText = some record.language :=
    Json.Fields.required_found shows (List.mem_of_getElem? (i := 3) rfl)
  have isExternal : fields.required "is_external" Json.asBool = some record.isExternal :=
    Json.Fields.required_found shows (List.mem_of_getElem? (i := 4) rfl)
  have startLine : fields.required "start_line" Json.asSigned = some record.startLine :=
    (Json.Fields.required_found shows (List.mem_of_getElem? (i := 5) rfl)).trans
      (as_signed fits.startLine)
  have endLine : fields.required "end_line" Json.asSigned = some record.endLine :=
    (Json.Fields.required_found shows (List.mem_of_getElem? (i := 6) rfl)).trans
      (as_signed fits.endLine)
  have functionBody : fields.required "function_body" Json.asText = some record.functionBody :=
    Json.Fields.required_found shows (List.mem_of_getElem? (i := 7) rfl)
  have read : Json.Fields.of? fieldNames (.object members) = some fields :=
    Json.Fields.of_object fieldNames shows.distinct
  rw [ofJson?, read]
  simp only [Option.bind_eq_bind, Option.bind_some, Option.pure_def, functionName, file, line,
    language, isExternal, startLine, endLine, functionBody]

theorem shows_slots (record : Record) :
    Shows fieldNames record.slots (record.slots.filterMap id) :=
  Json.shows_slots record.aligned_slots field_names_nodup

theorem of_json_to_json (fits : record.Fits) : ofJson? record.toJson = some record :=
  of_json_shown fits record.shows_slots

/-- No field holds anything that has members of its own, so only the fields are put in order. -/
theorem ordered_to_json (record : Record) :
    Json.ordered record.toJson =
      .object (Dictionary.ofList (record.slots.filterMap id)).entries := by
  rw [to_json_slots, Json.objectOf, Json.ordered, Json.ordered_members_eq]
  cases file : record.file <;> rw [slots, file] <;> rfl

theorem of_json_ordered (fits : record.Fits) :
    ofJson? (Json.ordered record.toJson) = some record := by
  rw [ordered_to_json]
  exact of_json_shown fits (Json.shows_in_order record.shows_slots)

theorem plain_to_json (fits : record.Fits) : Plain record.toJson := by
  have within {number : Int} (bounds : Json.minSigned64 ≤ number ∧ number ≤ Json.maxSigned64) :
      Plain (.integer number) :=
    .integer number bounds.1 (Int.le_trans bounds.2 (by decide))
  have file : Plain (Json.textOrNull record.file) := by
    cases record.file with
    | none => exact .null
    | some name => exact .text name
  refine Json.plain_object_of ?_
  simp only [List.mem_cons, List.not_mem_nil, or_false, forall_eq_or_imp, forall_eq]
  exact ⟨Json.plain_member (.text _), Json.plain_member file, Json.plain_member (within fits.line),
    Json.plain_member (.text _), Json.plain_member (.bool _), Json.plain_member (within fits.startLine),
    Json.plain_member (within fits.endLine), Json.plain_member (.text _)⟩

/-- The records that a text spells. -/
def readList? (text : Text) : Option (List Record) :=
  (Json.read? text).bind (Json.asList ofJson?)

theorem plain_list (fits : ∀ record ∈ records, record.Fits) : Plain (listToJson records) :=
  Json.plain_array_of fun record member => plain_to_json (fits record member)

/-- One line of records is read back, and what is printed of it over several lines is there and is
read back as well. -/
theorem records_round_trip (records : List Record) (fits : ∀ record ∈ records, record.Fits) :
    readList? (serialize records) = some records ∧
      ∃ printed, CommandLine.printRecords? records = some printed ∧
        readList? printed = some records := by
  have plain := plain_list fits
  have line : Json.read? (serialize records) = some (listToJson records) := Json.read_compact plain
  have inOrder : Json.ordered (listToJson records) =
      .array (records.map fun record => Json.ordered record.toJson) := by
    rw [listToJson, Json.ordered, Json.ordered_items_eq, List.map_map]
    rfl
  refine ⟨?_, Json.pretty (Json.ordered (listToJson records)), ?_, ?_⟩
  · rw [readList?, line]
    exact Json.map_m_inverse fun record member => of_json_to_json (fits record member)
  · rw [CommandLine.printRecords?, line]
    rfl
  · rw [readList?, Json.read_pretty (Json.plain_ordered plain), Option.bind_some, inOrder]
    exact Json.map_m_inverse fun record member => of_json_ordered (fits record member)

/-- A record with extreme lines, whose texts need every kind of escape. -/
def awkward : Record where
  functionName := "say\"\\/".toList
  file := none
  line := -9223372036854775808
  language := []
  isExternal := true
  startLine := 9223372036854775807
  endLine := -1
  functionBody := ['\n', '\t', '\r', '\x08', '\x0c', '\x01', '\x1f', '\x7f', 'é', '𝄞']

theorem records_round_trip_awkward :
    (∀ record ∈ [awkward, { awkward with file := some [] }], record.Fits) ∧
      readList? (serialize [awkward, { awkward with file := some [] }]) =
        some [awkward, { awkward with file := some [] }] ∧
      ∃ printed, CommandLine.printRecords? [awkward, { awkward with file := some [] }] = some printed ∧
        readList? printed = some [awkward, { awkward with file := some [] }] := by
  have fits : ∀ record ∈ [awkward, { awkward with file := some [] }], record.Fits := by
    simp only [List.mem_cons, List.not_mem_nil, or_false, forall_eq_or_imp, forall_eq]
    exact ⟨⟨by decide, by decide, by decide⟩, ⟨by decide, by decide, by decide⟩⟩
  exact ⟨fits, records_round_trip _ fits⟩

end FaultContext.Detail.Record
