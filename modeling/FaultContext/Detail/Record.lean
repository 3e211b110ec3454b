import FaultContext.Code.Excerpt
import FaultContext.Json.Fields
import FaultContext.Json.Writer
import FaultContext.Trace.Frame

/-!
# Records

What enrichment says about one frame: which function failed where, whether the code is external, and
the lines of its source. A record without an excerpt stands for its own line: with an empty body when
the source was left alone on purpose, and with a placeholder when it could not be had.
-/

namespace FaultContext.Detail

set_option autoImplicit false

open Code (Excerpt)
open Json (Value Fields Decoder)
open Trace (Frame)

/-- What is said about one frame. The line is minus one when it is not known. -/
structure Record where
  functionName : Text
  file : Option Text
  line : Int
  language : Text
  isExternal : Bool
  startLine : Int
  endLine : Int
  functionBody : Text
deriving DecidableEq, Repr

/-- The body of a record whose source could not be had. -/
def placeholder : Text := "// Function body extraction failed".toList

namespace Record

/-- The record of a frame before anything is known of its source. -/
def bare (frame : Frame) (language : Text) (isExternal : Bool) : Record where
  functionName := frame.functionName
  file := frame.fileName
  line := frame.lineOrUnknown
  language := language
  isExternal := isExternal
  startLine := frame.lineOrUnknown
  endLine := frame.lineOrUnknown
  functionBody := []

/-- The record of an external frame whose source is left alone. -/
def skipped (frame : Frame) (language : Text) : Record := bare frame language true

def extractionFailed (frame : Frame) (language : Text) (isExternal : Bool) : Record :=
  { bare frame language isExternal with functionBody := placeholder }

def extracted (frame : Frame) (language : Text) (isExternal : Bool) (excerpt : Excerpt) : Record :=
  { bare frame language isExternal with
    startLine := excerpt.range.first
    endLine := excerpt.range.last
    functionBody := excerpt.body }

def fieldNames : List Text :=
  ["function_name", "file", "line", "language", "is_external", "start_line", "end_line",
    "function_body"].map String.toList

def toJson (record : Record) : Value :=
  Json.objectOf
    [Json.member "function_name" (.text record.functionName),
      Json.member "file" (Json.textOrNull record.file),
      Json.member "line" (.integer record.line),
      Json.member "language" (.text record.language),
      Json.member "is_external" (.bool record.isExternal),
      Json.member "start_line" (.integer record.startLine),
      Json.member "end_line" (.integer record.endLine),
      Json.member "function_body" (.text record.functionBody)]

def ofJson? : Decoder Record := fun value => do
  let fields ← Fields.of? fieldNames value
  return {
    functionName := ← fields.required "function_name" Json.asText
    file := ← fields.nullable "file" Json.asText
    line := ← fields.required "line" Json.asSigned
    language := ← fields.required "language" Json.asText
    isExternal := ← fields.required "is_external" Json.asBool
    startLine := ← fields.required "start_line" Json.asSigned
    endLine := ← fields.required "end_line" Json.asSigned
    functionBody := ← fields.required "function_body" Json.asText }

def listToJson (records : List Record) : Value := .array (records.map toJson)

def serialize (records : List Record) : Text := Json.compact (listToJson records)

end Record

end FaultContext.Detail
