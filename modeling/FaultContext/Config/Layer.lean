import FaultContext.Config.Settings
import FaultContext.Json.Fields
import FaultContext.Yaml.Node

/-!
# Configuration layers

What a configuration file says: any of the settings and none of them. A file may be JSON or YAML, and
a setting that is null says nothing. Written out, a layer is a JSON object of what it says.
-/

namespace FaultContext.Config

set_option autoImplicit false

open Files (Path)
open Lookup (CachePolicy)

/-- The settings that one place gives. -/
structure Layer where
  extractExternal : Option Bool := none
  cacheSize : Option Nat := none
  cachePolicy : Option CachePolicy := none
  contextLines : Option Nat := none
  projectRoot : Option Path := none
  sourceRoots : Option (List Path) := none
  exclude : Option (List Text) := none
  runtimeHome : Option Path := none
  sourceArchives : Option (List Path) := none
  dependencyCaches : Option (List Path) := none
  maxSourceArchives : Option Nat := none
  classPath : Option (List Path) := none
  platformClassPath : Option (List Path) := none
  externalPackages : Option (List Text) := none
  includeCauseFrames : Option Bool := none
  maxFrames : Option Nat := none
  language : Option Text := none
deriving DecidableEq, Repr

namespace Layer

def fieldNames : List Text :=
  ["extractExternalFunctionCode", "sourceCacheSize", "sourceCachePolicy", "contextLines",
    "projectRoot", "sourceRoots", "exclude", "runtimeHome", "sourceArchives", "dependencyCaches",
    "maxSourceArchives", "classpath", "platformClasspath", "externalPrefixes", "includeCauseFrames",
    "maxFrames", "language"].map String.toList

/-- How the values of settings are taken out of the nodes of a file format. -/
structure Notation (ν : Type) where
  flag : ν → Option Bool
  count : ν → Option Nat
  policy : ν → Option CachePolicy
  text : ν → Option Text
  texts : ν → Option (List Text)

def json : Notation Json.Value where
  flag := Json.asBool
  count := Json.asNat
  policy := Json.asChoice CachePolicy.named?
  text := Json.asText
  texts := Json.asList Json.asText

def yaml : Notation Yaml.Node where
  flag := Yaml.asBool
  count := Yaml.asNat
  policy := Yaml.asChoice CachePolicy.named?
  text := Yaml.asText
  texts := Yaml.asList Yaml.asText

/-- Takes a layer out of the fields of a file. `field?` gives the node of a setting, or nothing for one
that is not there, and fails where a setting has to be there. -/
def ofFields {ν : Type} (n : Notation ν) (field? : String → Option (Option ν)) : Option Layer :=
  let read {α : Type} (name : String) (take : ν → Option α) : Option (Option α) :=
    match field? name with
    | none => none
    | some none => some none
    | some (some node) => (take node).map some
  return {
    extractExternal := ← read "extractExternalFunctionCode" n.flag
    cacheSize := ← read "sourceCacheSize" n.count
    cachePolicy := ← read "sourceCachePolicy" n.policy
    contextLines := ← read "contextLines" n.count
    projectRoot := ← read "projectRoot" n.text
    sourceRoots := ← read "sourceRoots" n.texts
    exclude := ← read "exclude" n.texts
    runtimeHome := ← read "runtimeHome" n.text
    sourceArchives := ← read "sourceArchives" n.texts
    dependencyCaches := ← read "dependencyCaches" n.texts
    maxSourceArchives := ← read "maxSourceArchives" n.count
    classPath := ← read "classpath" n.texts
    platformClassPath := ← read "platformClasspath" n.texts
    externalPackages := ← read "externalPrefixes" n.texts
    includeCauseFrames := ← read "includeCauseFrames" n.flag
    maxFrames := ← read "maxFrames" n.count
    language := ← read "language" n.text }

def ofJson? (value : Json.Value) : Option Layer := do
  let fields ← Json.Fields.of? fieldNames value
  ofFields json fun name => fields.nullable name some

def ofYaml? (node : Yaml.Node) : Option Layer := do
  let fields ← Yaml.fields? fieldNames node
  ofFields yaml fun name =>
    match fields.lookup name.toList with
    | some value => some (if value.isNull then none else some value)
    | none => some none

def textsValue (texts : List Text) : Json.Value := .array (texts.map .text)

def countValue (count : Nat) : Json.Value := .integer count

def toJson (layer : Layer) : Json.Value :=
  Json.objectOf
    [Json.member? "extractExternalFunctionCode" .bool layer.extractExternal,
      Json.member? "sourceCacheSize" countValue layer.cacheSize,
      Json.member? "sourceCachePolicy" (fun policy => .text policy.name) layer.cachePolicy,
      Json.member? "contextLines" countValue layer.contextLines,
      Json.member? "projectRoot" .text layer.projectRoot,
      Json.member? "sourceRoots" textsValue layer.sourceRoots,
      Json.member? "exclude" textsValue layer.exclude,
      Json.member? "runtimeHome" .text layer.runtimeHome,
      Json.member? "sourceArchives" textsValue layer.sourceArchives,
      Json.member? "dependencyCaches" textsValue layer.dependencyCaches,
      Json.member? "maxSourceArchives" countValue layer.maxSourceArchives,
      Json.member? "classpath" textsValue layer.classPath,
      Json.member? "platformClasspath" textsValue layer.platformClassPath,
      Json.member? "externalPrefixes" textsValue layer.externalPackages,
      Json.member? "includeCauseFrames" .bool layer.includeCauseFrames,
      Json.member? "maxFrames" countValue layer.maxFrames,
      Json.member? "language" .text layer.language]

end Layer

end FaultContext.Config
