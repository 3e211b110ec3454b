import Mathlib.Tactic.SplitIfs
import FaultContext.Config.Load
import FaultContext.Detail.Enricher
import FaultContext.Proofs.PathsBelow
import FaultContext.Proofs.Trimming

/-!
# Accepted settings

Settings are looked at once when they are loaded, and their excludes are read again when an enricher is
made of them. Both readings ask the same of a text, that it is a glob. So the making of an enricher
refuses nothing that loading has accepted, whatever the files and the command line said. Loading does not
ask how large a cache may be, though, and one that is larger than the machine has room for breaks the
making off.
-/

namespace FaultContext

set_option autoImplicit false

open Files (Disk Path)

/-- The text can be read as a glob. -/
def Glob.IsGlob (text : Text) : Prop := ∃ pattern, Pattern.parse text = .ok pattern

namespace Config

open Glob (IsGlob Pattern)

theorem faulty_glob_none_iff (texts : List Text) :
    faultyGlob? texts = none ↔ ∀ text ∈ texts, IsGlob text := by
  induction texts with
  | nil => simp [faultyGlob?]
  | cons text texts ih =>
      rw [faultyGlob?, List.forall_mem_cons, IsGlob]
      cases parsed : Pattern.parse text with
      | error error => simp
      | ok pattern => simp [ih]

/-- What settings have to be for a pipeline to work with them. -/
structure Fit (settings : Settings) : Prop where
  spoken : ¬ Text.Blank settings.language
  someFrames : settings.maxFrames ≠ some 0
  globs : ∀ text ∈ settings.exclude, IsGlob text
  narrow : ∀ package ∈ settings.externalPackages, package ≠ []

theorem validate_ok_iff (settings : Settings) : settings.validate = .ok () ↔ Fit settings := by
  have spoken : (Text.trim settings.language).isEmpty = true ↔ Text.Blank settings.language := by
    rw [List.isEmpty_iff, Text.trim_eq_nil_iff]
  have narrow : settings.externalPackages.any List.isEmpty = true ↔
      ¬ ∀ package ∈ settings.externalPackages, package ≠ [] := by
    simp
  have globs := faulty_glob_none_iff settings.exclude
  unfold Settings.validate
  cases fault : faultyGlob? settings.exclude with
  | some found =>
      constructor
      · intro accepted
        split_ifs at accepted
      · intro fit
        rw [globs.2 fit.globs] at fault
        cases fault
  | none =>
      constructor
      · intro accepted
        split_ifs at accepted with blank frameless wide
        exact ⟨mt spoken.2 blank, frameless, globs.1 fault, not_not.1 (mt narrow.2 wide)⟩
      · intro fit
        rw [if_neg (mt spoken.1 fit.spoken), if_neg fit.someFrames]
        exact if_neg fun wide => narrow.1 wide fit.narrow

/-- The settings with a relative project root seen from the workspace. -/
def Settings.rootedAt (settings : Settings) (workspace : Path) : Settings :=
  { settings with
    projectRoot :=
      if Path.isAbsolute settings.projectRoot then settings.projectRoot
      else Path.join workspace settings.projectRoot }

theorem absolute_rooted_at (settings : Settings) (workspace : Path)
    (rooted : Path.isAbsolute workspace = true) :
    Path.isAbsolute (settings.rootedAt workspace).projectRoot = true := by
  have filled : workspace ≠ [] := by
    intro empty
    rw [empty] at rooted
    cases rooted
  unfold Settings.rootedAt
  dsimp only
  split_ifs with absolute
  · exact absolute
  · rw [Path.is_absolute_join workspace settings.projectRoot filled (by simpa using absolute)]
    exact rooted

theorem finish_ok_iff (workspace : Path) (settings accepted : Settings) :
    finish workspace settings = .ok accepted ↔
      accepted = settings.rootedAt workspace ∧ Fit accepted := by
  have same : finish workspace settings =
      (settings.rootedAt workspace).validate.map fun _ => settings.rootedAt workspace := by
    unfold finish Settings.rootedAt
    split_ifs <;> rfl
  rw [same]
  constructor
  · intro passed
    cases checked : (settings.rootedAt workspace).validate with
    | error error => rw [checked] at passed; cases passed
    | ok done =>
        rw [checked] at passed
        cases passed
        exact ⟨rfl, (validate_ok_iff _).1 checked⟩
  · rintro ⟨rfl, fit⟩
    rw [(validate_ok_iff _).2 fit]
    rfl

/-- The layer of the workspace, or of the file that is named in its place. -/
def chosenLayer (disk : Disk) (workspace : Path) (named : Option Path) :
    Except ConfigError (Option Layer) :=
  match named with
  | some path => (loadFile disk path).map some
  | none => loadWorkspace disk workspace

theorem eq_ok_of_to_option {ε α : Type} {outcome : Except ε α} {value : α}
    (same : outcome.toOption = some value) : outcome = .ok value := by
  cases outcome with
  | error error => cases same
  | ok found => exact congrArg Except.ok (Option.some.inj same)

/-- Settings are loaded exactly where both layers are read and what is laid together is fit. -/
theorem load_ok_iff (surroundings : Surroundings) (disk : Disk) (workspace : Path)
    (named : Option Path) (overrides : Overrides) (settings : Settings) :
    load surroundings disk workspace named overrides = .ok settings ↔
      ∃ global layer, loadGlobal surroundings disk = .ok global ∧
        chosenLayer disk workspace named = .ok layer ∧
        settings = (merge surroundings global layer overrides).rootedAt workspace ∧
        Fit settings := by
  have steps : load surroundings disk workspace named overrides =
      (loadGlobal surroundings disk).bind fun global =>
        (chosenLayer disk workspace named).bind fun layer =>
          finish workspace (merge surroundings global layer overrides) := by
    cases named <;> rfl
  rw [steps]
  cases loadGlobal surroundings disk with
  | error error => simp [Except.bind]
  | ok global =>
      cases chosenLayer disk workspace named with
      | error error => simp [Except.bind]
      | ok layer => simp [Except.bind, finish_ok_iff]

end Config

namespace Lookup

open Glob (IsGlob Pattern)

theorem read_excludes_ok_iff (texts : List Text) :
    (∃ patterns, readExcludes texts = .ok patterns) ↔ ∀ text ∈ texts, IsGlob text := by
  induction texts with
  | nil => simp [readExcludes]
  | cons text texts ih =>
      rw [readExcludes, List.forall_mem_cons, ← ih, IsGlob]
      cases Pattern.parse text with
      | error error => simp
      | ok pattern =>
          cases readExcludes texts <;> simp [Except.map]

theorem places_ok_iff (settings : Config.Settings) :
    (∃ places, Places.ofSettings settings = .ok places) ↔ ∀ text ∈ settings.exclude, IsGlob text := by
  rw [← read_excludes_ok_iff, Places.ofSettings]
  cases readExcludes settings.exclude <;> simp [Except.map]

end Lookup

/-- The cache is to have its table at once, and the machine has no room for it. -/
def Config.Settings.ExceedsRoom (settings : Config.Settings) (room : Lookup.Room) : Prop :=
  settings.cachePolicy = .lru ∧ settings.cacheSize ≠ 0 ∧ room.holds settings.cacheSize = false

namespace Detail.Enricher

open Config (Settings Surroundings Overrides Layer Fit load loadGlobal chosenLayer merge)

variable {σ : Type}

/-- Where the excludes can be read, nothing but room can be wanting. -/
theorem of_settings_outcome {settings : Settings} (globs : ∀ text ∈ settings.exclude, Glob.IsGlob text)
    (room : Lookup.Room) (resolver : Origin.Resolver σ) :
    (¬ settings.ExceedsRoom room ∧ ∃ enricher, ofSettings room settings resolver = .ok enricher) ∨
      (settings.ExceedsRoom room ∧ ofSettings room settings resolver = .error .noRoom) := by
  obtain ⟨places, read⟩ := (Lookup.places_ok_iff settings).2 globs
  unfold Settings.ExceedsRoom
  rw [← Lookup.Cache.create_eq_none_iff, ofSettings, read]
  cases Lookup.Cache.create? room settings.cachePolicy settings.cacheSize with
  | none => exact .inr ⟨rfl, rfl⟩
  | some cache => exact .inl ⟨Option.some_ne_none cache, _, rfl⟩

/-- Seen from an absolute workspace, settings that are loaded have an absolute project root, the
configured one as seen from the workspace. They allow a frame, name a language and no empty package, and
with every resolver there is an enricher for them, unless the machine has no room for its cache. -/
theorem accepted_settings_work (surroundings : Surroundings) (disk : Disk) (workspace : Path)
    (named : Option Path) (overrides : Overrides) (settings : Settings) (room : Lookup.Room)
    (resolver : Origin.Resolver σ) (rooted : Path.isAbsolute workspace = true)
    (accepted : load surroundings disk workspace named overrides = .ok settings) :
    Path.isAbsolute settings.projectRoot = true ∧
      (∃ global layer, loadGlobal surroundings disk = .ok global ∧
        chosenLayer disk workspace named = .ok layer ∧
        settings = (merge surroundings global layer overrides).rootedAt workspace) ∧
      settings.maxFrames ≠ some 0 ∧
      ¬ Text.Blank settings.language ∧
      (∀ package ∈ settings.externalPackages, package ≠ []) ∧
      (¬ settings.ExceedsRoom room → ∃ enricher, ofSettings room settings resolver = .ok enricher) ∧
      (settings.ExceedsRoom room → ofSettings room settings resolver = .error .noRoom) := by
  obtain ⟨global, layer, user, chosen, same, fit⟩ :=
    (Config.load_ok_iff surroundings disk workspace named overrides settings).1 accepted
  have absolute : Path.isAbsolute settings.projectRoot = true := by
    rw [same]
    exact Config.absolute_rooted_at _ workspace rooted
  refine ⟨absolute, ⟨global, layer, user, chosen, same⟩, fit.someFrames, fit.spoken, fit.narrow, ?_⟩
  obtain ⟨holds, made⟩ | ⟨exceeds, broken⟩ := of_settings_outcome fit.globs room resolver
  · exact ⟨fun _ => made, fun exceeds => absurd exceeds holds⟩
  · exact ⟨fun holds => absurd exceeds holds, fun _ => broken⟩

/-- A user who allows three frames, and a workspace with a relative project root and one more exclude. -/
def configuredDisk : Disk :=
  ⟨.directory
    [("h".toList, .directory [(".stackdetail".toList, .directory
        [("config.json".toList, .file "\x7b\"maxFrames\": 3\x7d".toUTF8)])]),
      ("w".toList, .directory
        [(".stackdetail.yaml".toList, .file "projectRoot: app\nexclude:\n  - gen/**\n".toUTF8)])],
    "/".toList⟩

/-- What is loaded from that disk. -/
def configuredSettings (surroundings : Surroundings) : Settings :=
  { Settings.default surroundings with
    projectRoot := "/w/app".toList
    maxFrames := some 3
    contextLines := 2
    exclude := (Settings.default surroundings).exclude ++ ["gen/**".toList] }

theorem accepted_settings_work_configured :
    let surroundings : Surroundings := { home := some "/h".toList }
    let settings := configuredSettings surroundings
    let room := Lookup.Room.addressable
    Path.isAbsolute "/w".toList = true ∧
      load surroundings configuredDisk "/w".toList none { contextLines := some 2 } = .ok settings ∧
      Path.isAbsolute settings.projectRoot = true ∧
      ¬ Text.Blank settings.language ∧
      ¬ settings.ExceedsRoom room ∧
      ∃ enricher, ofSettings room settings Origin.Resolver.ignorant = .ok enricher := by
  intro surroundings settings room
  have accepted : load surroundings configuredDisk "/w".toList none
      { contextLines := some 2 } = .ok settings :=
    Config.eq_ok_of_to_option (by decide +kernel)
  have rooted : Path.isAbsolute "/w".toList = true := by decide
  have holds : ¬ settings.ExceedsRoom room := by
    rintro ⟨-, -, lacking⟩
    revert lacking
    decide +kernel
  obtain ⟨absolute, -, -, spoken, -, made, -⟩ := accepted_settings_work surroundings configuredDisk
    "/w".toList none { contextLines := some 2 } settings room Origin.Resolver.ignorant rooted accepted
  exact ⟨rooted, accepted, absolute, spoken, holds, made holds⟩

/-- A workspace whose cache is to hold as many sources as can be counted. -/
def vastCacheDisk : Disk :=
  ⟨.directory [("w".toList, .directory
    [(".stackdetail.json".toList,
      .file "\x7b\"sourceCacheSize\": 18446744073709551615\x7d".toUTF8)])], "/".toList⟩

/-- These settings are accepted, and on no machine is there an enricher for them. -/
theorem accepted_settings_without_room :
    let settings : Settings :=
      { Settings.default {} with projectRoot := "/w/.".toList, cacheSize := 18446744073709551615 }
    load {} vastCacheDisk "/w".toList none {} = .ok settings ∧
      ∀ room : Lookup.Room,
        ofSettings room settings Origin.Resolver.ignorant = .error .noRoom := by
  intro settings
  have accepted : load {} vastCacheDisk "/w".toList none {} = .ok settings :=
    Config.eq_ok_of_to_option (by decide +kernel)
  obtain ⟨_, _, _, _, _, fit⟩ := (Config.load_ok_iff _ _ _ _ _ _).1 accepted
  refine ⟨accepted, fun room => ?_⟩
  have lacking : room.holds settings.cacheSize = false := by
    rw [Bool.eq_false_iff]
    intro held
    exact absurd (room.bounded _ held) (by decide)
  have exceeds : settings.ExceedsRoom room := ⟨rfl, by decide, lacking⟩
  obtain ⟨holds, -⟩ | ⟨-, broken⟩ := of_settings_outcome fit.globs room Origin.Resolver.ignorant
  · exact absurd exceeds holds
  · exact broken

end Detail.Enricher

end FaultContext
