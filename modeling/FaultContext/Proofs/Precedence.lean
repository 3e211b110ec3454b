import Mathlib.Data.List.Nodup
import FaultContext.Config.Load

/-!
# Which layer wins

Settings are laid over each other from the lowest layer to the highest, each step with the outcome of the
one before in hand. What comes of a stack of layers can also be said in one go for each setting: the value of
the highest layer that sets one, all entries in the order of the layers with the first of equal ones
kept, or just all entries. The options of a command line are one more layer, with five settings.
-/

namespace FaultContext.Config

set_option autoImplicit false

variable {α : Type}

/-- The value of the first of some layers that sets one, the highest layer standing first. -/
def highest (layers : List (Option α)) (fallback : α) : α := (layers.findSome? id).getD fallback

theorem highest_cons (layer : Option α) (layers : List (Option α)) (fallback : α) :
    highest (layer :: layers) fallback = layer.getD (highest layers fallback) := by
  cases layer <;> rfl

/-- The same for a setting that may be left without a value. -/
def highest? (layers : List (Option α)) (fallback : Option α) : Option α :=
  (layers.findSome? id).or fallback

theorem highest_cons? (layer : Option α) (layers : List (Option α)) (fallback : Option α) :
    highest? (layer :: layers) fallback = (layer <|> highest? layers fallback) := by
  cases layer <;> rfl

/-- The entries that some layers add, those of the lowest layer first. -/
def added (layers : List (Option (List α))) : List α :=
  layers.reverse.flatMap fun layer => layer.getD []

theorem added_cons (layer : Option (List α)) (layers : List (Option (List α))) :
    added (layer :: layers) = added layers ++ layer.getD [] := by
  simp [added]

theorem gather_cons (known : List Text) (entry : Text) (new : List Text) :
    gather known (entry :: new) =
      gather (if known.contains entry then known else known ++ [entry]) new :=
  rfl

theorem erase_dups_concat (entries : List Text) (entry : Text) :
    (entries ++ [entry]).eraseDups =
      if entries.eraseDups.contains entry then entries.eraseDups
      else entries.eraseDups ++ [entry] := by
  have same : entries.eraseDups.contains entry = entries.contains entry := by
    rw [Bool.eq_iff_iff, List.contains_iff_mem, List.contains_iff_mem, List.mem_eraseDups]
  rw [List.eraseDups_append, same, List.cons_removeAll]
  cases entries.contains entry with
  | true => exact List.append_nil _
  | false => rfl

/-- The entries that are gathered so far are read while new ones are put behind them. -/
theorem gather_erase_dups (entries new : List Text) :
    gather entries.eraseDups new = (entries ++ new).eraseDups := by
  induction new generalizing entries with
  | nil => rw [List.append_nil]; rfl
  | cons entry new ih =>
      rw [gather_cons, ← erase_dups_concat, ih, List.append_assoc]
      rfl

theorem gather_nodup {known : List Text} (new : List Text) (distinct : known.Nodup) :
    (gather known new).Nodup := by
  induction new generalizing known with
  | nil => exact distinct
  | cons entry new ih =>
      rw [gather_cons]
      apply ih
      cases present : known.contains entry with
      | true => exact distinct
      | false =>
          have fresh : entry ∉ known := by simpa using present
          have grown := distinct.concat fresh
          rwa [List.concat_eq_append] at grown

/-- The options of a command line as a layer. -/
def Overrides.layer (overrides : Overrides) : Layer where
  extractExternal := overrides.extractExternal
  cacheSize := overrides.cacheSize
  contextLines := overrides.contextLines
  projectRoot := overrides.projectRoot
  includeCauseFrames := overrides.includeCauseFrames

namespace Settings

variable {surroundings : Surroundings} {settings base : Settings}

/-- What a stack of layers says over some base, the highest layer standing first. -/
def stacked (base : Settings) (layers : List Layer) : Settings where
  extractExternal := highest (layers.map Layer.extractExternal) base.extractExternal
  cacheSize := highest (layers.map Layer.cacheSize) base.cacheSize
  cachePolicy := highest (layers.map Layer.cachePolicy) base.cachePolicy
  contextLines := highest (layers.map Layer.contextLines) base.contextLines
  projectRoot := highest (layers.map Layer.projectRoot) base.projectRoot
  sourceRoots := highest (layers.map Layer.sourceRoots) base.sourceRoots
  exclude := (base.exclude ++ added (layers.map Layer.exclude)).eraseDups
  runtimeHome := highest? (layers.map Layer.runtimeHome) base.runtimeHome
  sourceArchives := base.sourceArchives ++ added (layers.map Layer.sourceArchives)
  dependencyCaches := highest (layers.map Layer.dependencyCaches) base.dependencyCaches
  maxSourceArchives := highest (layers.map Layer.maxSourceArchives) base.maxSourceArchives
  classPath := base.classPath ++ added (layers.map Layer.classPath)
  platformClassPath := base.platformClassPath ++ added (layers.map Layer.platformClassPath)
  externalPackages := (base.externalPackages ++ added (layers.map Layer.externalPackages)).eraseDups
  includeCauseFrames := highest (layers.map Layer.includeCauseFrames) base.includeCauseFrames
  maxFrames := highest? (layers.map Layer.maxFrames) base.maxFrames
  language := highest (layers.map Layer.language) base.language

/-- One more layer on top of a stack. -/
theorem stacked_apply (base : Settings) (layers : List Layer) (layer : Layer) :
    (base.stacked layers).apply layer = base.stacked (layer :: layers) := by
  unfold stacked apply
  simp only [List.map_cons, highest_cons, highest_cons?, added_cons, gather_erase_dups,
    List.append_assoc]

theorem stacked_silent (base : Settings) (layers : List Layer) :
    base.stacked ({} :: layers) = base.stacked layers := by
  unfold stacked
  simp only [List.map_cons, highest_cons, highest_cons?, added_cons, Option.getD_none,
    List.append_nil]
  rfl

theorem stacked_optional (base : Settings) (layers : List Layer) (layer : Option Layer) :
    (base.stacked layers).apply (layer.getD {}) = base.stacked (layer.toList ++ layers) := by
  rw [stacked_apply]
  cases layer with
  | none => exact stacked_silent base layers
  | some layer => rfl

/-- No entry stands twice in the defaults, so nothing of them is lost. -/
theorem stacked_default (surroundings : Surroundings) :
    (default surroundings).stacked [] = default surroundings :=
  rfl

theorem override_eq_apply (settings : Settings) (overrides : Overrides) :
    settings.override overrides = settings.apply overrides.layer := by
  unfold override apply Overrides.layer gather
  simp

end Settings

theorem merge_eq_stacked (surroundings : Surroundings) (global workspace : Option Layer)
    (overrides : Overrides) :
    merge surroundings global workspace overrides =
      (Settings.default surroundings).stacked
        (overrides.layer :: (workspace.toList ++ global.toList)) := by
  rw [merge, Settings.override_eq_apply]
  nth_rewrite 1 [← Settings.stacked_default surroundings]
  rw [Settings.stacked_optional, Settings.stacked_optional, Settings.stacked_apply, List.append_nil]

/-- The entries of one layer for a setting, none where the layer is missing or silent. -/
def entriesOf (layer : Option Layer) (field : Layer → Option (List α)) : List α :=
  (layer.bind field).getD []

theorem added_by_layers (field : Layer → Option (List α)) (overrides : Overrides)
    (silent : field overrides.layer = none) (global workspace : Option Layer) :
    added ((overrides.layer :: (workspace.toList ++ global.toList)).map field) =
      entriesOf global field ++ entriesOf workspace field := by
  rw [List.map_cons, added_cons, silent]
  cases global <;> cases workspace <;> simp [added, entriesOf]

theorem merged_excludes_nodup (surroundings : Surroundings) (global workspace : Option Layer)
    (overrides : Overrides) : (merge surroundings global workspace overrides).exclude.Nodup := by
  have distinct : (Settings.default surroundings).exclude.Nodup := by
    dsimp only [Settings.default]
    decide
  apply gather_nodup
  apply gather_nodup
  exact distinct

theorem merged_packages_nodup (surroundings : Surroundings) (global workspace : Option Layer)
    (overrides : Overrides) :
    (merge surroundings global workspace overrides).externalPackages.Nodup := by
  apply gather_nodup
  apply gather_nodup
  exact List.nodup_nil

/-- Every setting is that of the stack of the defaults, the user's layer, the workspace's layer and the
command line, each laid over those before it. Excludes and external packages are those of all layers
without repetitions, the first of equal ones staying, and archives and class paths those of the user's
layer and then of the workspace's. -/
theorem merged_by_precedence (surroundings : Surroundings) (global workspace : Option Layer)
    (overrides : Overrides) :
    let defaults := Settings.default surroundings
    let merged := merge surroundings global workspace overrides
    merged = defaults.stacked (overrides.layer :: (workspace.toList ++ global.toList)) ∧
      merged.exclude = (defaults.exclude ++
        (entriesOf global Layer.exclude ++ entriesOf workspace Layer.exclude)).eraseDups ∧
      merged.externalPackages = (defaults.externalPackages ++
        (entriesOf global Layer.externalPackages ++
          entriesOf workspace Layer.externalPackages)).eraseDups ∧
      merged.exclude.Nodup ∧ merged.externalPackages.Nodup ∧
      merged.sourceArchives =
        entriesOf global Layer.sourceArchives ++ entriesOf workspace Layer.sourceArchives ∧
      merged.classPath = entriesOf global Layer.classPath ++ entriesOf workspace Layer.classPath ∧
      merged.platformClassPath =
        entriesOf global Layer.platformClassPath ++ entriesOf workspace Layer.platformClassPath := by
  intro defaults merged
  have stack : merged = defaults.stacked (overrides.layer :: (workspace.toList ++ global.toList)) :=
    merge_eq_stacked surroundings global workspace overrides
  refine ⟨stack, ?_, ?_, merged_excludes_nodup surroundings global workspace overrides,
    merged_packages_nodup surroundings global workspace overrides, ?_, ?_, ?_⟩
  · rw [stack, ← added_by_layers Layer.exclude overrides rfl]
    rfl
  · rw [stack, ← added_by_layers Layer.externalPackages overrides rfl]
    rfl
  · rw [stack, ← added_by_layers Layer.sourceArchives overrides rfl]
    rfl
  · rw [stack, ← added_by_layers Layer.classPath overrides rfl]
    rfl
  · rw [stack, ← added_by_layers Layer.platformClassPath overrides rfl]
    rfl

example :
    let global : Layer :=
      { cacheSize := some 10, contextLines := some 3, externalPackages := some ["a.".toList] }
    let workspace : Layer :=
      { cachePolicy := some .freeze, contextLines := some 4,
        externalPackages := some ["b.".toList, "a.".toList, "b.".toList] }
    let merged := merge {} global workspace { contextLines := some 8 }
    (merged.cacheSize, merged.cachePolicy, merged.contextLines, merged.externalPackages) =
      (10, .freeze, 8, ["a.".toList, "b.".toList]) := by
  decide

end FaultContext.Config
