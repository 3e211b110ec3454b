import FaultContext.Proofs.FrameRecords
import FaultContext.Proofs.QuestionOrder
import FaultContext.Proofs.Stateless
import FaultContext.Proofs.UnreadablePlaces

/-!
# Bodies that are added

Two enrichers that differ only in whether the sources of external frames are wanted, on one trace. The
setting decides twice: which frames are looked up at all, and whether archives are searched behind the
project. Either way something is found that was not found before, and what was found stays as it was, so
the records only gain bodies. The two caches hold different sources, but neither matters to an answer.
-/

namespace FaultContext

set_option autoImplicit false

open Config (Settings)
open Files (Disk)
open Origin (Answer Resolver TypeOrigin)
open Trace (Frame)

namespace Lookup

variable {places : Places} {disk : Disk} {qualifiedType fileName : Text} {lines : Lines}

def Places.withArchives (places : Places) (use : Bool) : Places := { places with useArchives := use }

theorem search_in_project (plain : Files.Path.isPlainName fileName = true)
    (found : inProject places disk (packagePath qualifiedType fileName) fileName = some lines) :
    search places disk qualifiedType fileName = some lines := by
  rw [search, plain]
  dsimp only
  rw [found]
  rfl

/-- The project is searched first, so to allow archives takes nothing away. -/
theorem search_with_archives
    (found : search (places.withArchives false) disk qualifiedType fileName = some lines) :
    search (places.withArchives true) disk qualifiedType fileName = some lines := by
  rw [search] at found
  cases plain : Files.Path.isPlainName fileName with
  | false =>
      rw [plain] at found
      cases found
  | true =>
      rw [plain] at found
      apply search_in_project plain
      cases project : inProject (places.withArchives true) disk (packagePath qualifiedType fileName)
          fileName with
      | some others =>
          have same : inProject (places.withArchives false) disk
            (packagePath qualifiedType fileName) fileName = some others := project
          dsimp only at found
          rw [same] at found
          exact found
      | none =>
          have missing : inProject (places.withArchives false) disk
            (packagePath qualifiedType fileName) fileName = none := project
          dsimp only at found
          rw [missing] at found
          cases found

theorem source_with_archives
    (found : sourceOf (places.withArchives false) disk qualifiedType fileName ≠ []) :
    sourceOf (places.withArchives true) disk qualifiedType fileName =
      sourceOf (places.withArchives false) disk qualifiedType fileName := by
  rw [sourceOf] at found
  cases searched : search (places.withArchives false) disk qualifiedType fileName with
  | none =>
      rw [searched] at found
      exact absurd rfl found
  | some lines => rw [sourceOf, sourceOf, searched, search_with_archives searched]

end Lookup

namespace Detail

/-- Two records of one frame that say the same of it, apart from its source. -/
structure SameFrame (record other : Record) : Prop where
  functionName : other.functionName = record.functionName
  file : other.file = record.file
  line : other.line = record.line
  language : other.language = record.language
  isExternal : other.isExternal = record.isExternal

namespace Enricher

variable {σ : Type} {enricher : Enricher σ} {disk : Disk} {answer : Text → Answer} {frame : Frame}
  {external : Bool} {excerpt : Code.Excerpt}

/-- The enricher with the sources of external frames wanted or not. -/
def wanting (enricher : Enricher σ) (extract : Bool) : Enricher σ :=
  { enricher with extractExternal := extract, places := enricher.places.withArchives extract }

theorem of_settings_resolver {room : Lookup.Room} {settings : Settings} {resolver : Resolver σ}
    (built : ofSettings room settings resolver = .ok enricher) :
    enricher.classifier.resolver = resolver := by
  rw [ofSettings] at built
  split at built
  · cases built
  · split at built
    · cases built
    · cases built
      rfl

theorem of_settings_wanting (room : Lookup.Room) (settings : Settings) (resolver : Resolver σ)
    (extract : Bool) :
    ofSettings room { settings with extractExternal := extract } resolver =
      (ofSettings room settings resolver).map fun enricher => enricher.wanting extract := by
  rw [ofSettings, ofSettings, Lookup.Places.ofSettings, Lookup.Places.ofSettings]
  dsimp only
  cases Lookup.readExcludes settings.exclude with
  | error error => rfl
  | ok excluded =>
      cases Lookup.Cache.create? room settings.cachePolicy settings.cacheSize with
      | none => rfl
      | some cache => rfl

/-- The excerpt that the record of a frame is made from, found without any memory. -/
def plainShown? (enricher : Enricher σ) (disk : Disk) (frame : Frame) (external : Bool) :
    Option Code.Excerpt :=
  if external && !enricher.extractExternal then none else enricher.plainExcerpt disk frame

theorem shown_excerpt_settles (unmarked : Unmarked frame)
    (told : Origin.plainExternal enricher.classifier.externalPackages answer frame.qualifiedType =
      .ok external) {session : Session σ} (sound : Sound enricher disk answer session) :
    enricher.shownExcerpt? disk frame session = enricher.plainShown? disk frame external := by
  obtain ⟨said, asked⟩ := is_external_settles frame.qualifiedType session sound
  rw [told] at said
  rw [shownExcerpt?, plainShown?]
  cases ran : enricher.isExternal disk frame.qualifiedType session with
  | mk outcome next =>
      rw [ran] at said asked
      subst said
      dsimp only
      rw [(excerpt_settles frame unmarked next asked).1]

theorem plain_excerpt_wanting
    (found : (enricher.wanting false).plainExcerpt disk frame = some excerpt) :
    (enricher.wanting true).plainExcerpt disk frame = some excerpt := by
  rw [plainExcerpt] at found ⊢
  split at found
  · rename_i fileName line _ _
    dsimp only at found
    split_ifs at found with missing
    have held : Lookup.sourceOf (enricher.wanting false).places disk frame.qualifiedType fileName ≠ [] :=
      mt List.isEmpty_iff.2 missing
    have same : Lookup.sourceOf (enricher.wanting true).places disk frame.qualifiedType fileName =
        Lookup.sourceOf (enricher.wanting false).places disk frame.qualifiedType fileName :=
      Lookup.source_with_archives held
    dsimp only
    rw [same, if_neg missing]
    exact found
  · cases found

theorem plain_shown_wanting
    (shown : (enricher.wanting false).plainShown? disk frame external = some excerpt) :
    (enricher.wanting true).plainShown? disk frame external = some excerpt := by
  have wanted : (external && !(enricher.wanting true).extractExternal) = false := Bool.and_false external
  rw [plainShown?] at shown ⊢
  rw [wanted]
  split_ifs at shown
  exact plain_excerpt_wanting shown

theorem record_as_shown (shown : enricher.plainShown? disk frame external = some excerpt) :
    enricher.recordAs disk frame external =
      .extracted frame enricher.language external excerpt := by
  rw [plainShown?] at shown
  rw [recordAs]
  split_ifs at shown ⊢
  rw [shown]

/-- A body that is shown although the sources of external frames are not wanted is shown as well when
they are. -/
theorem record_as_wanting
    (shown : (enricher.wanting false).plainShown? disk frame external = some excerpt) :
    (enricher.wanting true).recordAs disk frame external =
      (enricher.wanting false).recordAs disk frame external := by
  rw [record_as_shown shown, record_as_shown (plain_shown_wanting shown)]
  rfl

theorem same_frame_as_bare (enricher : Enricher σ) (disk : Disk) (frame : Frame) (external : Bool) :
    SameFrame (.bare frame enricher.language external) (enricher.recordAs disk frame external) := by
  rw [recordAs]
  split_ifs with leave
  · obtain ⟨outside, -⟩ := Bool.and_eq_true_iff.1 leave
    exact ⟨rfl, rfl, rfl, rfl, outside.symm⟩
  · split <;> exact ⟨rfl, rfl, rfl, rfl, rfl⟩

theorem same_frame_wanting (enricher : Enricher σ) (disk : Disk) (frame : Frame) (external : Bool) :
    SameFrame ((enricher.wanting false).recordAs disk frame external)
      ((enricher.wanting true).recordAs disk frame external) := by
  have bare : SameFrame (.bare frame enricher.language external)
      ((enricher.wanting false).recordAs disk frame external) :=
    same_frame_as_bare (enricher.wanting false) disk frame external
  have full : SameFrame (.bare frame enricher.language external)
      ((enricher.wanting true).recordAs disk frame external) :=
    same_frame_as_bare (enricher.wanting true) disk frame external
  constructor
  · rw [full.functionName, bare.functionName]
  · rw [full.file, bare.file]
  · rw [full.line, bare.line]
  · rw [full.language, bare.language]
  · rw [full.isExternal, bare.isExternal]

section Origins

variable (origins : Text → Except ResolveError TypeOrigin)

theorem record_settles_by_origins (frame : Frame) (unmarked : Unmarked frame) :
    Settles enricher disk (fun name => .ofOrigin (origins name)) (enricher.record disk frame)
      (.ok (enricher.recordAs disk frame (Origin.referenceExternal enricher.classifier.externalPackages
        origins frame.qualifiedType))) := by
  have settles : Settles enricher disk (fun name => .ofOrigin (origins name))
      (enricher.record disk frame) _ := record_settles frame unmarked
  rw [plainRecord, Origin.plain_external_eq] at settles
  exact settles

theorem records_settle_by_origins (frames : List Frame) (unmarked : ∀ frame ∈ frames, Unmarked frame) :
    Settles enricher disk (fun name => .ofOrigin (origins name)) (enricher.records disk frames)
      (.ok (frames.map fun frame => enricher.recordAs disk frame
        (Origin.referenceExternal enricher.classifier.externalPackages origins frame.qualifiedType))) := by
  induction frames with
  | nil => exact settles_return _
  | cons frame frames ih =>
      obtain ⟨first, rest⟩ := List.forall_mem_cons.1 unmarked
      intro session sound
      obtain ⟨one, next⟩ := record_settles_by_origins origins frame first session sound
      obtain ⟨others, last⟩ := ih rest _ next
      rw [records_cons, Step.and_then_ok _ (Prod.ext one rfl), Step.and_then_ok _ (Prod.ext others rfl)]
      exact ⟨rfl, last⟩

/-- What the two enrichers make of the frames of a trace, in sound sessions of their own. -/
theorem records_wanting (frames : List Frame) (unmarked : ∀ frame ∈ frames, Unmarked frame)
    (session other : Session σ)
    (sound : Sound (enricher.wanting false) disk (fun name => .ofOrigin (origins name)) session)
    (otherSound : Sound (enricher.wanting true) disk (fun name => .ofOrigin (origins name)) other) :
    ∃ records others, ((enricher.wanting false).records disk frames session).1 = .ok records ∧
      ((enricher.wanting true).records disk frames other).1 = .ok others ∧
      List.Forall₂ SameFrame records others ∧
      ∀ index frame excerpt, frames[index]? = some frame →
        let met := ((enricher.wanting false).records disk (frames.take index) session).2
        (enricher.wanting false).shownExcerpt? disk frame met = some excerpt →
          ∃ record, records[index]? = some record ∧ others[index]? = some record ∧
            record = .extracted frame (enricher.wanting false).language record.isExternal excerpt := by
  let external (frame : Frame) : Bool :=
    Origin.referenceExternal enricher.classifier.externalPackages origins frame.qualifiedType
  have bare := records_settle_by_origins origins frames unmarked session sound
  have full := records_settle_by_origins origins frames unmarked other otherSound
  refine ⟨_, _, bare.1, full.1, ?_, ?_⟩
  · rw [List.forall₂_map_left_iff, List.forall₂_map_right_iff, List.forall₂_same]
    intro frame _
    exact same_frame_wanting enricher disk frame (external frame)
  · intro index frame excerpt found met seen
    have before : ∀ earlier ∈ frames.take index, Unmarked earlier := by
      intro earlier member
      exact unmarked earlier (List.mem_of_mem_take member)
    have metSound := (records_settle_by_origins origins _ before session sound).2
    have told := Origin.plain_external_eq (enricher.wanting false).classifier.externalPackages origins
      frame.qualifiedType
    have plain := shown_excerpt_settles (unmarked frame (List.mem_of_getElem? found)) told metSound
    have shown : (enricher.wanting false).plainShown? disk frame (external frame) = some excerpt :=
      plain.symm.trans seen
    refine ⟨(enricher.wanting false).recordAs disk frame (external frame), ?_, ?_, ?_⟩
    · rw [List.getElem?_map, found]
      rfl
    · rw [List.getElem?_map, found]
      exact congrArg some (record_as_wanting shown)
    · rw [record_as_shown shown]
      rfl

end Origins

/-- With the sources of external frames wanted, the records of a trace say the same of their frames as
without, and what they showed without is shown as it was. -/
theorem wanting_sources_adds_bodies (room : Lookup.Room) (settings : Settings)
    (resolver : Resolver σ) (disk : Disk) (memory : σ)
    (origins : Text → Except ResolveError TypeOrigin)
    (answers : resolver.AnswersBy disk memory fun name => .ofOrigin (origins name))
    (off on : Enricher σ)
    (without : ofSettings room { settings with extractExternal := false } resolver = .ok off)
    (including : ofSettings room { settings with extractExternal := true } resolver = .ok on)
    (trace : Text) (unmarked : ∀ frame ∈ Trace.frames off.options trace, Unmarked frame) :
    ∃ records others, (off.stackDetails disk trace (off.start memory)).1 = .ok records ∧
      (on.stackDetails disk trace (on.start memory)).1 = .ok others ∧
      List.Forall₂ SameFrame records others ∧
      ∀ index frame excerpt, (Trace.frames off.options trace)[index]? = some frame →
        let met := (off.records disk ((Trace.frames off.options trace).take index) (off.start memory)).2
        off.shownExcerpt? disk frame met = some excerpt →
          ∃ record, records[index]? = some record ∧ others[index]? = some record ∧
            record = .extracted frame off.language record.isExternal excerpt := by
  rw [of_settings_wanting] at without including
  cases built : ofSettings room settings resolver with
  | error error =>
      rw [built] at without
      cases without
  | ok enricher =>
      rw [built] at without including
      obtain rfl := Except.ok.inj without
      obtain rfl := Except.ok.inj including
      rw [← of_settings_resolver built] at answers
      apply records_wanting origins _ unmarked
      · exact sound_start memory answers
      · exact sound_start memory answers

/-- The project `/w` with a source of its own and one in a source archive of its dependency cache. -/
def sourceAndCache : Disk :=
  ⟨.directory [("w".toList, .directory
    [("src".toList, .directory [("B.java".toList, .file ⟨#[120]⟩)]),
      ("cache".toList, .directory [Lookup.goodArchive])])], "/".toList⟩

/-- A frame of the project, one of a library and one of the runtime. -/
def layeredTrace : Text := "at a.B.run(B.java:1)\nat c.F.go(F.java:1)\nat java.C.get(C.java:2)".toList

theorem wanting_sources_adds_bodies_layered :
    let room := Lookup.Room.addressable
    let settings := Lookup.besideCache
    let origins : Text → Except ResolveError TypeOrigin := fun name => .error (.notFound name)
    let resolver := Resolver.ofFunction fun name => .ofOrigin (origins name)
    resolver.AnswersBy sourceAndCache () (fun name => .ofOrigin (origins name)) ∧
      ∃ off on, ofSettings room { settings with extractExternal := false } resolver = .ok off ∧
        ofSettings room { settings with extractExternal := true } resolver = .ok on ∧
        (∀ frame ∈ Trace.frames off.options layeredTrace, Unmarked frame) ∧
        ∃ records others,
          (off.stackDetails sourceAndCache layeredTrace (off.start ())).1 = .ok records ∧
          (on.stackDetails sourceAndCache layeredTrace (on.start ())).1 = .ok others ∧
          List.Forall₂ SameFrame records others ∧
          (∃ record, records[0]? = some record ∧ others[0]? = some record) ∧
          records.map Record.functionBody = ["x".toList, placeholder, []] ∧
          others.map Record.functionBody = ["x".toList, "x".toList, placeholder] := by
  intro room settings origins resolver
  have answers : resolver.AnswersBy sourceAndCache () (fun name => .ofOrigin (origins name)) :=
    fun _ _ => rfl
  obtain ⟨off, without⟩ : ∃ off, ofSettings room { settings with extractExternal := false }
    resolver = .ok off := ⟨_, rfl⟩
  obtain ⟨on, including⟩ : ∃ on, ofSettings room { settings with extractExternal := true }
    resolver = .ok on := ⟨_, rfl⟩
  have unmarked : ∀ frame ∈ Trace.frames off.options layeredTrace, '#' ∉ frame.qualifiedType := by
    cases without
    decide +kernel
  have bodies : (off.stackDetails sourceAndCache layeredTrace (off.start ())).1.toOption.map
      (List.map Record.functionBody) = some ["x".toList, placeholder, []] := by
    cases without
    decide +kernel
  have moreBodies : (on.stackDetails sourceAndCache layeredTrace (on.start ())).1.toOption.map
      (List.map Record.functionBody) = some ["x".toList, "x".toList, placeholder] := by
    cases including
    decide +kernel
  have shown : ∃ frame excerpt, (Trace.frames off.options layeredTrace)[0]? = some frame ∧
      off.shownExcerpt? sourceAndCache frame (off.start ()) = some excerpt := by
    cases without
    exact ⟨_, ⟨⟨1, 1⟩, "x".toList, .contextWindow⟩, rfl, by decide +kernel⟩
  obtain ⟨frame, excerpt, first, seen⟩ := shown
  obtain ⟨records, others, bare, full, same, kept⟩ := wanting_sources_adds_bodies room settings resolver
    sourceAndCache () origins answers off on without including layeredTrace unmarked
  obtain ⟨record, placed, stays, -⟩ := kept 0 frame excerpt first seen
  rw [bare] at bodies
  rw [full] at moreBodies
  exact ⟨answers, off, on, without, including, unmarked, records, others, bare, full, same,
    ⟨record, placed, stays⟩, Option.some.inj bodies, Option.some.inj moreBodies⟩

end Enricher

end Detail

end FaultContext
