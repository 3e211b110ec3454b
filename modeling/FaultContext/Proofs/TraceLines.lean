import Mathlib.Data.List.Forall2
import FaultContext.Proofs.PathsBelow
import FaultContext.Proofs.Trimming
import FaultContext.Trace.Frame

/-!
# Traces by their lines

A trace is read line by line. Each line gives a frame or none by itself, and of a line only that counts
which is left without the white space around it. So neither the indentation of a trace nor the way in
which its lines end makes a difference. Without the sections of causes the reading stops in front of the
first line that opens one, and with a cap behind the frame that meets the cap.
-/

namespace FaultContext

set_option autoImplicit false

namespace Text

variable {line other piece text : Text} {others : List Text}

/-- Two lines that are the same without the white space around them. -/
def TrimAlike (line other : Text) : Prop := trim line = trim other

/-- The piece is the line with white space behind it. -/
def Trails (line piece : Text) : Prop := ∃ back, Blank back ∧ piece = line ++ back

theorem trails_self (line : Text) : Trails line line :=
  ⟨[], List.forall_mem_nil _, (List.append_nil line).symm⟩

theorem trails_cons (c : Char) (trails : Trails line piece) : Trails (c :: line) (c :: piece) := by
  obtain ⟨back, blank, shape⟩ := trails
  exact ⟨back, blank, by rw [shape, List.cons_append]⟩

theorem trails_return (line : Text) : Trails line (line ++ ['\r']) := ⟨['\r'], by decide, rfl⟩

theorem alike_of_trails (trails : Trails line piece) : TrimAlike line piece := by
  obtain ⟨back, blank, shape⟩ := trails
  rw [TrimAlike, shape, trim_append_blank blank]

theorem split_mark (mark : Char) (rest : Text) : split mark (mark :: rest) = [] :: split mark rest := by
  rw [split, if_pos rfl]

theorem split_other {mark c : Char} {rest : Text} (differs : c ≠ mark)
    (pieces : split mark rest = piece :: others) :
    split mark (c :: rest) = (c :: piece) :: others := by
  rw [split, if_neg differs, pieces]

/-- The lines of a text are the pieces between its line feeds, less the carriage return at the end of a
piece and less an empty last piece. -/
theorem split_lines (text : Text) : ∃ pieces last, split '\n' text = pieces ++ last ∧
    List.Forall₂ Trails (lines text) pieces ∧ ∀ piece ∈ last, Blank piece := by
  have nothing : Blank [] := List.forall_mem_nil _
  fun_induction lines text with
  | case1 => exact ⟨[], [[]], rfl, .nil, List.forall_mem_singleton.2 nothing⟩
  | case2 rest ih =>
      obtain ⟨pieces, last, parts, trails, blank⟩ := ih
      refine ⟨[] :: pieces, last, ?_, .cons (trails_self []) trails, blank⟩
      rw [split_mark, parts, List.cons_append]
  | case3 rest ih =>
      obtain ⟨pieces, last, parts, trails, blank⟩ := ih
      refine ⟨['\r'] :: pieces, last, ?_, .cons (trails_return []) trails, blank⟩
      rw [split_other (by decide) (split_mark '\n' rest), parts, List.cons_append]
  | case4 c rest differs _ none ih =>
      -- Nothing but the end of the text follows, so the character stands alone in its line.
      obtain ⟨pieces, last, parts, trails, blank⟩ := ih
      rw [none] at trails
      cases trails
      cases last with
      | nil => exact absurd parts (split_ne_nil '\n' rest)
      | cons piece last =>
          obtain ⟨first, others⟩ := List.forall_mem_cons.1 blank
          refine ⟨[c :: piece], last, split_other differs parts, ?_, others⟩
          exact .cons ⟨piece, first, rfl⟩ .nil
  | case5 c rest differs _ line others some ih =>
      obtain ⟨pieces, last, parts, trails, blank⟩ := ih
      rw [some] at trails
      cases trails with
      | @cons _ piece _ pieces first trails =>
          refine ⟨(c :: piece) :: pieces, last, ?_, .cons (trails_cons c first) trails, blank⟩
          exact split_other differs parts

/-- The text with a carriage return in front of every line feed. -/
def withReturns (text : Text) : Text :=
  text.flatMap fun c => if c = '\n' then ['\r', '\n'] else [c]

theorem split_with_returns (text : Text) :
    List.Forall₂ Trails (split '\n' text) (split '\n' (withReturns text)) := by
  induction text with
  | nil => exact .cons (trails_self []) .nil
  | cons c rest ih =>
      by_cases feed : c = '\n'
      · subst feed
        have written : withReturns ('\n' :: rest) = '\r' :: '\n' :: withReturns rest := rfl
        rw [written, split_mark, split_other (by decide) (split_mark '\n' (withReturns rest))]
        exact .cons (trails_return []) ih
      · have written : withReturns (c :: rest) = c :: withReturns rest := by
          rw [withReturns, List.flatMap_cons, if_neg feed]
          rfl
        rw [written]
        cases pieces : split '\n' rest with
        | nil => exact absurd pieces (split_ne_nil '\n' rest)
        | cons piece others =>
            rw [pieces] at ih
            cases marked : split '\n' (withReturns rest) with
            | nil => exact absurd marked (split_ne_nil '\n' (withReturns rest))
            | cons shown further =>
                rw [marked] at ih
                rw [split_other feed pieces, split_other feed marked]
                cases ih with
                | cons first trails => exact .cons (trails_cons c first) trails

/-- A line with white space at its start and at its end, in front of the carriage return or behind it if
the line ends in one. -/
inductive Padded : Text → Text → Prop where
  | around (front line back : Text) (blankFront : Blank front) (blankBack : Blank back) :
      Padded line (front ++ line ++ back)
  | inFrontOfReturn (front line back : Text) (blankFront : Blank front) (blankBack : Blank back) :
      Padded (line ++ ['\r']) (front ++ line ++ back ++ ['\r'])

theorem alike_of_padded (padded : Padded line other) : TrimAlike line other := by
  rw [TrimAlike]
  cases padded with
  | around front line back blankFront blankBack =>
      rw [trim_append_blank blankBack, trim_blank_append blankFront]
  | inFrontOfReturn front line back blankFront blankBack =>
      have ending : Blank ['\r'] := by decide
      rw [trim_append_blank ending, trim_append_blank ending, trim_append_blank blankBack,
        trim_blank_append blankFront]

/-- A text with white space at the starts and ends of its lines. -/
def Respaced (text other : Text) : Prop := List.Forall₂ Padded (split '\n' text) (split '\n' other)

end Text

namespace Trace

variable {options : Options} {ls others last : List Text} {text other : Text}

/-- The frame that one line of a trace gives. -/
def frameOf? (line : Text) : Option Frame := Frame.parse? (Text.trim line)

theorem frames_from_alike (same : List.Forall₂ Text.TrimAlike ls others) (taken : Nat) :
    framesFrom options taken ls = framesFrom options taken others := by
  induction same generalizing taken with
  | nil => rfl
  | cons first same ih =>
      rw [Text.TrimAlike] at first
      simp only [framesFrom, first, ih]

theorem frames_from_blank (blank : ∀ line ∈ last, Text.Blank line) (taken : Nat) :
    framesFrom options taken last = [] := by
  induction last with
  | nil => rfl
  | cons line last ih =>
      obtain ⟨first, others⟩ := List.forall_mem_cons.1 blank
      have bare : Text.trim line = [] := Text.trim_eq_nil_iff.2 first
      have frameless : Frame.parse? [] = none := rfl
      simp only [framesFrom, bare, frameless, ih others, ite_self]

theorem frames_from_blank_end (blank : ∀ line ∈ last, Text.Blank line) (ls : List Text)
    (taken : Nat) : framesFrom options taken (ls ++ last) = framesFrom options taken ls := by
  induction ls generalizing taken with
  | nil => exact frames_from_blank blank taken
  | cons line ls ih => simp only [List.cons_append, framesFrom, ih]

/-- What is read are the pieces between the line feeds, since carriage returns and blank pieces make no
difference. -/
theorem frames_of_pieces (options : Options) (text : Text) :
    frames options text = framesFrom options 0 (Text.split '\n' text) := by
  obtain ⟨pieces, last, parts, trails, blank⟩ := Text.split_lines text
  have alike : List.Forall₂ Text.TrimAlike (Text.lines text) pieces :=
    trails.imp fun _ _ => Text.alike_of_trails
  rw [frames, parts, frames_from_blank_end blank, frames_from_alike alike]

theorem frames_alike (same : List.Forall₂ Text.TrimAlike (Text.split '\n' text) (Text.split '\n' other))
    (options : Options) : frames options other = frames options text := by
  rw [frames_of_pieces, frames_of_pieces, frames_from_alike same]

/-- Whether the reading does not stop in front of a line. -/
def goesOn (causes : Bool) (line : Text) : Bool := causes || !opensCause (Text.trim line)

theorem frames_from_cons (options : Options) (taken : Nat) (line : Text) (ls : List Text) :
    framesFrom options taken (line :: ls) =
      if goesOn options.includeCauseFrames line then
        match frameOf? line with
        | none => framesFrom options taken ls
        | some frame =>
            if options.full (taken + 1) then [frame]
            else frame :: framesFrom options (taken + 1) ls
      else [] := by
  rw [framesFrom, goesOn, frameOf?]
  cases options.includeCauseFrames <;> cases opensCause (Text.trim line) <;> rfl

/-- Without a cap every line gives its frame, as far as the trace is read. -/
theorem frames_from_uncapped (causes : Bool) (taken : Nat) (ls : List Text) :
    framesFrom ⟨causes, none⟩ taken ls = (ls.takeWhile (goesOn causes)).filterMap frameOf? := by
  induction ls generalizing taken with
  | nil => rfl
  | cons line ls ih =>
      have unbounded : Options.full ⟨causes, none⟩ (taken + 1) = false := rfl
      rw [frames_from_cons, List.takeWhile_cons]
      cases goesOn causes line with
      | false => rfl
      | true =>
          rw [if_pos rfl, if_pos rfl, List.filterMap_cons]
          cases frameOf? line with
          | none => exact ih taken
          | some frame =>
              rw [unbounded, ih (taken + 1)]
              rfl

/-- A cap of zero is met by the first frame, as a cap of one is. -/
theorem frames_from_capped (causes : Bool) (cap taken : Nat) (ls : List Text) :
    framesFrom ⟨causes, some cap⟩ taken ls =
      (framesFrom ⟨causes, none⟩ taken ls).take (max 1 (cap - taken)) := by
  induction ls generalizing taken with
  | nil => exact List.take_nil.symm
  | cons line ls ih =>
      have unbounded : Options.full ⟨causes, none⟩ (taken + 1) = false := rfl
      have bounded : Options.full ⟨causes, some cap⟩ (taken + 1) = decide (cap ≤ taken + 1) := rfl
      rw [frames_from_cons, frames_from_cons, unbounded, bounded]
      cases goesOn causes line with
      | false => exact List.take_nil.symm
      | true =>
          rw [if_pos rfl, if_pos rfl]
          cases frameOf? line with
          | none => exact ih taken
          | some frame =>
              dsimp only
              by_cases met : cap ≤ taken + 1
              · have one : max 1 (cap - taken) = 1 := by omega
                rw [one, decide_eq_true met]
                rfl
              · have further : max 1 (cap - taken) = max 1 (cap - (taken + 1)) + 1 := by omega
                rw [further, decide_eq_false met, ih (taken + 1)]
                rfl

theorem all_frames_from (taken : Nat) (ls : List Text) :
    framesFrom ⟨true, none⟩ taken ls = ls.filterMap frameOf? := by
  have all : ls.takeWhile (goesOn true) = ls := List.takeWhile_eq_self_iff.2 fun _ _ => rfl
  rw [frames_from_uncapped, all]

/-- A trace is read line by line: put together with a line feed between them, two texts give the frames of
the one and then those of the other, and neither carriage returns nor white space at the starts and ends
of lines matter. Without causes the frames are those of the lines before the first one that opens a
cause, which come first also with causes. -/
theorem trace_read_line_by_line :
    (∀ first second, frames ⟨true, none⟩ (first ++ '\n' :: second) =
      frames ⟨true, none⟩ first ++ frames ⟨true, none⟩ second) ∧
    (∀ options text, frames options (Text.withReturns text) = frames options text) ∧
    (∀ options text other, Text.Respaced text other → frames options other = frames options text) ∧
    ∀ text,
      frames ⟨true, none⟩ text = (Text.lines text).filterMap frameOf? ∧
      frames ⟨false, none⟩ text =
        ((Text.lines text).takeWhile fun line => !opensCause (Text.trim line)).filterMap frameOf? ∧
      frames ⟨false, none⟩ text <+: frames ⟨true, none⟩ text := by
  refine ⟨?_, ?_, ?_, ?_⟩
  · intro first second
    simp only [frames_of_pieces, all_frames_from, Text.split_append_mark, List.filterMap_append]
  · intro options text
    apply frames_alike
    exact (Text.split_with_returns text).imp fun _ _ => Text.alike_of_trails
  · intro options text other respaced
    apply frames_alike
    exact List.Forall₂.imp (fun _ _ => Text.alike_of_padded) respaced
  · intro text
    have all := all_frames_from 0 (Text.lines text)
    have primary := frames_from_uncapped false 0 (Text.lines text)
    refine ⟨all, primary, ?_⟩
    rw [frames, frames, all, primary]
    exact (List.takeWhile_prefix _).filterMap frameOf?

def flushTrace : Text := "boom\nat a.B.run(B.java:3)\r\nat a.B.go(B.java:7)".toList

/-- The same trace, indented and with white space behind its lines. -/
def indentedTrace : Text := "boom \n\tat a.B.run(B.java:3) \r\n  at a.B.go(B.java:7)\t".toList

theorem trace_read_line_by_line_indented :
    Text.Respaced flushTrace indentedTrace ∧
      frames ⟨true, none⟩ indentedTrace =
        [⟨"a.B".toList, "run".toList, some "B.java".toList, some 3⟩,
          ⟨"a.B".toList, "go".toList, some "B.java".toList, some 7⟩] := by
  have respaced : Text.Respaced flushTrace indentedTrace :=
    .cons (.around [] "boom".toList " ".toList (by decide) (by decide))
      (.cons (.inFrontOfReturn "\t".toList "at a.B.run(B.java:3)".toList " ".toList (by decide) (by decide))
        (.cons (.around "  ".toList "at a.B.go(B.java:7)".toList "\t".toList (by decide) (by decide)) .nil))
  obtain ⟨-, -, same, -⟩ := trace_read_line_by_line
  refine ⟨respaced, ?_⟩
  rw [same ⟨true, none⟩ flushTrace indentedTrace respaced]
  decide

/-- Under a cap a trace gives its first frames, as many as the cap allows and all if there are no more; only
that under a cap of zero it still gives its first frame. -/
theorem capped_frames (causes : Bool) (cap : Nat) (text : Text) :
    let all := frames ⟨causes, none⟩ text
    frames ⟨causes, some cap⟩ text = all.take (max 1 cap) ∧
      (frames ⟨causes, some cap⟩ text = all.take cap ↔ 0 < cap ∨ all = []) := by
  intro all
  have capped : frames ⟨causes, some cap⟩ text = all.take (max 1 cap) :=
    frames_from_capped causes cap 0 (Text.lines text)
  refine ⟨capped, ?_⟩
  rw [capped]
  cases cap with
  | zero =>
      cases all with
      | nil => exact iff_of_true rfl (.inr rfl)
      | cons frame rest => simp
  | succ cap =>
      have room : max 1 (cap + 1) = cap + 1 := by omega
      rw [room]
      exact iff_of_true rfl (.inl (Nat.succ_pos cap))

theorem frame_under_cap_of_zero :
    frames ⟨false, some 0⟩ "at a.B.run(B.java:3)".toList ≠
      (frames ⟨false, none⟩ "at a.B.run(B.java:3)".toList).take 0 := by
  decide

end Trace

end FaultContext
