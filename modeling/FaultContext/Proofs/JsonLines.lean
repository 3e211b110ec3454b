import FaultContext.Export
import FaultContext.Proofs.SpanWire
import FaultContext.Text.Basic

/-!
# One line for each span

The compact form of a value holds no control character: strings escape them and nothing else could
bring one in. So each span stays in its own line of the stream, and the lines are read back as the
spans of the batches that came before the first shutdown.
-/

namespace FaultContext

set_option autoImplicit false

namespace Text

variable {line rest : Text}

/-- A text without control characters of the ASCII range, line ends among them. -/
def Printable (text : Text) : Prop := ∀ c ∈ text, 0x20 ≤ c.toNat

@[simp] theorem printable_nil : Printable [] := by simp [Printable]

@[simp] theorem printable_cons (c : Char) (text : Text) :
    Printable (c :: text) ↔ 0x20 ≤ c.toNat ∧ Printable text :=
  List.forall_mem_cons

@[simp] theorem printable_append (front back : Text) :
    Printable (front ++ back) ↔ Printable front ∧ Printable back :=
  List.forall_mem_append

theorem lines_printable (printable : Printable line) (rest : Text) :
    lines (line ++ '\n' :: rest) = line :: lines rest := by
  induction line with
  | nil => rw [List.nil_append, lines]
  | cons c line ih =>
      obtain ⟨visible, others⟩ := (printable_cons c line).1 printable
      have newline : c ≠ '\n' := by
        rintro rfl
        revert visible
        decide
      have carriage : c ≠ '\r' := by
        rintro rfl
        revert visible
        decide
      rw [List.cons_append, lines, ih others]
      · exact newline
      · exact fun _ same _ => carriage same

theorem lines_unlines {texts : List Text} (printable : ∀ line ∈ texts, Printable line) :
    lines (unlines texts) = texts := by
  induction texts with
  | nil => rfl
  | cons line texts ih =>
      obtain ⟨first, others⟩ := List.forall_mem_cons.1 printable
      have split : unlines (line :: texts) = line ++ '\n' :: unlines texts := by
        simp [unlines]
      rw [split, lines_printable first, ih others]

end Text

namespace Json

open Text (Printable)

theorem write_string_printable (content : Text) : Printable (writeString content) := by
  have inside : Printable (content.flatMap writeChar) := by
    intro d held
    obtain ⟨c, -, written⟩ := List.mem_flatMap.1 held
    exact write_char_printable c d written
  simp [writeString, inside]

theorem of_int_printable (number : Int) : Printable (Text.ofInt number) := by
  have digits (n : Nat) : Printable (Text.ofNat n) := by
    intro c held
    have digit : c.isDigit = true := Text.is_digit_of_mem_of_nat held
    have zero : '0'.toNat ≤ c.toNat := (Char.isDigit_iff_toNat.1 digit).1
    exact Nat.le_trans (by decide) zero
  cases number with
  | ofNat n => exact digits n
  | negSucc n => simp [Text.ofInt, digits]

theorem compact_items_printable {items : List Value}
    (each : ∀ item ∈ items, Printable (compact item)) : Printable (compactItems items) := by
  induction items with
  | nil => simp [compactItems]
  | cons item items ih =>
      obtain ⟨first, others⟩ := List.forall_mem_cons.1 each
      simp [compactItems, first, ih others]

theorem compact_members_printable {members : List (Text × Value)}
    (each : ∀ member ∈ members, Printable (compact member.2)) :
    Printable (compactMembers members) := by
  induction members with
  | nil => simp [compactMembers]
  | cons member members ih =>
      obtain ⟨first, others⟩ := List.forall_mem_cons.1 each
      simp [compactMembers, write_string_printable, first, ih others]

theorem compact_printable {value : Value} (plain : Plain value) : Printable (compact value) := by
  induction plain with
  | null => simp [compact]
  | bool flag => cases flag <;> simp [compact]
  | integer number least greatest => exact of_int_printable number
  | text content => exact write_string_printable content
  | array items each ih =>
      cases items with
      | nil => simp [compact]
      | cons item items =>
          obtain ⟨first, others⟩ := List.forall_mem_cons.1 ih
          simp [compact, first, compact_items_printable others]
  | object members each ih =>
      cases members with
      | nil => simp [compact]
      | cons member members =>
          obtain ⟨first, others⟩ := List.forall_mem_cons.1 ih
          simp [compact, write_string_printable, first, compact_members_printable others]

end Json

namespace Export

open Files (Disk)
open FaultContext.Span (Exported)

theorem Sink.run_append {δ : Type} (sink : Sink δ) (earlier later : List Call) (state : δ) :
    sink.run (earlier ++ later) state =
      let reached := sink.run earlier state
      let left := sink.run later reached.2
      (reached.1 ++ left.1, left.2) := by
  induction earlier generalizing state with
  | nil => rfl
  | cons call earlier ih =>
      simp only [List.cons_append, run, ih]

namespace Stream

variable {stream : Stream}

/-- The spans of the batches before the first shutdown. -/
def taken : List Call → List Exported
  | [] => []
  | .deliver _ batch :: calls => batch ++ taken calls
  | .flush :: calls => taken calls
  | .shutdown :: _ => []

/-- What a call is answered once the sink is shut down. -/
def afterShutdown : Call → Reply
  | .deliver _ _ => .error .alreadyShutdown
  | .flush | .shutdown => .ok ()

theorem encode_batch_unlines (pretty : Bool) (batch : List Exported) :
    encodeBatch pretty batch = Text.unlines (batch.map (encode pretty)) := by
  rw [encodeBatch, Text.unlines, List.flatMap_map]

theorem call_closed (pretty : Bool) (closed : stream.isShutdown = true) (call : Call) :
    (sink {} pretty).call call stream = (afterShutdown call, stream) := by
  cases call with
  | deliver disk batch => exact if_pos closed
  | flush => rfl
  | shutdown => exact if_pos closed

theorem run_closed (pretty : Bool) (closed : stream.isShutdown = true) (calls : List Call) :
    (sink {} pretty).run calls stream = (calls.map afterShutdown, stream) := by
  induction calls with
  | nil => rfl
  | cons call calls ih => simp only [Sink.run, call_closed pretty closed, ih, List.map_cons]

theorem call_deliver (pretty : Bool) (running : stream.isShutdown = false) (disk : Disk)
    (batch : List Exported) :
    (sink {} pretty).call (.deliver disk batch) stream =
      (.ok (), { stream with written := stream.written ++ encodeBatch pretty batch }) := by
  simp only [Sink.call, sink, deliver, running, Bool.false_eq_true, if_false]

theorem call_shutdown (pretty : Bool) (stream : Stream) :
    (sink {} pretty).call .shutdown stream = (.ok (), { stream with isShutdown := true }) := by
  obtain ⟨written, isShutdown⟩ := stream
  cases isShutdown <;> rfl

theorem run_written (pretty : Bool) (running : stream.isShutdown = false) (calls : List Call) :
    ((sink {} pretty).run calls stream).2.written =
      stream.written ++ encodeBatch pretty (taken calls) := by
  induction calls generalizing stream with
  | nil => simp [Sink.run, taken, encodeBatch]
  | cons call calls ih =>
      cases call with
      | deliver disk batch =>
          let after : Stream := { stream with written := stream.written ++ encodeBatch pretty batch }
          have delivered : (sink {} pretty).call (.deliver disk batch) stream = (.ok (), after) :=
            call_deliver pretty running disk batch
          have later : ((sink {} pretty).run calls after).2.written =
              after.written ++ encodeBatch pretty (taken calls) := ih running
          simp only [Sink.run, delivered, later, taken]
          simp [after, encodeBatch]
      | flush => exact ih running
      | shutdown =>
          -- The rest of the calls leaves the stream alone, as does the rest of what is taken.
          let stopped : Stream := { stream with isShutdown := true }
          have answered : (sink {} pretty).run calls stopped = (calls.map afterShutdown, stopped) :=
            run_closed pretty rfl calls
          simp only [Sink.run, call_shutdown, taken]
          rw [answered]
          simp [stopped, encodeBatch]

theorem run_past_shutdown (pretty : Bool) (earlier later : List Call) (stream : Stream) :
    (sink {} pretty).run (earlier ++ .shutdown :: later) stream =
      let closed := (sink {} pretty).run (earlier ++ [.shutdown]) stream
      (closed.1 ++ later.map afterShutdown, closed.2) := by
  have marked : ((sink {} pretty).run (earlier ++ [.shutdown]) stream).2.isShutdown = true := by
    rw [Sink.run_append]
    simp only [Sink.run, call_shutdown]
  rw [List.append_cons, Sink.run_append]
  simp only [run_closed pretty marked]

/-- A compact sink writes a line for each span that it takes before it is shut down, and the line says
what the span shows. From then on it takes nothing, and shutting it down again is no failure. -/
theorem lines_are_spans (calls : List Call)
    (exact : ∀ exported ∈ taken calls, exported.toSpan.Exact) :
    List.Forall₂ (fun line exported => line = Json.compact exported.toJson ∧
        Span.read? line = some exported.toSpan)
      (Text.lines ((sink {} false).run calls {}).2.written) (taken calls) ∧
    ∀ earlier later, calls = earlier ++ .shutdown :: later →
      let closed := (sink {} false).run (earlier ++ [.shutdown]) {}
      (sink {} false).run calls {} = (closed.1 ++ later.map afterShutdown, closed.2) := by
  constructor
  · have printable : ∀ line ∈ (taken calls).map (encode false), Text.Printable line := by
      intro line held
      obtain ⟨exported, member, rfl⟩ := List.mem_map.1 held
      rw [encode, Span.view_to_json]
      exact Json.compact_printable (Span.plain_span (exact exported member))
    have written : ((sink {} false).run calls {}).2.written =
        Text.unlines ((taken calls).map (encode false)) := by
      rw [run_written false rfl, encode_batch_unlines]
      rfl
    rw [written, Text.lines_unlines printable, List.forall₂_map_left_iff, List.forall₂_same]
    intro exported member
    have spelled : encode false exported = Json.compact exported.toSpan.toJson := by
      rw [encode, Span.view_to_json]
      rfl
    exact ⟨rfl, by rw [spelled, Span.compact_read_back (exact exported member)]⟩
  · rintro earlier later rfl
    exact run_past_shutdown false earlier later {}

/-- Some calls up to a shutdown, with line ends inside the spans. -/
def beforehand (disk : Disk) : List Call :=
  [.deliver disk [.plain Span.crowded, .enriched Span.crowded [⟨"a\r\nb".toList, 0, .empty⟩]], .flush,
    .deliver disk []]

/-- Some calls that come too late. -/
def afterwards (disk : Disk) : List Call := [.deliver disk [.plain Span.crowded], .shutdown, .flush]

theorem lines_are_spans_late :
    let disk : Disk := ⟨.directory [], "/".toList⟩
    let calls := beforehand disk ++ .shutdown :: afterwards disk
    (∀ exported ∈ taken calls, exported.toSpan.Exact) ∧
      List.Forall₂ (fun line exported => line = Json.compact exported.toJson ∧
          Span.read? line = some exported.toSpan)
        (Text.lines ((sink {} false).run calls {}).2.written) (taken calls) ∧
      ((sink {} false).run calls {}).1 =
        [.ok (), .ok (), .ok (), .ok (), .error .alreadyShutdown, .ok (), .ok ()] := by
  intro disk calls
  have exact : ∀ exported ∈ taken calls, exported.toSpan.Exact := by decide
  obtain ⟨framed, closed⟩ := lines_are_spans calls exact
  refine ⟨exact, framed, ?_⟩
  rw [closed (beforehand disk) (afterwards disk) rfl]
  rfl

end Stream

end Export

end FaultContext
