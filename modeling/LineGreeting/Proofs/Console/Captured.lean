import LineGreeting.Proofs.Console.Survival
import LineGreeting.Proofs.Exchange.Printing

/-! # What a transcript shows

A transcript captures bytes, from whichever of its consoles they come or from none, and it
decodes them all before it cuts them into lines. A character may be torn at the end of a line
and a line may be written in parts; still each line shows what its own bytes stand for. While
nothing but whole lines is printed, the lines shown stay as they are and new ones follow them.
-/

namespace LineGreeting

namespace Transcript

variable {transcript : Transcript}

/-! ## Lines decoded one by one -/

/-- Some bytes cut at their newlines before any of them is decoded. -/
structure Cut (bytes : Bytes) (ended : List Bytes) (last : Bytes) : Prop where
  bytes_eq : bytes = ended.flatMap (· ++ [0x0A]) ++ last
  ended_open : ∀ piece ∈ ended, 0x0A ∉ piece
  last_open : 0x0A ∉ last

/-- To decode all bytes before they are cut changes nothing. -/
theorem exists_cut (transcript : Transcript) :
    ∃ ended last, Cut transcript.captured ended last ∧
      transcript.lines = (ended.map (Text.dropFinal 0x0D) ++
        if last = [] then [] else [last]).map Text.lossy := by
  obtain ⟨ended, last, hpieces, hbytes, hended, hlast⟩ :=
    Text.exists_pieces 0x0A transcript.captured
  refine ⟨ended, last, ⟨hbytes, hended, hlast⟩, ?_⟩
  rw [lines, Text.lines_lossy, Text.linesOf, hpieces, List.dropLast_concat, List.getLast?_concat]
  by_cases hnil : last = [] <;> simp [hnil]

/-! ## Operations -/

/-- A transcript as what stands behind its consoles: a sink that takes everything. -/
def sink (transcript : Transcript) : Sink where
  data := transcript.captured.toArray

theorem data_line_sink (transcript : Transcript) (text : String) :
    (transcript.sink.line text).2.data.toList = (transcript.line text).captured := by
  obtain ⟨calls, piece, hprinted⟩ := transcript.sink.exists_printed text
  have hall : ∀ call ∈ calls, call.mishap? = none := by
    rw [hprinted.calls_eq]
    exact SinkAction.mishap?_of_mem_upcoming_nil
  rw [hprinted.data_eq, hprinted.whole_iff.mpr hall, captured_line, sink]

/-- What can be done to a transcript: a line is printed on one of its consoles or on a clone
of one, or bytes are written as they are. -/
inductive Operation where
  | line (console : Console) (text : String)
  | write (bytes : Bytes)

namespace Operation

/-- All consoles of a transcript print on the same bytes. -/
def apply (transcript : Transcript) : Operation → Transcript
  | line _ text => ⟨(transcript.sink.line text).2.data.toList⟩
  | write bytes => transcript.write bytes

/-- The bytes that an operation adds. -/
def bytes : Operation → Bytes
  | line _ text => Text.utf8 text ++ [0x0A]
  | write bytes => bytes

def IsLine : Operation → Prop
  | line _ _ => True
  | write _ => False

theorem apply_line (transcript : Transcript) (console : Console) (text : String) :
    (line console text).apply transcript = transcript.line text := by
  rw [apply, data_line_sink]

theorem captured_apply (transcript : Transcript) (operation : Operation) :
    (operation.apply transcript).captured = transcript.captured ++ operation.bytes := by
  cases operation with
  | line console text => rw [apply_line, captured_line, bytes]
  | write bytes => rfl

end Operation

/-- A new transcript after some operations. -/
def after (operations : List Operation) : Transcript :=
  operations.foldl Operation.apply {}

theorem after_concat (operations : List Operation) (operation : Operation) :
    after (operations ++ [operation]) = operation.apply (after operations) := by
  rw [after, List.foldl_concat]
  rfl

theorem captured_after (operations : List Operation) :
    (after operations).captured = operations.flatMap Operation.bytes := by
  induction operations using List.reverseRecOn with
  | nil => rfl
  | append_singleton operations operation ih =>
      rw [after_concat, Operation.captured_apply, ih, List.flatMap_append, List.flatMap_singleton]

theorem ended_after {operations : List Operation}
    (hlines : ∀ operation ∈ operations, operation.IsLine) : (after operations).Ended := by
  cases operations using List.reverseRecOn with
  | nil => exact .inl rfl
  | append_singleton operations operation =>
      rw [after_concat]
      cases operation with
      | line console text =>
          rw [Operation.apply_line]
          exact ended_line _ text
      | write bytes => exact (hlines (.write bytes) (by simp)).elim

/-- A line does not change the lines before it. -/
theorem lines_after_line {operations : List Operation}
    (hlines : ∀ operation ∈ operations, operation.IsLine) (console : Console) (text : String) :
    (after (operations ++ [.line console text])).lines =
      (after operations).lines ++ (line {} text).lines := by
  rw [after_concat, Operation.apply_line]
  exact lines_line (ended_after hlines) text

/-- Whatever is done to a transcript, it shows the lines of its bytes, each decoded on its
own; the end of a line is dropped before. Where only lines are printed, it shows what it has
shown before and then, for a text without a newline, one line more. -/
theorem shows_each_line (operations : List Operation) :
    (after operations).captured = operations.flatMap Operation.bytes ∧
    (∃ ended last, Cut (after operations).captured ended last ∧
      (after operations).lines = (ended.map (Text.dropFinal 0x0D) ++
        if last = [] then [] else [last]).map Text.lossy) ∧
    ((∀ operation ∈ operations, operation.IsLine) → ∀ (console : Console) (text : String),
      (after operations).lines <+: (after (operations ++ [.line console text])).lines ∧
      ('\n' ∉ text.toList →
        (after (operations ++ [.line console text])).lines =
          (after operations).lines ++ [Text.withoutReturn text])) := by
  refine ⟨captured_after operations, exists_cut _, ?_⟩
  intro hlines console text
  rw [lines_after_line hlines]
  refine ⟨List.prefix_append _ _, ?_⟩
  intro hnewline
  rw [lines_line_empty hnewline]

def sampleOperations : List Operation :=
  [.line (.on 0) "a\r", .line (.clone (.on 1)) "b\r\nc"]

theorem shows_each_line_sample :
    (∀ operation ∈ sampleOperations, operation.IsLine) ∧ '\n' ∉ "d\r\r".toList ∧
    (after sampleOperations).lines = ["a", "b", "c"] ∧
    (after (sampleOperations ++ [.line (.clone (.on 0)) "d\r\r"])).lines =
      ["a", "b", "c", "d\r"] := by
  have hlines : ∀ operation ∈ sampleOperations, operation.IsLine := by
    simp [sampleOperations, Operation.IsLine]
  have hnewline : '\n' ∉ "d\r\r".toList := by decide
  have hbefore : (after sampleOperations).lines = ["a", "b", "c"] := by decide +kernel
  obtain ⟨-, -, hgrows⟩ := shows_each_line sampleOperations
  refine ⟨hlines, hnewline, hbefore, ?_⟩
  rw [(hgrows hlines _ _).2 hnewline, hbefore]
  decide +kernel

end Transcript

end LineGreeting
