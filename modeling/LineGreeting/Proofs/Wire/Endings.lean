import LineGreeting.Proofs.Text.Cutting
import LineGreeting.Proofs.Wire.Truncation

/-! # Two ends of lines

Some peers end a line with a newline and others with a carriage return in front of it. A
reader hears the same from both, and goes on at the same place behind the line. The carriage
return is dropped only with a newline that is kept, though. So there is one length at which
it stays: the carriage return is the last byte within the limit, and the newline the first
one behind it.
-/

namespace LineGreeting.Wire

variable {bytes : Bytes}

/-- A newline is not heard, be it kept or not. -/
theorem decodeLine_fed (hopen : newline ∉ bytes) (hbody : bytes.getLast? ≠ some carriageReturn) :
    decodeLine (bytes ++ [newline]) = Text.lossy (bytes.take maxLineLength) := by
  rcases Nat.lt_or_ge bytes.length maxLineLength with hshort | hlong
  · have hkept : (bytes ++ [newline]).take maxLineLength = bytes ++ [newline] :=
      List.take_of_length_le (by simp; omega)
    rw [decodeLine, hkept, stripTerminator_append_newline, if_neg hbody,
      List.take_of_length_le hshort.le]
  · exact decodeLine_append hopen hlong [newline]

theorem decodeLine_returned (hopen : newline ∉ bytes) (hlength : bytes.length + 1 ≠ maxLineLength) :
    decodeLine (bytes ++ [carriageReturn, newline]) = Text.lossy (bytes.take maxLineLength) := by
  rcases Nat.lt_or_gt_of_ne hlength with hshort | hlong
  · have hkept : (bytes ++ [carriageReturn, newline]).take maxLineLength =
        bytes ++ [carriageReturn] ++ [newline] := by
      rw [List.append_assoc]
      exact List.take_of_length_le (by simp; omega)
    rw [decodeLine, hkept, stripTerminator_append_newline, List.getLast?_concat, if_pos rfl,
      List.dropLast_concat, List.take_of_length_le (by omega)]
  · exact decodeLine_append hopen (Nat.lt_succ_iff.mp hlong) _

/-- Where the limit falls between the two bytes of an end, the first one stays. -/
theorem decodeLine_returned_of_eq (hopen : newline ∉ bytes)
    (hlength : bytes.length + 1 = maxLineLength) :
    decodeLine (bytes ++ [carriageReturn, newline]) =
      Text.lossy (bytes.take maxLineLength) ++ "\r" := by
  have hkept : (bytes ++ [carriageReturn, newline]).take maxLineLength =
      bytes ++ [carriageReturn] := by
    rw [List.append_cons]
    exact List.take_left' (by simpa using hlength)
  have hreturned : newline ∉ bytes ++ [carriageReturn] := by simp [hopen]; decide
  have hchars : Text.lossyChars (bytes ++ [carriageReturn]) =
      Text.lossyChars bytes ++ ['\r'] := Text.lossyChars_append_cons (by decide) bytes []
  rw [decodeLine, hkept, stripTerminator_of_not_mem hreturned,
    List.take_of_length_le (by omega), Text.lossy, hchars, String.ofList_append]
  rfl

theorem lineOf_of_ne_nil {line : Bytes} (hne : line ≠ []) :
    lineOf line = some (decodeLine line) :=
  if_neg hne

/-- Of two peers that send the same line and end it with a newline and with a carriage return
and a newline, a reader hears the same text unless the line has just one byte less than is
kept; then the carriage return is heard from the second one. Whatever the pieces, the next
line starts at the same place. -/
theorem readLine_alike_iff (hopen : newline ∉ bytes)
    (hbody : bytes.getLast? ≠ some carriageReturn) (rest : Stream) :
    ∃ fed returned, fed = Text.lossy (bytes.take 65536) ∧
      (fed = returned ↔ bytes.length ≠ 65535) ∧
      (bytes.length = 65535 → returned = fed ++ "\r") ∧
      (∀ reader : Reader, 1 ≤ reader.capacity →
        reader.stream = bytes.map .byte ++ .byte newline :: rest →
        ∃ after next, reader.readLine = .ready after (.ok (some fed), next) ∧
          next.capacity = reader.capacity ∧ next.stream = rest) ∧
      ∀ reader : Reader, 1 ≤ reader.capacity →
        reader.stream = bytes.map .byte ++ .byte carriageReturn :: .byte newline :: rest →
        ∃ after next, reader.readLine = .ready after (.ok (some returned), next) ∧
          next.capacity = reader.capacity ∧ next.stream = rest := by
  refine ⟨_, decodeLine (bytes ++ [carriageReturn, newline]), rfl, ?_, ?_, ?_, ?_⟩
  · constructor
    · intro halike hlength
      have hreturned := decodeLine_returned_of_eq hopen (congrArg Nat.succ hlength)
      have hsize := congrArg String.length (halike.trans hreturned)
      simp [maxLineLength] at hsize
    · exact fun hlength => (decodeLine_returned hopen (by rw [maxLineLength]; omega)).symm
  · exact fun hlength => decodeLine_returned_of_eq hopen (congrArg Nat.succ hlength)
  · intro reader hcapacity hstream
    apply reader.exists_readLine_eq hcapacity
    rw [hstream, Stream.next?_bytes_append_cons hopen rfl, Stream.ended,
      lineOf_of_ne_nil (by simp), decodeLine_fed hopen hbody]
    rfl
  · intro reader hcapacity hstream
    apply reader.exists_readLine_eq hcapacity
    rw [hstream, Stream.next?_returned hopen, lineOf_of_ne_nil (by simp)]

/-- A peer that sends some bytes and then a newline in the same piece, and another byte
later. -/
def fedReader (bytes : Bytes) : Reader where
  capacity := 4096
  script := [.data (bytes ++ [newline]), .wait 1, .data [0x21]]

theorem fedReader_stream (bytes : Bytes) :
    (fedReader bytes).stream = bytes.map .byte ++ .byte newline :: [.byte 0x21] := by
  have hne : bytes ++ [newline] ≠ [] := by simp
  rw [Reader.stream, fedReader, Script.stream_data, Stream.taken_ok hne, List.map_append,
    List.map_nil, List.nil_append, List.append_assoc]
  rfl

/-- A line of one byte less than is kept. -/
def fullLine : Bytes := List.replicate 65535 0x61

theorem readLine_alike_fullLine : newline ∉ fullLine ∧
    fullLine.getLast? ≠ some carriageReturn ∧
    ∃ fed, (∃ after next, (fedReader fullLine).readLine = .ready after (.ok (some fed), next) ∧
        next.stream = [.byte 0x21]) ∧
      ∃ after next, (cutReader fullLine).readLine =
          .ready after (.ok (some (fed ++ "\r")), next) ∧
        next.stream = [.byte 0x21] := by
  have hopen : newline ∉ fullLine := by
    rw [fullLine, List.mem_replicate]
    decide
  have hbody : fullLine.getLast? ≠ some carriageReturn := by
    rw [fullLine, List.getLast?_replicate]
    decide
  have hlength : fullLine.length = 65535 := List.length_replicate
  have hne : fullLine ≠ [] := List.ne_nil_of_length_eq_add_one hlength
  obtain ⟨fed, returned, -, -, hreturned, hfed, hread⟩ :=
    readLine_alike_iff hopen hbody [.byte 0x21]
  obtain ⟨after, next, hfirst, -, hrest⟩ := hfed (fedReader fullLine) (by decide)
    (fedReader_stream fullLine)
  obtain ⟨after', next', hsecond, -, hrest'⟩ := hread (cutReader fullLine) (by decide)
    (cutReader_stream hne)
  rw [hreturned hlength] at hsecond
  exact ⟨hopen, hbody, fed, ⟨after, next, hfirst, hrest⟩, after', next', hsecond, hrest'⟩

end LineGreeting.Wire
