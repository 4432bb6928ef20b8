import LineGreeting.Proofs.Wire.Stream
import LineGreeting.Proofs.Wire.Writing

/-! # Texts that survive the wire

A writer sends each text as one line, and a reader at the other end takes the
lines off again. A text without a newline comes back unless the line end eats
its last carriage return. It does so only where the newline is among the bytes
that are kept, so the texts of just the greatest length may end as they like.
-/

namespace LineGreeting.Wire

/-- Whether a text comes back from the wire as it was sent. -/
structure Survives (text : String) : Prop where
  no_newline : '\n' ∉ text.toList
  length_le : (Text.utf8 text).length ≤ maxLineLength
  ending : text.toList.getLast? ≠ some '\r' ∨ (Text.utf8 text).length = maxLineLength

instance (text : String) : Decidable (Survives text) :=
  decidable_of_iff ('\n' ∉ text.toList ∧ (Text.utf8 text).length ≤ maxLineLength ∧
    (text.toList.getLast? ≠ some '\r' ∨ (Text.utf8 text).length = maxLineLength))
    ⟨fun ⟨hnewline, hlength, hending⟩ => ⟨hnewline, hlength, hending⟩,
      fun ⟨hnewline, hlength, hending⟩ => ⟨hnewline, hlength, hending⟩⟩

/-! ## Ends of lines -/

theorem stripTerminator_append_newline (body : Bytes) :
    stripTerminator (body ++ [newline]) =
      if body.getLast? = some carriageReturn then body.dropLast else body := by
  simp [stripTerminator]

theorem stripTerminator_of_not_mem {line : Bytes} (hopen : newline ∉ line) :
    stripTerminator line = line := by
  rw [stripTerminator, if_neg]
  exact fun hlast => hopen (List.mem_of_getLast? hlast)

/-- What is left of a line has no newline if only its end had one. -/
theorem newline_not_mem_stripTerminator {line : Bytes} (hbody : newline ∉ line.dropLast) :
    newline ∉ stripTerminator line := by
  rw [stripTerminator]
  split
  · dsimp only
    split
    · exact fun hmem => hbody (List.mem_of_mem_dropLast hmem)
    · exact hbody
  next hlast =>
    intro hmem
    rcases List.eq_nil_or_concat' line with rfl | ⟨body, last, rfl⟩
    · cases hmem
    · rw [List.dropLast_concat] at hbody
      rw [List.getLast?_concat, Option.some_inj] at hlast
      rcases List.mem_append.mp hmem with hbefore | hlast'
      · exact hbody hbefore
      · exact hlast (List.mem_singleton.mp hlast').symm

theorem newline_not_mem_decodeLine {line : Bytes} (hbody : newline ∉ line.dropLast) :
    '\n' ∉ (decodeLine line).toList := by
  rw [decodeLine, Text.lossy, String.toList_ofList]
  intro hmem
  refine newline_not_mem_stripTerminator ?_ (Text.newline_mem_of_mem_lossyChars hmem)
  rw [List.dropLast_take_eq_take_dropLast]
  exact fun htake => hbody (List.mem_of_mem_take htake)

/-! ## Texts as lines -/

theorem newline_mem_utf8_iff {text : String} :
    newline ∈ Text.utf8 text ↔ '\n' ∈ text.toList := by
  rw [Text.utf8, List.mem_flatMap]
  constructor
  · rintro ⟨char, hchar, hmem⟩
    rwa [Text.utf8EncodeChar_of_mem (by decide) hmem] at hchar
  · exact fun hmem => ⟨'\n', hmem, by decide⟩

theorem utf8_concat {text : String} {init : List Char} {last : Char}
    (htext : text.toList = init ++ [last]) :
    Text.utf8 text = Text.utf8 (String.ofList init) ++ String.utf8EncodeChar last := by
  rw [Text.utf8, htext, List.flatMap_append, List.flatMap_singleton, Text.utf8,
    String.toList_ofList]

theorem getLast?_utf8_iff {text : String} :
    (Text.utf8 text).getLast? = some carriageReturn ↔ text.toList.getLast? = some '\r' := by
  rcases List.eq_nil_or_concat' text.toList with hnil | ⟨init, last, htext⟩
  · simp [Text.utf8, hnil]
  · rw [utf8_concat htext, htext, List.getLast?_append_of_ne_nil _ String.utf8EncodeChar_ne_nil,
      List.getLast?_concat]
    constructor
    · intro hlast
      rw [Text.utf8EncodeChar_of_mem (by decide) (List.mem_of_getLast? hlast)]
      rfl
    · rintro ⟨⟩
      decide

/-- A text without a newline that fits comes back just if its ending does. -/
theorem decodeLine_encodeLine_iff {text : String} (hnewline : '\n' ∉ text.toList)
    (hlength : (Text.utf8 text).length ≤ maxLineLength) :
    decodeLine (encodeLine text) = text ↔
      text.toList.getLast? ≠ some '\r' ∨ (Text.utf8 text).length = maxLineLength := by
  have hopen : newline ∉ Text.utf8 text := fun hmem => hnewline (newline_mem_utf8_iff.mp hmem)
  rw [decodeLine, encodeLine]
  by_cases hfull : (Text.utf8 text).length = maxLineLength
  · -- There is no room left for the newline, so it is not there to be stripped.
    rw [List.take_left' hfull, stripTerminator_of_not_mem hopen, Text.lossy_utf8]
    simp [hfull]
  · rw [List.take_of_length_le (by simp; omega), stripTerminator_append_newline]
    by_cases hending : text.toList.getLast? = some '\r'
    · obtain ⟨init, htext⟩ := List.getLast?_eq_some_iff.mp hending
      have hreturn : String.utf8EncodeChar '\r' = [carriageReturn] := by decide
      have hbody : (Text.utf8 text).dropLast = Text.utf8 (String.ofList init) := by
        rw [utf8_concat htext, hreturn, List.dropLast_concat]
      rw [if_pos (getLast?_utf8_iff.mpr hending), hbody, Text.lossy_utf8]
      apply iff_of_false _ (not_or.mpr ⟨not_not.mpr hending, hfull⟩)
      intro heq
      have hlist := congrArg String.toList heq
      rw [String.toList_ofList, htext] at hlist
      simp at hlist
    · rw [if_neg (fun hlast => hending (getLast?_utf8_iff.mp hlast)), Text.lossy_utf8]
      simp [hending]

/-- A call takes a whole line whose only newline is its end. -/
theorem Stream.next?_line {body : Bytes} (hopen : newline ∉ body) (rest : Stream) :
    Stream.next? ((body ++ [newline]).map .byte ++ rest) =
      some (.ok (some (decodeLine (body ++ [newline]))), rest) := by
  have hne : body ++ [newline] ≠ [] := List.append_ne_nil_of_right_ne_nil body (by simp)
  rw [List.map_append, List.append_assoc, List.map_singleton, List.singleton_append,
    Stream.next?_bytes_append_cons hopen rfl, Stream.ended, lineOf, if_neg hne]

/-- Some lines and then the end are read as so many texts and nothing. -/
theorem Stream.answers_lines {texts : List String} (htexts : ∀ text ∈ texts, Survives text) :
    Stream.answers (texts.length + 1) ((texts.flatMap encodeLine).map .byte) =
      texts.map (fun text => .ok (some text)) ++ [.ok none] := by
  induction texts with
  | nil => rfl
  | cons text texts ih =>
      have hsurvives := htexts text List.mem_cons_self
      have hopen : newline ∉ Text.utf8 text := fun hmem =>
        hsurvives.no_newline (newline_mem_utf8_iff.mp hmem)
      have htext := (decodeLine_encodeLine_iff hsurvives.no_newline hsurvives.length_le).mpr
        hsurvives.ending
      rw [encodeLine] at htext
      rw [List.length_cons, Stream.answers, List.flatMap_cons, List.map_append, encodeLine,
        Stream.next?_line hopen, htext]
      exact congrArg _ (ih fun text hmem => htexts text (List.mem_cons_of_mem _ hmem))

/-- A text that does not survive is not what its line says. -/
theorem Stream.next?_encodeLine_ne {text : String}
    (hlength : (Text.utf8 text).length ≤ maxLineLength) (hlost : ¬ Survives text) :
    ∃ answer rest, Stream.next? ((encodeLine text).map .byte) = some (answer, rest) ∧
      answer ≠ .ok (some text) := by
  by_cases hnewline : '\n' ∈ text.toList
  · -- The line ends at the first newline of the text, so the answer has none.
    have hmem : newline ∈ Text.utf8 text := newline_mem_utf8_iff.mpr hnewline
    obtain ⟨body, rest, hsplit, hopen⟩ := List.eq_append_cons_of_mem hmem
    have hbytes : encodeLine text = body ++ [newline] ++ (rest ++ [newline]) := by
      rw [encodeLine, hsplit]
      simp
    refine ⟨_, _, by rw [hbytes, List.map_append, Stream.next?_line hopen], fun heq => ?_⟩
    have htext : decodeLine (body ++ [newline]) = text := by
      injection heq with hsome
      exact Option.some_inj.mp hsome
    refine newline_not_mem_decodeLine ?_ (htext ▸ hnewline)
    rwa [List.dropLast_concat]
  · have hopen : newline ∉ Text.utf8 text := fun hmem => hnewline (newline_mem_utf8_iff.mp hmem)
    have hline := Stream.next?_line hopen []
    rw [List.append_nil] at hline
    refine ⟨_, _, hline, fun heq => hlost ⟨hnewline, hlength, ?_⟩⟩
    refine (decodeLine_encodeLine_iff hnewline hlength).mp ?_
    injection heq with hsome
    exact Option.some_inj.mp hsome

/-! ## Writing and reading -/

/-- Writes some texts, one after the other. -/
def Writer.writeLines (writer : Writer) : List String → List (Except Fault Unit) × Writer
  | [] => ([], writer)
  | text :: rest =>
    let (result, writer) := writer.writeLine text
    let (results, writer) := writeLines writer rest
    (result :: results, writer)

/-- A writer that stops nowhere takes each text as a line. -/
theorem Writer.writeLines_eq {writer : Writer} (hgrain : ∀ call, writer.grain call ≠ some 0)
    (hbarrier : writer.barrier = none) (hflush : writer.flushFault = none)
    (texts : List String) :
    (writer.writeLines texts).1 = texts.map (fun _ => .ok ()) ∧
      (writer.writeLines texts).2.taken.toList =
        writer.taken.toList ++ texts.flatMap encodeLine := by
  induction texts generalizing writer with
  | nil => exact ⟨rfl, (List.append_nil _).symm⟩
  | cons text rest ih =>
      obtain ⟨taken, calls, htaken, hline⟩ := Writer.writeLine_eq_ok hgrain hbarrier hflush text
      let next := { writer with taken, calls, flushes := writer.flushes + 1 }
      obtain ⟨hresults, hrest⟩ := @ih next hgrain hbarrier hflush
      rw [Writer.writeLines, hline]
      refine ⟨congrArg _ hresults, ?_⟩
      rw [List.flatMap_cons, ← List.append_assoc, ← htaken]
      exact hrest

/-- Texts that survive are read as they were written, whatever the writer takes at a
time and in whatever pieces the reader gets it, and then the stream is at its end. A
text that does not survive, short as it may be, is read as something else. -/
theorem readLines_writeLines :
    (∀ (texts : List String) (grain : Nat → Option Nat), (∀ text ∈ texts, Survives text) →
      (∀ call, grain call ≠ some 0) →
      (Writer.writeLines { grain } texts).1 = texts.map (fun _ => .ok ()) ∧
      ∀ reader : Reader, 1 ≤ reader.capacity →
        reader.stream = (Writer.writeLines { grain } texts).2.taken.toList.map .byte →
        reader.readLines (texts.length + 1) =
          texts.map (fun text => .ok (some text)) ++ [.ok none]) ∧
    ∀ text : String, (Text.utf8 text).length ≤ maxLineLength → ¬ Survives text →
      ∀ reader : Reader, 1 ≤ reader.capacity → reader.stream = (encodeLine text).map .byte →
        ∃ answer, reader.readLines 1 = [answer] ∧ answer ≠ .ok (some text) := by
  constructor
  · intro texts grain htexts hgrain
    let writer : Writer := { grain }
    obtain ⟨hresults, htaken⟩ := @Writer.writeLines_eq writer hgrain rfl rfl texts
    refine ⟨hresults, ?_⟩
    intro reader hcapacity hstream
    rw [reader.readLines_eq hcapacity, hstream, htaken]
    exact Stream.answers_lines htexts
  · intro text hlength hlost reader hcapacity hstream
    obtain ⟨answer, rest, hnext, hne⟩ := Stream.next?_encodeLine_ne hlength hlost
    refine ⟨answer, ?_, hne⟩
    rw [reader.readLines_eq hcapacity, hstream, Stream.answers, hnext]
    rfl

/-- Three texts in two pieces, the cut inside a character. -/
def sampleTexts : List String := ["hi", "", "\rž"]

/-- One byte and two bytes in turn. -/
def sampleGrain (call : Nat) : Option Nat := some (call % 2 + 1)

theorem readLines_writeLines_sampleTexts :
    (Writer.writeLines { grain := sampleGrain } sampleTexts).1 = [.ok (), .ok (), .ok ()] ∧
    Reader.readLines 4 { capacity := 3, script :=
        [.data [0x68, 0x69, 0x0A, 0x0A, 0x0D, 0xC5], .wait 7, .data [0xBE, 0x0A]] } =
      [.ok (some "hi"), .ok (some ""), .ok (some "\rž"), .ok none] ∧
    ¬ Survives "x\r" ∧
    ∃ answer, Reader.readLines 1 { capacity := 1, script := [.data [0x78, 0x0D, 0x0A]] } =
      [answer] ∧ answer ≠ .ok (some "x\r") := by
  have hlost : ¬ Survives "x\r" := by decide +kernel
  have hgrain (call : Nat) : sampleGrain call ≠ some 0 := by simp [sampleGrain]
  have hsurvives : ∀ text ∈ sampleTexts, Survives text := by decide +kernel
  obtain ⟨hresults, hread⟩ := readLines_writeLines.1 sampleTexts _ hsurvives hgrain
  refine ⟨hresults, hread _ (by decide) ?_, hlost, ?_⟩
  · rw [(@Writer.writeLines_eq { grain := sampleGrain } hgrain rfl rfl sampleTexts).2]
    decide +kernel
  · exact readLines_writeLines.2 "x\r" (by decide +kernel) hlost _ (by decide) (by decide +kernel)

end LineGreeting.Wire
