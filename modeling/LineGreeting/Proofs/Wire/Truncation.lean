import LineGreeting.Proofs.Wire.RoundTrip
import LineGreeting.Text.Slice

/-! # Lines that are too long

What is kept of a line is counted in bytes, so the limit may fall inside a character. Of
this character only a beginning is left, which can become no other and counts as one
U+FFFD; every character before it is kept whole. The rest of the line is dropped up to and
with its end, however long it is, and the next line starts right behind.
-/

namespace LineGreeting

namespace Text

variable {limit position : Nat} {text front rest whole other : List Char} {char : Char}

/-- Whether some characters are the longest beginning of a text within so many bytes. -/
structure LongestWithin (limit : Nat) (text whole : List Char) : Prop where
  isPrefix : whole <+: text
  byteCount_le : byteCount whole ≤ limit
  longest : ∀ other, other <+: text → byteCount other ≤ limit → other <+: whole

/-- Whether a position, counted in bytes, falls inside a character of a text. -/
def FallsInside (position : Nat) (text : List Char) : Prop :=
  ∃ front char rest, text = front ++ char :: rest ∧ byteCount front < position ∧
    position < byteCount front + char.utf8Size

/-! ## Counting bytes -/

theorem byteCount_append (front rest : List Char) :
    byteCount (front ++ rest) = byteCount front + byteCount rest := by
  induction front with
  | nil => simp [byteCount]
  | cons char front ih => simp [byteCount, ih, Nat.add_assoc]

theorem byteCount_concat (front : List Char) (char : Char) :
    byteCount (front ++ [char]) = byteCount front + char.utf8Size := by
  simp [byteCount_append, byteCount]

theorem byteCount_replicate (number : Nat) (char : Char) :
    byteCount (List.replicate number char) = number * char.utf8Size := by
  induction number with
  | zero => simp [byteCount]
  | succ number ih => rw [List.replicate_succ, byteCount, ih, Nat.succ_mul, Nat.add_comm]

theorem length_utf8 (text : String) : (utf8 text).length = byteCount text.toList := by
  rw [utf8]
  induction text.toList with
  | nil => rfl
  | cons char rest ih => simp [byteCount, ih]

/-- Behind a shorter beginning of a text comes a character of the longer one. -/
theorem exists_concat_prefix (hfront : front <+: text) (hother : other <+: text)
    (hless : front.length < other.length) :
    ∃ char, front ++ [char] <+: other := by
  obtain ⟨tail, rfl⟩ := List.prefix_of_prefix_length_le hfront hother hless.le
  cases tail with
  | nil => simp at hless
  | cons char tail => exact ⟨char, tail, by simp⟩

theorem byteCount_le_of_prefix (hfront : front <+: text) : byteCount front ≤ byteCount text := by
  obtain ⟨tail, rfl⟩ := hfront
  rw [byteCount_append]
  exact Nat.le_add_right _ _

theorem LongestWithin.unique (hwhole : LongestWithin limit text whole)
    (hother : LongestWithin limit text other) : whole = other := by
  have hle := hother.longest whole hwhole.isPrefix hwhole.byteCount_le
  have hge := hwhole.longest other hother.isPrefix hother.byteCount_le
  exact hle.eq_of_length (Nat.le_antisymm hle.length_le hge.length_le)

/-! ## The character at the limit -/

/-- A text of more bytes has a character that does not fit any more. -/
theorem exists_crossing (hlong : limit < byteCount text) :
    ∃ front char rest, text = front ++ char :: rest ∧ byteCount front ≤ limit ∧
      limit < byteCount front + char.utf8Size := by
  induction text generalizing limit with
  | nil => simp [byteCount] at hlong
  | cons first text ih =>
      rw [byteCount] at hlong
      by_cases hfits : first.utf8Size ≤ limit
      · obtain ⟨front, char, rest, rfl, hle, hlt⟩ := @ih (limit - first.utf8Size) (by omega)
        refine ⟨first :: front, char, rest, rfl, ?_, ?_⟩
        · rw [byteCount]
          omega
        · rw [byteCount]
          omega
      · refine ⟨[], first, text, rfl, Nat.zero_le limit, ?_⟩
        rw [byteCount]
        omega

section Crossing

variable (hle : byteCount front ≤ limit) (hlt : limit < byteCount front + char.utf8Size)

include hle hlt

theorem longestWithin_of_crossing : LongestWithin limit (front ++ char :: rest) front := by
  have hfront : front <+: front ++ char :: rest := List.prefix_append front _
  refine ⟨hfront, hle, ?_⟩
  intro other hother hfits
  rcases Nat.lt_or_ge front.length other.length with hless | hge
  · -- A longer beginning has the character that does not fit.
    obtain ⟨next, hnext⟩ := exists_concat_prefix hfront hother hless
    have hsame : next = char := by
      have hall := hnext.trans hother
      rw [List.prefix_append_right_inj, List.cons_prefix_cons] at hall
      exact hall.1
    have hcount := byteCount_le_of_prefix hnext
    rw [byteCount_concat, hsame] at hcount
    omega
  · exact List.prefix_of_prefix_length_le hother hfront hge

theorem fallsInside_iff_of_crossing :
    FallsInside limit (front ++ char :: rest) ↔ byteCount front < limit := by
  constructor
  · rintro ⟨other, next, tail, htext, hbefore, hbehind⟩
    by_contra hnot
    -- If the limit were at the end of a character then the other one would end at it too.
    have hlimit : byteCount front = limit := Nat.le_antisymm hle (Nat.not_lt.mp hnot)
    have hfront : front <+: front ++ char :: rest := List.prefix_append front _
    have hother : other ++ [next] <+: front ++ char :: rest := ⟨tail, by simp [htext]⟩
    rcases Nat.lt_or_ge front.length (other ++ [next]).length with hless | hge
    · have hshort : front <+: other := by
        refine List.prefix_of_prefix_length_le hfront
          ((List.prefix_append other [next]).trans hother) ?_
        simp only [List.length_append, List.length_singleton] at hless
        omega
      have hcount := byteCount_le_of_prefix hshort
      omega
    · have hcount := byteCount_le_of_prefix
        (List.prefix_of_prefix_length_le hother hfront hge)
      rw [byteCount_concat] at hcount
      omega
  · exact fun hinside => ⟨front, char, rest, rfl, hinside, hlt⟩

end Crossing

/-! ## Decoding what is left -/

/-- A beginning of a character is one piece that counts as one U+FFFD. -/
theorem lossyChars_take_char (hpos : 0 < position) (hless : position < char.utf8Size) :
    lossyChars ((String.utf8EncodeChar char).take position) = [replacement] := by
  have hlength := String.length_utf8EncodeChar char
  have hfront : (String.utf8EncodeChar char).take position <+: String.utf8EncodeChar char :=
    List.take_prefix _ _
  have hne : (String.utf8EncodeChar char).take position ≠ [] := by
    rw [Ne, List.take_eq_nil_iff, not_or]
    exact ⟨by omega, String.utf8EncodeChar_ne_nil⟩
  have hpiece : Unfinished ((String.utf8EncodeChar char).take position) [] := by
    refine ⟨hne, ?_, .inl ⟨char, hfront⟩, ?_⟩
    · intro other hother
      rw [List.append_nil] at hother
      -- No encoding is the beginning of another, so the piece would be the whole character.
      obtain ⟨tail, htail⟩ := hother.trans hfront
      rw [← List.append_nil (String.utf8EncodeChar char)] at htail
      obtain ⟨rfl, -⟩ := utf8EncodeChar_append_inj htail
      have hshort := hother.length_le
      rw [List.length_take] at hshort
      omega
    · intro longer hlonger _
      rw [List.append_nil] at hlonger
      exact hlonger.length_le
  have hdecodes := Decodes.unfinished hpiece .nil
  rw [List.append_nil] at hdecodes
  exact decodes_iff.mp hdecodes

/-- A text that is cut off at some byte keeps all characters before it, and one U+FFFD for
the character that is cut. -/
theorem exists_lossyChars_take (text : String) (hlong : limit < (utf8 text).length) :
    ∃ whole, LongestWithin limit text.toList whole ∧
      (FallsInside limit text.toList →
        lossyChars ((utf8 text).take limit) = whole ++ [replacement]) ∧
      (¬ FallsInside limit text.toList → lossyChars ((utf8 text).take limit) = whole) := by
  rw [length_utf8] at hlong
  obtain ⟨front, char, rest, htext, hle, hlt⟩ := exists_crossing hlong
  have hcut : (utf8 text).take limit = utf8 (String.ofList front) ++
      (String.utf8EncodeChar char).take (limit - byteCount front) := by
    have hbytes : utf8 text = utf8 (String.ofList front) ++
        (String.utf8EncodeChar char ++ rest.flatMap String.utf8EncodeChar) := by
      simp [utf8, htext]
    have hlength : (utf8 (String.ofList front)).length = byteCount front := by
      rw [length_utf8, String.toList_ofList]
    rw [hbytes, List.take_append, hlength, List.take_of_length_le (by omega),
      List.take_append_of_le_length (by rw [String.length_utf8EncodeChar]; omega)]
  have hdecoded : lossyChars ((utf8 text).take limit) = front ++
      lossyChars ((String.utf8EncodeChar char).take (limit - byteCount front)) := by
    rw [hcut, lossyChars_utf8_append, String.toList_ofList]
  rw [htext, fallsInside_iff_of_crossing hle hlt, hdecoded]
  refine ⟨front, longestWithin_of_crossing hle hlt, ?_, ?_⟩
  · intro hinside
    rw [lossyChars_take_char (by omega) (by omega)]
  · intro hbetween
    have hzero : limit - byteCount front = 0 := by omega
    rw [hzero, List.take_zero, lossyChars_nil, List.append_nil]

end Text

namespace Wire

/-- Whether a stream gives some bytes and then an end of their line, and nothing is between
this and what comes behind. -/
inductive Stream.Ends (bytes : Bytes) : Stream → Stream → Prop
  | fed (rest : Stream) : Ends bytes (bytes.map .byte ++ .byte newline :: rest) rest
  | returned (rest : Stream) :
      Ends bytes (bytes.map .byte ++ .byte carriageReturn :: .byte newline :: rest) rest
  | closed (rest : Stream) : Ends bytes (bytes.map .byte ++ .close :: rest) rest
  | last : Ends bytes (bytes.map .byte) []

variable {bytes : Bytes} {stream rest : Stream}

/-- Of a line that is too long its end is not kept. -/
theorem decodeLine_append (hopen : newline ∉ bytes) (hlong : maxLineLength ≤ bytes.length)
    (ending : Bytes) :
    decodeLine (bytes ++ ending) = Text.lossy (bytes.take maxLineLength) := by
  rw [decodeLine, List.take_append_of_le_length hlong, stripTerminator_of_not_mem]
  exact fun hmem => hopen (List.mem_of_mem_take hmem)

theorem lineOf_append (hopen : newline ∉ bytes) (hlong : maxLineLength < bytes.length)
    (ending : Bytes) :
    lineOf (bytes ++ ending) = some (Text.lossy (bytes.take maxLineLength)) := by
  have hne : bytes ++ ending ≠ [] := by
    rintro hnil
    rw [List.append_eq_nil_iff] at hnil
    simp [hnil.1] at hlong
  rw [lineOf, if_neg hne, decodeLine_append hopen hlong.le]

/-- A line that is too long is taken up to its end and no further. -/
theorem Stream.Ends.next?_eq (hends : Stream.Ends bytes stream rest) (hopen : newline ∉ bytes)
    (hlong : maxLineLength < bytes.length) :
    stream.next? = some (.ok (some (Text.lossy (bytes.take maxLineLength))), rest) := by
  have hline := lineOf_append hopen hlong
  cases hends with
  | fed => rw [next?_bytes_append_cons hopen rfl, ended, hline]
  | returned => rw [next?_returned hopen, hline]
  | closed =>
      rw [next?_bytes_append_cons hopen rfl, ended, ← List.append_nil bytes, hline,
        List.append_nil]
  | last =>
      rw [next?_bytes hopen, ← List.append_nil bytes, hline, List.append_nil]

/-- A text of more bytes than are kept, sent as a line that ends in any way, is read as its
longest beginning within the limit, with one U+FFFD behind it just if the limit falls inside a
character. Whatever the pieces, the next line starts with what comes behind its end. -/
theorem readLine_truncates (text : String) (hnewline : '\n' ∉ text.toList)
    (hlong : maxLineLength < (Text.utf8 text).length) :
    ∃ whole heard, Text.LongestWithin maxLineLength text.toList whole ∧
      (Text.FallsInside maxLineLength text.toList → heard = whole ++ ['\ufffd']) ∧
      (¬ Text.FallsInside maxLineLength text.toList → heard = whole) ∧
      ∀ (reader : Reader) (rest : Stream), 1 ≤ reader.capacity →
        Stream.Ends (Text.utf8 text) reader.stream rest →
        ∃ after next, reader.readLine = .ready after (.ok (some (String.ofList heard)), next) ∧
          next.capacity = reader.capacity ∧ next.stream = rest := by
  obtain ⟨whole, hwhole, hinside, hbetween⟩ := Text.exists_lossyChars_take text hlong
  refine ⟨whole, _, hwhole, hinside, hbetween, ?_⟩
  intro reader rest hcapacity hends
  have hopen : newline ∉ Text.utf8 text := fun hmem => hnewline (newline_mem_utf8_iff.mp hmem)
  exact reader.exists_readLine_eq hcapacity (hends.next?_eq hopen hlong)

/-- As many bytes as are kept of a line, but one. -/
def longFront : List Char := List.replicate 65535 'a'

/-- A text whose last character begins right before the limit and ends behind it. -/
def longText : String := String.ofList (longFront ++ ['ž'])

/-- A peer that sends some bytes, then the end of their line in two pieces, and another byte
with it. -/
def cutReader (bytes : Bytes) : Reader where
  capacity := 1000
  script := [.data bytes, .wait 5, .data [carriageReturn], .data [newline, 0x21]]

theorem cutReader_stream (hne : bytes ≠ []) : (cutReader bytes).stream =
    bytes.map .byte ++ .byte carriageReturn :: .byte newline :: [.byte 0x21] := by
  rw [Reader.stream, cutReader, Script.stream_data, Stream.taken_ok hne, List.map_nil,
    List.nil_append]
  rfl

theorem cutReader_ends (hne : bytes ≠ []) :
    Stream.Ends bytes (cutReader bytes).stream [.byte 0x21] := by
  rw [cutReader_stream hne]
  exact .returned [.byte 0x21]

theorem readLine_truncates_longText : '\n' ∉ longText.toList ∧
    maxLineLength < (Text.utf8 longText).length ∧ 1 ≤ (cutReader (Text.utf8 longText)).capacity ∧
    Stream.Ends (Text.utf8 longText) (cutReader (Text.utf8 longText)).stream [.byte 0x21] ∧
    ∃ after next, (cutReader (Text.utf8 longText)).readLine =
        .ready after (.ok (some (String.ofList (longFront ++ ['\ufffd']))), next) ∧
      next.capacity = 1000 ∧ next.stream = [.byte 0x21] := by
  have hchars : longText.toList = longFront ++ ['ž'] := String.toList_ofList
  have hcount : Text.byteCount longFront = 65535 := by
    rw [longFront, Text.byteCount_replicate]
    decide
  have hle : Text.byteCount longFront ≤ maxLineLength := by
    rw [hcount]
    decide
  have hlt : maxLineLength < Text.byteCount longFront + 'ž'.utf8Size := by
    rw [hcount]
    decide
  have hnewline : '\n' ∉ longText.toList := by
    rw [hchars, List.mem_append, longFront, List.mem_replicate]
    decide
  have hlong : maxLineLength < (Text.utf8 longText).length := by
    rw [Text.length_utf8, hchars, Text.byteCount_concat]
    exact hlt
  have hne : Text.utf8 longText ≠ [] := by
    intro hnil
    simp [hnil] at hlong
  have hends := cutReader_ends hne
  obtain ⟨whole, heard, hwhole, hinside, -, hread⟩ :=
    readLine_truncates longText hnewline hlong
  rw [hchars] at hwhole hinside
  obtain rfl : whole = longFront := hwhole.unique (Text.longestWithin_of_crossing hle hlt)
  have hfalls : Text.FallsInside maxLineLength (longFront ++ ['ž']) := by
    rw [Text.fallsInside_iff_of_crossing hle hlt, hcount]
    decide
  rw [hinside hfalls] at hread
  exact ⟨hnewline, hlong, by decide, hends, hread (cutReader _) _ (by decide) hends⟩

end Wire

end LineGreeting
