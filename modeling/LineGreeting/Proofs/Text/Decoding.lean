import LineGreeting.Text.Utf8
import Mathlib.Data.List.Infix

/-! # What a lossy decoder reads

Lossy decoding is laid down here without a decoder: in front of some bytes
stands either the encoding of a character or a piece that cannot become one, and
each such piece counts as one U+FFFD. The decoder that takes one byte at a time
gives this text and no other.
-/

namespace LineGreeting.Text

/-- Whether the encoding of some character begins with some bytes. -/
def Begins (bytes : Bytes) : Prop :=
  ∃ char, bytes <+: String.utf8EncodeChar char

/-- A piece in front of other bytes that counts as one U+FFFD: no character stands
there, and the piece is as much of a character as there is, or one byte. -/
structure Unfinished (piece rest : Bytes) : Prop where
  ne_nil : piece ≠ []
  no_char : ∀ char, ¬ String.utf8EncodeChar char <+: piece ++ rest
  begins : Begins piece ∨ piece.length = 1
  longest : ∀ longer, longer <+: piece ++ rest → Begins longer →
    longer.length ≤ piece.length

/-- The text that some bytes stand for: each maximal piece that is no character is
replaced by one U+FFFD. -/
inductive Decodes : Bytes → List Char → Prop where
  | nil : Decodes [] []
  | char (char : Char) {rest : Bytes} {text : List Char} (hrest : Decodes rest text) :
      Decodes (String.utf8EncodeChar char ++ rest) (char :: text)
  | unfinished {piece rest : Bytes} {text : List Char} (hpiece : Unfinished piece rest)
      (hrest : Decodes rest text) : Decodes (piece ++ rest) (replacement :: text)

/-! ## Encodings of characters -/

/-- Encodings are told apart by what they begin with. -/
theorem utf8EncodeChar_append_inj {first second : Char} {rest other : Bytes}
    (heq : String.utf8EncodeChar first ++ rest = String.utf8EncodeChar second ++ other) :
    first = second ∧ rest = other := by
  have hdecode (char : Char) (tail : Bytes) :
      (String.utf8EncodeChar char ++ tail).toByteArray.utf8DecodeChar? 0 = some char := by
    rw [List.toByteArray_append]
    exact ByteArray.utf8DecodeChar?_utf8EncodeChar_append
  have hchar : some first = some second := by
    rw [← hdecode first rest, heq, hdecode]
  cases hchar
  exact ⟨rfl, List.append_cancel_left heq⟩

theorem toNat_valid (char : Char) :
    char.toNat < 0xD800 ∨ 0xDFFF < char.toNat ∧ char.toNat < 0x110000 :=
  char.valid

/-- The four lengths of encodings. -/
theorem utf8EncodeChar_cases (char : Char) :
    (char.toNat < 0x80 ∧ String.utf8EncodeChar char = [.ofNat char.toNat]) ∨
    (0x80 ≤ char.toNat ∧ char.toNat < 0x800 ∧ String.utf8EncodeChar char =
      [.ofNat (char.toNat / 64 + 0xC0), .ofNat (char.toNat % 64 + 0x80)]) ∨
    (0x800 ≤ char.toNat ∧ char.toNat < 0x10000 ∧ String.utf8EncodeChar char =
      [.ofNat (char.toNat / 4096 + 0xE0), .ofNat (char.toNat / 64 % 64 + 0x80),
        .ofNat (char.toNat % 64 + 0x80)]) ∨
    (0x10000 ≤ char.toNat ∧ String.utf8EncodeChar char =
      [.ofNat (char.toNat / 262144 + 0xF0), .ofNat (char.toNat / 4096 % 64 + 0x80),
        .ofNat (char.toNat / 64 % 64 + 0x80), .ofNat (char.toNat % 64 + 0x80)]) := by
  have hvalid := toNat_valid char
  have hval : char.val.toNat = char.toNat := rfl
  simp only [String.utf8EncodeChar, hval]
  split
  · left
    exact ⟨by omega, rfl⟩
  split
  · right; left
    refine ⟨by omega, by omega, ?_⟩
    rw [Nat.mod_eq_of_lt (by omega)]
  split
  · right; right; left
    refine ⟨by omega, by omega, ?_⟩
    rw [Nat.mod_eq_of_lt (by omega)]
  · right; right; right
    refine ⟨by omega, ?_⟩
    rw [Nat.mod_eq_of_lt (by omega)]

/-- A code point in the range of characters is that of its character. -/
theorem toNat_ofNat {code : Nat} (hcode : code < 0xD800 ∨ 0xDFFF < code ∧ code < 0x110000) :
    (Char.ofNat code).toNat = code := by
  have hvalid : code.isValidChar := hcode
  rw [Char.ofNat, dif_pos hvalid]
  rfl

theorem eq_ofNat {char : Char} {code : Nat} (hcode : char.toNat = code) :
    char = Char.ofNat code := by
  rw [← hcode, Char.ofNat_toNat]

/-! ## The bytes behind the first -/

/-- Whether some bytes bring a character to its end: the next one lies in `low` to
`high`, and `more` continuation bytes follow it. -/
def Completes : Nat → UInt8 → UInt8 → Bytes → Prop
  | 0, low, high, tail => ∃ byte, tail = [byte] ∧ low ≤ byte ∧ byte ≤ high
  | more + 1, low, high, tail => ∃ byte rest, tail = byte :: rest ∧
      (low ≤ byte ∧ byte ≤ high) ∧ Completes more 0x80 0xBF rest

/-- The code point of which `bits` are known and the other bytes are to come. -/
def value (bits : Nat) (tail : Bytes) : Nat :=
  tail.foldl (fun bits byte => bits * 64 + (byte.toNat - 0x80)) bits

theorem value_cons (bits : Nat) (byte : UInt8) (tail : Bytes) :
    value bits (byte :: tail) = value (bits * 64 + (byte.toNat - 0x80)) tail := by
  rw [value, List.foldl_cons, value]

theorem exists_completes (more : Nat) {low high : UInt8} (hle : low ≤ high) :
    ∃ tail, Completes more low high tail := by
  induction more generalizing low high with
  | zero => exact ⟨[low], low, rfl, UInt8.le_refl low, hle⟩
  | succ more ih =>
      obtain ⟨tail, htail⟩ := ih (show (0x80 : UInt8) ≤ 0xBF by decide)
      exact ⟨low :: tail, low, tail, rfl, ⟨UInt8.le_refl low, hle⟩, htail⟩

theorem not_completes_nil (more : Nat) (low high : UInt8) : ¬ Completes more low high [] := by
  cases more <;> simp [Completes]

/-- What is known of a character of which `piece` has been read: which bytes may
follow, and which character they make. -/
structure Expects (more bits : Nat) (low high : UInt8) (piece : Bytes) : Prop where
  ne_nil : piece ≠ []
  low_le_high : low ≤ high
  no_char : ∀ char, ¬ String.utf8EncodeChar char <+: piece
  encode_iff : ∀ tail char, String.utf8EncodeChar char = piece ++ tail ↔
    Completes more low high tail ∧ char = Char.ofNat (value bits tail)

theorem Expects.first {more bits : Nat} {low high first : UInt8} (hle : low ≤ high)
    (hencode : ∀ tail char, String.utf8EncodeChar char = first :: tail ↔
      Completes more low high tail ∧ char = Char.ofNat (value bits tail)) :
    Expects more bits low high [first] where
  ne_nil := List.cons_ne_nil first []
  low_le_high := hle
  no_char := by
    intro char hfront
    rcases List.prefix_cons_iff.mp hfront with hnil | ⟨tail, htail, hrest⟩
    · exact String.utf8EncodeChar_ne_nil hnil
    · rw [List.prefix_nil.mp hrest] at htail
      exact not_completes_nil _ _ _ ((hencode [] char).mp htail).1
  encode_iff := hencode

/-- A bound that one first byte moves. -/
theorem toNat_bound {first lead special usual bound : UInt8}
    (hbound : bound = if first = lead then special else usual) :
    first.toNat = lead.toNat ∧ bound.toNat = special.toNat ∨
      first.toNat ≠ lead.toNat ∧ bound.toNat = usual.toNat := by
  by_cases hfirst : first = lead
  · exact .inl ⟨congrArg _ hfirst, by rw [hbound, if_pos hfirst]⟩
  · exact .inr ⟨fun heq => hfirst (UInt8.toNat_inj.mp heq), by rw [hbound, if_neg hfirst]⟩

theorem expects_two {first : UInt8} (hfirst : 0xC2 ≤ first) (hlast : first < 0xE0) :
    Expects 0 (first.toNat - 0xC0) 0x80 0xBF [first] := by
  simp only [UInt8.le_iff_toNat_le, UInt8.lt_iff_toNat_lt, UInt8.reduceToNat] at hfirst hlast
  refine .first (by decide) fun tail char => ⟨fun hencode => ?_, ?_⟩
  · have hvalid := toNat_valid char
    rcases utf8EncodeChar_cases char with ⟨_, heq⟩ | ⟨_, _, heq⟩ | ⟨_, _, heq⟩ | ⟨_, heq⟩ <;>
      simp only [heq, List.cons.injEq, ← UInt8.toNat_inj, UInt8.toNat_ofNat'] at hencode
    · omega
    · obtain ⟨hfirst, rfl⟩ := hencode
      refine ⟨⟨_, rfl, ?_⟩, eq_ofNat ?_⟩ <;>
        simp only [value, UInt8.le_iff_toNat_le, UInt8.reduceToNat, UInt8.toNat_ofNat',
          List.foldl] <;>
        omega
    · omega
    · omega
  · rintro ⟨⟨second, rfl, hsecond⟩, hchar⟩
    simp only [UInt8.le_iff_toNat_le, UInt8.reduceToNat] at hsecond
    simp only [value, List.foldl] at hchar
    have hcode : char.toNat = (first.toNat - 0xC0) * 64 + (second.toNat - 0x80) := by
      rw [hchar]
      exact toNat_ofNat (by omega)
    rcases utf8EncodeChar_cases char with ⟨_, heq⟩ | ⟨_, _, heq⟩ | ⟨_, _, heq⟩ | ⟨_, heq⟩
    · omega
    · rw [heq, hcode]
      simp only [List.cons.injEq, ← UInt8.toNat_inj, UInt8.toNat_ofNat', and_true]
      omega
    · omega
    · omega

theorem expects_three {first low high : UInt8} (hfirst : 0xE0 ≤ first) (hlast : first < 0xF0)
    (hlow : low = if first = 0xE0 then 0xA0 else 0x80)
    (hhigh : high = if first = 0xED then 0x9F else 0xBF) :
    Expects 1 (first.toNat - 0xE0) low high [first] := by
  have hlow := toNat_bound hlow
  have hhigh := toNat_bound hhigh
  simp only [UInt8.le_iff_toNat_le, UInt8.lt_iff_toNat_lt, UInt8.reduceToNat]
    at hfirst hlast hlow hhigh
  refine .first (UInt8.le_iff_toNat_le.mpr (by omega)) fun tail char => ⟨fun hencode => ?_, ?_⟩
  · have hvalid := toNat_valid char
    rcases utf8EncodeChar_cases char with ⟨_, heq⟩ | ⟨_, _, heq⟩ | ⟨_, _, heq⟩ | ⟨_, heq⟩ <;>
      simp only [heq, List.cons.injEq, ← UInt8.toNat_inj, UInt8.toNat_ofNat'] at hencode
    · omega
    · omega
    · obtain ⟨hfirst, rfl⟩ := hencode
      refine ⟨⟨_, _, rfl, ?_, _, rfl, ?_⟩, eq_ofNat ?_⟩ <;>
        simp only [value, UInt8.le_iff_toNat_le, UInt8.reduceToNat, UInt8.toNat_ofNat',
          List.foldl] <;>
        omega
    · omega
  · rintro ⟨⟨second, _, rfl, hsecond, third, rfl, hthird⟩, hchar⟩
    simp only [UInt8.le_iff_toNat_le, UInt8.reduceToNat] at hsecond hthird
    simp only [value, List.foldl] at hchar
    have hcode : char.toNat = ((first.toNat - 0xE0) * 64 + (second.toNat - 0x80)) * 64 +
        (third.toNat - 0x80) := by
      rw [hchar]
      exact toNat_ofNat (by omega)
    rcases utf8EncodeChar_cases char with ⟨_, heq⟩ | ⟨_, _, heq⟩ | ⟨_, _, heq⟩ | ⟨_, heq⟩
    · omega
    · omega
    · rw [heq, hcode]
      simp only [List.cons.injEq, ← UInt8.toNat_inj, UInt8.toNat_ofNat', and_true]
      omega
    · omega

theorem expects_four {first low high : UInt8} (hfirst : 0xF0 ≤ first) (hlast : first < 0xF5)
    (hlow : low = if first = 0xF0 then 0x90 else 0x80)
    (hhigh : high = if first = 0xF4 then 0x8F else 0xBF) :
    Expects 2 (first.toNat - 0xF0) low high [first] := by
  have hlow := toNat_bound hlow
  have hhigh := toNat_bound hhigh
  simp only [UInt8.le_iff_toNat_le, UInt8.lt_iff_toNat_lt, UInt8.reduceToNat]
    at hfirst hlast hlow hhigh
  refine .first (UInt8.le_iff_toNat_le.mpr (by omega)) fun tail char => ⟨fun hencode => ?_, ?_⟩
  · have hvalid := toNat_valid char
    rcases utf8EncodeChar_cases char with ⟨_, heq⟩ | ⟨_, _, heq⟩ | ⟨_, _, heq⟩ | ⟨_, heq⟩ <;>
      simp only [heq, List.cons.injEq, ← UInt8.toNat_inj, UInt8.toNat_ofNat'] at hencode
    · omega
    · omega
    · omega
    · obtain ⟨hfirst, rfl⟩ := hencode
      refine ⟨⟨_, _, rfl, ?_, _, _, rfl, ?_, _, rfl, ?_⟩, eq_ofNat ?_⟩ <;>
        simp only [value, UInt8.le_iff_toNat_le, UInt8.reduceToNat, UInt8.toNat_ofNat',
          List.foldl] <;>
        omega
  · rintro ⟨⟨second, _, rfl, hsecond, third, _, rfl, hthird, fourth, rfl, hfourth⟩, hchar⟩
    simp only [UInt8.le_iff_toNat_le, UInt8.reduceToNat] at hsecond hthird hfourth
    simp only [value, List.foldl] at hchar
    have hcode : char.toNat = (((first.toNat - 0xF0) * 64 + (second.toNat - 0x80)) * 64 +
        (third.toNat - 0x80)) * 64 + (fourth.toNat - 0x80) := by
      rw [hchar]
      exact toNat_ofNat (by omega)
    rcases utf8EncodeChar_cases char with ⟨_, heq⟩ | ⟨_, _, heq⟩ | ⟨_, _, heq⟩ | ⟨_, heq⟩
    · omega
    · omega
    · omega
    · rw [heq, hcode]
      simp only [List.cons.injEq, ← UInt8.toNat_inj, UInt8.toNat_ofNat', and_true]
      omega

namespace Expects

variable {more bits : Nat} {low high : UInt8} {piece : Bytes}

theorem begins (hpiece : Expects more bits low high piece) : Begins piece := by
  obtain ⟨tail, htail⟩ := exists_completes more hpiece.low_le_high
  have hencode := (hpiece.encode_iff tail _).mpr ⟨htail, rfl⟩
  exact ⟨_, hencode ▸ List.prefix_append piece tail⟩

/-- Only a byte in the range can go on. -/
theorem range_of_begins {byte : UInt8} (hpiece : Expects more bits low high piece)
    (hbegins : Begins (piece ++ [byte])) : low ≤ byte ∧ byte ≤ high := by
  obtain ⟨char, tail, hencode⟩ := hbegins
  rw [List.append_assoc] at hencode
  have hcompletes := ((hpiece.encode_iff _ char).mp hencode.symm).1
  cases more with
  | zero =>
      obtain ⟨byte, heq, hrange⟩ := hcompletes
      cases heq
      exact hrange
  | succ more =>
      obtain ⟨byte, rest, heq, hrange, _⟩ := hcompletes
      cases heq
      exact hrange

theorem complete {byte : UInt8} (hpiece : Expects 0 bits low high piece)
    (hrange : low ≤ byte ∧ byte ≤ high) :
    String.utf8EncodeChar (Char.ofNat (bits * 64 + (byte.toNat - 0x80))) = piece ++ [byte] :=
  (hpiece.encode_iff [byte] _).mpr ⟨⟨byte, rfl, hrange⟩, rfl⟩

theorem next {byte : UInt8} (hpiece : Expects (more + 1) bits low high piece)
    (hrange : low ≤ byte ∧ byte ≤ high) :
    Expects more (bits * 64 + (byte.toNat - 0x80)) 0x80 0xBF (piece ++ [byte]) where
  ne_nil := by simp
  low_le_high := by decide
  no_char := by
    intro char hfront
    rcases List.prefix_concat_iff.mp hfront with heq | hshorter
    · obtain ⟨⟨_, rest, htail, _, hrest⟩, _⟩ := (hpiece.encode_iff [byte] char).mp heq
      rw [← (List.cons.inj htail).2] at hrest
      exact not_completes_nil more 0x80 0xBF hrest
    · exact hpiece.no_char char hshorter
  encode_iff := by
    intro tail char
    rw [List.append_assoc, hpiece.encode_iff]
    constructor
    · rintro ⟨⟨_, _, heq, _, hrest⟩, hchar⟩
      cases heq
      rw [List.singleton_append, value_cons] at hchar
      exact ⟨hrest, hchar⟩
    · rintro ⟨hrest, hchar⟩
      refine ⟨⟨byte, tail, rfl, hrange, hrest⟩, ?_⟩
      rwa [List.singleton_append, value_cons]

/-- What cannot go on counts as one U+FFFD. -/
theorem unfinished {rest : Bytes} (hpiece : Expects more bits low high piece)
    (hrest : ∀ byte, rest.head? = some byte → ¬ (low ≤ byte ∧ byte ≤ high)) :
    Unfinished piece rest := by
  have hlongest : ∀ longer, longer <+: piece ++ rest → Begins longer →
      longer.length ≤ piece.length := by
    intro longer hfront ⟨char, hbegins⟩
    by_contra hlength
    have hpieceFront : piece <+: longer :=
      List.prefix_of_prefix_length_le (List.prefix_append piece rest) hfront (by omega)
    obtain ⟨extra, rfl⟩ := hpieceFront
    cases extra with
    | nil => simp at hlength
    | cons byte extra =>
        have hhead : rest.head? = some byte := by
          obtain ⟨_, rfl⟩ := (List.prefix_append_right_inj piece).mp hfront
          rfl
        refine hrest byte hhead (hpiece.range_of_begins ⟨char, ?_⟩)
        refine List.IsPrefix.trans ?_ hbegins
        simp
  refine ⟨hpiece.ne_nil, ?_, .inl hpiece.begins, hlongest⟩
  intro char hfront
  have hlength := hlongest _ hfront ⟨char, List.prefix_rfl⟩
  exact hpiece.no_char char
    (List.prefix_of_prefix_length_le hfront (List.prefix_append piece rest) hlength)

end Expects

/-! ## The decoder -/

/-- The characters that a decoder gives from some cursor on. -/
def Cursor.run (cursor : Cursor) : Bytes → List Char
  | [] => cursor.finish
  | byte :: rest => (cursor.step byte).2 ++ run (cursor.step byte).1 rest

theorem close_foldl_push (bytes : Bytes) (decoder : Decoder) :
    (bytes.foldl Decoder.push decoder).close =
      decoder.settled.reverse ++ decoder.cursor.run bytes := by
  induction bytes generalizing decoder with
  | nil => rfl
  | cons byte rest ih =>
      rw [List.foldl_cons, ih]
      simp [Decoder.push, Cursor.run, List.reverseAux_eq]

theorem lossyChars_eq_run (bytes : Bytes) : lossyChars bytes = Cursor.between.run bytes := by
  rw [lossyChars, close_foldl_push]
  rfl

/-- What a cursor says of the bytes since the last character. -/
def Cursor.Describes : Cursor → Bytes → Prop
  | between, piece => piece = []
  | inside more bits low high, piece => Expects more bits low high piece

/-- A byte at the front is a character, or begins one, or does neither. -/
theorem Cursor.start_cases (byte : UInt8) :
    (∃ char, start byte = (between, [char]) ∧ String.utf8EncodeChar char = [byte]) ∨
    (start byte = (between, [replacement]) ∧ ¬ Begins [byte]) ∨
    ∃ cursor, start byte = (cursor, []) ∧ cursor.Describes [byte] := by
  -- No character begins with such a byte: too short a code, or one beyond the last.
  have hnone (hrange : 0x80 ≤ byte.toNat ∧ byte.toNat < 0xC2 ∨ 0xF5 ≤ byte.toNat) :
      ¬ Begins [byte] := by
    rintro ⟨char, tail, hencode⟩
    have hvalid := toNat_valid char
    rcases utf8EncodeChar_cases char with ⟨_, heq⟩ | ⟨_, _, heq⟩ | ⟨_, _, heq⟩ | ⟨_, heq⟩ <;>
      simp only [heq, List.cons_append, List.cons.injEq, ← UInt8.toNat_inj,
        UInt8.toNat_ofNat'] at hencode <;>
      omega
  unfold start
  split
  next hascii =>
    refine .inl ⟨_, rfl, ?_⟩
    simp only [UInt8.lt_iff_toNat_lt, UInt8.reduceToNat] at hascii
    have hcode : (Char.ofNat byte.toNat).toNat = byte.toNat := toNat_ofNat (by omega)
    rcases utf8EncodeChar_cases (Char.ofNat byte.toNat) with
      ⟨_, heq⟩ | ⟨hlow, _⟩ | ⟨hlow, _⟩ | ⟨hlow, _⟩
    · rw [heq, hcode, UInt8.ofNat_toNat]
    all_goals omega
  split
  next hascii hrange =>
    simp only [UInt8.lt_iff_toNat_lt, UInt8.reduceToNat] at hascii hrange
    exact .inr (.inl ⟨rfl, hnone (by omega)⟩)
  split
  next hlow hhigh => exact .inr (.inr ⟨_, rfl, expects_two (UInt8.not_lt.mp hlow) hhigh⟩)
  split
  next hlow hhigh =>
    exact .inr (.inr ⟨_, rfl, expects_three (UInt8.not_lt.mp hlow) hhigh rfl rfl⟩)
  split
  next hlow hhigh =>
    exact .inr (.inr ⟨_, rfl, expects_four (UInt8.not_lt.mp hlow) hhigh rfl rfl⟩)
  next hhigh =>
    simp only [UInt8.lt_iff_toNat_lt, UInt8.reduceToNat] at hhigh
    exact .inr (.inl ⟨rfl, hnone (by omega)⟩)

/-- A byte with which no character begins stands alone. -/
theorem unfinished_of_not_begins {byte : UInt8} {rest : Bytes} (hbyte : ¬ Begins [byte]) :
    Unfinished [byte] rest := by
  have hnone (longer : Bytes) (hne : longer ≠ []) (hfront : longer <+: byte :: rest) :
      ¬ Begins longer := by
    rintro ⟨char, hbegins⟩
    rcases List.prefix_cons_iff.mp hfront with rfl | ⟨tail, rfl, _⟩
    · exact hne rfl
    · exact hbyte ⟨char, List.IsPrefix.trans (by simp) hbegins⟩
  refine ⟨List.cons_ne_nil byte [], ?_, .inr rfl, ?_⟩
  · intro char hfront
    exact hnone _ String.utf8EncodeChar_ne_nil hfront ⟨char, List.prefix_rfl⟩
  · intro longer hfront hbegins
    by_cases hne : longer = []
    · simp [hne]
    · exact absurd hbegins (hnone longer hne hfront)

/-- From every cursor on, the decoder gives the text of the bytes since the last
character and those to come. -/
theorem decodes_run (bytes : Bytes) (cursor : Cursor) (piece : Bytes)
    (hcursor : cursor.Describes piece) : Decodes (piece ++ bytes) (cursor.run bytes) := by
  induction bytes generalizing cursor piece with
  | nil =>
      cases cursor with
      | between =>
          cases hcursor
          exact .nil
      | inside more bits low high =>
          exact .unfinished (Expects.unfinished hcursor (by simp)) .nil
  | cons byte rest ih =>
      -- Also a byte that ends an unfinished piece is read as a first byte.
      have hfirst : Decodes (byte :: rest) (Cursor.between.run (byte :: rest)) := by
        rw [Cursor.run, Cursor.step]
        rcases Cursor.start_cases byte with
          ⟨char, hstart, hencode⟩ | ⟨hstart, hnone⟩ | ⟨cursor, hstart, hdescribes⟩ <;>
          rw [hstart]
        · have hrest := Decodes.char char (ih .between [] rfl)
          rwa [hencode] at hrest
        · exact .unfinished (unfinished_of_not_begins hnone) (ih .between [] rfl)
        · exact ih cursor [byte] hdescribes
      cases cursor with
      | between =>
          cases hcursor
          exact hfirst
      | inside more bits low high =>
          by_cases hrange : low ≤ byte ∧ byte ≤ high
          · cases more with
            | zero =>
                have hrest := Decodes.char (Char.ofNat (bits * 64 + (byte.toNat - 0x80)))
                  (ih .between [] rfl)
                rw [Expects.complete hcursor hrange, List.nil_append, List.append_assoc] at hrest
                simpa [Cursor.run, Cursor.step, hrange] using hrest
            | succ more =>
                have hrest := ih (.inside more _ 0x80 0xBF) _ (Expects.next hcursor hrange)
                rw [List.append_assoc] at hrest
                simpa [Cursor.run, Cursor.step, hrange] using hrest
          · have hpiece : Unfinished piece (byte :: rest) :=
              Expects.unfinished hcursor (by rintro _ ⟨⟩; exact hrange)
            simpa [Cursor.run, Cursor.step, hrange] using Decodes.unfinished hpiece hfirst

/-! ## One text for all bytes -/

theorem Unfinished.length_le {piece rest other tail : Bytes} (hpiece : Unfinished piece rest)
    (hother : Unfinished other tail) (heq : piece ++ rest = other ++ tail) :
    piece.length ≤ other.length := by
  rcases hpiece.begins with hbegins | hone
  · exact hother.longest piece (heq ▸ List.prefix_append piece rest) hbegins
  · rw [hone]
    exact List.length_pos_of_ne_nil hother.ne_nil

/-- Bytes stand for one text only. -/
theorem Decodes.unique {bytes : Bytes} {first second : List Char} (hfirst : Decodes bytes first)
    (hsecond : Decodes bytes second) : first = second := by
  induction hfirst generalizing second with
  | nil =>
      generalize heq : [] = bytes at hsecond
      cases hsecond with
      | nil => rfl
      | char char hrest => simp [String.utf8EncodeChar_ne_nil] at heq
      | unfinished hpiece hrest => simp [hpiece.ne_nil] at heq
  | @char char rest text hrest ih =>
      generalize heq : String.utf8EncodeChar char ++ rest = bytes at hsecond
      cases hsecond with
      | nil => simp [String.utf8EncodeChar_ne_nil] at heq
      | char other hother =>
          obtain ⟨rfl, rfl⟩ := utf8EncodeChar_append_inj heq
          rw [ih hother]
      | unfinished hpiece hother =>
          exact absurd (heq ▸ List.prefix_append _ _) (hpiece.no_char char)
  | @unfinished piece rest text hpiece hrest ih =>
      generalize heq : piece ++ rest = bytes at hsecond
      cases hsecond with
      | nil => simp [hpiece.ne_nil] at heq
      | char other hother =>
          exact absurd (heq ▸ List.prefix_append _ _) (hpiece.no_char other)
      | @unfinished other _ _ hpiece' hother =>
          -- Each piece is the longest that can be no character, so they are the same.
          have hlength := Nat.le_antisymm (hpiece.length_le hpiece' heq)
            (hpiece'.length_le hpiece heq.symm)
          obtain ⟨rfl, rfl⟩ := List.append_inj heq hlength
          rw [ih hother]

/-- The decoder gives the text of all bytes. -/
theorem decodes_iff {bytes : Bytes} {text : List Char} :
    Decodes bytes text ↔ lossyChars bytes = text := by
  have hrun : Decodes bytes (lossyChars bytes) := by
    rw [lossyChars_eq_run]
    exact decodes_run bytes .between [] rfl
  constructor
  · exact hrun.unique
  · rintro rfl
    exact hrun

/-! ## Texts -/

theorem lossyChars_char_append (char : Char) (rest : Bytes) :
    lossyChars (String.utf8EncodeChar char ++ rest) = char :: lossyChars rest :=
  decodes_iff.mp (.char char (decodes_iff.mpr rfl))

theorem lossyChars_utf8_append (text : String) (rest : Bytes) :
    lossyChars (utf8 text ++ rest) = text.toList ++ lossyChars rest := by
  rw [utf8]
  induction text.toList with
  | nil => rfl
  | cons char chars ih =>
      rw [List.flatMap_cons, List.append_assoc, lossyChars_char_append, ih, List.cons_append]

@[simp] theorem lossy_utf8 (text : String) : lossy (utf8 text) = text := by
  have hchars := lossyChars_utf8_append text []
  rw [List.append_nil, lossyChars_nil, List.append_nil] at hchars
  rw [lossy, hchars, String.ofList_toList]

/-- A byte of ASCII is no part of a longer encoding. -/
theorem utf8EncodeChar_of_mem {char : Char} {byte : UInt8} (hbyte : byte < 0x80)
    (hmem : byte ∈ String.utf8EncodeChar char) : char = Char.ofNat byte.toNat := by
  have hvalid := toNat_valid char
  simp only [UInt8.lt_iff_toNat_lt, UInt8.reduceToNat] at hbyte
  rcases utf8EncodeChar_cases char with ⟨_, heq⟩ | ⟨_, _, heq⟩ | ⟨_, _, heq⟩ | ⟨_, heq⟩ <;>
    simp only [heq, List.mem_cons, List.not_mem_nil, or_false, ← UInt8.toNat_inj,
      UInt8.toNat_ofNat'] at hmem
  · exact eq_ofNat (by omega)
  all_goals omega

/-- A newline in a text is one among its bytes. -/
theorem newline_mem_of_mem_lossyChars {bytes : Bytes} (hmem : '\n' ∈ lossyChars bytes) :
    0x0A ∈ bytes := by
  have hdecodes : Decodes bytes (lossyChars bytes) := decodes_iff.mpr rfl
  generalize lossyChars bytes = text at hmem hdecodes
  induction hdecodes with
  | nil => simp at hmem
  | char char _ ih =>
      rcases List.mem_cons.mp hmem with rfl | hrest
      · exact List.mem_append_left _ (by decide)
      · exact List.mem_append_right _ (ih hrest)
  | unfinished _ _ ih =>
      rcases List.mem_cons.mp hmem with heq | hrest
      · exact absurd heq (by decide)
      · exact List.mem_append_right _ (ih hrest)

end LineGreeting.Text
