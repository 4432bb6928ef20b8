import LineGreeting.Proofs.Text.Decoding
import LineGreeting.Text.Lines

/-! # Cutting bytes and texts

Lossy decoding looks ahead, so bytes cannot be decoded in two parts at just any place.
At a byte of ASCII they can: it is no part of a longer encoding, and what is unfinished
before it stays unfinished. So a newline among bytes ends a line of their text whatever
stands around it, and what follows has no say in the lines before. Cutting bytes at their
newlines and decoding each piece is the same as decoding them all and cutting the text.
-/

namespace LineGreeting.Text

variable {bytes rest piece : Bytes} {byte : UInt8} {text tail : List Char}

/-! ## Decoding in two parts -/

theorem utf8EncodeChar_ofNat (hbyte : byte < 0x80) :
    String.utf8EncodeChar (Char.ofNat byte.toNat) = [byte] := by
  simp only [UInt8.lt_iff_toNat_lt, UInt8.reduceToNat] at hbyte
  have hcode : (Char.ofNat byte.toNat).toNat = byte.toNat := toNat_ofNat (by omega)
  rcases utf8EncodeChar_cases (Char.ofNat byte.toNat) with
    ⟨_, heq⟩ | ⟨hlow, _⟩ | ⟨hlow, _⟩ | ⟨hlow, _⟩
  · rw [heq, hcode, UInt8.ofNat_toNat]
  all_goals omega

/-- What begins a character and holds a byte of ASCII is this byte. -/
theorem Begins.length_le_one (hbegins : Begins bytes) (hbyte : byte < 0x80) (hmem : byte ∈ bytes) :
    bytes.length ≤ 1 := by
  obtain ⟨char, hfront⟩ := hbegins
  have hlength := hfront.length_le
  rwa [utf8EncodeChar_of_mem hbyte (hfront.subset hmem), utf8EncodeChar_ofNat hbyte] at hlength

theorem prefix_or_mem {front whole more : Bytes} (hfront : front <+: whole ++ byte :: more) :
    front <+: whole ∨ whole.length < front.length ∧ byte ∈ front := by
  rcases Nat.lt_or_ge whole.length front.length with hlt | hle
  · have hbyte : whole ++ [byte] <+: front := by
      refine List.prefix_of_prefix_length_le ?_ hfront ?_
      · simp
      · rwa [List.length_append]
    exact .inr ⟨hlt, hbyte.subset (by simp)⟩
  · exact .inl (List.prefix_of_prefix_length_le hfront (List.prefix_append whole _) hle)

theorem Unfinished.append_cons (hpiece : Unfinished piece rest) (hbyte : byte < 0x80)
    (more : Bytes) : Unfinished piece (rest ++ byte :: more) := by
  have hlength : 1 ≤ piece.length := List.length_pos_of_ne_nil hpiece.ne_nil
  refine ⟨hpiece.ne_nil, ?_, hpiece.begins, ?_⟩
  · intro char hfront
    rw [← List.append_assoc] at hfront
    rcases prefix_or_mem hfront with hshort | ⟨hlong, hmem⟩
    · exact hpiece.no_char char hshort
    · have hone := Begins.length_le_one ⟨char, List.prefix_rfl⟩ hbyte hmem
      rw [List.length_append] at hlong
      omega
  · intro longer hfront hbegins
    rw [← List.append_assoc] at hfront
    rcases prefix_or_mem hfront with hshort | ⟨-, hmem⟩
    · exact hpiece.longest longer hshort hbegins
    · exact (hbegins.length_le_one hbyte hmem).trans hlength

theorem Decodes.append_cons (hbytes : Decodes bytes text) (hbyte : byte < 0x80)
    (hrest : Decodes rest tail) :
    Decodes (bytes ++ byte :: rest) (text ++ Char.ofNat byte.toNat :: tail) := by
  induction hbytes with
  | nil =>
      have hchar := Decodes.char (Char.ofNat byte.toNat) hrest
      rwa [utf8EncodeChar_ofNat hbyte] at hchar
  | char char _ ih =>
      rw [List.append_assoc]
      exact .char char ih
  | unfinished hpiece _ ih =>
      rw [List.append_assoc]
      exact .unfinished (hpiece.append_cons hbyte rest) ih

theorem lossyChars_append_cons (hbyte : byte < 0x80) (bytes rest : Bytes) :
    lossyChars (bytes ++ byte :: rest) =
      lossyChars bytes ++ Char.ofNat byte.toNat :: lossyChars rest :=
  decodes_iff.mp ((decodes_iff.mpr rfl).append_cons hbyte (decodes_iff.mpr rfl))

theorem Decodes.length_le (hbytes : Decodes bytes text) : text.length ≤ bytes.length := by
  induction hbytes with
  | nil => exact Nat.le_refl 0
  | char char _ ih =>
      have hlength := List.length_pos_of_ne_nil (String.utf8EncodeChar_ne_nil (c := char))
      rw [List.length_cons, List.length_append]
      omega
  | unfinished hpiece _ ih =>
      have hlength := List.length_pos_of_ne_nil hpiece.ne_nil
      rw [List.length_cons, List.length_append]
      omega

/-- No text is longer than its bytes. -/
theorem length_lossyChars_le (bytes : Bytes) : (lossyChars bytes).length ≤ bytes.length :=
  (decodes_iff.mpr rfl : Decodes bytes (lossyChars bytes)).length_le

/-! ## Lines in two parts -/

section Items

variable {α : Type} [DecidableEq α] {newline carriageReturn : α}

theorem pieces_cons_of_ne {stop item : α} (hitem : item ≠ stop) {items piece : List α}
    {found : List (List α)} (hpieces : pieces stop items = piece :: found) :
    pieces stop (item :: items) = (item :: piece) :: found := by
  rw [pieces] at hpieces
  rw [pieces, List.foldr_cons, if_neg hitem, hpieces]

theorem pieces_append_cons (stop : α) (front back : List α) :
    pieces stop (front ++ stop :: back) = pieces stop front ++ pieces stop back := by
  induction front with
  | nil => exact pieces_cons_stop stop back
  | cons item front ih =>
      by_cases hitem : item = stop
      · rw [hitem, List.cons_append, pieces_cons_stop, pieces_cons_stop, ih, List.cons_append]
      · obtain ⟨piece, found, hfront⟩ :=
          List.exists_cons_of_ne_nil (pieces_ne_nil stop front)
        rw [hfront, List.cons_append] at ih
        rw [List.cons_append, pieces_cons_of_ne hitem ih, pieces_cons_of_ne hitem hfront,
          List.cons_append]

/-- Between its newlines a sequence has ended lines, and behind the last newline a rest. -/
theorem exists_pieces (stop : α) (items : List α) :
    ∃ ended last, pieces stop items = ended ++ [last] ∧
      items = ended.flatMap (· ++ [stop]) ++ last ∧ (∀ piece ∈ ended, stop ∉ piece) ∧
      stop ∉ last := by
  induction items with
  | nil => exact ⟨[], [], rfl, rfl, by simp, by simp⟩
  | cons item rest ih =>
      obtain ⟨ended, last, hpieces, hrest, hended, hlast⟩ := ih
      by_cases hitem : item = stop
      · refine ⟨[] :: ended, last, ?_, ?_, by simpa using hended, hlast⟩
        · rw [hitem, pieces_cons_stop, hpieces, List.cons_append]
        · simp [hitem, hrest]
      · cases ended with
        | nil =>
            refine ⟨[], item :: last, pieces_cons_of_ne hitem hpieces, ?_, by simp, ?_⟩
            · simp [hrest]
            · simpa [Ne.symm hitem] using hlast
        | cons piece ended =>
            refine ⟨(item :: piece) :: ended, last, pieces_cons_of_ne hitem hpieces, ?_, ?_,
              hlast⟩
            · simp [hrest]
            · simpa [Ne.symm hitem] using hended

theorem linesOf_append_cons (front back : List α) :
    linesOf newline carriageReturn (front ++ newline :: back) =
      (pieces newline front).map (dropFinal carriageReturn) ++
        linesOf newline carriageReturn back := by
  have hback := pieces_ne_nil newline back
  rw [linesOf, linesOf, pieces_append_cons, List.dropLast_append_of_ne_nil hback,
    List.getLast?_append_of_ne_nil _ hback, List.map_append, List.append_assoc]

/-- Whatever follows an ended line, it has no say in the lines before. -/
theorem linesOf_ended_append (front back : List α) :
    linesOf newline carriageReturn (front ++ [newline] ++ back) =
      linesOf newline carriageReturn (front ++ [newline]) ++
        linesOf newline carriageReturn back := by
  rw [List.append_assoc, List.singleton_append, linesOf_append_cons, linesOf_append_cons,
    linesOf_nil, List.append_nil]

/-- An ended line is one line. -/
theorem linesOf_line {line : List α} (hline : newline ∉ line) :
    linesOf newline carriageReturn (line ++ [newline]) = [dropFinal carriageReturn line] := by
  rw [linesOf_append_cons, pieces_of_not_mem hline, linesOf_nil]
  rfl

theorem dropFinal_append_cons (item other : α) (hother : other ≠ item) (front back : List α) :
    dropFinal item (front ++ other :: back) = front ++ other :: dropFinal item back := by
  cases back using List.reverseRecOn with
  | nil => simp [dropFinal, hother]
  | append_singleton back last =>
      rw [dropFinal, dropFinal, ← List.cons_append, ← List.append_assoc, List.getLast?_concat,
        List.getLast?_concat, List.dropLast_concat, List.dropLast_concat]
      split
      · rfl
      · rw [List.append_assoc, List.cons_append]

end Items

/-! ## Decoding line by line -/

theorem Decodes.eq_nil (hbytes : Decodes bytes []) : bytes = [] := by
  cases hbytes with
  | nil => rfl

theorem lossyChars_eq_nil_iff : lossyChars bytes = [] ↔ bytes = [] := by
  constructor
  · exact fun hchars => Decodes.eq_nil (decodes_iff.mpr hchars)
  · rintro rfl
    rfl

theorem getLast?_append_of_cons {front : Bytes} {char : Char} (hne : text ≠ [])
    (hrest : text.getLast? = some '\r' → rest.getLast? = some 0x0D)
    (hlast : (char :: text).getLast? = some '\r') : (front ++ rest).getLast? = some 0x0D := by
  rw [List.getLast?_cons_of_ne_nil hne] at hlast
  rw [List.getLast?_append, hrest hlast, Option.some_or]

/-- A carriage return at the end of a text is one at the end of its bytes. -/
theorem Decodes.getLast?_eq (hbytes : Decodes bytes text) (hlast : text.getLast? = some '\r') :
    bytes.getLast? = some 0x0D := by
  induction hbytes with
  | nil => cases hlast
  | @char char rest text hrest ih =>
      by_cases hne : text = []
      · subst hne
        cases hlast
        rw [hrest.eq_nil]
        decide
      · exact getLast?_append_of_cons hne ih hlast
  | @unfinished piece rest text hpiece hrest ih =>
      by_cases hne : text = []
      · subst hne
        exact absurd hlast (by decide)
      · exact getLast?_append_of_cons hne ih hlast

theorem dropFinal_lossyChars (piece : Bytes) :
    dropFinal '\r' (lossyChars piece) = lossyChars (dropFinal 0x0D piece) := by
  by_cases hlast : piece.getLast? = some 0x0D
  · obtain ⟨front, rfl⟩ := List.getLast?_eq_some_iff.mp hlast
    have hchars : lossyChars (front ++ [0x0D]) = lossyChars front ++ ['\r'] :=
      lossyChars_append_cons (by decide) front []
    rw [hchars, dropFinal, dropFinal, List.getLast?_concat, List.getLast?_concat, if_pos rfl,
      if_pos rfl, List.dropLast_concat, List.dropLast_concat]
  · have hchars : (lossyChars piece).getLast? ≠ some '\r' :=
      fun hreturn => hlast (Decodes.getLast?_eq (decodes_iff.mpr rfl) hreturn)
    rw [dropFinal, dropFinal, if_neg hlast, if_neg hchars]

/-- Bytes have their newlines where their text has them. -/
theorem pieces_lossyChars (bytes : Bytes) :
    pieces '\n' (lossyChars bytes) = (pieces 0x0A bytes).map lossyChars := by
  by_cases hmem : 0x0A ∈ bytes
  · obtain ⟨front, back, hsplit⟩ := List.append_of_mem hmem
    have hchars : lossyChars (front ++ 0x0A :: back) =
        lossyChars front ++ '\n' :: lossyChars back :=
      lossyChars_append_cons (by decide) front back
    rw [hsplit, hchars, pieces_append_cons, pieces_append_cons, List.map_append,
      pieces_lossyChars front, pieces_lossyChars back]
  · have hchars : '\n' ∉ lossyChars bytes := fun hnewline =>
      hmem (newline_mem_of_mem_lossyChars hnewline)
    rw [pieces_of_not_mem hmem, pieces_of_not_mem hchars]
    rfl
termination_by bytes.length
decreasing_by all_goals simp [hsplit] <;> omega

theorem linesOf_lossyChars (bytes : Bytes) :
    linesOf '\n' '\r' (lossyChars bytes) = (linesOf 0x0A 0x0D bytes).map lossyChars := by
  have hends : dropFinal '\r' ∘ lossyChars = lossyChars ∘ dropFinal 0x0D :=
    funext dropFinal_lossyChars
  rw [linesOf, linesOf, pieces_lossyChars, ← List.map_dropLast, List.map_map, hends,
    List.getLast?_map, Option.filter_map]
  simp [Function.comp_def, lossyChars_eq_nil_iff, Option.toList_map]

theorem lines_lossy (bytes : Bytes) :
    lines (lossy bytes) = (linesOf 0x0A 0x0D bytes).map lossy := by
  rw [lines, lossy, String.toList_ofList, linesOf_lossyChars, List.map_map]
  rfl

end LineGreeting.Text
