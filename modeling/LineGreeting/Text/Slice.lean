import LineGreeting.Text.Quoted

/-! # Parts of a text by positions of bytes

A part of a text is given by the position of its first byte and by that of the
byte behind its last. Neither position may lie inside a character.
-/

namespace LineGreeting.Text

/-- A position that lies inside a character. -/
structure Misplaced where
  /-- Whether a part should end there; else one should start there. -/
  isEnd : Bool
  position : Nat
  /-- The character around the position. -/
  char : Char
  /-- The position of that character. -/
  first : Nat
deriving DecidableEq, Repr

/-- What is wrong with a position, in words. -/
def Misplaced.message (fault : Misplaced) : String :=
  (if fault.isEnd then "end" else "start") ++ " byte index " ++ toString fault.position ++
    " is not a char boundary; it is inside " ++ quotedChar fault.char ++ " (bytes " ++
    toString fault.first ++ ".." ++ toString (fault.first + fault.char.utf8Size) ++ " of string)"

/-- How many bytes some characters have. -/
def byteCount : List Char → Nat
  | [] => 0
  | char :: rest => char.utf8Size + byteCount rest

/-- The character around a position, if the position lies inside one, with its
own position; the text begins at `first`. -/
def around? (position first : Nat) : List Char → Option (Char × Nat)
  | [] => none
  | char :: rest =>
    if first < position ∧ position < first + char.utf8Size then some (char, first)
    else around? position (first + char.utf8Size) rest

/-- What is left of a text behind so many bytes. -/
def dropBytes (count : Nat) : List Char → List Char
  | [] => []
  | char :: rest =>
    if count = 0 then char :: rest else dropBytes (count - char.utf8Size) rest

/-- The characters that begin within so many bytes. -/
def takeBytes (count : Nat) : List Char → List Char
  | [] => []
  | char :: rest =>
    if count = 0 then [] else char :: takeBytes (count - char.utf8Size) rest

/-- The part of a text from one position up to another. -/
def slice (text : List Char) (first last : Nat) : Except Misplaced (List Char) :=
  match around? first 0 text, around? last 0 text with
  | some (char, start), _ => .error ⟨false, first, char, start⟩
  | none, some (char, start) => .error ⟨true, last, char, start⟩
  | none, none => .ok (takeBytes (last - first) (dropBytes first text))

end LineGreeting.Text
