/-! # Layout of a configuration document

Blanks, line ends and comments. Each function takes the text at some point and
gives the rest of it.
-/

namespace LineGreeting.Toml

/-- Whether a character is a blank. -/
def isBlank (char : Char) : Bool :=
  char = ' ' || char = '\t'

/-- Whether a character may stand in comments and strings. Controls other than
the tabulator may not. -/
def isPlain (char : Char) : Bool :=
  char = '\t' || (0x20 ≤ char.toNat && char.toNat ≠ 0x7F)

/-- Leaves out blanks. -/
def skipBlanks (text : List Char) : List Char :=
  text.dropWhile isBlank

/-- Reads a line end. -/
def readNewline : List Char → Option (List Char)
  | '\n' :: rest => some rest
  | '\r' :: '\n' :: rest => some rest
  | _ => none

/-- Leaves out a comment, if there is one. -/
def skipComment : List Char → List Char
  | '#' :: rest => rest.dropWhile isPlain
  | text => text

/-- Reads what may stand at the end of a line, up to the next line. -/
def readLineEnd (text : List Char) : Option (List Char) :=
  match skipComment (skipBlanks text) with
  | [] => some []
  | text => readNewline text

/-- Leaves out blanks and line ends. -/
def skipBlankLines : List Char → List Char
  | ' ' :: rest => skipBlankLines rest
  | '\t' :: rest => skipBlankLines rest
  | '\n' :: rest => skipBlankLines rest
  | '\r' :: '\n' :: rest => skipBlankLines rest
  | text => text

/-- Leaves out blanks, line ends and comments. -/
def skipLayout : List Char → List Char
  | ' ' :: rest => skipLayout rest
  | '\t' :: rest => skipLayout rest
  | '\n' :: rest => skipLayout rest
  | '\r' :: '\n' :: rest => skipLayout rest
  | '#' :: rest => skipLayout (rest.dropWhile isPlain)
  | text => text
termination_by text => text.length
decreasing_by
  all_goals simp only [List.length_cons]
  all_goals try omega
  exact Nat.lt_succ_of_le (List.IsSuffix.length_le (List.dropWhile_suffix _))

theorem length_skipBlanks_le (text : List Char) : (skipBlanks text).length ≤ text.length :=
  List.IsSuffix.length_le (List.dropWhile_suffix _)

theorem length_of_readNewline {text rest : List Char} (hread : readNewline text = some rest) :
    rest.length < text.length := by
  unfold readNewline at hread
  split at hread
  · cases hread
    exact Nat.lt_succ_self _
  · cases hread
    exact Nat.lt_succ_of_le (Nat.le_succ _)
  · cases hread

theorem length_skipBlankLines_le (text : List Char) :
    (skipBlankLines text).length ≤ text.length := by
  fun_induction skipBlankLines text with
  | case1 rest ih => exact Nat.le_succ_of_le ih
  | case2 rest ih => exact Nat.le_succ_of_le ih
  | case3 rest ih => exact Nat.le_succ_of_le ih
  | case4 rest ih => exact Nat.le_succ_of_le (Nat.le_succ_of_le ih)
  | case5 text => exact Nat.le_refl _

end LineGreeting.Toml
