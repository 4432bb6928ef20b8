/-! # Cutting at line ends

A line ends at a newline, and one carriage return right before that newline
belongs to the end too. What follows the last newline is a line of its own
unless it is empty; it has no end, so it keeps its carriage return. The same
cut serves bytes and characters.
-/

namespace LineGreeting.Text

variable {α : Type} [DecidableEq α]

/-- The pieces between the occurrences of `stop`. There is always one. -/
def pieces (stop : α) (items : List α) : List (List α) :=
  items.foldr
    (fun item found =>
      if item = stop then [] :: found
      else match found with
        | piece :: rest => (item :: piece) :: rest
        | [] => [[item]])
    [[]]

/-- A piece without one final `item`. -/
def dropFinal (item : α) (piece : List α) : List α :=
  if piece.getLast? = some item then piece.dropLast else piece

/-- The lines of a sequence, given its newline and its carriage return. -/
def linesOf (newline carriageReturn : α) (items : List α) : List (List α) :=
  let found := pieces newline items
  found.dropLast.map (dropFinal carriageReturn) ++
    (found.getLast?.filter (· ≠ [])).toList

/-- The lines of a text. -/
def lines (text : String) : List String :=
  (linesOf '\n' '\r' text.toList).map String.ofList

/-- A text up to its first line end. -/
def firstLine (text : String) : String :=
  (lines text).headD ""

theorem pieces_ne_nil (stop : α) (items : List α) : pieces stop items ≠ [] := by
  cases items with
  | nil => simp [pieces]
  | cons item rest =>
    simp only [pieces, List.foldr_cons]
    split
    · simp
    · split <;> simp

@[simp] theorem pieces_cons_stop (stop : α) (rest : List α) :
    pieces stop (stop :: rest) = [] :: pieces stop rest := by
  simp [pieces]

theorem pieces_of_not_mem {stop : α} {items : List α} (habsent : stop ∉ items) :
    pieces stop items = [items] := by
  induction items with
  | nil => rfl
  | cons item rest ih =>
    rw [List.mem_cons, not_or] at habsent
    have hitem : ¬ item = stop := fun heq => habsent.1 heq.symm
    have hrest := ih habsent.2
    simp only [pieces] at hrest
    simp [pieces, hitem, hrest]

@[simp] theorem linesOf_nil (newline carriageReturn : α) :
    linesOf newline carriageReturn [] = [] := rfl

end LineGreeting.Text
