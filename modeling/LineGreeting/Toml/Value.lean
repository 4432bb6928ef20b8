import LineGreeting.Decimal.Binary64

/-! # Values of a configuration document

Tables keep their entries in the order in which the document gives them. The
programs have no use for dates, so of a date only its presence is kept.
-/

namespace LineGreeting.Toml

/-- A value. -/
inductive Value where
  | string (text : String)
  | integer (number : Int)
  | float (number : Decimal.Binary64)
  | boolean (truth : Bool)
  | date
  | array (values : List Value)
  /-- An array of tables that each have a header of their own. -/
  | tables (elements : List Value)
  | table (entries : List (String × Value))

/-- A table: keys and their values. -/
abbrev Table := List (String × Value)

/-- How deep arrays and tables may be nested in each other, and how many parts a
key may have. -/
def maxDepth : Nat := 79

end LineGreeting.Toml
