import LineGreeting.Decimal.Shortest
import LineGreeting.Text.Quoted
import LineGreeting.Toml.Value

/-! # What a document should hold

A program expects values of certain kinds under certain keys. A section of a
document is a table whose keys it knows by name, or an array that gives the
fields by position. A value of the wrong kind is reported with what was found
and what was expected. Keys that the program does not know are left alone.
-/

namespace LineGreeting.Toml

/-- What is wrong with a value. -/
inductive Mismatch where
  /-- The value is of another kind. -/
  | wrongKind (found : Value) (expected : String)
  /-- The number is out of range. -/
  | outOfRange (found : Int) (expected : String)
  /-- An array ends before a field that has to be given. -/
  | tooShort (length fields : Nat) (expected : String)
  /-- The text is none of those to choose from. -/
  | unknownVariant (found : String) (expected : List String)
  /-- A choice is neither a text nor a table. -/
  | noChoice
  /-- A table chooses nothing. -/
  | emptyChoice
  /-- A table chooses several things. -/
  | severalChoices
  /-- A choice has something in it; it may be given as tables with headers. -/
  | filledChoice (byHeaders : Bool)
  /-- A choice holds a value that is no table. -/
  | choiceOf (found : Value)

namespace Mismatch

/-- A value in words. -/
def describe : Value → String
  | .string text => "string " ++ Text.quoted text
  | .integer number => "integer `" ++ toString number ++ "`"
  | .float number =>
    let shown := number.text
    let whole := match number with
      | .finite .. => !shown.toList.contains '.'
      | _ => false
    "floating point `" ++ shown ++ (if whole then ".0" else "") ++ "`"
  | .boolean truth => "boolean `" ++ toString truth ++ "`"
  | .array _ | .tables _ => "sequence"
  | .date | .table _ => "map"

/-- The name of a kind of value. -/
def kindName : Value → String
  | .string _ => "string"
  | .integer _ => "integer"
  | .float _ => "float"
  | .boolean _ => "boolean"
  | .date => "datetime"
  | .array _ => "array"
  | .tables _ => "array of tables"
  | .table _ => "table"

/-- Some variants in words. -/
def oneOf : List String → String
  | [first, second] => "`" ++ first ++ "` or `" ++ second ++ "`"
  | variants => "one of " ++ ", ".intercalate (variants.map fun variant => "`" ++ variant ++ "`")

/-- What is wrong with a value, in words. -/
def message : Mismatch → String
  | wrongKind found expected => "invalid type: " ++ describe found ++ ", expected " ++ expected
  | outOfRange found expected =>
    "invalid value: integer `" ++ toString found ++ "`, expected " ++ expected
  | tooShort length fields expected =>
    "invalid length " ++ toString length ++ ", expected " ++ expected ++ " with " ++
      toString fields ++ (if fields = 1 then " element" else " elements")
  | unknownVariant found expected =>
    "unknown variant `" ++ found ++ "`, expected " ++ oneOf expected
  | noChoice => "wanted string or table"
  | emptyChoice => "wanted exactly 1 element, found 0 elements"
  | severalChoices => "wanted exactly 1 element, more than 1 element"
  | filledChoice byHeaders =>
    if byHeaders then "expected empty array" else "expected empty table"
  | choiceOf found => "expected table, found " ++ kindName found

end Mismatch

/-- Expects a text. -/
def expectString : Value → Except Mismatch String
  | .string text => .ok text
  | value => .error (.wrongKind value "a string")

/-- Expects a truth value. -/
def expectBool : Value → Except Mismatch Bool
  | .boolean truth => .ok truth
  | value => .error (.wrongKind value "a boolean")

/-- Expects a number without a sign, below a bound. -/
def expectNat (bound : Nat) (name : String) : Value → Except Mismatch Nat
  | .integer number =>
    if 0 ≤ number ∧ number < bound then .ok number.toNat
    else .error (.outOfRange number name)
  | value => .error (.wrongKind value name)

/-- Finds a variant by its name. -/
def expectVariant {α : Type} (variants : List (String × α)) (name : String) :
    Except Mismatch α :=
  match variants.lookup name with
  | some variant => .ok variant
  | none => .error (.unknownVariant name (variants.map (·.1)))

/-- Expects one of some variants: its name, or a table with nothing but that name
and nothing under it. -/
def expectChoice {α : Type} (variants : List (String × α)) : Value → Except Mismatch α
  | .string name => expectVariant variants name
  | .table [] => .error .emptyChoice
  | .table [(name, value)] => do
    let variant ← expectVariant variants name
    match value with
    | .table [] | .array [] | .tables [] => return variant
    | .table _ | .array _ => .error (.filledChoice false)
    | .tables _ => .error (.filledChoice true)
    | value => .error (.choiceOf value)
  | .table _ => .error .severalChoices
  | _ => .error .noChoice

/-- A field of a section. -/
structure Field (σ : Type) where
  /-- The key of the field. -/
  name : String
  /-- The section with the value of the field. -/
  set : Value → σ → Except Mismatch σ
  /-- Whether an array may end before the field. -/
  omissible : Bool := true

/-- A section of a document, and how it is read. -/
structure Layout (σ : Type) where
  name : String
  fields : List (Field σ)

namespace Layout

variable {σ : Type}

/-- What a section should be. -/
def expected (layout : Layout σ) : String :=
  "struct " ++ layout.name

/-- Reads the entry of a table. -/
def setEntry (layout : Layout σ) (sect : σ) (entry : String × Value) : Except Mismatch σ :=
  match layout.fields.find? (·.name = entry.1) with
  | some field => field.set entry.2 sect
  | none => .ok sect

/-- Reads an array: its values in the order of the fields. -/
def setInOrder (layout : Layout σ) (index : Nat) :
    List (Field σ) → List Value → σ → Except Mismatch σ
  | [], _, sect => .ok sect
  | field :: fields, [], sect =>
    if field.omissible then setInOrder layout (index + 1) fields [] sect
    else .error (.tooShort index layout.fields.length layout.expected)
  | field :: fields, value :: values, sect => do
    setInOrder layout (index + 1) fields values (← field.set value sect)

/-- Reads a section on top of something. -/
def read (layout : Layout σ) (start : σ) : Value → Except Mismatch σ
  | .table entries => entries.foldlM layout.setEntry start
  | .array values | .tables values => layout.setInOrder 0 layout.fields values start
  | .date => .ok start
  | value => .error (.wrongKind value layout.expected)

end Layout

end LineGreeting.Toml
