import LineGreeting.Text.Lines
import LineGreeting.Text.Number

/-! # Options of a program

A program takes options and nothing else. An option has a long name, may have a
short one, and may take a value. Each option says what its value has to be and
what it sets.
-/

namespace LineGreeting.CommandLine

/-- Why a value is refused. -/
inductive ValueFault where
  /-- The value is empty where something is required. -/
  | missing
  /-- The value is none of those to choose from. -/
  | noVariant
  /-- The value is no number. -/
  | number (cause : Text.NumberFault)
  /-- The number is not between zero and a bound. -/
  | outside (number : Int) (bound : Nat)
deriving DecidableEq, Repr

/-- What an option does to the settings. -/
inductive Effect (σ : Type) where
  /-- It sets something to its value. -/
  | value (set : String → σ → Except ValueFault σ)
  /-- It sets something, and takes no value. -/
  | flag (set : σ → σ)
  /-- It shows how to use the program. -/
  | help
  /-- It shows the version of the program. -/
  | version

/-- An option. -/
structure Opt (σ : Type) where
  /-- The long name, without the dashes in front. -/
  long : String
  short : Option Char := none
  effect : Effect σ
  /-- What the option is for. -/
  about : String
  /-- The values to choose from, each with what it means. -/
  choices : List (String × String) := []

/-- A program with options. -/
structure Program (σ : Type) where
  name : String
  version : String
  about : String
  options : List (Opt σ)

namespace Opt

variable {σ : Type}

/-- Whether an option takes a value. -/
def takesValue (opt : Opt σ) : Bool :=
  match opt.effect with
  | .value _ => true
  | _ => false

/-- The name of the value of an option: its own in capitals. -/
def valueName (opt : Opt σ) : String :=
  opt.long.map fun char => if char = '-' then '_' else char.toUpper

/-- An option as it is shown. -/
def label (opt : Opt σ) : String :=
  "--" ++ opt.long ++ (if opt.takesValue then " <" ++ opt.valueName ++ ">" else "")

end Opt

/-! ## Values -/

/-- Any text. -/
def anyText (text : String) : Except ValueFault String :=
  .ok text

/-- A text that is not empty. -/
def someText (text : String) : Except ValueFault String :=
  if text = "" then .error .missing else .ok text

/-- One of some names. -/
def oneOf {α : Type} (variants : List (String × α)) (text : String) : Except ValueFault α :=
  if text = "" then .error .missing
  else match variants.lookup text with
    | some variant => .ok variant
    | none => .error .noVariant

/-- A number of 64 bits without a sign. -/
def word64 (text : String) : Except ValueFault UInt64 :=
  match Text.readNat Text.maxUInt64 text.toList with
  | .ok number => .ok (UInt64.ofNat number)
  | .error cause => .error (.number cause)

/-- A number of 64 bits with a sign that lies between zero and a bound. -/
def numberUpTo (bound : Nat) (text : String) : Except ValueFault Nat :=
  match Text.readInt64 text.toList with
  | .error cause => .error (.number cause)
  | .ok number =>
    if 0 ≤ number ∧ number ≤ bound then .ok number.toNat else .error (.outside number bound)

end LineGreeting.CommandLine
