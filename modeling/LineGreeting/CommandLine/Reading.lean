import LineGreeting.CommandLine.Help
import LineGreeting.Text.Plain

/-! # Reading the arguments of a program

Arguments are taken from left to right. A value that follows its option as an
argument of its own is looked at only when the next option begins, or at the
end; a value in the same argument is looked at at once. The first complaint
ends the reading, and so does a wish for help.
-/

namespace LineGreeting.CommandLine

/-- Why the arguments end the program. -/
inductive ArgumentFault where
  /-- There is no such option. -/
  | unknown (shown : String)
  /-- The option lacks its value. -/
  | missingValue (label : String)
  /-- The option is given twice. -/
  | repeated (label : String)
  /-- The option takes no value. -/
  | superfluous (value label : String)
  /-- The value is none of those to choose from. -/
  | noVariant (value label : String)
  /-- The value is no number of the right size. -/
  | noNumber (value label reason : String)
  /-- Someone asked how to use the program. -/
  | help (text : String)
  /-- Someone asked for the version of the program. -/
  | version (text : String)
deriving DecidableEq, Repr

namespace ArgumentFault

/-- Whether the program did what was asked for. -/
def isAnswer : ArgumentFault → Bool
  | help _ | version _ => true
  | _ => false

/-- The exit code of a program that ends like this. -/
def exitCode (fault : ArgumentFault) : Nat :=
  if fault.isAnswer then 0 else 2

/-- The words of a complaint. What was given is shown without terminal control. -/
def complaint : ArgumentFault → String
  | unknown shown => "unexpected argument '" ++ Text.plain shown ++ "' found"
  | missingValue label =>
    "a value is required for '" ++ label ++ "' but none was supplied"
  | repeated label => "the argument '" ++ label ++ "' cannot be used multiple times"
  | superfluous value label =>
    "unexpected value '" ++ Text.plain value ++ "' for '" ++ label ++
      "' found; no more were expected"
  | noVariant value label => "invalid value '" ++ Text.plain value ++ "' for '" ++ label ++ "'"
  | noNumber value label reason =>
    "invalid value '" ++ Text.plain value ++ "' for '" ++ label ++ "': " ++ reason
  | help text | version text => text

/-- What the program says when it ends: the whole answer, or one line with the
complaint. -/
def message (fault : ArgumentFault) : String :=
  if fault.isAnswer then fault.complaint else Text.firstLine ("error: " ++ fault.complaint)

/-- The complaint about a value of an option. -/
def ofValue (label value : String) : ValueFault → ArgumentFault
  | .missing => missingValue label
  | .noVariant => noVariant value label
  | .number cause => noNumber value label cause.message
  | .outside number bound =>
    noNumber value label (toString number ++ " is not in 0..=" ++ toString bound)

end ArgumentFault

/-- What has been taken from the arguments so far. -/
structure Progress (σ : Type) where
  /-- What the options have set. -/
  settings : σ
  /-- The options given. -/
  given : List String := []
  /-- The last option, if it has a value of its own argument or waits for one. -/
  pending : Option (Opt σ × Option String) := none
  /-- Whether only operands may follow. -/
  operands : Bool := false

namespace Progress

variable {σ : Type}

/-- Lets an option set what it sets. -/
def apply (program : Program σ) (progress : Progress σ) (opt : Opt σ)
    (value : Option String) (long : Bool) : Except ArgumentFault (Progress σ) :=
  let notRepeated (settings : Except ArgumentFault σ) : Except ArgumentFault (Progress σ) :=
    if opt.long ∈ progress.given then .error (.repeated opt.label)
    else settings.map fun settings =>
      { progress with settings, given := opt.long :: progress.given, pending := none }
  match opt.effect with
  | .help => .error (.help (program.help long))
  | .version => .error (.version program.versionLine)
  | .flag set => notRepeated (.ok (set progress.settings))
  | .value set =>
    match value with
    | none => .error (.missingValue opt.label)
    | some value =>
      notRepeated ((set value progress.settings).mapError (.ofValue opt.label value))

/-- Looks at the value of the last option. -/
def settle (program : Program σ) (progress : Progress σ) :
    Except ArgumentFault (Progress σ) :=
  match progress.pending with
  | none => .ok progress
  | some (opt, value) => { progress with pending := none }.apply program opt value true

/-- Takes an option, with a value if one stands in the same argument. -/
def takeOption (program : Program σ) (progress : Progress σ) (opt : Opt σ)
    (value : Option String) (long : Bool) : Except ArgumentFault (Progress σ) := do
  let progress ← progress.settle program
  if opt.takesValue ∧ value = none then return { progress with pending := some (opt, none) }
  else progress.apply program opt value long

/-- Takes an argument that begins with two dashes; they are left out. -/
def takeLong (program : Program σ) (progress : Progress σ) (argument : List Char) :
    Except ArgumentFault (Progress σ) :=
  let name := String.ofList (argument.takeWhile (· ≠ '='))
  let value := match argument.dropWhile (· ≠ '=') with
    | [] => none
    | _ :: value => some (String.ofList value)
  match program.options.find? (·.long = name), value with
  | none, _ => .error (.unknown ("--" ++ name))
  | some opt, none => progress.takeOption program opt none true
  | some opt, some value =>
    if opt.takesValue then progress.takeOption program opt (some value) true
    else .error (.superfluous value opt.label)

/-- Takes an argument that begins with one dash; it is left out. Short options
without a value may stand together; one with a value takes the rest. -/
def takeShort (program : Program σ) (progress : Progress σ) :
    List Char → Except ArgumentFault (Progress σ)
  | [] => .ok progress
  | char :: rest =>
    match program.options.find? (·.short = some char) with
    | none => .error (.unknown ("-" ++ String.singleton char))
    | some opt =>
      if opt.takesValue then
        let value := match rest with
          | [] => none
          | '=' :: value => some (String.ofList value)
          | value => some (String.ofList value)
        progress.takeOption program opt value false
      else do takeShort program (← progress.takeOption program opt none false) rest

/-- Takes an argument that is no option. -/
def takeOperand (progress : Progress σ) (argument : String) :
    Except ArgumentFault (Progress σ) :=
  match progress.pending, progress.operands with
  | some (opt, none), false => .ok { progress with pending := some (opt, some argument) }
  | _, _ => .error (.unknown argument)

/-- Takes one argument. -/
def take (program : Program σ) (progress : Progress σ) (argument : String) :
    Except ArgumentFault (Progress σ) :=
  if progress.operands then progress.takeOperand argument
  else match argument.toList with
    | ['-', '-'] => .ok { progress with operands := true }
    | '-' :: '-' :: rest => progress.takeLong program rest
    | ['-'] => progress.takeOperand argument
    | '-' :: rest => progress.takeShort program rest
    | _ => progress.takeOperand argument

end Progress

/-- What the arguments of a program set. -/
def Program.parse {σ : Type} (program : Program σ) (default : σ) (arguments : List String) :
    Except ArgumentFault σ := do
  let progress ← arguments.foldlM (Progress.take program) { settings := default }
  return (← progress.settle program).settings

end LineGreeting.CommandLine
