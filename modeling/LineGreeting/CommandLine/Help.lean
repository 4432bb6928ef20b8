import LineGreeting.CommandLine.Basic

/-! # How to use a program

The options are listed with what they are for. If a line would be too long with
an option and its purpose side by side, all purposes stand below their options.
A program whose values have meanings to explain has a long form of its help too.
-/

namespace LineGreeting.CommandLine

/-- How wide a line of the help may be. -/
def maxWidth : Nat := 100

/-- So many blanks. -/
def blanks (count : Nat) : String :=
  String.ofList (List.replicate count ' ')

variable {σ : Type}

/-- An option with its short name in front. -/
def Opt.heading (opt : Opt σ) : String :=
  "  " ++ (match opt.short with
    | some short => "-" ++ String.singleton short ++ ", "
    | none => blanks 4) ++ opt.label

namespace Program

/-- Whether there is something to explain in the long form. -/
def hasLongHelp (program : Program σ) : Bool :=
  program.options.any (!·.choices.isEmpty)

/-- What an option is for, in one line. -/
def purpose (program : Program σ) (opt : Opt σ) : String :=
  let more := match opt.effect with
    | .help => if program.hasLongHelp then " (see more with '--help')" else ""
    | _ => ""
  let choices := match opt.choices with
    | [] => ""
    | choices => " [possible values: " ++ ", ".intercalate (choices.map (·.1)) ++ "]"
  opt.about ++ more ++ choices

/-- What an option is for, in the lines of the long form. -/
def explanation (opt : Opt σ) : List String :=
  let more := match opt.effect with
    | .help => " (see a summary with '-h')"
    | _ => ""
  let choices := match opt.choices with
    | [] => []
    | choices =>
      "" :: "Possible values:" ::
        choices.map fun (name, meaning) => "- " ++ name ++ ": " ++ meaning
  (opt.about ++ more) :: choices

/-- A line of the long form, below its option. -/
def indented (line : String) : String :=
  if line = "" then "" else blanks 10 ++ line

/-- The options and their purposes. -/
def optionLines (program : Program σ) : List String :=
  let widest := (program.options.map (·.heading.length)).foldl max 0
  let longest := (program.options.map fun opt => (program.purpose opt).length).foldl max 0
  if widest + 2 + longest ≤ maxWidth then
    program.options.map fun opt =>
      opt.heading ++ blanks (widest + 2 - opt.heading.length) ++ program.purpose opt
  else
    program.options.flatMap fun opt => [opt.heading, indented (program.purpose opt)]

/-- The options and their explanations, with an empty line between them. -/
def optionParagraphs (program : Program σ) : List String :=
  ("\n\n".intercalate (program.options.map fun opt =>
    "\n".intercalate (opt.heading :: (explanation opt).map indented))).splitOn "\n"

/-- How to use a program: the long form if there is one and it is asked for. -/
def help (program : Program σ) (long : Bool) : String :=
  let options :=
    if long && program.hasLongHelp then program.optionParagraphs else program.optionLines
  let lines := [program.about, "", "Usage: " ++ program.name ++ " [OPTIONS]", "", "Options:"] ++
    options
  String.join (lines.map (· ++ "\n"))

/-- The name and version of a program. -/
def versionLine (program : Program σ) : String :=
  program.name ++ " " ++ program.version ++ "\n"

end Program

end LineGreeting.CommandLine
