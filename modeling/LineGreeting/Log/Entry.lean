/-! # Log entries

A program tells what it does in log entries. An entry has a level, belongs to a
topic and says something, with some named values behind it.
-/

namespace LineGreeting.Log

/-- How much an entry matters. -/
inductive Level where
  | error | warn | info | debug | trace
deriving DecidableEq, Repr

namespace Level

/-- The levels from one on, the ones that matter most first. -/
def rank : Level → Nat
  | error => 1
  | warn => 2
  | info => 3
  | debug => 4
  | trace => 5

/-- A level as it is shown. -/
def label : Level → String
  | error => "ERROR"
  | warn => "WARN"
  | info => "INFO"
  | debug => "DEBUG"
  | trace => "TRACE"

end Level

/-- The topic of a part that the programs share. -/
def sharedTopic (part : String) : String :=
  "hallo_tcp::" ++ part

/-- A log entry. -/
structure Entry where
  level : Level
  /-- The part of the program that the entry comes from. -/
  topic : String
  text : String
  /-- Values with their names, in order. -/
  values : List (String × String) := []
deriving DecidableEq, Repr

/-- The names of what an entry says: of its text and of its values. -/
def Entry.names (entry : Entry) : List String :=
  "message" :: entry.values.map Prod.fst

/-- An entry on one line. -/
def Entry.line (entry : Entry) : String :=
  entry.values.foldl (fun shown (name, value) => shown ++ " " ++ name ++ "=" ++ value)
    (entry.level.label ++ " " ++ entry.text)

end LineGreeting.Log
