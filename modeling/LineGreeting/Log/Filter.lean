import LineGreeting.Log.Entry
import LineGreeting.Log.Pattern
import LineGreeting.Text.Slice

/-! # Which log entries are shown

A filter is written as directives with commas between them. A directive is a
level for all topics, or a topic with a level or without one, which then shows
all of the topic. Behind the topic it may say in brackets that it is about the
entries with a value of some name. The longest topic that an entry's topic
begins with decides; of those with one topic, one about a value; and of equal
ones the later. A directive may also be about what happens inside of a span,
which it names or of which it knows a value; no entry does.
-/

namespace LineGreeting.Log

/-- What is shown of the topics with a common beginning: the entries up to a
level, by its rank. -/
structure Rule where
  topic : String
  /-- The name of a value without which an entry is of no concern. -/
  value : Option String := none
  rank : Nat
deriving DecidableEq, Repr

/-- One part of a filter. -/
inductive Directive where
  /-- About the entries of some topics. -/
  | rule (rule : Rule)
  /-- About what happens inside of a span. -/
  | span
deriving DecidableEq, Repr

/-- Why a directive is refused. -/
inductive DirectiveFault where
  /-- It has not the form of a directive. -/
  | malformed
  /-- It ends in what is no level. -/
  | noLevel
  /-- It asks for a value by what is no pattern. -/
  | pattern (cause : PatternFault)
  /-- One of its parts begins or ends inside a character. The program gives up. -/
  | misplaced (cause : Text.Misplaced)
deriving DecidableEq, Repr

/-- Why a directive is refused, in words. -/
def DirectiveFault.message : DirectiveFault → String
  | malformed => "invalid filter directive"
  | noLevel =>
    "error parsing level filter: expected one of \"off\", \"error\", \"warn\", " ++
      "\"info\", \"debug\", \"trace\", or a number 0-5"
  | pattern cause => "invalid field filter: " ++ cause.message
  | misplaced cause => cause.message

/-- The names of the ranks. -/
def rankNames : List (String × Nat) :=
  [("", 1), ("off", 0), ("error", 1), ("warn", 2), ("info", 3), ("debug", 4), ("trace", 5)]

/-- The rank of a level's name, in any case of letters, or of a number. -/
def rank? (text : List Char) : Option Nat :=
  match Text.readNat 5 text with
  | .ok rank => some rank
  | .error _ => rankNames.lookup (String.ofList (text.map Char.toLower))

namespace Directive

/-! ## Reading directives -/

/-- The part of a directive that a reader stands in, with the position where the
part begins if it may begin at several. -/
inductive Part where
  | nothing
  | topic
  | span (first : Nat)
  | value (first : Nat)
  | valueEnd
  | spanEnd
  | rank (first : Nat)
deriving DecidableEq, Repr

/-- What has been read of a directive. -/
structure Draft where
  part : Part := .nothing
  topic : String := ""
  /-- The name of a value. -/
  value : Option String := none
  /-- Whether a span is named, or a value of it known. -/
  inSpan : Bool := false
deriving DecidableEq, Repr

/-- Whether a directive may begin with a character. -/
def mayBegin (char : Char) : Bool :=
  Text.isAlphanumeric char || char = '-' || char = ':' || char = '_'

/-- A part of a text by positions. -/
def slice (text : List Char) (first last : Nat) : Except DirectiveFault (List Char) :=
  (Text.slice text first last).mapError .misplaced

/-- The rank behind the sign of equality; all ranks if nothing stands there. -/
def rankBehind (text : List Char) : Except DirectiveFault Nat :=
  if text = [] then .ok 5
  else match rank? text with
    | some rank => .ok rank
    | none => .error .noLevel

/-- Reads the name of a value, and what the value has to be if that stands behind
a sign of equality. -/
def Draft.withValue (draft : Draft) (text : List Char) : Except DirectiveFault Draft :=
  let value := some (String.ofList (text.takeWhile (· ≠ '=')))
  match text, text.dropWhile (· ≠ '=') with
  | [], _ => .error .malformed
  | _, [] => .ok { draft with value, part := .valueEnd }
  | _, _ :: known =>
    match Pattern.fault? (known.takeWhile (· ≠ '=')) with
    | some cause => .error (.pattern cause)
    | none => .ok { draft with value, inSpan := true, part := .valueEnd }

/-- Takes one more character, which stands at a position. The parts are cut from
the text as it was given. -/
def Draft.take (text : List Char) (draft : Draft) (position : Nat) (char : Char) :
    Except DirectiveFault Draft :=
  let next := position + 1
  match draft.part with
  | .nothing =>
    if char = '[' then .ok { draft with part := .span next }
    else if mayBegin char then .ok { draft with part := .topic }
    else .error .malformed
  | .topic =>
    if char = '=' ∨ char = '[' then do
      let topic := String.ofList (← slice text 0 position)
      return { draft with topic, part := if char = '=' then .rank next else .span next }
    else .ok draft
  | .span first =>
    if char = ']' then do
      let _ ← slice text first position
      return { draft with inSpan := true, part := .spanEnd }
    else if char = '\x7b' then do
      let name ← slice text first position
      return { draft with inSpan := decide (name ≠ []), part := .value next }
    else .ok draft
  | .value first =>
    if char = '\x7d' then do draft.withValue (← slice text first position) else .ok draft
  | .valueEnd =>
    if char = ']' then .ok { draft with part := .spanEnd } else .error .malformed
  | .spanEnd => if char = '=' then .ok { draft with part := .rank next } else .error .malformed
  | .rank _ => .ok draft

/-- Takes the characters from a position on. -/
def Draft.takeAll (text : List Char) (draft : Draft) (position : Nat) :
    List Char → Except DirectiveFault Draft
  | [] => .ok draft
  | char :: rest => do
    (← draft.take text position char).takeAll text (position + char.utf8Size) rest

/-- The directive that has been read, with a rank. -/
def Draft.ofRank (draft : Draft) (rank : Nat) : Directive :=
  if draft.inSpan then span else rule { topic := draft.topic, value := draft.value, rank }

/-- The directive that has been read at the end of a text. -/
def Draft.finish (text : List Char) (draft : Draft) : Except DirectiveFault Directive :=
  match draft.part with
  | .topic =>
    match rank? text with
    | some rank => .ok (rule { topic := "", rank })
    | none => .ok (rule { topic := String.ofList text, rank := 5 })
  | .rank first => do
    return draft.ofRank (← rankBehind (← slice text first (Text.byteCount text)))
  | .spanEnd => .ok (draft.ofRank 5)
  | _ => .error .malformed

/-- Reads a directive. Its parts are found in the text without blanks at its
ends, and cut from the text with them. -/
def parse (text : List Char) : Except DirectiveFault Directive := do
  (← Draft.takeAll text {} 0 (Text.trim text)).finish text

end Directive

/-! ## Filters -/

namespace Rule

/-- Whether a rule is about an entry. -/
def isAbout (rule : Rule) (entry : Entry) : Bool :=
  rule.topic.toList.isPrefixOf entry.topic.toList && rule.value.all entry.names.contains

/-- Whether the first of two rules about one entry gives way to the second: that
has a longer topic, or a value, or stands behind it in order. -/
def givesWay (first second : Rule) : Bool :=
  first.topic.length < second.topic.length ||
    (first.topic.length = second.topic.length &&
      match first.value, second.value with
      | none, _ => true
      | some _, none => false
      | some first, some second => first ≤ second)

end Rule

/-- A filter: its rules, in the order in which they were given. -/
structure Filter where
  rules : List Rule
deriving DecidableEq, Repr

namespace Filter

/-- The filter of some directives. Without any, errors are shown. -/
def ofDirectives (directives : List Directive) : Filter :=
  if directives = [] then ⟨[{ topic := "", rank := 1 }]⟩
  else ⟨directives.filterMap fun directive =>
    match directive with
    | .rule rule => some rule
    | .span => none⟩

/-- The texts of the directives of a filter. -/
def parts (text : String) : List String :=
  (text.splitOn ",").filter (· ≠ "")

/-- Reads a filter of which every directive has to be right. -/
def parse? (text : String) : Except Text.Misplaced (Option Filter) :=
  match (parts text).mapM fun part => Directive.parse part.toList with
  | .ok directives => .ok (some (ofDirectives directives))
  | .error (.misplaced cause) => .error cause
  | .error _ => .ok none

/-- Reads directives without those that are wrong, and complains about each of
those. -/
def readParts : List String → Except Text.Misplaced (List Directive × List String)
  | [] => .ok ([], [])
  | part :: rest =>
    match Directive.parse part.toList with
    | .error (.misplaced cause) => .error cause
    | .error fault => do
      let (directives, complaints) ← readParts rest
      return (directives, ("ignoring `" ++ part ++ "`: " ++ fault.message) :: complaints)
    | .ok directive => do
      let (directives, complaints) ← readParts rest
      return (directive :: directives, complaints)

/-- Reads a filter without the directives that are wrong, with complaints about
those. -/
def parseLenient (text : String) : Except Text.Misplaced (Filter × List String) := do
  let (directives, complaints) ← readParts (parts text)
  return (ofDirectives directives, complaints)

/-- The filter of a program, with complaints about it: that of the environment
if it is right, else the configured one. -/
def choose (environment : Option String) (configured : String) :
    Except Text.Misplaced (Filter × List String) := do
  let given ← match environment with
    | some text => parse? text
    | none => .ok none
  match given with
  | some filter => return (filter, [])
  | none => parseLenient configured

/-- The rule that decides about an entry. -/
def ruleFor? (filter : Filter) (entry : Entry) : Option Rule :=
  filter.rules.foldl
    (fun best rule =>
      if rule.isAbout entry && best.all fun best => best.givesWay rule then some rule else best)
    none

/-- Whether an entry is shown. -/
def shows (filter : Filter) (entry : Entry) : Bool :=
  (filter.ruleFor? entry).any fun rule => entry.level.rank ≤ rule.rank

end Filter

end LineGreeting.Log
