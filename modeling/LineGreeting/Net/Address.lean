import LineGreeting.Text.Number

/-! # Network addresses

An address has four octets or eight groups of sixteen bits. Four octets are
written in decimal, without leading zeros. Groups are written in hexadecimal;
`::` stands for a run of zero groups, and the last two groups may be written as
four octets. Printing drops leading zeros and lets `::` stand for the first of
the longest runs of at least two zero groups.
-/

namespace LineGreeting.Net

/-- An address of four octets. -/
structure Octets where
  first : UInt8
  second : UInt8
  third : UInt8
  fourth : UInt8
deriving DecidableEq, Repr

/-- A network address. -/
inductive Address where
  /-- Four octets. -/
  | v4 (octets : Octets)
  /-- Eight groups of sixteen bits. -/
  | v6 (groups : Vector UInt16 8)
deriving DecidableEq, Repr

/-- The address by which a host reaches itself. -/
def Octets.loopback : Octets := ⟨127, 0, 0, 1⟩

/-- The address that stands for all addresses of a host. -/
def Octets.unspecified : Octets := ⟨0, 0, 0, 0⟩

/-! ## Reading -/

/-- Reads one octet: up to three digits without a leading zero. -/
def readOctet (text : List Char) : Option (UInt8 × List Char) :=
  let digits := text.takeWhile (Text.isDigit 10)
  let value := Text.ofDigits 10 digits
  if digits = [] ∨ 3 < digits.length ∨ 255 < value then none
  else if digits.head? = some '0' ∧ 1 < digits.length then none
  else some (UInt8.ofNat value, text.dropWhile (Text.isDigit 10))

/-- Reads one group: up to four hexadecimal digits. -/
def readGroup (text : List Char) : Option (UInt16 × List Char) :=
  let digits := text.takeWhile (Text.isDigit 16)
  if digits = [] ∨ 4 < digits.length then none
  else some (UInt16.ofNat (Text.ofDigits 16 digits), text.dropWhile (Text.isDigit 16))

/-- Reads a character that has to be there. -/
def readChar (char : Char) : List Char → Option (List Char)
  | [] => none
  | found :: rest => if found = char then some rest else none

/-- Reads four octets with points between them. -/
def readOctets (text : List Char) : Option (Octets × List Char) := do
  let (first, text) ← readOctet text
  let (second, text) ← readOctet (← readChar '.' text)
  let (third, text) ← readOctet (← readChar '.' text)
  let (fourth, text) ← readOctet (← readChar '.' text)
  return (⟨first, second, third, fourth⟩, text)

/-- Four octets as two groups. -/
def Octets.groups (octets : Octets) : List UInt16 :=
  [octets.first.toUInt16 * 256 + octets.second.toUInt16,
    octets.third.toUInt16 * 256 + octets.fourth.toUInt16]

/-- Reads at most `limit` groups with colons between them, and says whether the
last two were written as four octets. A colon that no group follows is left. -/
def readGroups (limit : Nat) (first : Bool) (text : List Char) :
    List UInt16 × Bool × List Char :=
  match limit with
  | 0 => ([], false, text)
  | limit + 1 =>
    let next := if first then some text else readChar ':' text
    match if limit = 0 then none else next.bind readOctets with
    | some (octets, rest) => (octets.groups, true, rest)
    | none =>
      match next.bind readGroup with
      | none => ([], false, text)
      | some (group, rest) =>
        let (groups, dotted, rest) := readGroups limit false rest
        (group :: groups, dotted, rest)

/-- Eight groups from those before and those behind `::`. -/
def fillGroups (head tail : List UInt16) : Vector UInt16 8 :=
  let zeros := List.replicate (8 - (head.length + tail.length)) 0
  let all := head ++ zeros ++ tail
  Vector.ofFn fun index => all[index.val]?.getD 0

/-- Reads eight groups, a run of zeros among them written as `::` or not. -/
def readV6 (text : List Char) : Option (Vector UInt16 8 × List Char) :=
  let (head, dotted, text) := readGroups 8 true text
  if head.length = 8 then some (fillGroups head [], text)
  else if dotted then none
  else do
    let text ← readChar ':' (← readChar ':' text)
    let (tail, _, text) := readGroups (7 - head.length) true text
    return (fillGroups head tail, text)

/-- The four octets that a text stands for as a whole. -/
def Octets.parse? (text : String) : Option Octets :=
  match readOctets text.toList with
  | some (octets, []) => some octets
  | _ => none

/-- The address that a text stands for as a whole. -/
def Address.parse? (text : String) : Option Address :=
  match Octets.parse? text with
  | some octets => some (.v4 octets)
  | none =>
    match readV6 text.toList with
    | some (groups, []) => some (.v6 groups)
    | _ => none

/-! ## Printing -/

/-- Four octets in decimal. -/
def Octets.text (octets : Octets) : String :=
  ".".intercalate
    ([octets.first, octets.second, octets.third, octets.fourth].map fun octet =>
      toString octet.toNat)

/-- Groups in hexadecimal. -/
def groupsText (groups : List UInt16) : String :=
  ":".intercalate
    (groups.map fun group => String.ofList (Nat.toDigits 16 group.toNat))

/-- Where the first of the longest runs of zero groups begins, and its length. -/
def longestRun (groups : List UInt16) : Nat × Nat :=
  let runs := (List.range groups.length).map fun start =>
    (start, ((groups.drop start).takeWhile (· = 0)).length)
  runs.foldl (fun best run => if best.2 < run.2 then run else best) (0, 0)

/-- Eight groups as text. Four octets behind a mark of their own stay octets. -/
def v6Text (groups : Vector UInt16 8) : String :=
  match groups.toList with
  | [0, 0, 0, 0, 0, 0xFFFF, high, low] =>
    let octets : Octets :=
      ⟨(high / 256).toUInt8, high.toUInt8, (low / 256).toUInt8, low.toUInt8⟩
    "::ffff:" ++ octets.text
  | groups =>
    let (start, length) := longestRun groups
    if length < 2 then groupsText groups
    else groupsText (groups.take start) ++ "::" ++ groupsText (groups.drop (start + length))

/-- An address as text. -/
def Address.text : Address → String
  | v4 octets => octets.text
  | v6 groups => v6Text groups

end LineGreeting.Net
