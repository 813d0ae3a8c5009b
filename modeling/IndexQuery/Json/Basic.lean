import IndexQuery.Number.Decimal

set_option autoImplicit false

/-!
JSON documents: the value a text denotes, and text in quotes.
-/

namespace IndexQuery

structure Json.Numeral where
  negative : Bool
  whole : List Char
  fraction : Option (List Char)
  /-- Sign (true for minus) and digits of the power of ten. -/
  exponent : Option (Bool × List Char)

inductive Json where
  | null
  | bool (value : Bool)
  | number (numeral : Json.Numeral)
  /-- Text; none if an escape in it names half of a surrogate pair. -/
  | string (text : Option String)
  | array (items : List Json)
  /-- Members in order, repeated names included; a name is text. -/
  | object (members : List (Option String × Json))

namespace Json

abbrev Scan := StateT (List Char) Option

def isSpace (c : Char) : Bool := c == ' ' || c == '\n' || c == '\t' || c == '\r'

def skipSpace : Scan Unit := modify fun cs => cs.dropWhile isSpace

def next : Scan Char
  | [] => none
  | c :: cs => some (c, cs)

def peek? : Scan (Option Char) := fun cs => some (cs.head?, cs)

def expect (c : Char) : Scan Unit := do
  if (← next) == c then return () else failure

def expectWord (word : String) : Scan Unit := word.toList.forM expect

def scanDigits : Scan (List Char) := fun cs => some (Number.spanDigits cs)

def scanSomeDigits : Scan (List Char) := do
  let digits ← scanDigits
  if digits.isEmpty then failure else return digits

/-- Digits of a whole number; a zero stands alone. -/
def scanWhole : Scan (List Char) := do
  let digits ← scanSomeDigits
  match digits with
  | '0' :: _ :: _ => failure
  | digits => return digits

def scanFraction : Scan (Option (List Char)) := do
  if (← peek?) == some '.' then
    let _ ← next
    return some (← scanSomeDigits)
  else return none

def scanExponent : Scan (Option (Bool × List Char)) := do
  match ← peek? with
  | some c =>
    if c == 'e' || c == 'E' then
      let _ ← next
      let negative ← modifyGet Number.spanSign
      return some (negative, ← scanSomeDigits)
    else return none
  | none => return none

def scanNumeral : Scan Numeral := do
  let negative := (← peek?) == some '-'
  if negative then
    let _ ← next
  return ⟨negative, ← scanWhole, ← scanFraction, ← scanExponent⟩

def hexValue? (c : Char) : Option Nat :=
  if c.isDigit then some (c.toNat - '0'.toNat)
  else if 'a' ≤ c ∧ c ≤ 'f' then some (c.toNat - 'a'.toNat + 10)
  else if 'A' ≤ c ∧ c ≤ 'F' then some (c.toNat - 'A'.toNat + 10)
  else none

def scanUnit : Scan Nat := do
  let mut n := 0
  for _ in [0, 1, 2, 3] do
    let some d := hexValue? (← next) | failure
    n := 16 * n + d
  return n

/-- A piece of text: a character, or a code unit given by an escape. -/
inductive Piece where
  | char (c : Char)
  | unit (code : Nat)

def scanEscape : Scan Piece := do
  match ← next with
  | '"' => return .char '"'
  | '\\' => return .char '\\'
  | '/' => return .char '/'
  | 'b' => return .char (Char.ofNat 8)
  | 'f' => return .char (Char.ofNat 12)
  | 'n' => return .char '\n'
  | 'r' => return .char '\r'
  | 't' => return .char '\t'
  | 'u' => return .unit (← scanUnit)
  | _ => failure

/-- Pieces up to the closing quote; control characters must be escaped. -/
def scanPieces : Nat → Scan (List Piece)
  | 0 => failure
  | fuel + 1 => do
    let c ← next
    if c == '"' then return []
    else if c == '\\' then
      let piece ← scanEscape
      return piece :: (← scanPieces fuel)
    else if c.toNat < 0x20 then failure
    else return .char c :: (← scanPieces fuel)

def isHigh (code : Nat) : Bool := decide (0xd800 ≤ code) && decide (code < 0xdc00)
def isLow (code : Nat) : Bool := decide (0xdc00 ≤ code) && decide (code < 0xe000)

/-- Joins surrogate pairs; none if a half stands alone. -/
def joinPieces : List Piece → Option (List Char)
  | [] => some []
  | .char c :: rest => (joinPieces rest).map (c :: ·)
  | .unit high :: rest =>
    if isHigh high then
      match rest with
      | .unit low :: rest =>
        if isLow low then
          (joinPieces rest).map (Char.ofNat (0x10000 + (high - 0xd800) * 0x400 + (low - 0xdc00)) :: ·)
        else none
      | _ => none
    else if isLow high then none
    else (joinPieces rest).map (Char.ofNat high :: ·)

def scanText : Scan (Option String) := do
  let pieces ← scanPieces ((← get).length + 1)
  return (joinPieces pieces).map String.ofList

mutual

/-- A value after any blanks. Each nested value takes a character, which bounds the depth. -/
def scanValue : Nat → Scan Json
  | 0 => failure
  | fuel + 1 => do
    skipSpace
    match ← peek? with
    | some 'n' => expectWord "null"; return null
    | some 't' => expectWord "true"; return bool true
    | some 'f' => expectWord "false"; return bool false
    | some '"' => let _ ← next; return string (← scanText)
    | some '[' => let _ ← next; skipSpace; scanFirstItem fuel
    | some '\x7b' => let _ ← next; skipSpace; scanFirstMember fuel
    | _ => return number (← scanNumeral)

def scanFirstItem : Nat → Scan Json
  | 0 => failure
  | fuel + 1 => do
    if (← peek?) == some ']' then
      let _ ← next
      return array []
    else return array (← scanItems fuel)

def scanItems : Nat → Scan (List Json)
  | 0 => failure
  | fuel + 1 => do
    let item ← scanValue fuel
    skipSpace
    match ← next with
    | ',' => return item :: (← scanItems fuel)
    | ']' => return [item]
    | _ => failure

def scanFirstMember : Nat → Scan Json
  | 0 => failure
  | fuel + 1 => do
    if (← peek?) == some '\x7d' then
      let _ ← next
      return object []
    else return object (← scanMembers fuel)

def scanMembers : Nat → Scan (List (Option String × Json))
  | 0 => failure
  | fuel + 1 => do
    skipSpace
    expect '"'
    let key ← scanText
    skipSpace
    expect ':'
    let value ← scanValue fuel
    skipSpace
    match ← next with
    | ',' => return (key, value) :: (← scanMembers fuel)
    | '\x7d' => return [(key, value)]
    | _ => failure

end

def parse? (text : String) : Option Json := do
  let cs := text.toList
  let (value, rest) ← scanValue (3 * cs.length + 3) cs
  if (rest.dropWhile isSpace).isEmpty then return value else none

def hexDigit (n : Nat) : Char := (Nat.toDigits 16 n).headD '0'

def escapeChar (c : Char) : List Char :=
  match c with
  | '"' => ['\\', '"']
  | '\\' => ['\\', '\\']
  | '\n' => ['\\', 'n']
  | '\r' => ['\\', 'r']
  | '\t' => ['\\', 't']
  | c =>
    if c.toNat = 8 then ['\\', 'b']
    else if c.toNat = 12 then ['\\', 'f']
    else if c.toNat < 0x20 then ['\\', 'u', '0', '0', hexDigit (c.toNat / 16), hexDigit (c.toNat % 16)]
    else [c]

def quote (text : String) : String := "\"" ++ String.ofList (text.toList.flatMap escapeChar) ++ "\""

def writeObject (members : List (String × String)) : String :=
  "\x7b" ++ ",".intercalate (members.map fun (key, value) => quote key ++ ":" ++ value) ++ "\x7d"

end Json

end IndexQuery
