import IndexQuery.Number.Decimal
import IndexQuery.Text.Blank
import IndexQuery.Time.Instant

set_option autoImplicit false

/-!
Reading an instant from its written form. The strict form has fixed widths and no blanks; the lenient
form allows blanks between its parts, a signed year and `UTC` as the zone.
-/

namespace IndexQuery.Time

open IndexQuery.Number (digitValue ofDigits)
open IndexQuery.Text (isBlank trimLeft)

inductive Fault where
  | invalid
  | tooShort
  | tooLong
  | outOfRange
  | impossible
deriving DecidableEq

def Fault.message : Fault → String
  | invalid => "input contains invalid characters"
  | tooShort => "premature end of input"
  | tooLong => "trailing input"
  | outOfRange => "input is out of range"
  | impossible => "no possible date and time matching input"

abbrev Scan := StateT (List Char) (Except Fault)

def byteLength (cs : List Char) : Nat := (String.ofList cs).utf8ByteSize

/-- Between `least` and `greatest` digits, as many as there are. -/
def scanNumber (least greatest : Nat) : Scan Nat := fun cs =>
  let digits := (cs.take greatest).takeWhile Char.isDigit
  if digits.length < least then
    .error (if byteLength cs < least then .tooShort else .invalid)
  else .ok (ofDigits digits, cs.drop digits.length)

def scanInRange (width least greatest : Nat) (fixed : Bool) : Scan Nat := do
  let n ← scanNumber (if fixed then width else 1) width
  if least ≤ n ∧ n ≤ greatest then return n else throw .outOfRange

def scanWhere (test : Char → Bool) : Scan Char
  | [] => .error .tooShort
  | c :: cs => if test c then .ok (c, cs) else .error .invalid

def scanMark (mark : Char) : Scan Unit := discard (scanWhere (· == mark))

def scanSeparator : Scan Unit := discard (scanWhere fun c => c == 'T' || c == 't' || c == ' ')

def skipBlanks : Scan Unit := modify trimLeft

def skipDigits : Scan Unit := modify fun cs => cs.dropWhile Char.isDigit

def skipColons : Scan Unit := modify fun cs => cs.dropWhile fun c => c == ':' || isBlank c

/-- Digits after a point, as nanoseconds; places past the ninth are dropped. -/
def scanFraction : Scan Nat := do
  match ← get with
  | '.' :: cs =>
    set cs
    let n ← scanNumber 1 9
    let used := cs.length - (← get).length
    skipDigits
    return n * Nat.pow 10 (9 - used)
  | _ => return 0

/-- Two digits; `tens` bounds the first. -/
def scanPair (tens : Nat) : Scan Nat
  | a :: b :: rest =>
    if !a.isDigit || !b.isDigit then .error .invalid
    else if tens < digitValue a then .error .outOfRange
    else .ok (ofDigits [a, b], rest)
  | cs => .error (if byteLength cs < 2 then .tooShort else .invalid)

def isPlus (c : Char) : Bool := c == '+'
def isMinus (c : Char) : Bool := c == '-' || c == Char.ofNat 0x2212
def isZulu (c : Char) : Bool := c == 'Z' || c == 'z'

/-- `Z`, or a sign with hours and minutes that `colon` separates; in seconds east. -/
def scanZone (colon : Scan Unit) : Scan Int := do
  let c ← scanWhere fun c => isZulu c || isPlus c || isMinus c
  if isZulu c then return 0
  let hours ← scanPair 9
  colon
  let minutes ← scanPair 5
  let seconds : Int := (hours * 3600 + minutes * 60 : Nat)
  return if isPlus c then seconds else -seconds

def scanLenientZone : Scan Int := do
  let cs ← get
  if (cs.take 3).map Char.toUpper == ['U', 'T', 'C'] then
    set (cs.drop 3)
    return 0
  scanZone skipColons

/-- A year has 32 bits. -/
def checkYear (year : Int) : Scan Int :=
  if -2147483648 ≤ year ∧ year ≤ 2147483647 then return year else throw .outOfRange

/-- A year of at most four digits, or of any length behind a sign. -/
def scanYear : Scan Int := do
  match ← get with
  | '-' :: cs =>
    set cs
    checkYear (-((← scanNumber 1 cs.length : Nat) : Int))
  | '+' :: cs =>
    set cs
    checkYear (← scanNumber 1 cs.length : Nat)
  | _ => return (← scanNumber 1 4 : Nat)

structure Parts where
  date : Date
  hour : Nat
  minute : Nat
  second : Nat
  nanos : Nat
  zone : Int

def leastYear : Int := -262143
def greatestYear : Int := 262142

/-- The instant the parts name. Second sixty is a leap second. -/
def Parts.toInstant (p : Parts) : Except Fault Instant :=
  let leap := p.second == 60
  let second := if leap then 59 else p.second
  let clock : Int := p.date.toDays * 86400 + (p.hour * 3600 + p.minute * 60 + second : Nat)
  let seconds := clock - p.zone
  let year := (Date.ofDays (seconds / 86400)).year
  if p.date.year < leastYear ∨ greatestYear < p.date.year ∨ !p.date.valid then .error .outOfRange
  else if p.zone ≤ -86400 ∨ 86400 ≤ p.zone then .error .outOfRange
  else if year < leastYear ∨ greatestYear < year then .error .impossible
  else .ok ⟨seconds, p.nanos + (if leap then 1000000000 else 0)⟩

/-- Runs a reader over a whole text; `rest` is what may be left over. -/
def runScan (scan : Scan Parts) (rest : List Char → Bool) (text : String) : Except Fault Instant := do
  let (parts, cs) ← scan text.toList
  if rest cs then parts.toInstant else .error .tooLong

def scanStrict : Scan Parts := do
  let year ← scanNumber 4 4
  scanMark '-'
  let month ← scanInRange 2 1 12 true
  scanMark '-'
  let day ← scanInRange 2 1 31 true
  scanSeparator
  let hour ← scanInRange 2 0 23 true
  scanMark ':'
  let minute ← scanInRange 2 0 59 true
  scanMark ':'
  let second ← scanInRange 2 0 60 true
  let nanos ← scanFraction
  let zone ← scanZone (scanMark ':')
  -- Twenty-four hours or more are refused before anything that may follow.
  if zone ≤ -86400 ∨ 86400 ≤ zone then throw .outOfRange
  return ⟨⟨year, month, day⟩, hour, minute, second, nanos, zone⟩

def scanLenient : Scan Parts := do
  skipBlanks
  let year ← scanYear
  skipBlanks; scanMark '-'; skipBlanks
  let month ← scanInRange 2 1 12 false
  skipBlanks; scanMark '-'; skipBlanks
  let day ← scanInRange 2 1 31 false
  scanSeparator; skipBlanks
  let hour ← scanInRange 2 0 23 false
  skipBlanks; scanMark ':'; skipBlanks
  let minute ← scanInRange 2 0 59 false
  skipBlanks; scanMark ':'; skipBlanks
  let second ← scanInRange 2 0 60 false
  let nanos ← scanFraction
  skipBlanks
  let zone ← scanLenientZone
  return ⟨⟨year, month, day⟩, hour, minute, second, nanos, zone⟩

def Instant.read (text : String) : Except Fault Instant := runScan scanStrict List.isEmpty text

def Instant.readLenient (text : String) : Except Fault Instant :=
  runScan scanLenient (fun cs => (trimLeft cs).isEmpty) text

end IndexQuery.Time
