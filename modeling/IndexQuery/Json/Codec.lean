import IndexQuery.Json.Number
import IndexQuery.Query.Request
import IndexQuery.Settings
import IndexQuery.Time.Reading

set_option autoImplicit false

/-!
The JSON forms of settings, values, queries and their parts.
-/

namespace IndexQuery

open Number (Binary32 Binary64)

structure Codec (α : Type) where
  read : Json → Option α
  write : α → String

namespace Codec

def parse? {α : Type} (codec : Codec α) (text : String) : Option α := (Json.parse? text).bind codec.read

def normalize? {α : Type} (codec : Codec α) (text : String) : Option String :=
  (codec.parse? text).map codec.write

def bool : Codec Bool where
  read
    | .bool b => some b
    | _ => none
  write b := if b then "true" else "false"

def text : Codec String where
  read
    | .string s => s
    | _ => none
  write := Json.quote

/-- A missing member and null both mean nothing. -/
def optional {α : Type} (codec : Codec α) : Codec (Option α) where
  read
    | .null => some none
    | j => (codec.read j).map some
  write
    | none => "null"
    | some a => codec.write a

def natUpTo (limit : Nat) : Codec Nat := ⟨Json.natUpTo? limit, toString⟩

def single : Codec Binary32 := ⟨Json.binary32?, Json.singleLayout.write⟩

def double : Codec Binary64 := ⟨Json.binary64?, Json.doubleLayout.write⟩

/-- A name out of a list; also as the only member of an object, with null. -/
def names {α : Type} (name : α → String) (all : List α) : Codec α where
  read
    | .string s => s.bind fun s => all.find? (name · == s)
    | .object [(some key, .null)] => all.find? (name · == key)
    | _ => none
  write a := Json.quote (name a)

/-- The members of a record by name, or all of them in order. Every name must be text, and a member may
not be repeated. With `partly`, an array may end early. -/
def members (partly : Bool) (keys : List String) : Json → Option (List (Option Json))
  | .object given =>
    if given.any (·.1.isNone) then none
    else keys.mapM fun key =>
      match given.filter (·.1 == some key) with
      | [] => some none
      | [(_, value)] => some (some value)
      | _ => none
  | .array items =>
    if items.length = keys.length ∨ (partly ∧ items.length < keys.length) then
      some (items.map some ++ List.replicate (keys.length - items.length) none)
    else none
  | _ => none

def orElse {α : Type} (codec : Codec α) (default : α) : Option Json → Option α
  | none => some default
  | some j => codec.read j

def required {α : Type} (codec : Codec α) (member : Option Json) : Option α := member.bind codec.read

def compilerKeys : List String :=
  ["max_lowering_rounds", "default_fuzzy_similarity", "max_fuzzy_edits", "all_values_token"]

/-- Missing members have their standard values. -/
def compilerSettings : Codec CompilerSettings where
  read j := do
    let standard := CompilerSettings.standard
    match ← members true compilerKeys j with
    | [rounds, similarity, edits, token] =>
      return {
        maxRounds := ← orElse (natUpTo (Nat.pow 2 64 - 1)) standard.maxRounds rounds
        similarity := ← orElse single standard.similarity similarity
        maxEdits := ← orElse (natUpTo (Nat.pow 2 32 - 1)) standard.maxEdits edits
        anyValue := ← orElse text standard.anyValue token }
    | _ => none
  write s := Json.writeObject [
    ("max_lowering_rounds", toString s.maxRounds),
    ("default_fuzzy_similarity", single.write s.similarity),
    ("max_fuzzy_edits", toString s.maxEdits),
    ("all_values_token", text.write s.anyValue)]

def contextSettings : Codec ContextSettings where
  read j := do
    let standard := ContextSettings.standard
    match ← members true ["name", "prewarm"] j with
    | [name, prewarm] =>
      return { name := ← orElse text standard.name name, prewarm := ← orElse bool standard.prewarm prewarm }
    | _ => none
  write s := Json.writeObject [("name", text.write s.name), ("prewarm", bool.write s.prewarm)]

/-- A value is an object whose only member names its kind; null is the name alone. -/
def value : Codec Value where
  read
    | .string s => if s = some "Null" then some .null else none
    | .object [(some kind, j)] => match kind with
      | "Null" => match j with
        | .null => some .null
        | _ => none
      | "Bool" => (bool.read j).map .bool
      | "Int64" => (Json.int64? j).map .int
      | "Float64" => (double.read j).map .float
      | "Text" => (text.read j).map .text
      | "DateTime" => (text.read j).bind fun s => (Time.Instant.readLenient s).toOption.map .instant
      | _ => none
    | _ => none
  write
    | .null => Json.quote "Null"
    | .bool b => Json.writeObject [("Bool", bool.write b)]
    | .int i => Json.writeObject [("Int64", toString i.toInt)]
    | .float x => Json.writeObject [("Float64", double.write x)]
    | .text s => Json.writeObject [("Text", text.write s)]
    | .instant t => Json.writeObject [("DateTime", Json.quote (t.textWithZone "Z"))]

def fuzzyQuery : Codec (String × String × Nat × Binary32) where
  read j := do
    match ← members false ["field", "term", "max_edits", "boost"] j with
    | [field, term, edits, boost] =>
      return (← required text field, ← required text term, ← required (natUpTo (Nat.pow 2 32 - 1)) edits,
        ← required single boost)
    | _ => none
  write := fun (field, term, edits, boost) => Json.writeObject [
    ("field", text.write field), ("term", text.write term), ("max_edits", toString edits),
    ("boost", single.write boost)]

def startsWithQuery : Codec (String × String × Binary32) where
  read j := do
    match ← members false ["field", "prefix", "boost"] j with
    | [field, start, boost] => return (← required text field, ← required text start, ← required single boost)
    | _ => none
  write := fun (field, start, boost) => Json.writeObject [
    ("field", text.write field), ("prefix", text.write start), ("boost", single.write boost)]

def rangeQuery : Codec (String × TermRange × Binary32) where
  read j := do
    match ← members false ["field", "lower", "upper", "include_lower", "include_upper", "boost"] j with
    | [field, lower, upper, includeLower, includeUpper, boost] =>
      let field ← required text field
      let terms : TermRange := {
        lower := ← orElse (optional text) none lower
        upper := ← orElse (optional text) none upper
        includeLower := ← required bool includeLower
        includeUpper := ← required bool includeUpper }
      return (field, terms, ← required single boost)
    | _ => none
  write := fun (field, terms, boost) => Json.writeObject [
    ("field", text.write field),
    ("lower", (optional text).write terms.lower),
    ("upper", (optional text).write terms.upper),
    ("include_lower", bool.write terms.includeLower),
    ("include_upper", bool.write terms.includeUpper),
    ("boost", single.write boost)]

def occurName : Occur → String
  | .must => "Must"
  | .should => "Should"
  | .mustNot => "MustNot"
  | .filter => "Filter"

def occur : Codec Occur := names occurName [.must, .should, .mustNot, .filter]

def matchingName : Matching → String
  | .exact => "Default"
  | .startsWith => "Prefix"
  | .endsWith => "Suffix"
  | .contains => "Wildcard"
  | .similar => "Fuzzy"
  | .greater => "GreaterThan"
  | .greaterOrEqual => "GreaterOrEqual"
  | .less => "LessThan"
  | .lessOrEqual => "LessOrEqual"

def matching : Codec Matching := names matchingName
  [.exact, .startsWith, .endsWith, .contains, .similar, .greater, .greaterOrEqual, .less, .lessOrEqual]

def scalarKindName : ScalarKind → String
  | .text => "Text"
  | .bool => "Bool"
  | .int64 => "Int64"
  | .float64 => "Float64"
  | .datetime => "DateTime"
  | .other => "Other"

def scalarKind : Codec ScalarKind := names scalarKindName [.text, .bool, .int64, .float64, .datetime, .other]

def sortOrder : Codec SortOrder := names SortOrder.name [.ascending, .descending]

def sortKind : Codec SortKind := names SortKind.name [.string, .int64, .float64, .datetime]

end Codec

/-- Settings from JSON must also be valid. -/
def CompilerSettings.ofJson (text : String) : Except Error CompilerSettings :=
  match Codec.compilerSettings.parse? text with
  | some settings => settings.checked
  | none => .error .malformedJson

def ContextSettings.ofJson (text : String) : Except Error ContextSettings :=
  match Codec.contextSettings.parse? text with
  | some settings => .ok settings
  | none => .error .malformedJson

end IndexQuery
