import IndexQuery.Query.Basic

set_option autoImplicit false

/-!
Field mappings: how the values of a field are put into the index, and which queries find them.
-/

namespace IndexQuery

/-- Values an index sorts by itself. -/
inductive SortKind where
  | string
  | int64
  | float64
  | datetime
deriving DecidableEq

structure FieldMapping where
  name : String
  numeric : Bool
  /-- None where sorting needs `order`. -/
  sortKind : Option SortKind
  encode : Value → Except Error String
  exactQuery : String → Except Error Query
  rangeQuery : TermRange → Except Error Query
  order : String → String → Ordering

namespace FieldMapping

def rangeOf (name : String) (terms : TermRange) : Query := .range name terms Query.unboosted

/-- Values are stored as they are and found by their exact text. -/
def keywordWith (name : String) (sortKind : Option SortKind) : FieldMapping where
  name := name
  numeric := false
  sortKind := sortKind
  encode
    | .null => .error (.invalidArgument ("cannot encode null for field `" ++ name ++ "`"))
    | value => .ok value.plain
  exactQuery text := .ok (.term name text Query.unboosted)
  rangeQuery terms := .ok (rangeOf name terms)
  order := compare

def keyword (name : String) : FieldMapping := keywordWith name (some .string)

end FieldMapping

/-- Where mappings are looked up. `names` are the fields that an any-field test covers. -/
structure FieldProvider where
  find? : String → Option FieldMapping
  names : List String

def FieldProvider.resolve (p : FieldProvider) (name : String) : FieldMapping :=
  (p.find? name).getD (.keyword name)

/-- Registered mappings: for each name the latest one, and the names in order of first registration. -/
structure FieldRegistry where
  mappings : List FieldMapping
  order : List String

namespace FieldRegistry

def empty : FieldRegistry := ⟨[], []⟩

def find? (r : FieldRegistry) (name : String) : Option FieldMapping := r.mappings.find? (·.name == name)

/-- Takes the place of the mapping of the same name; a new name comes last. -/
def insert (r : FieldRegistry) (mapping : FieldMapping) : FieldRegistry where
  mappings := mapping :: r.mappings.filter (·.name != mapping.name)
  order := if (r.find? mapping.name).isSome then r.order else r.order ++ [mapping.name]

def insertKeywords (r : FieldRegistry) (names : List String) : FieldRegistry :=
  names.foldl (fun r name => r.insert (.keyword name)) r

def names (r : FieldRegistry) : List String := r.order

def size (r : FieldRegistry) : Nat := r.mappings.length

def isEmpty (r : FieldRegistry) : Bool := r.mappings.isEmpty

def provider (r : FieldRegistry) : FieldProvider := ⟨r.find?, r.names⟩

end FieldRegistry

end IndexQuery
