import IndexQuery.Error
import IndexQuery.Number.Shortest

set_option autoImplicit false

/-!
Settings of the query compiler and of a snapshot context.
-/

namespace IndexQuery

open Number (Binary Binary32 Format)

structure CompilerSettings where
  maxRounds : Nat
  /-- Similarity of a fuzzy match that names none. -/
  similarity : Binary32
  maxEdits : Nat
  /-- Pattern that every value of a field matches. -/
  anyValue : String

namespace CompilerSettings

def standard : CompilerSettings := ⟨8, .round .single false 1 2, 2, "*"⟩

/-- The first rule that is broken decides. -/
def validate (s : CompilerSettings) : Except Error Unit :=
  if s.maxRounds = 0 then .error (.invalidSettings "max_lowering_rounds must be at least 1")
  else if !((Binary.zero .single false).lessOrSame s.similarity && s.similarity.lessOrSame (.one .single)) then
    .error (.invalidSettings ("default_fuzzy_similarity must be within [0, 1], got " ++ s.similarity.text))
  else if s.anyValue = "" then .error (.invalidSettings "all_values_token must not be empty")
  else .ok ()

def checked (s : CompilerSettings) : Except Error CompilerSettings := do
  s.validate
  return s

def same (s t : CompilerSettings) : Bool :=
  s.maxRounds == t.maxRounds && s.similarity.same t.similarity && s.maxEdits == t.maxEdits
    && s.anyValue == t.anyValue

end CompilerSettings

structure ContextSettings where
  name : String
  /-- Run the loading callbacks before a reloaded snapshot is published. -/
  prewarm : Bool
deriving DecidableEq

def ContextSettings.standard : ContextSettings := ⟨"default", true⟩

end IndexQuery
