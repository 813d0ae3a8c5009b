set_option autoImplicit false

/-!
Wildcard patterns: `*` stands for any run of characters and `?` for one, neither crossing a line feed;
a backslash makes the next character literal.
-/

namespace IndexQuery

inductive Glob where
  | run
  | one
  | literal (c : Char)
deriving DecidableEq

namespace Glob

/-- The parts of a pattern. A backslash at the end stands for itself. -/
def ofChars : List Char → List Glob
  | [] => []
  | ['\\'] => [literal '\\']
  | '\\' :: c :: rest => literal c :: ofChars rest
  | '*' :: rest => run :: ofChars rest
  | '?' :: rest => one :: ofChars rest
  | c :: rest => literal c :: ofChars rest

/-- For each rest of the pattern, longest first: does it match no text at all? -/
def matchesNone : List Glob → List Bool
  | [] => [true]
  | part :: rest =>
    let verdicts := matchesNone rest
    (part == run && verdicts.headD false) :: verdicts

/-- For each rest of the pattern: does it match `c` and what follows, given the verdicts on what follows? -/
def matchesNext (c : Char) : List Glob → List Bool → List Bool
  | [], _ => [false]
  | part :: rest, after =>
    let verdicts := matchesNext c rest after.tail
    (match part with
      | run => verdicts.headD false || (c != '\n' && after.headD false)
      | one => c != '\n' && after.tail.headD false
      | literal l => c == l && after.tail.headD false) :: verdicts

def matchesChars (pattern : List Glob) (cs : List Char) : Bool :=
  (cs.foldr (fun c after => matchesNext c pattern after) (matchesNone pattern)).headD false

end Glob

namespace Wildcard

def accepts (pattern term : String) : Bool := Glob.matchesChars (Glob.ofChars pattern.toList) term.toList

def isSpecial (c : Char) : Bool := c == '*' || c == '?' || c == '\\'

def escapeChars : List Char → List Char
  | [] => []
  | c :: cs => if isSpecial c then '\\' :: c :: escapeChars cs else c :: escapeChars cs

/-- The pattern that only `text` itself matches. -/
def escape (text : String) : String := String.ofList (escapeChars text.toList)

end Wildcard

end IndexQuery
