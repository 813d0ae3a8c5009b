import IndexQuery.Text.Blank
import IndexQuery.Text.CaseTable

set_option autoImplicit false

/-!
Text in small and in capital letters, over all scripts.
-/

namespace IndexQuery.Text

def CaseRun.covers (run : CaseRun) (code : Nat) : Bool :=
  decide (run.first ≤ code) && decide (code ≤ run.last) && (code - run.first) % run.step == 0

/-- The form of one character: a listed group, else a run's shift, else itself. -/
def changeCase (groups : List (Nat × List Nat)) (runs : List CaseRun) (c : Char) : List Char :=
  match groups.lookup c.toNat with
  | some codes => codes.map Char.ofNat
  | none => match runs.find? (·.covers c.toNat) with
    | some run => [Char.ofNat (c.toNat + run.shift).toNat]
    | none => [c]

def capitalSigma : Char := Char.ofNat 0x3a3
def finalSigma : Char := Char.ofNat 0x3c2

def meetsLetter (cs : List Char) : Bool :=
  match cs.dropWhile (inRuns ignorableRuns) with
  | c :: _ => inRuns casedRuns c
  | [] => false

/-- Small letters. A sigma that ends a word takes its final form. `before` holds the characters
already passed, the nearest first. -/
def lowerFrom (before : List Char) : List Char → List Char
  | [] => []
  | c :: rest =>
    let small :=
      if c = capitalSigma ∧ meetsLetter before ∧ ¬ meetsLetter rest then [finalSigma]
      else changeCase lowerGroups lowerRuns c
    small ++ lowerFrom (c :: before) rest

def lower (text : String) : String := String.ofList (lowerFrom [] text.toList)

def upper (text : String) : String :=
  String.ofList (text.toList.flatMap (changeCase upperGroups upperRuns))

end IndexQuery.Text
