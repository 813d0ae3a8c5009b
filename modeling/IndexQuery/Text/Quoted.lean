import IndexQuery.Text.Blank
import IndexQuery.Text.Shapeless

set_option autoImplicit false

/-!
Quoted text for diagnostic descriptions: quotes, backslashes and characters without a shape are escaped.
-/

namespace IndexQuery.Text

def hexDigits (n : Nat) : List Char := Nat.toDigits 16 n

def escapeCode (c : Char) : List Char := "\\u\x7b".toList ++ hexDigits c.toNat ++ "\x7d".toList

def escapeChar (c : Char) : List Char :=
  match c with
  | '"' => ['\\', '"']
  | '\\' => ['\\', '\\']
  | '\n' => ['\\', 'n']
  | '\r' => ['\\', 'r']
  | '\t' => ['\\', 't']
  | '\x00' => ['\\', '0']
  | c => if inRuns shapelessRuns c then escapeCode c else [c]

def quoted (text : String) : String :=
  "\"" ++ String.ofList (text.toList.flatMap escapeChar) ++ "\""

end IndexQuery.Text
