import QueryBuilder.Text.Unprinted

/-!
Quoted texts as messages show them: a quote, a backslash and five controls by a backslash and a
letter, what does not print by its number in braces, every other character as it is.
-/
namespace QueryBuilder.Text

/-- The number of a character in lower-case hexadecimal, between braces. -/
def byNumber (c : Char) : List Char :=
  ['\\', 'u', '\x7b'] ++ Nat.toDigits 16 c.toNat ++ ['\x7d']

/-- How one character stands in a quoted text. -/
def quotedChar (c : Char) : List Char :=
  match c with
  | '"' => ['\\', '"']
  | '\\' => ['\\', '\\']
  | '\n' => ['\\', 'n']
  | '\r' => ['\\', 'r']
  | '\t' => ['\\', 't']
  | '\x00' => ['\\', '0']
  | c => if isUnprinted c then byNumber c else [c]

def quoted (s : String) : String :=
  String.ofList ('"' :: s.toList.flatMap quotedChar ++ ['"'])

example : quoted "a\"\n" = "\"a\\\"\\n\"" := by decide +kernel
example : quoted "e\u0301" = "\"e\\u\x7b301\x7d\"" := by decide +kernel
example : quoted "\u3164é" = "\"\\u\x7b3164\x7dé\"" := by decide +kernel
example : quoted "\uff76\uff9f" = "\"\uff76\uff9f\"" := by decide +kernel

end QueryBuilder.Text
