import QueryBuilder.Json.Basic

/-!
The compact text of a JSON value: no white space, members in the order of the value.
-/
namespace QueryBuilder

namespace Number

def chars : Number → List Char
  | .int n => (if n < 0 then ['-'] else []) ++ Nat.toDigits 10 n.natAbs
  | .decimal x => x.text

end Number

namespace Json

/-- How one character stands in a written text: what has a short escape by it, other controls
by four hexadecimal digits, all else as it is. -/
def escape (c : Char) : List Char :=
  match c with
  | '"' => ['\\', '"']
  | '\\' => ['\\', '\\']
  | '\x08' => ['\\', 'b']
  | '\x0c' => ['\\', 'f']
  | '\n' => ['\\', 'n']
  | '\r' => ['\\', 'r']
  | '\t' => ['\\', 't']
  | c =>
    if c.toNat < 0x20 then
      ['\\', 'u', '0', '0', Nat.digitChar (c.toNat / 16), Nat.digitChar (c.toNat % 16)]
    else [c]

def textChars (s : String) : List Char := '"' :: s.toList.flatMap escape ++ ['"']

/-- Texts with a comma between neighbours. -/
def separated (texts : List (List Char)) : List Char := [','].intercalate texts

mutual
def chars : Json → List Char
  | .null => ['n', 'u', 'l', 'l']
  | .bool true => ['t', 'r', 'u', 'e']
  | .bool false => ['f', 'a', 'l', 's', 'e']
  | .number n => n.chars
  | .text s => textChars s
  | .array items => '[' :: separated (itemTexts items) ++ [']']
  | .object members => '\x7b' :: separated (memberTexts members) ++ ['\x7d']

def itemTexts : List Json → List (List Char)
  | [] => []
  | j :: rest => chars j :: itemTexts rest

def memberTexts : List (String × Json) → List (List Char)
  | [] => []
  | (k, j) :: rest => (textChars k ++ ':' :: chars j) :: memberTexts rest
end

def compact (j : Json) : String := String.ofList j.chars

theorem itemTexts_eq_map (items : List Json) : itemTexts items = items.map chars := by
  induction items with
  | nil => rfl
  | cons j rest ih => simp [itemTexts, ih]

theorem memberTexts_eq_map (members : List (String × Json)) :
    memberTexts members = members.map fun m => textChars m.1 ++ ':' :: chars m.2 := by
  induction members with
  | nil => rfl
  | cons m rest ih => simp [memberTexts, ih]

end Json
end QueryBuilder
