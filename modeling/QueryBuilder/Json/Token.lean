import QueryBuilder.Json.Numeral
import QueryBuilder.Json.Literal

/-!
The tokens of a JSON text. Tokens are cut as skipping needs them; what only a full reading
refuses (an unpaired surrogate, a number past the range) stays inside its token. After a token
that even skipping refuses nothing more is cut, since no reading gets past it.
-/
namespace QueryBuilder.Json

/-- A token that is a value by itself, or the fault that stands where a value was to start. -/
inductive Leaf
  | null
  | bool (b : Bool)
  | number (n : Numeral)
  | text (t : Literal)
  /-- A text that starts like `null` but is not that word. -/
  | brokenNull (fault : Fault)
  /-- A text that starts like `true` or `false` but is neither word. -/
  | brokenBool (fault : Fault)
  /-- Digits or a sign with no complete number; the fault is that of a full reading. -/
  | brokenNumber (fault : Fault)
  /-- No value starts here. -/
  | absent (fault : Fault)
deriving DecidableEq, Repr

inductive Token
  | leaf (l : Leaf)
  | openArray
  | closeArray
  | openObject
  | closeObject
  | comma
  | colon
deriving DecidableEq, Repr

/-- The fault that stops a reading which only skips the value. -/
def Leaf.skipFault : Leaf → Option Fault
  | .null | .bool _ | .number _ => none
  | .text t => t.ending
  | .brokenNull f | .brokenBool f | .absent f => some f
  | .brokenNumber _ => some .malformed

/-- White space between tokens. -/
def isGap (c : Char) : Bool := c = ' ' || c = '\t' || c = '\n' || c = '\r'

/-- How a text that was to be a given word fails to be it: it ends too early or differs. -/
def wordFault : List Char → List Char → Option Fault
  | [], _ => none
  | _ :: _, [] => some .truncated
  | w :: word, c :: cs => if c = w then wordFault word cs else some .malformed

/-- A word, or the leaf `broken` makes of its fault; with the number of characters taken. -/
def scanWord (word : List Char) (value : Leaf) (broken : Fault → Leaf) (cs : List Char) :
    Leaf × Nat :=
  match wordFault word cs with
  | none => (value, word.length)
  | some f => (broken f, 1)

/-- The token at the start of a text whose first character is no gap, and how many characters
it takes. -/
def Token.scan (c : Char) (rest : List Char) : Token × Nat :=
  match c with
  | '[' => (.openArray, 1)
  | ']' => (.closeArray, 1)
  | '\x7b' => (.openObject, 1)
  | '\x7d' => (.closeObject, 1)
  | ',' => (.comma, 1)
  | ':' => (.colon, 1)
  | '"' => let r := Literal.scan rest; (.leaf (.text r.1), r.2 + 1)
  | 'n' => let r := scanWord ['n', 'u', 'l', 'l'] .null .brokenNull (c :: rest); (.leaf r.1, r.2)
  | 't' =>
    let r := scanWord ['t', 'r', 'u', 'e'] (.bool true) .brokenBool (c :: rest)
    (.leaf r.1, r.2)
  | 'f' =>
    let r := scanWord ['f', 'a', 'l', 's', 'e'] (.bool false) .brokenBool (c :: rest)
    (.leaf r.1, r.2)
  | c =>
    if c = '-' || c.isDigit then
      match Numeral.scan (c :: rest) with
      | .ok r => (.leaf (.number r.1), r.2)
      | .error f => (.leaf (.brokenNumber f), 1)
    else (.leaf (.absent .malformed), 1)

/-- Whether a reading may go on past a token. -/
def Token.passable : Token → Bool
  | .leaf l => l.skipFault.isNone
  | _ => true

/-- The tokens of a text of which the first `taken` characters belong to a token already cut. -/
def lexFrom : Nat → List Char → List Token
  | _, [] => []
  | taken + 1, _ :: cs => lexFrom taken cs
  | 0, c :: cs =>
    if isGap c then lexFrom 0 cs
    else
      let r := Token.scan c cs
      if r.1.passable then r.1 :: lexFrom (r.2 - 1) cs else [r.1]

def lex (cs : List Char) : List Token := lexFrom 0 cs

end QueryBuilder.Json
