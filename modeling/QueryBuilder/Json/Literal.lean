/-!
Text literals of JSON as they are scanned, and the text they stand for. A literal may name half of
a surrogate pair: skipping accepts it, decoding does not.
-/
namespace QueryBuilder.Json

/-- Why a text could not be read to its end. -/
inductive Fault
  /-- Something stands where it may not. -/
  | malformed
  /-- The text ends too early. -/
  | truncated
deriving DecidableEq, Repr

/-- A character of a literal, or a code unit of 16 bits written as `\u` and four digits. -/
inductive Piece
  | char (c : Char)
  | unit (n : Nat)
deriving DecidableEq, Repr

/-- What stands after an opening quote, up to the closing quote or to the fault instead of it. -/
structure Literal where
  pieces : List Piece
  ending : Option Fault
deriving DecidableEq, Repr

namespace Literal

def unescape : Char → Option Char
  | '"' => some '"'
  | '\\' => some '\\'
  | '/' => some '/'
  | 'b' => some '\x08'
  | 'f' => some '\x0c'
  | 'n' => some '\n'
  | 'r' => some '\r'
  | 't' => some '\t'
  | _ => none

def hexDigit (c : Char) : Option Nat :=
  if c.isDigit then some (c.toNat - 48)
  else if 97 ≤ c.toNat && c.toNat ≤ 102 then some (c.toNat - 87)
  else if 65 ≤ c.toNat && c.toNat ≤ 70 then some (c.toNat - 55)
  else none

def hexUnit (a b c d : Char) : Option Nat := do
  let a ← hexDigit a
  let b ← hexDigit b
  let c ← hexDigit c
  let d ← hexDigit d
  pure (((a * 16 + b) * 16 + c) * 16 + d)

/-- The fault of a `\u` without four hexadecimal digits: a text of fewer than four bytes is too
short, any other has a wrong digit. -/
def unitFault (rest : List Char) : Fault :=
  if rest.foldl (fun n c => n + c.utf8Size) 0 < 4 then .truncated else .malformed

def push (p : Piece) (width : Nat) (r : Literal × Nat) : Literal × Nat :=
  (⟨p :: r.1.pieces, r.1.ending⟩, r.2 + width)

def stop (f : Fault) : Literal × Nat := (⟨[], some f⟩, 0)

/-- The literal whose opening quote stands before a text, and how many characters it takes. -/
def scan : List Char → Literal × Nat
  | [] => stop .truncated
  | '"' :: _ => (⟨[], none⟩, 1)
  | ['\\'] => stop .truncated
  | '\\' :: 'u' :: a :: b :: c :: d :: rest =>
    match hexUnit a b c d with
    | some n => push (.unit n) 6 (scan rest)
    | none => stop .malformed
  | '\\' :: 'u' :: rest => stop (unitFault rest)
  | '\\' :: e :: rest =>
    match unescape e with
    | some c => push (.char c) 2 (scan rest)
    | none => stop .malformed
  | c :: rest => if c.toNat < 0x20 then stop .malformed else push (.char c) 1 (scan rest)

def isHigh (n : Nat) : Bool := 0xD800 ≤ n && n ≤ 0xDBFF

def isLow (n : Nat) : Bool := 0xDC00 ≤ n && n ≤ 0xDFFF

def pair (high low : Nat) : Char := Char.ofNat (0x10000 + (high - 0xD800) * 1024 + (low - 0xDC00))

/-- The characters that pieces stand for; a surrogate outside a pair is malformed, unless the
literal breaks off right after a high one, which is then the fault. -/
def decodePieces (ending : Option Fault) : List Piece → Except Fault (List Char)
  | [] => match ending with
    | some f => throw f
    | none => pure []
  | .char c :: rest => return c :: (← decodePieces ending rest)
  | .unit n :: rest =>
    if isHigh n then
      match rest with
      | .unit m :: rest =>
        if isLow m then return pair n m :: (← decodePieces ending rest) else throw .malformed
      | [] => throw (ending.getD .malformed)
      | _ => throw .malformed
    else if isLow n then throw .malformed
    else return Char.ofNat n :: (← decodePieces ending rest)

/-- The text of a literal in a full reading. -/
def text (t : Literal) : Except Fault String := do
  return String.ofList (← decodePieces t.ending t.pieces)

end Literal
end QueryBuilder.Json
