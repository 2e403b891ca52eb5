import QueryBuilder.Json.Reader
import QueryBuilder.Json.Writer

/-! Text literals as they are spelled. A literal is scanned up to its closing quote, whatever
follows, and the one that is written for a text stands for that text.
-/
namespace QueryBuilder.Json

/-- What a written character is scanned as: a code unit if it is written by number. -/
def Piece.written (c : Char) : Piece :=
  match escape c with
  | _ :: _ :: _ :: _ => .unit c.toNat
  | _ => .char c

namespace Literal

def ofText (s : String) : Literal := ⟨s.toList.map Piece.written, none⟩

theorem hexDigit_digitChar {n : Nat} (h : n < 16) : hexDigit (Nat.digitChar n) = some n := by
  have all : ∀ n < 16, hexDigit (Nat.digitChar n) = some n := by decide
  exact all n h

theorem hexUnit_of_control {c : Char} (h : c.toNat < 0x20) :
    hexUnit '0' '0' (Nat.digitChar (c.toNat / 16)) (Nat.digitChar (c.toNat % 16)) =
      some c.toNat := by
  have zero : hexDigit '0' = some 0 := rfl
  have high := hexDigit_digitChar (n := c.toNat / 16) (by omega)
  have low := hexDigit_digitChar (n := c.toNat % 16) (by omega)
  simp only [hexUnit, zero, high, low]
  change some _ = some _
  congr 1
  omega

theorem scan_short {e c : Char} (h : unescape e = some c) (rest : List Char) :
    scan ('\\' :: e :: rest) = push (.char c) 2 (scan rest) := by
  have letter : e ≠ 'u' := by rintro rfl; cases h
  simp [scan, letter, h]

theorem scan_raw {c : Char} (quote : c ≠ '"') (backslash : c ≠ '\\') (h : ¬ c.toNat < 0x20)
    (rest : List Char) : scan (c :: rest) = push (.char c) 1 (scan rest) := by
  simp [scan, backslash, h]

/-- How a character is written: by a short escape, by number if it is a control, or as it is. -/
theorem escape_cases (c : Char) :
    (∃ e, escape c = ['\\', e] ∧ unescape e = some c) ∨
    (c.toNat < 0x20 ∧ escape c =
      ['\\', 'u', '0', '0', Nat.digitChar (c.toNat / 16), Nat.digitChar (c.toNat % 16)]) ∨
    (c ≠ '"' ∧ c ≠ '\\' ∧ ¬ c.toNat < 0x20 ∧ escape c = [c]) := by
  unfold escape
  split
  case h_8 _ quote backslash _ _ _ _ _ =>
    by_cases control : c.toNat < 0x20
    · exact .inr (.inl ⟨control, if_pos control⟩)
    · exact .inr (.inr ⟨quote, backslash, control, if_neg control⟩)
  all_goals exact .inl ⟨_, rfl, rfl⟩

theorem written_cases (c : Char) :
    Piece.written c = .char c ∨ Piece.written c = .unit c.toNat ∧ c.toNat < 0x20 := by
  obtain ⟨e, short, -⟩ | ⟨control, number⟩ | ⟨-, -, -, raw⟩ := escape_cases c
  · exact .inl (by simp only [Piece.written, short])
  · exact .inr ⟨by simp only [Piece.written, number], control⟩
  · exact .inl (by simp only [Piece.written, raw])

/-- The text of a literal between its quotes. A character stands as it is, by a short escape, or as
a code unit of four hexadecimal digits. -/
inductive Spelled : List Char → List Piece → Prop
  | nil : Spelled [] []
  | raw {c : Char} {cs : List Char} {ps : List Piece} (quote : c ≠ '"') (backslash : c ≠ '\\')
      (printed : ¬ c.toNat < 0x20) (h : Spelled cs ps) : Spelled (c :: cs) (.char c :: ps)
  | short {e c : Char} {cs : List Char} {ps : List Piece} (known : unescape e = some c)
      (h : Spelled cs ps) : Spelled ('\\' :: e :: cs) (.char c :: ps)
  | unit {a b c d : Char} {n : Nat} {cs : List Char} {ps : List Piece}
      (digits : hexUnit a b c d = some n) (h : Spelled cs ps) :
      Spelled ('\\' :: 'u' :: a :: b :: c :: d :: cs) (.unit n :: ps)

theorem scan_append {cs : List Char} {ps : List Piece} (h : Spelled cs ps) (rest : List Char) :
    scan (cs ++ '"' :: rest) = (⟨ps, none⟩, cs.length + 1) := by
  induction h with
  | nil => rfl
  | raw quote backslash printed _ ih =>
    rw [List.cons_append, scan_raw quote backslash printed, ih]
    rfl
  | short known _ ih =>
    rw [List.cons_append, List.cons_append, scan_short known, ih]
    rfl
  | unit digits _ ih =>
    simp only [List.cons_append, scan, digits, ih]
    rfl

theorem Spelled.escape {cs : List Char} {ps : List Piece} (h : Spelled cs ps) (c : Char) :
    Spelled (escape c ++ cs) (Piece.written c :: ps) := by
  obtain ⟨e, short, unescaped⟩ | ⟨control, number⟩ | ⟨quote, backslash, printed, raw⟩ :=
    escape_cases c
  · simp only [Piece.written, short]
    exact .short unescaped h
  · simp only [Piece.written, number]
    exact .unit (hexUnit_of_control control) h
  · simp only [Piece.written, raw]
    exact .raw quote backslash printed h

theorem spelled_text (s : List Char) : Spelled (s.flatMap escape) (s.map Piece.written) := by
  induction s with
  | nil => exact .nil
  | cons c s ih => exact ih.escape c

theorem decodePieces_unit {n : Nat} (high : isHigh n = false) (low : isLow n = false)
    (ending : Option Fault) (rest : List Piece) :
    decodePieces ending (.unit n :: rest) =
      (decodePieces ending rest).map fun cs => Char.ofNat n :: cs := by
  rw [decodePieces.eq_def]
  simp only [high, low]
  rfl

theorem decodePieces_written (s : List Char) :
    decodePieces none (s.map Piece.written) = .ok s := by
  induction s with
  | nil => rfl
  | cons c s ih =>
    -- Only controls are written by number, and none of them is half of a pair.
    obtain written | ⟨written, control⟩ := written_cases c
    · simp only [List.map_cons, written, decodePieces, ih]
      rfl
    · have high : isHigh c.toNat = false := by simp [isHigh]; omega
      have low : isLow c.toNat = false := by simp [isLow]; omega
      rw [List.map_cons, written, decodePieces_unit high low, ih, Char.ofNat_toNat]
      rfl

@[simp] theorem read_ofText (s : String) : (ofText s).read = .ok s := by
  simp only [read, text, ofText, decodePieces_written]
  change Except.ok (String.ofList s.toList) = .ok s
  rw [String.ofList_toList]

end Literal
end QueryBuilder.Json
