import Mathlib.Data.List.Induction
import QueryBuilder.Param.Key
import QueryBuilder.Proofs.Json.Numeral

/-! Keys that a text denotes. Positions are spelled in decimal digits, and every other text is a
name. The text of a key that some text denotes denotes the key again, so the texts of two of them
differ.
-/
namespace QueryBuilder.Param.Key
open Json.Numeral (IsDigits exists_cons_of_isDigits)

/-- Decimal digits and the number that they denote. -/
inductive Digits : List Char → Nat → Prop
  | single {d : Nat} (small : d < 10) : Digits [Nat.digitChar d] d
  | append {cs : List Char} {n d : Nat} (front : Digits cs n) (small : d < 10) :
      Digits (cs ++ [Nat.digitChar d]) (10 * n + d)

theorem Digits.isDigits {cs : List Char} {n : Nat} (h : Digits cs n) : IsDigits cs := by
  induction h with
  | single small =>
    refine ⟨List.cons_ne_nil _ _, List.forall_mem_singleton.2 ?_⟩
    simpa using small
  | append front small ih =>
    refine ⟨by simp, List.forall_mem_append.2 ⟨ih.2, List.forall_mem_singleton.2 ?_⟩⟩
    simpa using small

theorem numberOf_append_singleton (cs : List Char) (c : Char) :
    numberOf (cs ++ [c]) = 10 * numberOf cs + (c.toNat - 48) := List.foldl_append

theorem Digits.numberOf_eq {cs : List Char} {n : Nat} (h : Digits cs n) : numberOf cs = n := by
  induction h with
  | single small =>
    rw [← List.nil_append [_], numberOf_append_singleton,
      Nat.toNat_digitChar_sub_48_of_lt_ten small]
    exact Nat.zero_add _
  | append front small ih =>
    rw [numberOf_append_singleton, ih, Nat.toNat_digitChar_sub_48_of_lt_ten small]

theorem exists_digitChar_of_isDigit {c : Char} (h : c.isDigit = true) :
    ∃ d < 10, c = Nat.digitChar d := by
  obtain ⟨low, high⟩ := Char.isDigit_iff_toNat.1 h
  change 48 ≤ c.toNat at low
  change c.toNat ≤ 57 at high
  refine ⟨c.toNat - 48, by omega, Char.toNat_inj.1 ?_⟩
  rw [Nat.toNat_digitChar_of_lt_ten (by omega)]
  omega

theorem exists_digits {cs : List Char} (h : IsDigits cs) : ∃ n, Digits cs n := by
  obtain ⟨nonempty, all⟩ := h
  -- The digits are read from the left, so the last one is taken off.
  induction cs using List.reverseRecOn with
  | nil => contradiction
  | append_singleton front c ih =>
    obtain ⟨before, last⟩ := List.forall_mem_append.1 all
    obtain ⟨d, small, rfl⟩ := exists_digitChar_of_isDigit (last c (List.mem_singleton_self c))
    cases front with
    | nil => exact ⟨d, .single small⟩
    | cons e more =>
      obtain ⟨n, digits⟩ := ih (List.cons_ne_nil e more) before
      exact ⟨10 * n + d, digits.append small⟩

/-- The text is decimal digits, behind a plus sign or alone, of a number below the limit. -/
def Spells (text : String) (n : Nat) : Prop :=
  n < 18446744073709551616 ∧ ∃ cs, (text.toList = cs ∨ text.toList = '+' :: cs) ∧ Digits cs n

theorem position?_of_isDigits {text : String} {cs : List Char}
    (spelled : text.toList = cs ∨ text.toList = '+' :: cs) (digits : IsDigits cs) :
    position? text = if numberOf cs < positionLimit then some (numberOf cs) else none := by
  obtain ⟨c, more, rfl, digit⟩ := exists_cons_of_isDigits digits
  have unsigned : c ≠ '+' := by
    rintro rfl
    cases digit
  have all := List.all_eq_true.2 digits.2
  unfold position?
  rcases spelled with alone | signed
  · simp [alone, unsigned, all]
  · simp [signed, all]

theorem exists_isDigits_of_position? {text : String} {n : Nat} (h : position? text = some n) :
    n < positionLimit ∧
      ∃ cs, (text.toList = cs ∨ text.toList = '+' :: cs) ∧ IsDigits cs ∧ numberOf cs = n := by
  unfold position? at h
  extract_lets digits at h
  have spelled : text.toList = digits ∨ text.toList = '+' :: digits := by
    unfold digits
    split <;> simp [*]
  split at h
  · next filled =>
    split at h
    · next small =>
      obtain rfl := Option.some.inj h
      exact ⟨small, digits, spelled, ⟨filled.1, List.all_eq_true.1 filled.2⟩, rfl⟩
    · contradiction
  · contradiction

theorem position?_eq_some_iff {text : String} {n : Nat} :
    position? text = some n ↔ Spells text n := by
  constructor
  · intro position
    obtain ⟨small, cs, spelled, digits, rfl⟩ := exists_isDigits_of_position? position
    obtain ⟨m, denoted⟩ := exists_digits digits
    exact ⟨small, cs, spelled, denoted.numberOf_eq ▸ denoted⟩
  · rintro ⟨small, cs, spelled, digits⟩
    rw [position?_of_isDigits spelled digits.isDigits, digits.numberOf_eq]
    exact if_pos small

/-- A text denotes a position just when it is decimal digits, behind a plus sign or alone, of a
number below the limit. Every other text is a name, as it stands. -/
theorem denotes_position_iff (text : String) :
    (∀ n, ofText text = .positional n ↔ Spells text n) ∧
      ∀ name, ofText text = .named name ↔ name = text ∧ ∀ n, ¬ Spells text n := by
  simp only [← position?_eq_some_iff]
  unfold ofText
  cases position? text with
  | none => simp [eq_comm]
  | some m => simp

theorem plus_sign_denotes_position :
    ofText "+7" = .positional 7 ∧ ofText "+7" ≠ .named "+7" ∧ ∀ n, ¬ Digits "+7".toList n := by
  refine ⟨by decide, by decide, fun n digits => ?_⟩
  have sign : '+'.isDigit = true := digits.isDigits.2 '+' (by decide)
  contradiction

/-- A key that some text denotes: a position below the limit, or a name that is no position. -/
def Canonical (k : Key) : Prop := ∃ text, ofText text = k

theorem numberOf_toDigits (n : Nat) : numberOf (Nat.toDigits 10 n) = n := by
  have read := Nat.ofDigitChars_ten_toDigits (n := n)
  rwa [Nat.ofDigitChars_eq_foldl] at read

theorem position?_toString {n : Nat} (h : n < positionLimit) : position? (toString n) = some n := by
  have text : (toString n).toList = Nat.toDigits 10 n := by
    rw [Nat.toString_eq_repr, Nat.toList_repr]
  have digits : IsDigits (Nat.toDigits 10 n) :=
    ⟨Nat.toDigits_ne_nil, fun _ => Nat.isDigit_of_mem_toDigits (by omega) (by omega)⟩
  rw [position?_of_isDigits (.inl text) digits, numberOf_toDigits, if_pos h]

theorem ofText_text {k : Key} (h : k.Canonical) : ofText k.text = k := by
  obtain ⟨text, rfl⟩ := h
  cases position : position? text with
  | none => simp only [ofText, position, Key.text]
  | some n =>
    have again := position?_toString (exists_isDigits_of_position? position).1
    simp only [ofText, position, Key.text, again]

end QueryBuilder.Param.Key
