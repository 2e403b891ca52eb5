import QueryBuilder.Json.Reader
import QueryBuilder.Json.Writer

/-! Numbers as they are spelled. Every number is scanned whole, whatever follows that does not go on
with it. The text that is written for an integer is one of a number, and denotes the integer as long
as it fits in 64 bits.
-/
namespace QueryBuilder.Json.Numeral

/-- The digits of a natural number, the first one leading. -/
def digits (n : Nat) : List Nat := (Nat.toDigits 10 n).map fun c => c.toNat - 48

def ofInt (n : Int) : Numeral := ⟨n < 0, digits n.natAbs, none, none⟩

/-- The integers that stay integers when they are read. -/
def Fits (n : Int) : Prop := -9223372036854775808 ≤ n ∧ n < 18446744073709551616

instance : DecidablePred Fits := fun _ => inferInstanceAs (Decidable (_ ∧ _))

/-- The rest of a text does not go on with a number. -/
def Stops (rest : List Char) : Prop :=
  ∀ c ∈ rest.head?, c.isDigit = false ∧ c ≠ '.' ∧ c ≠ 'e' ∧ c ≠ 'E'

theorem stops_nil : Stops [] := fun _ h => nomatch h

theorem digits_of_lt {n : Nat} (h : n < 10) : digits n = [n] := by
  rw [digits, Nat.toDigits_of_lt_base h, List.map_singleton, Nat.toNat_digitChar_sub_48_of_lt_ten h]

theorem digits_of_le {n : Nat} (h : 10 ≤ n) : digits n = digits (n / 10) ++ [n % 10] := by
  have last := Nat.toNat_digitChar_sub_48_of_lt_ten (Nat.mod_lt n (by omega : 10 > 0))
  rw [digits, Nat.toDigits_of_base_le (by omega) h, List.map_append, List.map_singleton, last,
    digits]

theorem digits_ne_nil (n : Nat) : digits n ≠ [] := by
  rw [digits, ne_eq, List.map_eq_nil_iff]
  exact Nat.toDigits_ne_nil

theorem length_digits (n : Nat) : (digits n).length = (Nat.toDigits 10 n).length :=
  List.length_map _

theorem head?_digits_ne_zero {n : Nat} (h : n ≠ 0) : (digits n).head? ≠ some 0 := by
  -- The last digit is taken off, so the leading one is that of a smaller number.
  induction n using Nat.strongRecOn with
  | ind n ih =>
    by_cases small : n < 10
    · rw [digits_of_lt small]
      exact fun head => h (Option.some.inj head)
    · have rest := ih (n / 10) (by omega) (by omega)
      rw [digits_of_le (by omega)]
      cases leading : digits (n / 10) with
      | nil => exact absurd leading (digits_ne_nil _)
      | cons d ds => rwa [leading] at rest

theorem no_leading_zero (n : Nat) : ¬ ((digits n).head? = some 0 ∧ 1 < (digits n).length) := by
  rintro ⟨head, long⟩
  by_cases zero : n = 0
  · subst zero
    exact absurd long (by decide)
  · exact head?_digits_ne_zero zero head

theorem ofDigits_digits (n : Nat) : ofDigits (digits n) = n := by
  have read := Nat.ofDigitChars_ten_toDigits (n := n)
  rw [Nat.ofDigitChars_eq_foldl] at read
  rw [ofDigits, digits, List.foldl_map]
  exact read

theorem le_foldl_digits (m : Nat) (ds : List Nat) :
    m ≤ ds.foldl (fun n d => 10 * n + d) m := by
  induction ds generalizing m with
  | nil => exact Nat.le_refl m
  | cons d ds ih =>
    have more := ih (10 * m + d)
    rw [List.foldl_cons]
    omega

theorem fill_of_lt {m : Nat} {ds : List Nat}
    (h : ds.foldl (fun n d => 10 * n + d) m < wordLimit) :
    fill m ds = (ds.foldl (fun n d => 10 * n + d) m, 0) := by
  induction ds generalizing m with
  | nil => rfl
  | cons d ds ih =>
    have more := le_foldl_digits (10 * m + d) ds
    rw [List.foldl_cons] at h ⊢
    rw [fill, Nat.mul_comm m 10, if_pos (by omega), ih h]

theorem fill_digits {m : Nat} (h : m < wordLimit) : fill 0 (digits m) = (m, 0) := by
  have all := ofDigits_digits m
  rw [ofDigits] at all
  rw [fill_of_lt (by rwa [all]), all]

theorem value_positive {m : Nat} (h : m < wordLimit) :
    (⟨false, digits m, none, none⟩ : Numeral).value = some (.int m) := by
  simp [value, fill_digits h]

theorem value_negative {m : Nat} (h : 0 < m) (half : 2 * m ≤ wordLimit) :
    (⟨true, digits m, none, none⟩ : Numeral).value = some (.int (-m)) := by
  simp [value, fill_digits (by omega : m < wordLimit), h, half]

theorem value_ofInt {n : Int} (h : Fits n) : (ofInt n).value = some (.int n) := by
  obtain ⟨low, high⟩ := h
  have word : wordLimit = 18446744073709551616 := rfl
  by_cases sign : n < 0
  · have same : -(n.natAbs : Int) = n := by omega
    rw [ofInt, decide_eq_true sign, value_negative (by omega) (by omega), same]
  · have same : (n.natAbs : Int) = n := by omega
    rw [ofInt, decide_eq_false sign, value_positive (by omega), same]

theorem read_ofInt {n : Int} (h : Fits n) : (ofInt n).read = .ok (.int n) := by
  rw [Numeral.read, value_ofInt h]

def IsDigits (cs : List Char) : Prop := cs ≠ [] ∧ ∀ c ∈ cs, c.isDigit = true

def digitValues (cs : List Char) : List Nat := cs.map fun c => c.toNat - 48

/-- The text of a fraction: a point and digits, or nothing. -/
inductive FractionText : List Char → Option (List Nat) → Prop
  | none : FractionText [] none
  | some {ds : List Char} (digits : IsDigits ds) : FractionText ('.' :: ds) (some (digitValues ds))

/-- The text of an exponent: its mark, a sign or none, and digits, or nothing. -/
inductive ExponentText : List Char → Option (Bool × List Nat) → Prop
  | none : ExponentText [] none
  | unsigned {e : Char} {ds : List Char} (mark : e = 'e' ∨ e = 'E') (digits : IsDigits ds) :
      ExponentText (e :: ds) (some (false, digitValues ds))
  | signed {e s : Char} {ds : List Char} (mark : e = 'e' ∨ e = 'E') (sign : s = '+' ∨ s = '-')
      (digits : IsDigits ds) : ExponentText (e :: s :: ds) (some (s = '-', digitValues ds))

/-- The text of a number without its sign. A whole part of more than one digit does not start with
zero. -/
inductive UnsignedText : List Char → List Nat → Option (List Nat) → Option (Bool × List Nat) → Prop
  | mk {whole fraction exponent : List Char} {f : Option (List Nat)} {e : Option (Bool × List Nat)}
      (digits : IsDigits whole) (leading : whole.head? = some '0' → whole.length = 1)
      (fractional : FractionText fraction f) (scaled : ExponentText exponent e) :
      UnsignedText (whole ++ (fraction ++ exponent)) (digitValues whole) f e

inductive Spelled : List Char → Numeral → Prop
  | positive {cs : List Char} {whole : List Nat} {f : Option (List Nat)}
      {e : Option (Bool × List Nat)} (h : UnsignedText cs whole f e) :
      Spelled cs ⟨false, whole, f, e⟩
  | negative {cs : List Char} {whole : List Nat} {f : Option (List Nat)}
      {e : Option (Bool × List Nat)} (h : UnsignedText cs whole f e) :
      Spelled ('-' :: cs) ⟨true, whole, f, e⟩

theorem length_digitValues (cs : List Char) : (digitValues cs).length = cs.length :=
  List.length_map _

theorem digitValues_ne_nil {cs : List Char} (h : IsDigits cs) : digitValues cs ≠ [] := by
  rw [digitValues, ne_eq, List.map_eq_nil_iff]
  exact h.1

theorem digitsAt_append {ds rest : List Char} (h : IsDigits ds)
    (ends : ∀ c ∈ rest.head?, c.isDigit = false) : digitsAt (ds ++ rest) = digitValues ds := by
  have none : rest.takeWhile Char.isDigit = [] := by
    cases rest with
    | nil => rfl
    | cons c rest => exact List.takeWhile_cons_of_neg (by simp [ends c rfl])
  rw [digitsAt, List.takeWhile_append_of_pos h.2, none, List.append_nil, digitValues]

theorem exists_cons_of_isDigits {ds : List Char} (h : IsDigits ds) :
    ∃ c more, ds = c :: more ∧ c.isDigit = true := by
  obtain ⟨some, all⟩ := h
  obtain ⟨c, more, rfl⟩ := List.exists_cons_of_ne_nil some
  exact ⟨c, more, rfl, all c List.mem_cons_self⟩

variable {cs whole fraction exponent rest : List Char} {f : Option (List Nat)}
  {e : Option (Bool × List Nat)}

theorem scanExponent_of_stops {rest : List Char} (h : Stops rest) :
    scanExponent rest = .ok (none, 0) := by
  cases rest with
  | nil => rfl
  | cons c rest =>
    obtain ⟨-, -, e, E⟩ := h c rfl
    simp [scanExponent, e, E]

theorem not_isDigit_of_mark {c : Char} (h : c = 'e' ∨ c = 'E') : c.isDigit = false ∧ c ≠ '.' := by
  rcases h with rfl | rfl <;> exact ⟨rfl, by decide⟩

theorem head?_exponent (h : ExponentText exponent e) (stops : Stops rest) :
    ∀ c ∈ (exponent ++ rest).head?, c.isDigit = false ∧ c ≠ '.' := by
  rintro c head
  cases h with
  | none =>
    obtain ⟨digit, point, -⟩ := stops c head
    exact ⟨digit, point⟩
  | unsigned mark _ | signed mark _ _ =>
    obtain rfl := Option.some.inj head
    exact not_isDigit_of_mark mark

/-- After its mark an exponent is read as its digits are, with the sign before them or without. -/
theorem scanExponent_marked {m : Char} {cs body : List Char} {values : List Nat}
    (mark : m = 'e' ∨ m = 'E')
    (signed : body = if (cs.head? = some '-' || cs.head? = some '+') then cs.tail else cs)
    (read : digitsAt body = values) (given : values ≠ []) :
    scanExponent (m :: cs) = .ok (some (cs.head? = some '-', values),
      values.length + if (cs.head? = some '-' || cs.head? = some '+') then 2 else 1) := by
  obtain ⟨d, ds, rfl⟩ := List.exists_cons_of_ne_nil given
  have start : (m = 'e' || m = 'E') = true := by simpa using mark
  rw [scanExponent, if_pos start]
  simp only [← signed, read]

theorem scanExponent_append (h : ExponentText exponent e) (stops : Stops rest) :
    scanExponent (exponent ++ rest) = .ok (e, exponent.length) := by
  have ends : ∀ c ∈ rest.head?, c.isDigit = false := fun c head => (stops c head).1
  cases h with
  | none => exact scanExponent_of_stops stops
  | @unsigned _ ds mark digits =>
    have read := digitsAt_append digits ends
    obtain ⟨c, more, rfl, digit⟩ := exists_cons_of_isDigits digits
    have unsigned : c ≠ '-' ∧ c ≠ '+' := by constructor <;> (rintro rfl; cases digit)
    rw [List.cons_append, scanExponent_marked mark (by simp [unsigned]) read
      (digitValues_ne_nil digits)]
    simp [unsigned, length_digitValues]
  | @signed _ s ds mark sign digits =>
    have read := digitsAt_append digits ends
    have sign := sign.symm
    rw [List.cons_append, List.cons_append, scanExponent_marked mark (by simp [sign]) read
      (digitValues_ne_nil digits)]
    simp [sign, length_digitValues]

theorem scanFraction_append (h : FractionText fraction f)
    (ends : ∀ c ∈ rest.head?, c.isDigit = false ∧ c ≠ '.') :
    scanFraction (fraction ++ rest) = .ok (f, fraction.length) := by
  cases h with
  | none =>
    cases rest with
    | nil => rfl
    | cons c rest => simp [scanFraction, (ends c rfl).2]
  | @some ds digits =>
    have read := digitsAt_append digits fun c head => (ends c head).1
    have count := length_digitValues ds
    obtain ⟨d, more, values⟩ := List.exists_cons_of_ne_nil (digitValues_ne_nil digits)
    rw [values] at read count
    simp only [List.cons_append, scanFraction, read, values]
    rw [count, List.length_cons]

theorem head?_fraction (h : FractionText fraction f)
    (ends : ∀ c ∈ rest.head?, c.isDigit = false ∧ c ≠ '.') :
    ∀ c ∈ (fraction ++ rest).head?, c.isDigit = false := by
  rintro c head
  cases h with
  | none => exact (ends c head).1
  | some _ =>
    obtain rfl := Option.some.inj head
    rfl

theorem no_leading_zero_of_digits (digits : IsDigits whole)
    (leading : whole.head? = some '0' → whole.length = 1) :
    ¬ ((digitValues whole).head? = some 0 ∧ 1 < (digitValues whole).length) := by
  obtain ⟨c, more, rfl, digit⟩ := exists_cons_of_isDigits digits
  rintro ⟨zero, long⟩
  have low : 48 ≤ c.toNat := (Char.isDigit_iff_toNat.1 digit).1
  have value : c.toNat - 48 = 0 := Option.some.inj zero
  have same : c = '0' := Char.toNat_inj.1 (show c.toNat = 48 by omega)
  rw [length_digitValues, leading (congrArg some same)] at long
  contradiction

theorem exists_cons_of_unsigned {ws : List Nat} (h : UnsignedText cs ws f e) :
    ∃ c more, cs = c :: more ∧ c.isDigit = true := by
  obtain ⟨digits, -, -, -⟩ := h
  obtain ⟨c, more, rfl, digit⟩ := exists_cons_of_isDigits digits
  exact ⟨c, _, rfl, digit⟩

theorem exists_cons_of_spelled {n : Numeral} (h : Spelled cs n) :
    ∃ c more, cs = c :: more ∧ (c = '-' ∨ c.isDigit = true) := by
  cases h with
  | positive h =>
    obtain ⟨c, more, rfl, digit⟩ := exists_cons_of_unsigned h
    exact ⟨c, more, rfl, .inr digit⟩
  | negative h => exact ⟨'-', _, rfl, .inl rfl⟩

theorem scan_unsigned {cs body : List Char} {ws : List Nat} (h : UnsignedText body ws f e)
    (stops : Stops rest)
    (signed : (if cs.head? = some '-' then cs.tail else cs) = body ++ rest) :
    Numeral.scan cs = .ok (⟨cs.head? = some '-', ws, f, e⟩,
      (if cs.head? = some '-' then 1 else 0) + body.length) := by
  obtain ⟨digits, leading, fractional, scaled⟩ := h
  rename_i whole fraction exponent
  have ends := head?_exponent scaled stops
  have wholeRead := digitsAt_append digits (head?_fraction fractional ends)
  have after : (whole ++ (fraction ++ (exponent ++ rest))).drop (digitValues whole).length =
      fraction ++ (exponent ++ rest) := by
    rw [length_digitValues, List.drop_left]
  have fractionRead := scanFraction_append fractional ends
  have exponentRead := scanExponent_append scaled stops
  rw [List.append_assoc, List.append_assoc] at signed
  simp only [scan, signed, wholeRead, after, if_neg (digitValues_ne_nil digits),
    if_neg (no_leading_zero_of_digits digits leading), fractionRead]
  change (scanExponent ((fraction ++ (exponent ++ rest)).drop fraction.length) >>= _) = _
  rw [List.drop_left, exponentRead]
  change Except.ok _ = Except.ok _
  simp [length_digitValues, Nat.add_assoc]

theorem scan_append {n : Numeral} (h : Spelled cs n) (stops : Stops rest) :
    Numeral.scan (cs ++ rest) = .ok (n, cs.length) := by
  cases h with
  | positive h =>
    have head : (cs ++ rest).head? ≠ some '-' := by
      obtain ⟨c, more, rfl, digit⟩ := exists_cons_of_unsigned h
      rintro ⟨⟩
      cases digit
    rw [scan_unsigned h stops (if_neg head), decide_eq_false head, if_neg head, Nat.zero_add]
  | negative h =>
    rw [List.cons_append, scan_unsigned h stops rfl]
    simp [Nat.add_comm]

theorem exists_toDigits (n : Nat) :
    ∃ c more, Nat.toDigits 10 n = c :: more ∧ c.isDigit = true := by
  cases text : Nat.toDigits 10 n with
  | nil => exact absurd text Nat.toDigits_ne_nil
  | cons c more =>
    have mem : c ∈ Nat.toDigits 10 n := text ▸ List.mem_cons_self
    exact ⟨c, more, rfl, Nat.isDigit_of_mem_toDigits (by omega) (by omega) mem⟩

theorem chars_of_neg {n : Int} (h : n < 0) :
    (Number.int n).chars = '-' :: Nat.toDigits 10 n.natAbs := by
  rw [Number.chars, if_pos h, List.singleton_append]

theorem chars_of_not_neg {n : Int} (h : ¬ n < 0) :
    (Number.int n).chars = Nat.toDigits 10 n.natAbs := by
  rw [Number.chars, if_neg h, List.nil_append]

theorem spelled_int (n : Int) : Spelled (Number.int n).chars (ofInt n) := by
  have whole : UnsignedText (Nat.toDigits 10 n.natAbs) (digits n.natAbs) none none := by
    obtain ⟨c, more, text, -⟩ := exists_toDigits n.natAbs
    have all : IsDigits (Nat.toDigits 10 n.natAbs) := ⟨Nat.toDigits_ne_nil, fun c mem =>
      Nat.isDigit_of_mem_toDigits (by omega) (by omega) mem⟩
    have leading : (Nat.toDigits 10 n.natAbs).head? = some '0' →
        (Nat.toDigits 10 n.natAbs).length = 1 := by
      intro zero
      have short := no_leading_zero n.natAbs
      rw [length_digits, digits, List.head?_map, zero] at short
      have long : ¬ 1 < (Nat.toDigits 10 n.natAbs).length := fun long => short ⟨rfl, long⟩
      rw [text, List.length_cons] at long ⊢
      omega
    have text := UnsignedText.mk all leading .none .none
    rwa [List.append_nil, List.append_nil] at text
  by_cases sign : n < 0
  · rw [chars_of_neg sign, ofInt, decide_eq_true sign]
    exact .negative whole
  · rw [chars_of_not_neg sign, ofInt, decide_eq_false sign]
    exact .positive whole

end QueryBuilder.Json.Numeral
