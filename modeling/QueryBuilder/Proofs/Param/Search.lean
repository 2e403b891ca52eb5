import Mathlib.Order.Bounds.Defs
import QueryBuilder.Proofs.Param.Fresh

/-! The search for a free key, pass by pass and with no limit on the passes. It always ends, after
at most one pass more than the table has keys, and it passes over bound keys only.
-/
namespace QueryBuilder.Param.Fresh

/-- The source after its next number is used. -/
def advance (f : Fresh) : Fresh := { f with next := f.next + 1 }

/-- A search that uses one number a pass and ends in the first pass whose key the table does not
bind. It ends for that reason alone. -/
inductive Finds (t : Table) : Fresh → Nat → Key → Fresh → Prop
  | free {f : Fresh} (unbound : key f.stem f.next ∉ t.keys) :
      Finds t f 1 (key f.stem f.next) f.advance
  | taken {f g : Fresh} {passes : Nat} {k : Key} (bound : key f.stem f.next ∈ t.keys)
      (rest : Finds t f.advance passes k g) : Finds t f (passes + 1) k g

theorem Finds.unique {t : Table} {f g h : Fresh} {m n : Nat} {k l : Key} (first : Finds t f m k g)
    (second : Finds t f n l h) : m = n ∧ k = l ∧ g = h := by
  induction first generalizing n with
  | free unbound =>
    cases second with
    | free => exact ⟨rfl, rfl, rfl⟩
    | taken bound => exact absurd bound unbound
  | taken bound _ ih =>
    cases second with
    | free unbound => exact absurd bound unbound
    | taken _ rest =>
      obtain ⟨rfl, rfl, rfl⟩ := ih rest
      exact ⟨rfl, rfl, rfl⟩

/-- Bound keys of the next numbers are passed over, and the free key behind them is found. -/
theorem finds_of_bound {t : Table} {f : Fresh} {skipped : Nat}
    (bound : ∀ i < skipped, key f.stem (f.next + i) ∈ t.keys)
    (unbound : key f.stem (f.next + skipped) ∉ t.keys) :
    Finds t f (skipped + 1) (key f.stem (f.next + skipped)) ⟨f.stem, f.next + skipped + 1⟩ := by
  induction skipped generalizing f with
  | zero => exact .free unbound
  | succ skipped ih =>
    -- After the first pass the same numbers are counted from the next one on.
    have shift (i : Nat) : f.next + (i + 1) = f.advance.next + i := by
      simp only [advance]
      omega
    rw [shift] at unbound ⊢
    refine .taken (bound 0 (Nat.succ_pos _)) (ih (f := f.advance) ?_ unbound)
    intro i small
    rw [← shift]
    exact bound (i + 1) (Nat.succ_lt_succ small)

theorem mem_keys_of_lt_search {t : Table} {stem : String} {tries n m : Nat} (low : n ≤ m)
    (high : m < search t stem tries n) : key stem m ∈ t.keys := by
  induction tries generalizing n with
  | zero => exact absurd high (Nat.not_lt.2 low)
  | succ tries ih =>
    rw [search] at high
    split at high
    · next bound =>
      by_cases same : m = n
      · rw [same]
        exact OrderedMap.contains_iff.1 bound
      · exact ih (by omega) high
    · exact absurd high (Nat.not_lt.2 low)

theorem isLeast_nextFree (f : Fresh) (t : Table) :
    IsLeast {n | f.next ≤ n ∧ key f.stem n ∉ t.keys} (f.nextFree t) := by
  refine ⟨⟨le_nextFree f t, nextFree_not_mem f t⟩, ?_⟩
  rintro m ⟨low, unbound⟩
  by_contra before
  exact unbound (mem_keys_of_lt_search low (Nat.lt_of_not_le before))

theorem nextFree_le (f : Fresh) (t : Table) : f.nextFree t ≤ f.next + t.size := by
  obtain ⟨m, low, high, free⟩ := exists_free t f.stem f.next
  have unbound : key f.stem m ∉ t.keys := by
    rw [← OrderedMap.contains_iff, free]
    exact Bool.false_ne_true
  exact Nat.le_trans ((isLeast_nextFree f t).2 ⟨low, unbound⟩) high

/-- The key that is taken has the least unused number whose key is free. The search for it, which
no count of passes cuts short, ends within one pass more than the table has keys. -/
theorem take_least_free (f : Fresh) (t : Table) :
    ∃ m, IsLeast {n | f.next ≤ n ∧ key f.stem n ∉ t.keys} m ∧
      f.take t = (.named (f.stem ++ toString m), ⟨f.stem, m + 1⟩) ∧
      ∃ passes ≤ t.size + 1, ∀ n k g, Finds t f n k g ↔ n = passes ∧ (k, g) = f.take t := by
  have least := isLeast_nextFree f t
  obtain ⟨skipped, reached⟩ := Nat.exists_eq_add_of_le (le_nextFree f t)
  have few := nextFree_le f t
  have found : Finds t f (skipped + 1) (f.take t).1 (f.take t).2 := by
    have bound : ∀ i < skipped, key f.stem (f.next + i) ∈ t.keys := fun i small =>
      mem_keys_of_lt_search (Nat.le_add_right ..) (by rw [← nextFree, reached]; omega)
    have ended := finds_of_bound bound (reached ▸ nextFree_not_mem f t)
    rwa [← reached] at ended
  refine ⟨f.nextFree t, least, rfl, skipped + 1, by omega, fun n k g => ?_⟩
  constructor
  · intro ended
    obtain ⟨same, rfl, rfl⟩ := ended.unique found
    exact ⟨same, rfl⟩
  · rintro ⟨rfl, same⟩
    rwa [← same] at found

-- The digits of a stem are no part of the number.
example : (⟨"AP1", 0⟩ : Fresh).take (.ofValues [(.named "AP10", .null), (.named "AP2", .null)]) =
    (.named "AP11", ⟨"AP1", 2⟩) := by decide

end QueryBuilder.Param.Fresh
