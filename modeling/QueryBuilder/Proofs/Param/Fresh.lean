import Mathlib.Data.List.Perm.Subperm
import QueryBuilder.Param.Fresh
import QueryBuilder.Proofs.OrderedMap

/-! Generated keys are free and never repeat. Numerals tell keys of one stem apart, so a search that
tries one number more than a table has keys meets a free one.
-/
namespace QueryBuilder.Param.Fresh

theorem key_injective (stem : String) : Function.Injective (key stem) := by
  intro m n same
  have texts := congrArg String.toList (Key.named.inj same)
  rw [String.toList_append, String.toList_append] at texts
  have digits : Nat.toDigits 10 m = Nat.toDigits 10 n := by
    simpa only [Nat.toString_eq_repr, Nat.toList_repr] using List.append_cancel_left texts
  have numbers := congrArg (fun ds => Nat.ofDigitChars 10 ds 0) digits
  simpa using numbers

theorem le_search (t : Table) (stem : String) (tries n : Nat) : n ≤ search t stem tries n := by
  induction tries generalizing n with
  | zero => exact Nat.le_refl n
  | succ tries ih =>
    rw [search]
    split
    · exact Nat.le_of_succ_le (ih (n + 1))
    · exact Nat.le_refl n

theorem exists_free (t : Table) (stem : String) (n : Nat) :
    ∃ m, n ≤ m ∧ m ≤ n + t.size ∧ t.contains (key stem m) = false := by
  by_contra none
  have bound : ∀ m, n ≤ m → m ≤ n + t.size → key stem m ∈ t.keys := by
    intro m low high
    by_contra absent
    have free : t.contains (key stem m) = false := by
      rwa [← Bool.not_eq_true, OrderedMap.contains_iff]
    exact none ⟨m, low, high, free⟩
  have distinct : ((List.range (t.size + 1)).map fun i => key stem (n + i)).Nodup :=
    List.nodup_range.map fun i j same => Nat.add_left_cancel (key_injective stem same)
  have inside : ((List.range (t.size + 1)).map fun i => key stem (n + i)) ⊆ t.keys := by
    intro k member
    obtain ⟨i, small, rfl⟩ := List.mem_map.1 member
    rw [List.mem_range] at small
    exact bound (n + i) (by omega) (by omega)
  have short := (distinct.subperm inside).length_le
  simp only [List.length_map, List.length_range, OrderedMap.keys, OrderedMap.size] at short
  omega

theorem le_nextFree (f : Fresh) (t : Table) : f.next ≤ f.nextFree t :=
  le_search t f.stem t.size f.next

theorem nextFree_not_mem (f : Fresh) (t : Table) : key f.stem (f.nextFree t) ∉ t.keys := by
  intro member
  rcases search_eq_or_taken t f.stem t.size f.next with free | taken
  · have bound := OrderedMap.contains_iff.2 member
    rw [nextFree, free] at bound
    contradiction
  · obtain ⟨m, low, high, free⟩ := exists_free t f.stem f.next
    rw [taken m low high] at free
    contradiction

/-- A source of keys has given out these keys, with numbers between two of its states. -/
structure Issues (f : Fresh) (ks : List Key) (f' : Fresh) : Prop where
  stem : f'.stem = f.stem
  next_le : f.next ≤ f'.next
  numbered : ∀ k ∈ ks, ∃ n, f.next ≤ n ∧ n < f'.next ∧ k = key f.stem n
  distinct : ks.Nodup

theorem Issues.nil (f : Fresh) : f.Issues [] f := ⟨rfl, Nat.le_refl _, by simp, List.nodup_nil⟩

/-- Keys given out later have greater numbers, so none comes twice. -/
theorem Issues.append {f g h : Fresh} {ks ls : List Key} (first : f.Issues ks g)
    (second : g.Issues ls h) : f.Issues (ks ++ ls) h := by
  have low := first.next_le
  have high := second.next_le
  refine ⟨second.stem.trans first.stem, Nat.le_trans low high, ?_, ?_⟩
  · intro k member
    rcases List.mem_append.1 member with member | member
    · obtain ⟨n, lower, upper, same⟩ := first.numbered k member
      exact ⟨n, lower, by omega, same⟩
    · obtain ⟨n, lower, upper, same⟩ := second.numbered k member
      exact ⟨n, by omega, upper, first.stem ▸ same⟩
  · refine List.nodup_append.2 ⟨first.distinct, second.distinct, ?_⟩
    intro k early l late same
    obtain ⟨m, _, upper, named⟩ := first.numbered k early
    obtain ⟨n, lower, _, renamed⟩ := second.numbered l late
    rw [first.stem] at renamed
    have equal : m = n := key_injective f.stem (named.symm.trans (same.trans renamed))
    omega

theorem issues_take (f : Fresh) (t : Table) : f.Issues [(f.take t).1] (f.take t).2 := by
  have start := le_nextFree f t
  refine ⟨rfl, Nat.le_succ_of_le start, ?_, List.nodup_singleton _⟩
  intro k member
  rw [List.mem_singleton.1 member]
  exact ⟨f.nextFree t, start, Nat.lt_succ_self _, rfl⟩

theorem takeMany_succ (f : Fresh) (t : Table) (count : Nat) :
    f.takeMany t (count + 1) =
      ((f.take t).1 :: ((f.take t).2.takeMany t count).1, ((f.take t).2.takeMany t count).2) := rfl

theorem length_takeMany (f : Fresh) (t : Table) (count : Nat) :
    (f.takeMany t count).1.length = count := by
  induction count generalizing f with
  | zero => rfl
  | succ count ih => rw [takeMany_succ, List.length_cons, ih]

theorem issues_takeMany (f : Fresh) (t : Table) (count : Nat) :
    f.Issues (f.takeMany t count).1 (f.takeMany t count).2 := by
  induction count generalizing f with
  | zero => exact .nil f
  | succ count ih => exact (issues_take f t).append (ih (f.take t).2)

theorem takeMany_not_mem {f : Fresh} {t : Table} {count : Nat} {k : Key}
    (member : k ∈ (f.takeMany t count).1) : k ∉ t.keys := by
  induction count generalizing f with
  | zero => contradiction
  | succ count ih =>
    rw [takeMany_succ] at member
    rcases List.mem_cons.1 member with rfl | later
    · exact nextFree_not_mem f t
    · exact ih later

end QueryBuilder.Param.Fresh
