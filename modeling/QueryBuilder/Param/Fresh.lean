import QueryBuilder.Param.Table

/-!
Generated keys: a stem and a number that only grows. A key that a table binds is passed over.
Main statement: `search_eq_or_taken`, that the search ends at a key that is free whenever there
is one within its bound.
-/
namespace QueryBuilder.Param

/-- The source of generated keys. -/
structure Fresh where
  stem : String
  /-- The first number that was not used yet. -/
  next : Nat
deriving DecidableEq, Repr

namespace Fresh

def key (stem : String) (n : Nat) : Key := .named (stem ++ toString n)

/-- The first of `tries + 1` numbers from `n` on whose key is free, or the last of them. -/
def search (t : Table) (stem : String) : Nat → Nat → Nat
  | 0, n => n
  | tries + 1, n => if t.contains (key stem n) then search t stem tries (n + 1) else n

/-- The number of the next key that a table does not bind. Of one number more than the table has
keys, one is free. -/
def nextFree (f : Fresh) (t : Table) : Nat := search t f.stem t.size f.next

/-- The next key that a table does not bind. -/
def take (f : Fresh) (t : Table) : Key × Fresh :=
  let n := f.nextFree t
  (key f.stem n, { f with next := n + 1 })

/-- The next `count` keys that a table does not bind. -/
def takeMany (f : Fresh) (t : Table) : Nat → List Key × Fresh
  | 0 => ([], f)
  | count + 1 =>
    let (k, f) := f.take t
    let (ks, f) := takeMany f t count
    (k :: ks, f)

/-- A search ends at a free key, or has passed over a bound key at every try. -/
theorem search_eq_or_taken (t : Table) (stem : String) (tries n : Nat) :
    t.contains (key stem (search t stem tries n)) = false ∨
      ∀ m, n ≤ m → m ≤ n + tries → t.contains (key stem m) = true := by
  induction tries generalizing n with
  | zero =>
    cases h : t.contains (key stem n) with
    | false => exact .inl h
    | true => exact .inr fun m lo hi => by rwa [show m = n by omega]
  | succ tries ih =>
    cases h : t.contains (key stem n) with
    | false => left; simp [search, h]
    | true =>
      rcases ih (n + 1) with free | taken
      · left; simpa [search, h] using free
      · refine .inr fun m lo hi => ?_
        by_cases same : m = n
        · rwa [same]
        · exact taken m (by omega) (by omega)

end Fresh
end QueryBuilder.Param
