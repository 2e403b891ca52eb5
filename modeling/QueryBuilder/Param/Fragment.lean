import QueryBuilder.Param.Fresh
import QueryBuilder.Error

/-!
Conditions whose values are bound to generated keys: BETWEEN and IN.
-/
namespace QueryBuilder.Param

/-- A condition text and the parameters that its placeholders name. -/
structure Fragment where
  text : String
  params : Table

namespace Fragment

/-- `NOT ` in front of a negated test. -/
def negation (negated : Bool) : String := if negated then "NOT " else ""

/-- `expr [NOT] BETWEEN p AND q` for the next two keys. -/
def between (f : Fresh) (taken : Table) (expr : String) (negated : Bool) (low high : Json) :
    Fragment × Fresh :=
  let (k, f) := f.take taken
  let (l, f) := f.take taken
  (⟨expr ++ " " ++ negation negated ++ "BETWEEN " ++ k.placeholder ++ " AND " ++ l.placeholder,
    .ofValues [(k, low), (l, high)]⟩, f)

/-- `expr [NOT] IN (p, q, …)` with one key for each value; without a value there is none. -/
def among (f : Fresh) (taken : Table) (expr : String) (negated : Bool) (values : List Json) :
    Except QueryError (Fragment × Fresh) :=
  if values.isEmpty then .error (.emptyValues expr)
  else
    let (ks, f) := f.takeMany taken values.length
    .ok (⟨expr ++ " " ++ negation negated ++ "IN (" ++
      ", ".intercalate (ks.map Key.placeholder) ++ ")", .ofValues (ks.zip values)⟩, f)

end Fragment
end QueryBuilder.Param
