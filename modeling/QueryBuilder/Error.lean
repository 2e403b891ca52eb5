import QueryBuilder.AliasClash
import QueryBuilder.Json.Mismatch

/-!
Why a call, a rendering or the reading of a definition fails. A failing call changes nothing.
-/
namespace QueryBuilder

inductive PagePart
  | limit
  | offset
deriving DecidableEq, Repr

def PagePart.keyword : PagePart → String
  | .limit => "LIMIT"
  | .offset => "OFFSET"

inductive QueryError
  /-- A membership condition on `expr` without values. -/
  | emptyValues (expr : String)
  | negativePage (part : PagePart) (n : Int)
  | noSource
  | aliasClash (clash : AliasClash)
  | unknownConnective (token : String)
  | definition (e : Json.ReadError)
deriving DecidableEq, Repr

namespace QueryError

def message : QueryError → String
  | .emptyValues expr => "Empty value set for IN condition on '" ++ expr ++ "'"
  | .negativePage part n =>
    "Invalid " ++ part.keyword ++ ": " ++ toString n ++ " (must be a non-negative integer)"
  | .noSource => "Builder incomplete: no source set; call from() or add_from() first"
  | .aliasClash clash => clash.message
  | .unknownConnective token => "Invalid operator '" ++ token ++ "' (expected 'and' or 'or')"
  | .definition e => "Definition error: " ++ e.message

def isEmptyValues : QueryError → Bool
  | .emptyValues _ => true
  | _ => false

def isNegativePage : QueryError → Bool
  | .negativePage _ _ => true
  | _ => false

def isNoSource : QueryError → Bool
  | .noSource => true
  | _ => false

def isAliasClash : QueryError → Bool
  | .aliasClash _ => true
  | _ => false

end QueryError
end QueryBuilder
