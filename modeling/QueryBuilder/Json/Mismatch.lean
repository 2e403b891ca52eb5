import QueryBuilder.Json.Literal
import QueryBuilder.Json.Basic
import QueryBuilder.Text.Quoted

/-!
What is wrong with a JSON text: it is no JSON up to the point where reading stops, or it does not
have the shape of the type that is read. The wording of each mismatch is in `Mismatch.message`.
-/
namespace QueryBuilder.Json

/-- What stands in the text where something else was expected. -/
inductive Found
  | null
  | bool (b : Bool)
  | number (n : Number)
  | text (s : String)
  | array
  | object
deriving DecidableEq, Repr

/-- A text that is well formed so far but does not fit the type. -/
inductive Mismatch
  | wrongType (found : Found) (expected : String)
  | outOfRange (n : Int) (expected : String)
  | tooShort (count : Nat) (expected : String)
  | missingField (name : String)
  | repeatedField (name : String)
  | unknownVariant (name : String) (known : List String)
  | noVariant (type : String)
deriving DecidableEq, Repr

inductive ReadError
  | fault (f : Fault)
  | mismatch (m : Mismatch)
deriving DecidableEq, Repr

private def ticked (s : String) : String := "`" ++ s ++ "`"

def Found.describe : Found → String
  | .null => "null"
  | .bool b => "boolean " ++ ticked (if b then "true" else "false")
  | .number (.int n) => "integer " ++ ticked (toString n)
  | .number (.decimal x) => "floating point " ++ ticked (String.ofList x.text)
  | .text s => "string " ++ Text.quoted s
  | .array => "sequence"
  | .object => "map"

private def choice : List String → String
  | [a, b] => ticked a ++ " or " ++ ticked b
  | names => "one of " ++ ", ".intercalate (names.map ticked)

def Mismatch.message : Mismatch → String
  | .wrongType found expected => "invalid type: " ++ found.describe ++ ", expected " ++ expected
  | .outOfRange n expected =>
    "invalid value: integer " ++ ticked (toString n) ++ ", expected " ++ expected
  | .tooShort count expected => "invalid length " ++ toString count ++ ", expected " ++ expected
  | .missingField name => "missing field " ++ ticked name
  | .repeatedField name => "duplicate field " ++ ticked name
  | .unknownVariant name known =>
    "unknown variant " ++ ticked name ++ ", expected " ++ choice known
  | .noVariant type => "data did not match any variant of untagged enum " ++ type

def ReadError.message : ReadError → String
  | .fault .malformed => "malformed text"
  | .fault .truncated => "text ended too early"
  | .mismatch m => m.message

end QueryBuilder.Json
