import QueryBuilder.Json.Token

/-!
The tree of a JSON text. Every text has one: where the text goes wrong the tree holds the fault
in the place where a reading from left to right meets it. So a reader of a type is a function on
trees that walks left to right and stops at the first fault or mismatch.
-/
namespace QueryBuilder.Json

/-- How an object ends. -/
inductive Ending
  | closed
  /-- Neither a comma nor a closing brace follows the last member. -/
  | broken (fault : Fault)
  /-- Something other than a text, or nothing, stands where a key was to start. -/
  | noKey (fault : Fault)
deriving DecidableEq, Repr

inductive Tree
  | leaf (l : Leaf)
  /-- The items, and the fault that stands instead of the closing bracket. -/
  | array (items : List Tree) (fault : Option Fault)
  | object (members : List (Literal × Tree)) (ending : Ending)
deriving Inhabited

/-- A container that is still open: an array with the items before the current one, or an
object with the members before it and its key; nearest first. -/
inductive Frame
  | array (before : List Tree)
  | object (before : List (Literal × Tree)) (key : Literal)

/-- A tree, and whether nothing follows it. -/
structure Document where
  tree : Tree
  complete : Bool

namespace Document

/-- The document whose text goes wrong inside a value: all open containers end after it. -/
def abandon (frames : List Frame) (t : Tree) : Document :=
  let enclose (t : Tree) : Frame → Tree
    | .array before => .array (before.reverse ++ [t]) (some .truncated)
    | .object before key => .object (before.reverse ++ [(key, t)]) (.broken .truncated)
  ⟨frames.foldl enclose t, false⟩

/-- The document in which a value is missing. -/
def lacking (frames : List Frame) (f : Fault) : Document := abandon frames (.leaf (.absent f))

mutual
/-- A value starts here. -/
def ofValue (frames : List Frame) : List Token → Document
  | [] => lacking frames .truncated
  | .leaf l :: ts => afterValue frames (.leaf l) ts
  | .openArray :: .closeArray :: ts => afterValue frames (.array [] none) ts
  | .openArray :: ts => ofValue (.array [] :: frames) ts
  | .openObject :: .closeObject :: ts => afterValue frames (.object [] .closed) ts
  | .openObject :: ts => ofKey frames [] ts
  | .closeArray :: _ | .closeObject :: _ | .comma :: _ | .colon :: _ => lacking frames .malformed

/-- A value has just ended. -/
def afterValue (frames : List Frame) (t : Tree) : List Token → Document
  | [] =>
    match frames with
    | [] => ⟨t, true⟩
    | .array before :: outer => abandon outer (.array (t :: before).reverse (some .truncated))
    | .object before key :: outer =>
      abandon outer (.object ((key, t) :: before).reverse (.broken .truncated))
  | token :: ts =>
    match frames with
    | [] => ⟨t, false⟩
    | .array before :: outer =>
      match token with
      | .comma => ofValue (.array (t :: before) :: outer) ts
      | .closeArray => afterValue outer (.array (t :: before).reverse none) ts
      | _ => abandon outer (.array (t :: before).reverse (some .malformed))
    | .object before key :: outer =>
      match token with
      | .comma => ofKey outer ((key, t) :: before) ts
      | .closeObject => afterValue outer (.object ((key, t) :: before).reverse .closed) ts
      | _ => abandon outer (.object ((key, t) :: before).reverse (.broken .malformed))

/-- A key starts here. -/
def ofKey (frames : List Frame) (before : List (Literal × Tree)) : List Token → Document
  | .leaf (.text key) :: .colon :: ts => ofValue (.object before key :: frames) ts
  | [.leaf (.text key)] => lacking (.object before key :: frames) .truncated
  | .leaf (.text key) :: _ => lacking (.object before key :: frames) .malformed
  | [] => abandon frames (.object before.reverse (.noKey .truncated))
  | _ :: _ => abandon frames (.object before.reverse (.noKey .malformed))
end

def ofText (text : String) : Document := ofValue [] (lex text.toList)

end Document
end QueryBuilder.Json
