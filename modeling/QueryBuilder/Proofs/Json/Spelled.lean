import QueryBuilder.Json.Reader
import QueryBuilder.Proofs.Json.Literal
import QueryBuilder.Proofs.Json.Numeral
import QueryBuilder.Proofs.Json.Tree

/-! The grammar of JSON texts. It says how a tree without faults is spelled, with white space around
any token; every such text is taken up as its tree.
-/
namespace QueryBuilder.Json

def Gap (cs : List Char) : Prop := ∀ c ∈ cs, isGap c = true

/-- A member of an object: its name as it stands between the quotes, and the text of its value. -/
structure MemberText where
  before : List Char
  name : List Char
  key : Literal
  between : List Char
  value : List Char
  tree : Tree

namespace MemberText

def chars (m : MemberText) : List Char :=
  m.before ++ '"' :: m.name ++ '"' :: m.between ++ ':' :: m.value

structure Named (m : MemberText) : Prop where
  before : Gap m.before
  name : Literal.Spelled m.name m.key.pieces
  closed : m.key.ending = none
  between : Gap m.between

/-- A member as it is written, without white space around its name. -/
def written (name : String) (value : List Char) (tree : Tree) : MemberText :=
  ⟨[], name.toList.flatMap escape, .ofText name, [], value, tree⟩

theorem named_written (name : String) (value : List Char) (tree : Tree) :
    (written name value tree).Named :=
  ⟨List.forall_mem_nil _, Literal.spelled_text name.toList, rfl, List.forall_mem_nil _⟩

end MemberText

/-- The texts of a tree. -/
inductive Spelled : List Char → Tree → Prop
  | null : Spelled ['n', 'u', 'l', 'l'] (.leaf .null)
  | yes : Spelled ['t', 'r', 'u', 'e'] (.leaf (.bool true))
  | no : Spelled ['f', 'a', 'l', 's', 'e'] (.leaf (.bool false))
  | number {cs : List Char} {n : Numeral} (h : Numeral.Spelled cs n) :
      Spelled cs (.leaf (.number n))
  | text {cs : List Char} {ps : List Piece} (h : Literal.Spelled cs ps) :
      Spelled ('"' :: cs ++ ['"']) (.leaf (.text ⟨ps, none⟩))
  | emptyArray {cs : List Char} (gap : Gap cs) : Spelled ('[' :: cs ++ [']']) (.array [] none)
  | array {items : List (List Char × Tree)} (h : ∀ i ∈ items, Spelled i.1 i.2) :
      Spelled ('[' :: separated (items.map Prod.fst) ++ [']']) (.array (items.map Prod.snd) none)
  | emptyObject {cs : List Char} (gap : Gap cs) :
      Spelled ('\x7b' :: cs ++ ['\x7d']) (.object [] .closed)
  | object {members : List MemberText} (named : ∀ m ∈ members, m.Named)
      (h : ∀ m ∈ members, Spelled m.value m.tree) :
      Spelled ('\x7b' :: separated (members.map MemberText.chars) ++ ['\x7d'])
        (.object (members.map fun m => (m.key, m.tree)) .closed)
  | before {c : Char} {cs : List Char} {t : Tree} (gap : isGap c = true) (h : Spelled cs t) :
      Spelled (c :: cs) t
  | after {c : Char} {cs : List Char} {t : Tree} (h : Spelled cs t) (gap : isGap c = true) :
      Spelled (cs ++ [c]) t

/-- A text is cut into these tokens, before any rest that does not go on with a number. -/
def Cut (text : List Char) (tokens : List Token) : Prop :=
  ∀ rest, Numeral.Stops rest → lexFrom 0 (text ++ rest) = tokens ++ lexFrom 0 rest

theorem lexFrom_length (taken rest : List Char) :
    lexFrom taken.length (taken ++ rest) = lexFrom 0 rest := by
  induction taken with
  | nil => rfl
  | cons c taken ih => exact ih

theorem lexFrom_gap {c : Char} (gap : isGap c = true) (rest : List Char) :
    lexFrom 0 (c :: rest) = lexFrom 0 rest := by
  rw [lexFrom, if_pos gap]

theorem lexFrom_gaps {cs : List Char} (gap : Gap cs) (rest : List Char) :
    lexFrom 0 (cs ++ rest) = lexFrom 0 rest := by
  induction cs with
  | nil => rfl
  | cons c cs ih =>
    rw [List.cons_append, lexFrom_gap (gap c List.mem_cons_self)]
    exact ih fun d mem => gap d (List.mem_cons_of_mem c mem)

theorem lexFrom_token {c : Char} {more rest : List Char} {token : Token} (gap : isGap c = false)
    (scanned : Token.scan c (more ++ rest) = (token, more.length + 1)) (passable : token.passable) :
    lexFrom 0 (c :: more ++ rest) = token :: lexFrom 0 rest := by
  rw [List.cons_append, lexFrom, gap, scanned]
  simp only [passable, if_true, Bool.false_eq_true, if_false, Nat.add_sub_cancel, lexFrom_length]

theorem lexFrom_text {cs : List Char} {ps : List Piece} (h : Literal.Spelled cs ps)
    (rest : List Char) :
    lexFrom 0 ('"' :: cs ++ '"' :: rest) = .leaf (.text ⟨ps, none⟩) :: lexFrom 0 rest := by
  have scanned := Literal.scan_append h rest
  have token : lexFrom 0 ('"' :: (cs ++ ['"']) ++ rest) =
      .leaf (.text ⟨ps, none⟩) :: lexFrom 0 rest := by
    refine lexFrom_token rfl ?_ rfl
    rw [List.append_assoc, List.singleton_append]
    simp only [Token.scan, scanned, List.length_append, List.length_singleton]
  rwa [List.cons_append, List.append_assoc, List.singleton_append] at token

theorem scan_number {c : Char} (h : c = '-' ∨ c.isDigit = true) (rest : List Char) :
    Token.scan c rest =
      match Numeral.scan (c :: rest) with
      | .ok r => (.leaf (.number r.1), r.2)
      | .error f => (.leaf (.brokenNumber f), 1) := by
  have start : (c = '-' || c.isDigit) = true := by simpa using h
  unfold Token.scan
  split
  case h_11 => exact if_pos start
  all_goals exact absurd h (by decide)

theorem not_isGap_of_start {c : Char} (h : c = '-' ∨ c.isDigit = true) : isGap c = false := by
  obtain rfl | digit := h
  · rfl
  · rw [Bool.eq_false_iff]
    intro gap
    simp only [isGap, Bool.or_eq_true, decide_eq_true_eq] at gap
    obtain ((rfl | rfl) | rfl) | rfl := gap <;> cases digit

theorem cut_number {cs : List Char} {n : Numeral} (h : Numeral.Spelled cs n) :
    Cut cs [.leaf (.number n)] := by
  intro rest stops
  have scanned := Numeral.scan_append h stops
  obtain ⟨c, more, rfl, start⟩ := Numeral.exists_cons_of_spelled h
  refine lexFrom_token (not_isGap_of_start start) ?_ rfl
  rw [scan_number start, ← List.cons_append, scanned]
  rfl

theorem stops_of_mem {c : Char} (h : c ∈ [',', ':', ']', '\x7d']) (rest : List Char) :
    Numeral.Stops (c :: rest) := by
  rintro _ ⟨⟩
  simp only [List.mem_cons, List.not_mem_nil, or_false] at h
  obtain rfl | rfl | rfl | rfl := h
  all_goals exact ⟨rfl, by decide, by decide, by decide⟩

theorem stops_of_gap {c : Char} (gap : isGap c = true) (rest : List Char) :
    Numeral.Stops (c :: rest) := by
  rintro _ ⟨⟩
  simp only [isGap, Bool.or_eq_true, decide_eq_true_eq] at gap
  obtain ((rfl | rfl) | rfl) | rfl := gap
  all_goals exact ⟨rfl, by decide, by decide, by decide⟩

theorem cut_separated {α : Type} {text : α → List Char} {tokens : α → List Token} {xs : List α}
    (h : ∀ x ∈ xs, Cut (text x) (tokens x)) :
    Cut (separated (xs.map text)) ([.comma].intercalate (xs.map tokens)) := by
  induction xs with
  | nil => exact fun rest _ => rfl
  | cons x xs ih =>
    have first := h x List.mem_cons_self
    have others := ih fun y mem => h y (List.mem_cons_of_mem x mem)
    intro rest stops
    cases xs with
    | nil =>
      rw [separated, List.map_singleton, List.map_singleton, List.intercalate_singleton,
        List.intercalate_singleton, first rest stops]
    | cons y xs =>
      have comma := first (',' :: (separated ((y :: xs).map text) ++ rest))
        (stops_of_mem (by decide) _)
      have after := others rest stops
      have texts : separated ((x :: y :: xs).map text) ++ rest =
          text x ++ ',' :: (separated ((y :: xs).map text) ++ rest) := by
        simp [separated, List.intercalate_cons_cons]
      have parts : [Token.comma].intercalate ((x :: y :: xs).map tokens) =
          tokens x ++ .comma :: [.comma].intercalate ((y :: xs).map tokens) := by
        simp [List.intercalate_cons_cons]
      rw [texts, parts, comma, List.append_assoc, List.cons_append, ← after]
      rfl

theorem cut_member {m : MemberText} (named : m.Named) (h : Cut m.value m.tree.tokens) :
    Cut m.chars (Tree.memberToken (m.key, m.tree)) := by
  intro rest stops
  have literal : m.key = ⟨m.key.pieces, none⟩ := by rw [← named.closed]
  have key := lexFrom_text named.name (m.between ++ ':' :: (m.value ++ rest))
  have colon : lexFrom 0 (':' :: (m.value ++ rest)) = .colon :: lexFrom 0 (m.value ++ rest) := rfl
  have shape : m.chars ++ rest =
      m.before ++ ('"' :: m.name ++ '"' :: (m.between ++ ':' :: (m.value ++ rest))) := by
    simp [MemberText.chars]
  rw [shape, lexFrom_gaps named.before, key, lexFrom_gaps named.between, colon, h rest stops,
    Tree.memberToken, List.cons_append, List.cons_append, ← literal]

/-- Every text of a tree is cut into the tokens of the tree. -/
theorem Spelled.cut {cs : List Char} {t : Tree} (h : Spelled cs t) : Cut cs t.tokens := by
  induction h with
  | null | yes | no => exact fun rest _ => rfl
  | number h => exact cut_number h
  | text h =>
    intro rest _
    rw [List.append_assoc, List.singleton_append]
    exact lexFrom_text h rest
  | emptyArray gap =>
    intro rest _
    rw [List.append_assoc]
    exact congrArg (Token.openArray :: ·) (lexFrom_gaps gap _)
  | @array items _ ih =>
    intro rest _
    have inside := cut_separated ih (']' :: rest) (stops_of_mem (by decide) rest)
    rw [Tree.tokens, Tree.itemTokens_eq_map, List.map_map, List.append_assoc, List.append_assoc]
    exact congrArg (Token.openArray :: ·) inside
  | emptyObject gap =>
    intro rest _
    rw [List.append_assoc]
    exact congrArg (Token.openObject :: ·) (lexFrom_gaps gap _)
  | @object members named _ ih =>
    intro rest _
    have inside := cut_separated (fun m mem => cut_member (named m mem) (ih m mem))
      ('\x7d' :: rest) (stops_of_mem (by decide) rest)
    rw [Tree.tokens, Tree.memberTokens_eq_map, List.map_map, List.append_assoc, List.append_assoc]
    exact congrArg (Token.openObject :: ·) inside
  | before gap _ ih =>
    intro rest stops
    rw [List.cons_append, lexFrom_gap gap, ih rest stops]
  | @after c cs t _ gap ih =>
    intro rest _
    have cut := ih (c :: rest) (stops_of_gap gap rest)
    rw [List.append_assoc, List.singleton_append, cut, lexFrom_gap gap]

theorem Spelled.closed {cs : List Char} {t : Tree} (h : Spelled cs t) : t.Closed := by
  induction h with
  | null | yes | no | number | text => exact .leaf _
  | emptyArray => exact .array (List.forall_mem_nil _)
  | array _ ih => exact .array (List.forall_mem_map.mpr ih)
  | emptyObject => exact .object (List.forall_mem_nil _)
  | object _ _ ih => exact .object (List.forall_mem_map.mpr ih)
  | before _ _ ih | after _ _ ih => exact ih

/-- Every text of a tree is taken up as the tree, with nothing after it. -/
theorem Spelled.ofText {text : String} {t : Tree} (h : Spelled text.toList t) :
    Document.ofText text = ⟨t, true⟩ := by
  have tokens : lex text.toList = t.tokens := by
    have cut := h.cut [] Numeral.stops_nil
    rwa [List.append_nil, lexFrom, List.append_nil] at cut
  have up := Document.takenUp_of_closed h.closed [] []
  rw [List.append_nil] at up
  rw [Document.ofText, tokens, up]
  rfl

theorem skipItems_eq_ok {items : List Tree} (h : ∀ t ∈ items, t.skip = .ok ()) :
    skipItems items = .ok () := by
  induction items with
  | nil => rfl
  | cons t rest ih =>
    rw [skipItems, h t List.mem_cons_self]
    exact ih fun u mem => h u (List.mem_cons_of_mem t mem)

theorem skipMembers_eq_ok {members : List (Literal × Tree)} :
    skipMembers members = .ok () ↔ ∀ m ∈ members, m.1.ending = none ∧ m.2.skip = .ok () := by
  induction members with
  | nil => exact ⟨fun _ => List.forall_mem_nil _, fun _ => rfl⟩
  | cons m rest ih =>
    rw [List.forall_mem_cons, ← ih, skipMembers]
    cases m.1.ending with
    | some f => exact ⟨nofun, nofun⟩
    | none =>
      cases m.2.skip with
      | error e => exact ⟨nofun, nofun⟩
      | ok => exact ⟨fun h => ⟨⟨rfl, rfl⟩, h⟩, fun h => h.2⟩

/-- A value that is spelled can be passed over, however deep it is. -/
theorem Spelled.skip {cs : List Char} {t : Tree} (h : Spelled cs t) : t.skip = .ok () := by
  induction h with
  | null | yes | no | number | text | emptyArray | emptyObject => rfl
  | array _ ih =>
    rw [Tree.skip, skipItems_eq_ok (List.forall_mem_map.mpr ih)]
    rfl
  | @object members named _ ih =>
    have each : ∀ m ∈ members, m.key.ending = none ∧ m.tree.skip = .ok () := fun m mem =>
      ⟨(named m mem).closed, ih m mem⟩
    rw [Tree.skip, skipMembers_eq_ok.mpr (List.forall_mem_map.mpr each)]
    rfl
  | before _ _ ih | after _ _ ih => exact ih

theorem Spelled.skip_of_mem {cs : List Char} {members : List (Literal × Tree)} {ending : Ending}
    (h : Spelled cs (.object members ending)) {m : Literal × Tree} (mem : m ∈ members) :
    m.2.skip = .ok () := by
  have whole := h.skip
  rw [Tree.skip] at whole
  cases inside : skipMembers members with
  | error e =>
    rw [inside] at whole
    contradiction
  | ok => exact (skipMembers_eq_ok.mp inside m mem).2

/-- A reader that is run on a text of a tree reads the tree. -/
theorem Spelled.run {α : Type} {text : String} {t : Tree} (h : Spelled text.toList t)
    (r : Reader α) : r.run text = r depthLimit t := by
  rw [Reader.run, h.ofText]
  exact bind_pure (r depthLimit t)

end QueryBuilder.Json
