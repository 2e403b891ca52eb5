import QueryBuilder.Proofs.Condition
import QueryBuilder.Proofs.Param.Fresh
import QueryBuilder.Proofs.Select.Kept
import QueryBuilder.Select.Basic

/-! What an edit does to the conditions and parameters, said once: it adds one text with the
parameters it binds. Every law about a run of calls is read off `edit_eq` and `parts_step`.
-/
namespace QueryBuilder
open Param

/-- A text at the right of a condition, on the other side of a connective. Without a connective, or
where there is no condition, the text stands alone. -/
def Condition.joined (x : Option Condition) (op : Option Connective) (text : String) : Condition :=
  match op with
  | none => .leaf text
  | some op => x.elim (.leaf text) fun c => .combine c op (.leaf text)

namespace Edit

def isReset : Edit → Bool
  | .reset _ _ => true
  | _ => false

theorem isReset_eq_false {f g : Filter} {e : Edit}
    (other : ∀ text bind, Call.filter g e ≠ .filter f (.reset text bind)) (same : g = f) :
    e.isReset = false := by
  subst same
  cases e with
  | reset text bind => exact absurd rfl (other text bind)
  | _ => rfl

/-- The values that an edit binds to generated keys. -/
def values : Edit → List Json
  | .between _ _ low high _ => [low, high]
  | .among _ _ values _ => values
  | _ => []

/-- The text that an edit adds, where placeholders stand for its values. -/
def textOver (placeholders : List String) : Edit → String
  | .reset text _ => text
  | .extend _ text _ => text
  | .between negated expr _ _ _ =>
    expr ++ (if negated then " NOT BETWEEN " else " BETWEEN ") ++ " AND ".intercalate placeholders
  | .among negated expr _ _ =>
    expr ++ (if negated then " NOT IN (" else " IN (") ++ ", ".intercalate placeholders ++ ")"

/-- The connective by which an edit adds its text, unless it sets the condition anew. -/
def connective? : Edit → Option Connective
  | .reset _ _ => none
  | .extend op _ _ => some op
  | .between _ _ _ _ op => some op
  | .among _ _ _ op => some op

/-- A condition after an edit has added a text to it. -/
def onto (x : Option Condition) (text : String) (e : Edit) : Condition :=
  Condition.joined x e.connective? text

theorem onto_eq_extend {e : Edit} {op : Connective} (joins : e.connective? = some op)
    (x : Option Condition) (text : String) : e.onto x text = Condition.extend x op text := by
  rw [onto, joins]
  cases x <;> rfl

theorem isReset_of_connective? {e : Edit} {op : Connective} (joins : e.connective? = some op) :
    e.isReset = false := by
  cases e with
  | reset text bind => contradiction
  | _ => rfl

end Edit

namespace Criteria

/-- The keys that an edit takes for its values. -/
def minted (c : Criteria) (e : Edit) : List Key := (c.fresh.takeMany c.params e.values.length).1

/-- The text that an edit adds with the parameters it binds, and the source of keys after it. -/
def addition (c : Criteria) : Edit → Except QueryError (Fragment × Fresh)
  | .reset text bind => .ok (⟨text, bind.getD .empty⟩, c.fresh)
  | .extend _ text bind => .ok (⟨text, bind.getD .empty⟩, c.fresh)
  | .between negated expr low high _ =>
    .ok (Fragment.between c.fresh c.params expr negated low high)
  | .among negated expr values _ => Fragment.among c.fresh c.params expr negated values

/-- The criteria after an edit has added a text with its parameters. -/
def after (c : Criteria) (f : Filter) (e : Edit) (t : Fragment) (fresh : Fresh) : Criteria :=
  match f with
  | .rows =>
    { c with
      rows := some (e.onto c.rows t.text)
      params := if e.isReset then c.withKept t.params else c.params.merge t.params
      fresh := fresh }
  | .groups =>
    { c with
      groups := some (e.onto c.groups t.text)
      params := c.params.merge t.params
      kept := addKeys (if e.isReset then [] else c.kept) t.params.keys
      fresh := fresh }

theorem after_eq_attach (c : Criteria) (f : Filter) {e : Edit} {op : Connective}
    (joins : e.connective? = some op) (t : Fragment) (fresh : Fresh) :
    c.after f e t fresh = c.attach f op t fresh := by
  cases f <;>
    simp only [after, Edit.onto_eq_extend joins, Edit.isReset_of_connective? joins] <;> rfl

theorem edit_eq (f : Filter) (c : Criteria) (e : Edit) :
    c.edit f e = (c.addition e).map fun a => c.after f e a.1 a.2 := by
  cases e with
  | reset text bind => cases f <;> cases bind <;> rfl
  | extend op text bind =>
    simp only [edit, addition, Except.map, c.after_eq_attach f (e := .extend op text bind) rfl]
    cases f <;> cases bind <;> rfl
  | between negated expr low high op =>
    exact congrArg Except.ok (c.after_eq_attach f rfl _ _).symm
  | among negated expr values op =>
    simp only [edit, addition]
    cases Fragment.among c.fresh c.params expr negated values with
    | error x => rfl
    | ok a => exact congrArg Except.ok (c.after_eq_attach f rfl a.1 a.2).symm

theorem condition_after (c : Criteria) (f : Filter) (e : Edit) (t : Fragment) (fresh : Fresh) :
    (c.after f e t fresh).condition f = some (e.onto (c.condition f) t.text) := by
  cases f <;> rfl

theorem condition_after_of_ne (c : Criteria) {f g : Filter} (e : Edit) (t : Fragment)
    (fresh : Fresh) (h : g ≠ f) : (c.after f e t fresh).condition g = c.condition g := by
  cases f with
  | rows =>
    cases g with
    | rows => exact absurd rfl h
    | groups => rfl
  | groups =>
    cases g with
    | rows => rfl
    | groups => exact absurd rfl h

def texts (f : Filter) (c : Criteria) : List String := (c.condition f).elim [] Condition.leaves

theorem texts_after (c : Criteria) (f : Filter) (e : Edit) (t : Fragment) (fresh : Fresh) :
    (c.after f e t fresh).texts f = (if e.isReset then [] else c.texts f) ++ [t.text] := by
  rw [texts, condition_after, texts]
  cases e with
  | reset text bind => rfl
  | _ => cases c.condition f <;> rfl

theorem fresh_after (c : Criteria) (f : Filter) (e : Edit) (t : Fragment) (fresh : Fresh) :
    (c.after f e t fresh).fresh = fresh := by
  cases f <;> rfl

/-- Where it does not set WHERE anew, an edit binds its parameters over those there are. -/
theorem params_after (c : Criteria) {f : Filter} {e : Edit} (t : Fragment) (fresh : Fresh)
    (h : f = .rows → e.isReset = false) :
    (c.after f e t fresh).params = c.params.merge t.params := by
  cases f with
  | rows => simp only [after, h rfl, Bool.false_eq_true, if_false]
  | groups => rfl

/-- An edit binds its parameters, and a new WHERE drops what HAVING does not keep. -/
theorem get?_params_after (c : Criteria) (f : Filter) (e : Edit) (t : Fragment) (fresh : Fresh)
    (k : Key) : (c.after f e t fresh).params.get? k = (t.params.get? k).or
      (if f = .rows ∧ e.isReset = true ∧ k ∉ c.kept then none else c.params.get? k) := by
  by_cases reset : f = .rows ∧ e.isReset = true
  · obtain ⟨rfl, reset⟩ := reset
    simp only [after, reset, if_true, get?_withKept, true_and, ite_not]
  · have merges : f = .rows → e.isReset = false := fun rows => by simpa [rows] using reset
    rw [params_after c t fresh merges, OrderedMap.get?_merge, if_neg]
    exact fun all => reset ⟨all.1, all.2.1⟩

theorem mem_kept_after (c : Criteria) (e : Edit) (t : Fragment) (fresh : Fresh) (k : Key) :
    k ∈ (c.after .groups e t fresh).kept ↔
      (e.isReset = false ∧ k ∈ c.kept) ∨ k ∈ t.params.keys := by
  simp only [after, addKeys_eq_appendNew, OrderedMap.mem_appendNew]
  cases e.isReset <;> simp

theorem length_minted (c : Criteria) (e : Edit) : (c.minted e).length = e.values.length :=
  c.fresh.length_takeMany c.params e.values.length

theorem map_fst_zip_minted (c : Criteria) (e : Edit) :
    ((c.minted e).zip e.values).map Prod.fst = c.minted e :=
  List.map_fst_zip (Nat.le_of_eq (c.length_minted e))

theorem nodup_minted (c : Criteria) (e : Edit) : (c.minted e).Nodup :=
  (c.fresh.issues_takeMany c.params e.values.length).distinct

theorem entries_ofValues_minted (c : Criteria) (e : Edit) :
    (Table.ofValues ((c.minted e).zip e.values)).entries =
      ((c.minted e).zip e.values).map fun p => (p.1, ⟨p.2, none⟩) := by
  refine OrderedMap.entries_ofList ?_
  rw [List.map_map]
  exact (map_fst_zip_minted c e).symm ▸ nodup_minted c e

theorem keys_ofValues_minted (c : Criteria) (e : Edit) :
    (Table.ofValues ((c.minted e).zip e.values)).keys = c.minted e := by
  rw [OrderedMap.keys, entries_ofValues_minted, List.map_map]
  exact map_fst_zip_minted c e

theorem negated_test (expr : String) (negated : Bool) (test : String) :
    expr ++ " " ++ Fragment.negation negated ++ test =
      expr ++ if negated then " NOT " ++ test else " " ++ test := by
  cases negated with
  | false => simp [Fragment.negation, String.append_assoc]
  | true =>
    have words : expr ++ " " ++ "NOT " = expr ++ " NOT " := String.append_assoc
    exact (congrArg (· ++ test) words).trans String.append_assoc

/-- An edit with values adds a text over the placeholders of the keys it takes, and binds each key
to its value. -/
theorem addition_of_values (c : Criteria) {e : Edit} (h : e.values ≠ []) :
    c.addition e = .ok (⟨e.textOver ((c.minted e).map Key.placeholder),
      .ofValues ((c.minted e).zip e.values)⟩, (c.fresh.takeMany c.params e.values.length).2) := by
  cases e with
  | reset text bind => exact absurd rfl h
  | extend op text bind => exact absurd rfl h
  | between negated expr low high op =>
    have pair (front p q : String) :
        front ++ p ++ " AND " ++ q = front ++ " AND ".intercalate [p, q] := by
      simp [String.append_assoc]
    simp only [addition, Fragment.between, negated_test, pair]
    rfl
  | among negated expr values op =>
    have given : values.isEmpty = false := by simpa [Edit.values] using h
    simp only [addition, Fragment.among, given, Bool.false_eq_true, if_false, negated_test]
    rfl

/-- The text of an addition stands over the keys that the edit takes, of which there are as many as
it has values. -/
theorem addition_eq_ok {c : Criteria} {e : Edit} {t : Fragment} {fresh : Fresh}
    (h : c.addition e = .ok (t, fresh)) :
    t.text = e.textOver ((c.minted e).map Key.placeholder) ∧
      fresh = (c.fresh.takeMany c.params e.values.length).2 := by
  rcases eq_or_ne e.values [] with empty | given
  · cases e with
    | reset text bind =>
      obtain ⟨rfl, rfl⟩ := Prod.mk.inj (Except.ok.inj h)
      exact ⟨rfl, rfl⟩
    | extend op text bind =>
      obtain ⟨rfl, rfl⟩ := Prod.mk.inj (Except.ok.inj h)
      exact ⟨rfl, rfl⟩
    | between negated expr low high op => exact absurd empty (List.cons_ne_nil _ _)
    | among negated expr values op =>
      rw [show values = [] from empty] at h
      contradiction
  · rw [addition_of_values c given] at h
    obtain ⟨rfl, rfl⟩ := Prod.mk.inj (Except.ok.inj h)
    exact ⟨rfl, rfl⟩

/-- The criteria after a call; a call on another part of the query leaves them. -/
def step (c : Criteria) : Call → Criteria
  | .filter f e =>
    match c.addition e with
    | .ok (t, fresh) => c.after f e t fresh
    | .error _ => c
  | .setParams t merge => c.setParams t merge
  | .declareKind k kind => c.declare k kind
  | _ => c

end Criteria

namespace Select

theorem apply_filter (q : Select) (f : Filter) (e : Edit) :
    q.apply (.filter f e) =
      (q.criteria.addition e).map fun a => { q with criteria := q.criteria.after f e a.1 a.2 } := by
  simp only [apply, Criteria.edit_eq]
  cases q.criteria.addition e <;> rfl

def sourcesAfter (q : Select) : Call → Option Sources
  | .setSources s => some s
  | .addSource e => (q.addSource e).sources
  | _ => q.sources

def joinsAfter (q : Select) : Call → List Join
  | .addJoin j => q.joins ++ [j]
  | _ => q.joins

theorem parts_step (q : Select) (c : Call) :
    (q.step c).settings = q.settings ∧ (q.step c).sources = q.sourcesAfter c ∧
      (q.step c).joins = q.joinsAfter c ∧ (q.step c).criteria = q.criteria.step c := by
  cases c with
  | filter f e =>
    simp only [step, apply_filter, Criteria.step]
    cases q.criteria.addition e with
    | error reason => exact ⟨rfl, rfl, rfl, rfl⟩
    | ok a => exact ⟨rfl, rfl, rfl, rfl⟩
  | setPage limit offset =>
    simp only [step, apply]
    cases Page.set limit offset with
    | error reason => exact ⟨rfl, rfl, rfl, rfl⟩
    | ok p => exact ⟨rfl, rfl, rfl, rfl⟩
  | setOffset offset =>
    simp only [step, apply]
    cases q.page.setOffset offset with
    | error reason => exact ⟨rfl, rfl, rfl, rfl⟩
    | ok p => exact ⟨rfl, rfl, rfl, rfl⟩
  | _ => exact ⟨rfl, rfl, rfl, rfl⟩

theorem settings_step (q : Select) (c : Call) : (q.step c).settings = q.settings :=
  (q.parts_step c).1

theorem sources_step (q : Select) (c : Call) : (q.step c).sources = q.sourcesAfter c :=
  (q.parts_step c).2.1

theorem joins_step (q : Select) (c : Call) : (q.step c).joins = q.joinsAfter c :=
  (q.parts_step c).2.2.1

theorem criteria_step (q : Select) (c : Call) : (q.step c).criteria = q.criteria.step c :=
  (q.parts_step c).2.2.2

theorem run_cons (q : Select) (c : Call) (calls : List Call) :
    q.run (c :: calls) = (q.step c).run calls := rfl

theorem run_append (q : Select) (first second : List Call) :
    q.run (first ++ second) = (q.run first).run second := List.foldl_append

/-- The results of the calls of a run. -/
def outcomes (q : Select) : List Call → List (Except QueryError Unit)
  | [] => []
  | c :: rest => (q.apply c).map (fun _ => ()) :: (q.step c).outcomes rest

/-- Calls of which none fails are a run. -/
theorem run_of_build {q q' : Select} {calls : List Call} (built : q.build calls = .ok q') :
    q.run calls = q' := by
  induction calls generalizing q with
  | nil => exact Except.ok.inj built
  | cons c rest ih =>
    rw [build, List.foldlM_cons] at built
    cases applied : q.apply c with
    | error reason =>
      rw [applied] at built
      contradiction
    | ok next =>
      rw [applied] at built
      have stepped : q.step c = next := by rw [step, applied]
      rw [run_cons, stepped]
      exact ih built

end Select
end QueryBuilder
