import QueryBuilder.Proofs.Select.Edit

/-! Conditions as chains. A condition consists of the texts since it was last set anew, each joined
to the right of those before it, whatever is done to the other condition in between.
-/
namespace QueryBuilder
open Param

namespace Condition

/-- A text that is added to a condition; without a connective it sets the condition anew. -/
structure Link where
  op : Option Connective
  text : String
deriving DecidableEq, Repr

namespace Link

def onto (x : Option Condition) (l : Link) : Condition := joined x l.op l.text

def printed (l : Link) : String := ") " ++ l.op.elim "" Connective.keyword ++ " (" ++ l.text ++ ")"

/-- The links from the last one on that sets the condition anew; all of them if there is none. -/
def sinceReset : List Link → List Link
  | [] => []
  | l :: rest => if rest.any (fun k => k.op.isNone) then sinceReset rest else l :: rest

/-- As many parentheses as there are later links, the first text, and the later links. -/
def printedChain (first : Link) (later : List Link) : String :=
  String.ofList (List.replicate later.length '(') ++ first.text ++ String.join (later.map printed)

end Link

def ofLinks (x : Option Condition) (ls : List Link) : Option Condition :=
  ls.foldl (fun x l => some (l.onto x)) x

def IsChain : Condition → Prop
  | .leaf _ => True
  | .combine l _ r => l.IsChain ∧ ∃ text, r = .leaf text

theorem ofLinks_cons (x : Option Condition) (l : Link) (ls : List Link) :
    ofLinks x (l :: ls) = ofLinks (some (l.onto x)) ls := rfl

theorem ofLinks_append (x : Option Condition) (ks ls : List Link) :
    ofLinks x (ks ++ ls) = ofLinks (ofLinks x ks) ls := List.foldl_append

/-- What a condition was before it is set anew is forgotten. -/
theorem ofLinks_congr {ls : List Link} (reset : ls.any (fun l => l.op.isNone) = true)
    (x y : Option Condition) : ofLinks x ls = ofLinks y ls := by
  induction ls generalizing x y with
  | nil => contradiction
  | cons l rest ih =>
    rw [ofLinks_cons, ofLinks_cons]
    cases anew : l.op with
    | none =>
      rw [Link.onto, Link.onto, anew]
      rfl
    | some op =>
      have later : rest.any (fun l => l.op.isNone) = true := by simpa [anew] using reset
      exact ih later _ _

theorem ofLinks_sinceReset (ls : List Link) :
    ofLinks none (Link.sinceReset ls) = ofLinks none ls := by
  induction ls with
  | nil => rfl
  | cons l rest ih =>
    rw [Link.sinceReset]
    split
    · next reset =>
      rw [ih, ofLinks_cons]
      exact ofLinks_congr reset _ _
    · rfl

theorem isSome_op_of_sinceReset {ls : List Link} {first : Link} {later : List Link}
    (h : Link.sinceReset ls = first :: later) : ∀ l ∈ later, l.op.isSome := by
  induction ls with
  | nil => contradiction
  | cons l rest ih =>
    rw [Link.sinceReset] at h
    split at h
    · exact ih h
    · next extending =>
      intro k member
      obtain ⟨_, rfl⟩ := List.cons.inj h
      rw [Option.isSome_iff_ne_none]
      intro anew
      exact extending (List.any_eq_true.2 ⟨k, member, by rw [anew]; rfl⟩)

theorem printedChain_append_singleton (first : Link) (later : List Link) (l : Link) :
    Link.printedChain first (later ++ [l]) = "(" ++ Link.printedChain first later ++ l.printed := by
  apply String.toList_inj.1
  simp [Link.printedChain, List.replicate_succ]

theorem exists_chain (first : Link) {later : List Link} (extending : ∀ l ∈ later, l.op.isSome) :
    ∃ x, ofLinks none (first :: later) = some x ∧ x.IsChain ∧
      x.leaves = (first :: later).map Link.text ∧ x.leafCount = later.length + 1 ∧
      x.render = Link.printedChain first later := by
  -- The condition grows outwards: the last link is its root, all links before it stand on the left.
  induction later using List.reverseRecOn with
  | nil =>
    refine ⟨.leaf first.text, ?_, trivial, rfl, rfl, ?_⟩
    · cases first with
      | mk op text => cases op <;> rfl
    · simp [render, Link.printedChain]
  | append_singleton later l ih =>
    obtain ⟨x, made, chain, leaves, count, printed⟩ :=
      ih fun k member => extending k (List.mem_append_left _ member)
    obtain ⟨op, joins⟩ := Option.isSome_iff_exists.1 (extending l (by simp))
    refine ⟨.combine x op (.leaf l.text), ?_, ⟨chain, l.text, rfl⟩, ?_, ?_, ?_⟩
    · rw [← List.cons_append, ofLinks_append, made, ofLinks_cons, Link.onto, joins]
      rfl
    · simp [Condition.leaves, leaves]
    · simp [leafCount, count]
    · rw [printedChain_append_singleton, ← printed, render, render, Link.printed, joins]
      simp [String.append_assoc]

end Condition

namespace Select
open Condition

/-- The text that a call adds to a filter. Other calls and calls that fail add none. -/
def contribution (q : Select) (f : Filter) : Call → Option Link
  | .filter g e =>
    match q.apply (.filter g e) with
    | .ok _ =>
      if g = f then some ⟨e.connective?, e.textOver ((q.criteria.minted e).map Key.placeholder)⟩
      else none
    | .error _ => none
  | _ => none

def history (q : Select) (f : Filter) : List Call → List Link
  | [] => []
  | c :: rest => (q.contribution f c).toList ++ (q.step c).history f rest

theorem condition_step (q : Select) (f : Filter) (c : Call) :
    (q.step c).criteria.condition f =
      ofLinks (q.criteria.condition f) (q.contribution f c).toList := by
  rw [criteria_step]
  cases c with
  | filter g e =>
    simp only [Criteria.step, contribution, apply_filter]
    cases added : q.criteria.addition e with
    | error reason => rfl
    | ok a =>
      by_cases same : g = f
      · subst same
        have text := (Criteria.addition_eq_ok added).1
        simp only [Except.map, if_true, Option.toList_some, ofLinks_cons]
        rw [Criteria.condition_after, text]
        cases e <;> rfl
      · simp only [Except.map, if_neg same, Option.toList_none]
        rw [Criteria.condition_after_of_ne _ _ _ _ (Ne.symm same)]
        rfl
  | _ => cases f <;> rfl

theorem condition_run (q : Select) (f : Filter) (calls : List Call) :
    (q.run calls).criteria.condition f =
      ofLinks (q.criteria.condition f) (q.history f calls) := by
  induction calls generalizing q with
  | nil => rfl
  | cons c rest ih => rw [run_cons, ih, condition_step, history, ofLinks_append]

theorem condition_step_of_ne (q : Select) {f g : Filter} (e : Edit) (other : g ≠ f) :
    (q.step (.filter g e)).criteria.condition f = q.criteria.condition f := by
  have silent : q.contribution f (.filter g e) = none := by
    simp only [contribution, if_neg other]
    cases q.apply (.filter g e) <;> rfl
  rw [condition_step, silent]
  rfl

theorem conditions_are_chains (s : Settings) (calls : List Call) (f : Filter) :
    (match Link.sinceReset ((empty s).history f calls) with
      | [] => ((empty s).run calls).criteria.condition f = none
      | first :: later => (∀ l ∈ later, l.op.isSome) ∧
        ∃ x, ((empty s).run calls).criteria.condition f = some x ∧ x.IsChain ∧
          x.leaves = (first :: later).map Link.text ∧ x.leafCount = later.length + 1 ∧
          x.render = Link.printedChain first later) ∧
    ∀ (q : Select) (e : Edit),
      (q.step (.filter .groups e)).criteria.rows = q.criteria.rows ∧
        (q.step (.filter .rows e)).criteria.groups = q.criteria.groups := by
  have made : ((empty s).run calls).criteria.condition f =
      ofLinks none (Link.sinceReset ((empty s).history f calls)) := by
    rw [condition_run, ofLinks_sinceReset]
    cases f <;> rfl
  constructor
  · cases since : Link.sinceReset ((empty s).history f calls) with
    | nil =>
      rw [since] at made
      exact made
    | cons first later =>
      rw [since] at made
      have extending := isSome_op_of_sinceReset since
      obtain ⟨x, chain, rest⟩ := exists_chain first extending
      exact ⟨extending, x, made.trans chain, rest⟩
  · intro q e
    exact ⟨q.condition_step_of_ne (f := .rows) e (by decide),
      q.condition_step_of_ne (f := .groups) e (by decide)⟩

/-- A failing test and the other condition leave no trace. -/
example :
    let calls := [Call.filter .rows (.extend .or "a" none), .filter .rows (.reset "b" none),
      .filter .groups (.extend .or "g" none), .filter .rows (.among false "c" [] .and),
      .filter .rows (.extend .and "d" none), .filter .rows (.among true "e" [.null] .or)]
    Link.sinceReset ((empty {}).history .rows calls) =
        [⟨none, "b"⟩, ⟨some .and, "d"⟩, ⟨some .or, "e NOT IN (:AP0:)"⟩] ∧
      ((empty {}).run calls).criteria.rows.map render =
        some "((b) AND (d)) OR (e NOT IN (:AP0:))" := by decide

end Select
end QueryBuilder
