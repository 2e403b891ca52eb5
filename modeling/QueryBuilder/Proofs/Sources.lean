import QueryBuilder.Sources

/-! The printed text of sources in brackets fixes their entities. An identifier ends at the first
closing bracket, and the character behind it tells an alias from the next entity.
-/
namespace QueryBuilder

/-- A text goes up to the first place of a character that it does not contain. -/
theorem Text.eq_of_append_cons {c : Char} {a b r s : List Char} (ha : c ∉ a) (hb : c ∉ b)
    (same : a ++ c :: r = b ++ c :: s) : a = b ∧ r = s := by
  induction a generalizing b with
  | nil =>
    cases b with
    | nil => exact ⟨rfl, (List.cons.inj same).2⟩
    | cons y b => exact absurd ((List.cons.inj same).1 ▸ List.mem_cons_self) hb
  | cons x a ih =>
    cases b with
    | nil => exact absurd ((List.cons.inj same).1 ▸ List.mem_cons_self) ha
    | cons y b =>
      obtain ⟨rfl, behind⟩ := List.cons.inj same
      obtain ⟨rfl, rest⟩ := ih (fun member => ha (List.mem_cons_of_mem x member))
        (fun member => hb (List.mem_cons_of_mem x member)) behind
      exact ⟨rfl, rest⟩

theorem toList_bracketed {ident : String} (h : ']' ∉ ident.toList) :
    (bracketed ident).toList = '[' :: (ident.toList ++ [']']) := by
  unfold bracketed
  rw [if_neg]
  · simp
  · rintro ⟨_, last⟩
    exact h (List.mem_of_getLast? last)

namespace Entity

/-- No identifier of the entity closes the brackets around it. -/
structure Unclosed (e : Entity) : Prop where
  name : ']' ∉ e.name.toList
  aliasName : ∀ a ∈ e.aliasName, ']' ∉ a.toList

instance (e : Entity) : Decidable e.Unclosed :=
  decidable_of_iff (']' ∉ e.name.toList ∧ ∀ a ∈ e.aliasName, ']' ∉ a.toList)
    ⟨fun h => ⟨h.1, h.2⟩, fun h => ⟨h.1, h.2⟩⟩

/-- What is printed of an alias behind a name. -/
def aliasText : Option String → List Char
  | none => []
  | some a => [' ', 'A', 'S', ' ', '['] ++ (a.toList ++ [']'])

theorem toList_render {e : Entity} (h : e.Unclosed) :
    (e.render true).toList = '[' :: (e.name.toList ++ ']' :: aliasText e.aliasName) := by
  unfold render printedIdent
  cases given : e.aliasName with
  | none => simp [toList_bracketed h.name, aliasText]
  | some a => simp [toList_bracketed h.name, toList_bracketed (h.aliasName a given), aliasText]

/-- An alias is told from what comes behind it, if that does not begin with a space. -/
theorem aliasText_append_injective {a b : Option String} {r s : List Char}
    (ha : ∀ x ∈ a, ']' ∉ x.toList) (hb : ∀ x ∈ b, ']' ∉ x.toList) (hr : r.head? ≠ some ' ')
    (hs : s.head? ≠ some ' ') (same : aliasText a ++ r = aliasText b ++ s) : a = b ∧ r = s := by
  -- An alias begins with a space, so it is there on both sides or on neither.
  cases a with
  | none =>
    cases b with
    | none => exact ⟨rfl, same⟩
    | some y => exact absurd (congrArg List.head? same) hr
  | some x =>
    cases b with
    | none => exact absurd (congrArg List.head? same.symm) hs
    | some y =>
      have closed : x.toList ++ ']' :: r = y.toList ++ ']' :: s := by
        simpa [aliasText] using same
      obtain ⟨ident, rest⟩ := Text.eq_of_append_cons (ha x rfl) (hb y rfl) closed
      exact ⟨congrArg some (String.toList_inj.1 ident), rest⟩

theorem render_append_injective {e f : Entity} {r s : List Char} (he : e.Unclosed)
    (hf : f.Unclosed) (hr : r.head? ≠ some ' ') (hs : s.head? ≠ some ' ')
    (same : (e.render true).toList ++ r = (f.render true).toList ++ s) : e = f ∧ r = s := by
  have closed : e.name.toList ++ ']' :: (aliasText e.aliasName ++ r) =
      f.name.toList ++ ']' :: (aliasText f.aliasName ++ s) := by
    simpa [toList_render he, toList_render hf] using same
  obtain ⟨name, behind⟩ := Text.eq_of_append_cons he.name hf.name closed
  obtain ⟨aliasName, rest⟩ := aliasText_append_injective he.aliasName hf.aliasName hr hs behind
  obtain ⟨n, a⟩ := e
  obtain ⟨m, b⟩ := f
  obtain rfl : n = m := String.toList_inj.1 name
  obtain rfl : a = b := aliasName
  exact ⟨rfl, rest⟩

end Entity

namespace Sources

/-- What is printed of entities behind another one. -/
def following (es : List Entity) : List Char :=
  es.flatMap fun e => [',', ' '] ++ (e.render true).toList

theorem following_cons (e : Entity) (es : List Entity) :
    following (e :: es) = ',' :: ' ' :: ((e.render true).toList ++ following es) := rfl

theorem head?_following (es : List Entity) : (following es).head? ≠ some ' ' := by
  cases es with
  | nil => simp [following]
  | cons e rest => simp [following_cons]

theorem following_injective {es fs : List Entity} (hes : ∀ e ∈ es, e.Unclosed)
    (hfs : ∀ f ∈ fs, f.Unclosed) (same : following es = following fs) : es = fs := by
  induction es generalizing fs with
  | nil =>
    cases fs with
    | nil => rfl
    | cons f fs => contradiction
  | cons e es ih =>
    cases fs with
    | nil => contradiction
    | cons f fs =>
      obtain ⟨he, hes⟩ := List.forall_mem_cons.1 hes
      obtain ⟨hf, hfs⟩ := List.forall_mem_cons.1 hfs
      simp only [following_cons, List.cons.injEq, true_and] at same
      obtain ⟨first, rest⟩ := Entity.render_append_injective he hf (head?_following es)
        (head?_following fs) same
      rw [first, ih hes hfs rest]

theorem toList_intercalate (e : Entity) (es : List Entity) :
    (", ".intercalate ((e :: es).map (Entity.render true))).toList =
      (e.render true).toList ++ following es := by
  induction es generalizing e with
  | nil => simp [following]
  | cons f es ih =>
    rw [List.map_cons, List.map_cons, String.intercalate_cons_cons, ← List.map_cons,
      String.toList_append, ih f, following_cons]
    simp

/-- Sources are printed as behind another entity, less the separator in front. -/
theorem toList_render (s : Sources) :
    (s.render true).toList = (following s.entities).drop 2 := by
  cases s with
  | single name => exact (List.append_nil _).symm
  | several es =>
    cases es with
    | nil => rfl
    | cons e es => exact toList_intercalate e es

/-- Sources without a closing bracket in a name or an alias have the same entities if they have the
same text, whatever else their names and aliases contain. -/
theorem entities_fixed_by_text {s t : Sources} (hs : ∀ e ∈ s.entities, e.Unclosed)
    (ht : ∀ e ∈ t.entities, e.Unclosed) (same : s.render true = t.render true) :
    s.entities = t.entities := by
  have chars := congrArg String.toList same
  rw [toList_render, toList_render] at chars
  generalize s.entities = es at *
  generalize t.entities = fs at *
  cases es with
  | nil =>
    cases fs with
    | nil => rfl
    | cons f fs => simp [following, Entity.toList_render (ht f List.mem_cons_self)] at chars
  | cons e es =>
    cases fs with
    | nil => simp [following, Entity.toList_render (hs e List.mem_cons_self)] at chars
    | cons f fs =>
      simp only [following_cons, List.drop_succ_cons, List.drop_zero] at chars
      refine following_injective hs ht ?_
      rw [following_cons, following_cons, chars]

theorem entities_fixed_by_text_of_pushed :
    let s := (single "Robots AS r, [Parts").push ⟨"", some " AS ["⟩
    let t := several [⟨"Robots AS r, [Parts", none⟩, ⟨"", some " AS ["⟩]
    (∀ e ∈ s.entities, e.Unclosed) ∧ (∀ e ∈ t.entities, e.Unclosed) ∧
      s.render true = "[Robots AS r, [Parts], [] AS [ AS []" ∧ s.render true = t.render true ∧
      s.entities = t.entities :=
  ⟨by decide, by decide, by decide, by decide,
    entities_fixed_by_text (by decide) (by decide) (by decide)⟩

/-- A name with a closing bracket can pass for two entities. -/
example : (single "Robots], [Parts").render true = (ofNames ["Robots", "Parts"]).render true := by
  decide

end Sources
end QueryBuilder
