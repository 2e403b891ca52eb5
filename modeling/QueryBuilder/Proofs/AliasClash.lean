import Mathlib.Data.Finset.Card
import Mathlib.Data.List.Forall2
import QueryBuilder.AliasClash
import QueryBuilder.Proofs.OrderedMap

/-! Clashes of aliases, entity by entity. The owners that are kept while a list is read are the
first entities that carry their aliases, so an entity clashes just when one before it carries its
alias.
-/
namespace QueryBuilder.AliasClash

def aliases (es : List Entity) : List String := es.filterMap Entity.aliasName

/-- The name of the first entity that carries an alias. -/
def owner? (es : List Entity) (a : String) : Option String :=
  (es.find? fun e => e.aliasName = some a).map Entity.name

/-- The clashes of entities that come after others. -/
def after (earlier : List Entity) : List Entity → List AliasClash
  | [] => []
  | e :: rest => (next? earlier e).toList ++ after (earlier ++ [e]) rest

theorem next?_eq (earlier : List Entity) (e : Entity) :
    next? earlier e = e.aliasName.bind fun a => (owner? earlier a).map fun o => ⟨a, o, e.name⟩ := by
  unfold next? owner?
  cases e.aliasName with
  | none => rfl
  | some a =>
    cases found : earlier.find? fun o => o.aliasName = some a with
    | none => simp [found]
    | some o => simp [found]

theorem owner?_append_singleton (es : List Entity) (e : Entity) (a : String) :
    owner? (es ++ [e]) a =
      (owner? es a).or (if e.aliasName = some a then some e.name else none) := by
  unfold owner?
  rw [List.find?_append]
  cases es.find? fun o => o.aliasName = some a with
  | some o => rfl
  | none => by_cases carried : e.aliasName = some a <;> simp [carried]

theorem owner?_isSome_iff {es : List Entity} {a : String} :
    (owner? es a).isSome ↔ a ∈ aliases es := by
  simp [owner?, aliases, List.find?_isSome]

/-- The owners after an entity is read: it takes its alias if no other has it. -/
def record (owners : OrderedMap String String) (e : Entity) : OrderedMap String String :=
  match e.aliasName with
  | none => owners
  | some a => if (owners.get? a).isSome then owners else owners.insert a e.name

theorem get?_record (owners : OrderedMap String String) (e : Entity) (a : String) :
    (record owners e).get? a =
      (owners.get? a).or (if e.aliasName = some a then some e.name else none) := by
  unfold record
  cases e.aliasName with
  | none => simp
  | some b =>
    cases owned : owners.get? b with
    | some o =>
      by_cases same : b = a
      · simp [← same, owned]
      · simp [same, owned]
    | none =>
      by_cases same : b = a
      · simp [← same, owned, OrderedMap.get?_insert]
      · simp [same, owned, OrderedMap.get?_insert]

theorem allFrom_cons (owners : OrderedMap String String) (e : Entity) (rest : List Entity) :
    allFrom owners (e :: rest) =
      (e.aliasName.bind fun a => (owners.get? a).map fun o => AliasClash.mk a o e.name).toList ++
        allFrom (record owners e) rest := by
  rw [allFrom, record]
  cases e.aliasName with
  | none => rfl
  | some a =>
    cases owned : owners.get? a with
    | some o => simp [owned]
    | none => simp [owned]

/-- The owners that are kept while a list is read are those of the entities read so far. -/
theorem allFrom_eq_after {owners : OrderedMap String String} {earlier : List Entity}
    (kept : ∀ a, owners.get? a = owner? earlier a) (es : List Entity) :
    allFrom owners es = after earlier es := by
  induction es generalizing owners earlier with
  | nil => rfl
  | cons e rest ih =>
    have kept' : ∀ a, (record owners e).get? a = owner? (earlier ++ [e]) a := by
      intro a
      rw [get?_record, owner?_append_singleton, kept a]
    rw [allFrom_cons, after, next?_eq, ih kept']
    simp only [kept]

theorem all_eq_after (es : List Entity) : all es = after [] es :=
  allFrom_eq_after (fun _ => rfl) es

theorem after_append (earlier xs ys : List Entity) :
    after earlier (xs ++ ys) = after earlier xs ++ after (earlier ++ xs) ys := by
  induction xs generalizing earlier with
  | nil => simp [after]
  | cons x rest ih => simp [after, ih, List.append_assoc]

theorem all_append_singleton (es : List Entity) (e : Entity) :
    all (es ++ [e]) = all es ++ (next? es e).toList := by
  rw [all_eq_after, all_eq_after, after_append]
  simp [after]

/-- The entities that carry an alias. No other entity takes part in a clash. -/
def aliased (es : List Entity) : List Entity := es.filter fun e => e.aliasName.isSome

theorem aliases_aliased (es : List Entity) : aliases (aliased es) = aliases es := by
  unfold aliases aliased
  rw [List.filterMap_filter]
  congr
  funext e
  cases e.aliasName <;> rfl

theorem allFrom_aliased (owners : OrderedMap String String) (es : List Entity) :
    allFrom owners (aliased es) = allFrom owners es := by
  induction es generalizing owners with
  | nil => rfl
  | cons e rest ih =>
    cases named : e.aliasName with
    | none => simpa [aliased, allFrom, named] using ih owners
    | some a =>
      cases owned : owners.get? a with
      | some o => simpa [aliased, allFrom, named, owned] using ih owners
      | none => simpa [aliased, allFrom, named, owned] using ih (owners.insert a e.name)

theorem all_aliased (es : List Entity) : all (aliased es) = all es := allFrom_aliased _ es

theorem count_aliases (es : List Entity) (a : String) :
    (aliases es).count a = es.countP fun e => e.aliasName = some a := by
  rw [aliases, List.count_filterMap]
  congr
  funext e
  rw [beq_eq_decide]

theorem aliases_append_singleton (es : List Entity) (e : Entity) :
    aliases (es ++ [e]) = aliases es ++ e.aliasName.toList := by
  unfold aliases
  rw [List.filterMap_append]
  cases named : e.aliasName <;> simp [named]

/-- There is one clash for each entity with an alias beyond the first with the same alias. -/
theorem length_all_add_card (es : List Entity) :
    (all es).length + (aliases es).toFinset.card = (aliases es).length := by
  -- An entity at the end clashes just when the set of aliases does not grow by it.
  induction es using List.reverseRecOn with
  | nil => rfl
  | append_singleton es e ih =>
    rw [all_append_singleton, aliases_append_singleton, next?_eq, List.length_append,
      List.length_append]
    cases e.aliasName with
    | none => simpa using ih
    | some a =>
      have grown : (aliases es ++ [a]).toFinset = insert a (aliases es).toFinset := by
        ext b
        simp
      by_cases taken : a ∈ aliases es
      · obtain ⟨o, owned⟩ := Option.isSome_iff_exists.1 (owner?_isSome_iff.2 taken)
        rw [Option.toList_some, grown, Finset.insert_eq_of_mem (by simpa using taken)]
        simp only [owned, Option.bind_some, Option.map_some, Option.toList_some,
          List.length_singleton]
        omega
      · have free : owner? es a = none := by
          rw [← Option.not_isSome_iff_eq_none, owner?_isSome_iff]
          exact taken
        rw [Option.toList_some, grown, Finset.card_insert_of_notMem (by simpa using taken)]
        simp only [free, Option.bind_some, Option.map_none, Option.toList_none, List.length_nil,
          List.length_singleton]
        omega

theorem length_all_of_perm {es fs : List Entity} (same : (aliased es).Perm (aliased fs)) :
    (all es).length = (all fs).length := by
  have carried : (aliases es).Perm (aliases fs) := by
    rw [← aliases_aliased es, ← aliases_aliased fs]
    exact same.filterMap _
  have left := length_all_add_card es
  have right := length_all_add_card fs
  rw [List.toFinset_eq_of_perm _ _ carried, carried.length_eq] at left
  omega

theorem two_le_count_append_singleton {es : List Entity} {e : Entity} {a : String}
    (twice : 2 ≤ (aliases (es ++ [e])).count a) :
    2 ≤ (aliases es).count a ∨ ∃ c, next? es e = some c ∧ c.aliasName = a := by
  rw [aliases_append_singleton, List.count_append] at twice
  by_cases early : 2 ≤ (aliases es).count a
  · exact .inl early
  · have carried : e.aliasName = some a := by
      by_contra other
      have none : e.aliasName.toList.count a = 0 := by
        rw [List.count_eq_zero, Option.mem_toList]
        exact other
      omega
    have owned : a ∈ aliases es := by
      rw [carried, Option.toList_some, List.count_singleton_self] at twice
      exact List.count_pos_iff.1 (by omega)
    obtain ⟨o, found⟩ := Option.isSome_iff_exists.1 (owner?_isSome_iff.2 owned)
    exact .inr ⟨⟨a, o, e.name⟩, by simp [next?_eq, carried, found], rfl⟩

theorem exists_mem_all_of_two_le_count {es : List Entity} {a : String}
    (twice : 2 ≤ (aliases es).count a) : ∃ c ∈ all es, c.aliasName = a := by
  induction es using List.reverseRecOn with
  | nil => contradiction
  | append_singleton es e ih =>
    rw [all_append_singleton]
    rcases two_le_count_append_singleton twice with early | ⟨c, clash, same⟩
    · obtain ⟨c, member, same⟩ := ih early
      exact ⟨c, List.mem_append_left _ member, same⟩
    · exact ⟨c, List.mem_append_right _ (by simp [clash]), same⟩

/-- The entity at a position carries an alias that an entity before it carries. -/
def RepeatsAt (es : List Entity) (i : Nat) : Prop :=
  ∃ e a, es[i]? = some e ∧ e.aliasName = some a ∧ ∃ o ∈ es.take i, o.aliasName = some a

/-- A clash names the alias of the entity at a position, the earliest entity with this alias, and
the entity itself. -/
structure ClashAt (es : List Entity) (i : Nat) (c : AliasClash) : Prop where
  later : ∃ e, es[i]? = some e ∧ e.aliasName = some c.aliasName ∧ e.name = c.entity
  earliest : ∃ j < i,
    (∃ o, es[j]? = some o ∧ o.aliasName = some c.aliasName ∧ o.name = c.existing) ∧
      ∀ k < j, ∀ x, es[k]? = some x → x.aliasName ≠ some c.aliasName

theorem ClashAt.append {es : List Entity} {i : Nat} {c : AliasClash} (h : ClashAt es i c)
    (fs : List Entity) : ClashAt (es ++ fs) i c := by
  obtain ⟨⟨e, here, carried, named⟩, j, before, ⟨o, there, owns, name⟩, first⟩ := h
  have inside : i < es.length := (List.getElem?_eq_some_iff.1 here).1
  have same (k : Nat) (low : k ≤ i) : (es ++ fs)[k]? = es[k]? :=
    List.getElem?_append_left (by omega)
  refine ⟨⟨e, ?_, carried, named⟩, j, before, ⟨o, ?_, owns, name⟩, ?_⟩
  · rw [same i (Nat.le_refl i), here]
  · rw [same j (by omega), there]
  · intro k low x found
    rw [same k (by omega)] at found
    exact first k low x found

theorem clashAt_of_next? {es : List Entity} {e : Entity} {c : AliasClash}
    (h : next? es e = some c) : ClashAt (es ++ [e]) es.length c := by
  rw [next?_eq] at h
  obtain ⟨a, carried, owned⟩ := Option.bind_eq_some_iff.1 h
  obtain ⟨name, owner, rfl⟩ := Option.map_eq_some_iff.1 owned
  obtain ⟨o, found, rfl⟩ := Option.map_eq_some_iff.1 owner
  obtain ⟨owns, j, inside, there, first⟩ := List.find?_eq_some_iff_getElem.1 found
  refine ⟨⟨e, List.getElem?_concat_length, carried, rfl⟩, j, inside, ⟨o, ?_, ?_, rfl⟩, ?_⟩
  · rw [List.getElem?_append_left inside, List.getElem?_eq_getElem inside, there]
  · exact of_decide_eq_true owns
  · intro k low x found
    have bound : k < es.length := by omega
    rw [List.getElem?_append_left bound, List.getElem?_eq_getElem bound] at found
    obtain rfl := Option.some.inj found
    simpa using first k low

theorem repeatsAt_append_singleton {es : List Entity} {e : Entity} {i : Nat} :
    RepeatsAt (es ++ [e]) i ↔ RepeatsAt es i ∨ i = es.length ∧ (next? es e).isSome := by
  have last : (next? es e).isSome ↔ ∃ a, e.aliasName = some a ∧ ∃ o ∈ es, o.aliasName = some a := by
    rw [next?_eq]
    cases e.aliasName with
    | none => simp
    | some a => simp [owner?]
  rcases Nat.lt_trichotomy i es.length with inside | rfl | outside
  · have before : (es ++ [e]).take i = es.take i := List.take_append_of_le_length (by omega)
    simp only [RepeatsAt, List.getElem?_append_left inside, before]
    refine ⟨.inl, ?_⟩
    rintro (early | ⟨rfl, -⟩)
    · exact early
    · omega
  · simp only [RepeatsAt, List.getElem?_concat_length, List.take_left, last]
    simp
  · have none (fs : List Entity) (short : fs.length ≤ i) : ¬ RepeatsAt fs i := by
      rintro ⟨e, a, here, -⟩
      rw [List.getElem?_eq_none short] at here
      contradiction
    have longer : (es ++ [e]).length ≤ i := by simpa using Nat.succ_le_of_lt outside
    simp [none _ longer, none es (by omega), (Nat.ne_of_lt outside).symm]

/-- There is one clash for each position at which an alias is repeated, in order of position. -/
theorem exists_positions (es : List Entity) :
    ∃ ps : List Nat, ps.Pairwise (· < ·) ∧ (∀ i, i ∈ ps ↔ RepeatsAt es i) ∧
      List.Forall₂ (ClashAt es) ps (all es) := by
  induction es using List.reverseRecOn with
  | nil => exact ⟨[], .nil, by simp [RepeatsAt], .nil⟩
  | append_singleton es e ih =>
    obtain ⟨ps, rising, members, clashes⟩ := ih
    have kept : List.Forall₂ (ClashAt (es ++ [e])) ps (all es) :=
      clashes.imp fun _ _ clash => clash.append [e]
    rw [all_append_singleton]
    cases clash : next? es e with
    | none =>
      refine ⟨ps, rising, fun i => ?_, by simpa using kept⟩
      rw [repeatsAt_append_singleton, members, clash]
      simp
    | some c =>
      have inside : ∀ i ∈ ps, i < es.length := by
        intro i member
        obtain ⟨_, _, here, -⟩ := (members i).1 member
        exact (List.getElem?_eq_some_iff.1 here).1
      refine ⟨ps ++ [es.length], ?_, fun i => ?_, ?_⟩
      · exact List.pairwise_append.2 ⟨rising, List.pairwise_singleton _ _, by simpa using inside⟩
      · rw [repeatsAt_append_singleton, List.mem_append, members, clash]
        simp
      · exact List.rel_append kept (.cons (clashAt_of_next? clash) .nil)

theorem all_eq_nil_iff {es : List Entity} : all es = [] ↔ (aliases es).Nodup := by
  have count := length_all_add_card es
  rw [← List.length_eq_zero_iff, ← Multiset.coe_nodup, ← Multiset.toFinset_card_eq_card_iff_nodup]
  change _ ↔ (aliases es).toFinset.card = (aliases es).length
  omega

end QueryBuilder.AliasClash
