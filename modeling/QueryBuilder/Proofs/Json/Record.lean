import Mathlib.Data.List.Pairwise
import QueryBuilder.Json.Record

/-! Records whose members are rearranged. Fields that set different parts of a record may come in
any order, and any unknown members may stand between them.
-/
namespace QueryBuilder.Json

theorem bind_eq_ok {ε β γ : Type} {x : Except ε β} {f : β → Except ε γ} {c : γ} :
    (x >>= f) = .ok c ↔ ∃ b, x = .ok b ∧ f b = .ok c := by
  cases x with
  | error e => exact ⟨nofun, nofun⟩
  | ok b =>
    refine ⟨fun h => ⟨b, rfl, h⟩, ?_⟩
    rintro ⟨_, ⟨⟩, h⟩
    exact h

namespace Record

variable {α : Type} {fields : List (Field α)} {room : Nat}

/-- What a member makes of the names that were given before it and of the record. -/
inductive Reads (fields : List (Field α)) (room : Nat) (m : Literal × Tree) :
    List String × α → List String × α → Prop
  | skipped {name : String} {s : List String × α} (key : m.1.read = .ok name)
    (unknown : fields.find? (fun f => f.name = name) = none) (value : m.2.skip = .ok ()) :
    Reads fields room m s s
  | put {name : String} {f : Field α} {given : List String} {a b : α}
    (key : m.1.read = .ok name) (known : fields.find? (fun f => f.name = name) = some f)
    (fresh : name ∉ given) (value : f.read room m.2 a = .ok b) :
    Reads fields room m (given, a) (name :: given, b)

variable {m n : Literal × Tree} {ms ns : List (Literal × Tree)} {s t r : List String × α}

theorem readMembers_cons_iff :
    readMembers fields room s.1 s.2 (m :: ms) = .ok r ↔
      ∃ t, Reads fields room m s t ∧ readMembers fields room t.1 t.2 ms = .ok r := by
  obtain ⟨given, a⟩ := s
  obtain ⟨key, value⟩ := m
  rw [readMembers, bind_eq_ok]
  constructor
  · rintro ⟨name, named, h⟩
    cases found : fields.find? fun f => f.name = name with
    | none =>
      rw [found] at h
      obtain ⟨_, skipped, more⟩ := bind_eq_ok.mp h
      exact ⟨_, .skipped named found skipped, more⟩
    | some f =>
      simp only [found] at h
      split at h
      case isTrue => cases h
      case isFalse fresh =>
        obtain ⟨b, read, more⟩ := bind_eq_ok.mp h
        exact ⟨_, .put named found (by simpa using fresh) read, more⟩
  · rintro ⟨t, ⟨named, found, skipped⟩ | ⟨named, found, fresh, read⟩, more⟩
    · refine ⟨_, named, ?_⟩
      rw [found]
      exact bind_eq_ok.mpr ⟨_, skipped, more⟩
    · refine ⟨_, named, ?_⟩
      simp only [found, List.contains_eq_mem, fresh, decide_false, Bool.false_eq_true, if_false]
      exact bind_eq_ok.mpr ⟨_, read, more⟩

/-- Two fields that may be read one after the other in either order. -/
def Independent (f g : Field α) : Prop :=
  ∀ (room : Nat) (t u : Tree) (a c : α),
    (f.read room t a >>= g.read room u) = .ok c ↔ (g.read room u a >>= f.read room t) = .ok c

theorem independent_field {β γ : Type} {k l : String} {p q : Presence} {r : Reader β}
    {r' : Reader γ} {set : β → α → α} {set' : γ → α → α}
    (commute : ∀ x y a, set' y (set x a) = set x (set' y a)) :
    Independent (field k p r set) (field l q r' set') := by
  intro room t u a c
  simp only [field]
  cases r room t with
  | error _ => cases r' room u <;> exact ⟨nofun, nofun⟩
  | ok x =>
    cases r' room u with
    | error _ => exact ⟨nofun, nofun⟩
    | ok y =>
      change Except.ok (set' y (set x a)) = _ ↔ Except.ok (set x (set' y a)) = _
      rw [commute]

instance : Std.Symm (Independent (α := α)) :=
  ⟨fun _ _ h room t u a c => (h room u t a c).symm⟩

/-- The same names were given, in whatever order, and the records are equal. -/
def Same (s t : List String × α) : Prop := s.1.Perm t.1 ∧ s.2 = t.2

theorem Reads.same {s' : List String × α} (h : Reads fields room m s t) (same : Same s s') :
    ∃ t', Reads fields room m s' t' ∧ Same t t' := by
  obtain ⟨given', a'⟩ := s'
  cases h with
  | skipped key unknown value => exact ⟨_, .skipped key unknown value, same⟩
  | put key known fresh value =>
    obtain ⟨names, rfl⟩ := same
    exact ⟨_, .put key known (mt names.mem_iff.mpr fresh) value, names.cons _, rfl⟩

theorem readMembers_same {s' : List String × α}
    (h : readMembers fields room s.1 s.2 ms = .ok r) (same : Same s s') :
    ∃ r', readMembers fields room s'.1 s'.2 ms = .ok r' ∧ Same r r' := by
  induction ms generalizing s s' with
  | nil =>
    cases h
    exact ⟨_, rfl, same⟩
  | cons m ms ih =>
    obtain ⟨t, reads, more⟩ := readMembers_cons_iff.mp h
    obtain ⟨t', reads', same'⟩ := reads.same same
    obtain ⟨r', more', final⟩ := ih more same'
    exact ⟨r', readMembers_cons_iff.mpr ⟨t', reads', more'⟩, final⟩

theorem Reads.swap (independent : fields.Pairwise Independent)
    (first : Reads fields room m s t) (second : Reads fields room n t r) :
    ∃ t' r', Reads fields room n s t' ∧ Reads fields room m t' r' ∧ Same r r' := by
  cases first with
  | skipped key unknown value =>
    exact ⟨r, r, second, .skipped key unknown value, .refl _, rfl⟩
  | @put name f given a b key known fresh value =>
    cases second with
    | skipped key' unknown' value' =>
      exact ⟨_, _, .skipped key' unknown' value', .put key known fresh value, .refl _, rfl⟩
    | @put name' g _ _ c key' known' fresh' value' =>
      obtain ⟨differ, fresh'⟩ := not_or.mp (mt List.mem_cons.mpr fresh')
      -- Both were accepted, so they have different names and belong to different fields.
      have named : f.name = name := by simpa using List.find?_some known
      have named' : g.name = name' := by simpa using List.find?_some known'
      have apart : f ≠ g := by
        rintro rfl
        exact differ (named'.symm.trans named)
      have either := independent.forall (List.mem_of_find?_eq_some known)
        (List.mem_of_find?_eq_some known') apart
      obtain ⟨d, value₁, value₂⟩ :=
        bind_eq_ok.mp ((either room m.2 n.2 a c).mp (bind_eq_ok.mpr ⟨b, value, value'⟩))
      have fresh₂ : name ∉ name' :: given :=
        mt List.mem_cons.mp (not_or.mpr ⟨Ne.symm differ, fresh⟩)
      exact ⟨_, _, .put key' known' fresh' value₁, .put key known fresh₂ value₂, .swap .., rfl⟩

theorem readMembers_perm (independent : fields.Pairwise Independent) (rearranged : ms.Perm ns)
    (h : readMembers fields room s.1 s.2 ms = .ok r) :
    ∃ r', readMembers fields room s.1 s.2 ns = .ok r' ∧ Same r r' := by
  induction rearranged generalizing s r with
  | nil => exact ⟨r, h, .refl _, rfl⟩
  | cons m _ ih =>
    obtain ⟨t, reads, more⟩ := readMembers_cons_iff.mp h
    obtain ⟨r', more', same⟩ := ih more
    exact ⟨r', readMembers_cons_iff.mpr ⟨t, reads, more'⟩, same⟩
  | swap n m ms =>
    obtain ⟨t, first, rest⟩ := readMembers_cons_iff.mp h
    obtain ⟨u, second, more⟩ := readMembers_cons_iff.mp rest
    obtain ⟨t', u', second', first', same⟩ := first.swap independent second
    -- Only the order of the names given so far is another one, which later members do not notice.
    obtain ⟨r', more', final⟩ := readMembers_same more same
    exact ⟨r', readMembers_cons_iff.mpr ⟨t', second', readMembers_cons_iff.mpr
      ⟨u', first', more'⟩⟩, final⟩
  | trans _ _ ih₁ ih₂ =>
    obtain ⟨r₁, h₁, names₁, record₁⟩ := ih₁ h
    obtain ⟨r₂, h₂, names₂, record₂⟩ := ih₂ h₁
    exact ⟨r₂, h₂, names₁.trans names₂, record₁.trans record₂⟩

/-- A member that no field is named like, and that can be passed over. -/
def Unknown (fields : List (Field α)) (m : Literal × Tree) : Prop :=
  m.2.skip = .ok () ∧ ∃ name, m.1.read = .ok name ∧ name ∉ fields.map Field.name

theorem readMembers_unknown {given : List String} {a : α}
    (unknown : ∀ m ∈ ns, Unknown fields m) :
    readMembers fields room given a (ns ++ ms) = readMembers fields room given a ms := by
  induction ns with
  | nil => rfl
  | cons n ns ih =>
    obtain ⟨⟨skipped, name, key, other⟩, rest⟩ := List.forall_mem_cons.mp unknown
    have none : fields.find? (fun f => f.name = name) = none := by
      rw [List.find?_eq_none]
      intro f mem same
      exact other (List.mem_map.mpr ⟨f, mem, by simpa using same⟩)
    obtain ⟨literal, value⟩ := n
    rw [List.cons_append, readMembers, key, ← ih rest]
    simp only [bind, Except.bind, none]
    rw [skipped]

theorem missing?_perm {given given' : List String} (h : given.Perm given') :
    missing? fields given = missing? fields given' := by
  rw [missing?, missing?]
  simp only [h.contains_eq]

variable {type : String} {start a : α}

theorem record_eq_ok {ending : Ending} :
    Reader.record type fields start room (.object ms ending) = .ok a ↔
      ∃ inside given, enter room = .ok inside ∧
        readMembers fields inside [] start ms = .ok (given, a) ∧ ending.check = .ok () ∧
        missing? fields given = none := by
  simp only [Reader.record, bind_eq_ok, Prod.exists]
  constructor
  · rintro ⟨inside, entered, given, b, read, ⟨⟩, checked, result⟩
    split at result
    case h_1 => cases result
    case h_2 complete =>
      cases result
      exact ⟨inside, given, entered, read, checked, complete⟩
  · rintro ⟨inside, given, entered, read, checked, complete⟩
    refine ⟨inside, entered, given, a, read, (), checked, ?_⟩
    rw [complete]
    rfl

theorem record_perm (independent : fields.Pairwise Independent) (rearranged : ms.Perm ns)
    {ending : Ending}
    (h : Reader.record type fields start room (.object ms ending) = .ok a) :
    Reader.record type fields start room (.object ns ending) = .ok a := by
  obtain ⟨inside, given, entered, read, checked, complete⟩ := record_eq_ok.mp h
  obtain ⟨⟨given', _⟩, read', names, rfl⟩ :=
    readMembers_perm (s := ([], start)) independent rearranged read
  rw [missing?_perm names] at complete
  exact record_eq_ok.mpr ⟨inside, given', entered, read', checked, complete⟩

/-- A record reads alike however the members of an object are ordered, and whatever unknown members
stand between them. -/
theorem record_rearranged (independent : fields.Pairwise Independent)
    (unknown : ∀ m ∈ ns, Unknown fields m) {ms' : List (Literal × Tree)}
    (rearranged : ms'.Perm (ms ++ ns)) {ending : Ending} :
    Reader.record type fields start room (.object ms' ending) = .ok a ↔
      Reader.record type fields start room (.object ms ending) = .ok a := by
  have unknownFirst : ms'.Perm (ns ++ ms) := rearranged.trans List.perm_append_comm
  have skipped : Reader.record type fields start room (.object (ns ++ ms) ending) =
      Reader.record type fields start room (.object ms ending) := by
    simp only [Reader.record, readMembers_unknown unknown]
  rw [← skipped]
  exact ⟨record_perm independent unknownFirst, record_perm independent unknownFirst.symm⟩

end Record
end QueryBuilder.Json
