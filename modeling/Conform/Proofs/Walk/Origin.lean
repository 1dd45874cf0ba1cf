import Conform.Proofs.Report.Words
import Conform.Proofs.Rule.Judgement
import Conform.Proofs.Walk.Likeness
import Mathlib.Logic.Relation

/-!
# Where errors come from

A walk is made of calls: a node is checked against a value in a context. A call makes further calls
(`Descends`) and may itself end in an error (`Raises`): the depth is used up, an intersection has too
few members, a rule ends in an error, or a failure is reported (`Blames`). Every error of a walk is
raised at a call that the first call leads to (`Call.origin`). So a property of errors is proved by
showing what one descent preserves and what holds where an error is raised. What a call comes to depends
on no other calls than those it makes (`inside_congr`).
-/

namespace Conform.Walk

open Schema Outcome

variable {ι : Type} {g : Graph ι}

/-! ## Errors of the single shapes -/

section Shapes

variable {visit : Visit ι} {value : Value} {c : Context} {p : Bool} {e : Error}

theorem fail_eq_error {told : Told} :
    c.fail told value = .error e ↔ c.throwing = true ∧ e = told.toError value c.path :=
  Combinator.report_eq_error

theorem literalOutcome_eq_error {expected : Value}
    (h : literalOutcome expected value c p = .error e) :
    c.throwing = true ∧ e = Told.toError (.literalMismatch expected value) value c.path := by
  unfold literalOutcome at h
  split at h
  · cases h
  · exact fail_eq_error.1 h

theorem literal_eq_error {pl : Payload ι} (h : literal pl value c p = .error e) :
    c.throwing = true ∧ e = Told.toError (.literalMismatch (Report.literalValue pl) value) value c.path := by
  unfold literal at h
  split at h
  · cases h
  · exact literalOutcome_eq_error h

/-- An error of a member: the member is a node and the error is that of its check, or the member is
    a value and the error is that of missing it. -/
theorem member_eq_error {m : Member ι} (h : member visit m value c p = .error e) :
    (∃ ref, m = .node ref ∧ visit ref value c p = .error e) ∨
    ∃ x, m = .bare x ∧ c.throwing = true ∧
      e = Told.toError (.literalMismatch x value) value c.path := by
  cases m with
  | node ref => exact Or.inl ⟨ref, rfl, h⟩
  | bare x =>
    simp only [member] at h
    split at h
    · cases h
    · exact Or.inr ⟨x, rfl, literalOutcome_eq_error h⟩

/-- An error of a union: that of trying a node among the alternatives, or the failure of all. -/
theorem union_eq_error {ms : List (Member ι)} (h : union g visit ms value c = .error e) :
    (∃ ref, .node ref ∈ ms ∧ visit ref value c.probing true = .error e) ∨
    (c.throwing = true ∧ e = Told.toError (.unionMismatch g ms value) value c.path) := by
  rw [union_eq] at h
  split at h
  · cases h
  · rcases (otherwise_eq (by simp)).1 h with h | ⟨-, h⟩
    · obtain ⟨m, hm, he⟩ := exists_of_anyM h (by simp)
      cases m with
      | node ref => exact Or.inl ⟨ref, hm, he⟩
      | bare x => cases he
    · exact Or.inr (fail_eq_error.1 h)

/-- An error of an item: that of the only description, or of several as a union. -/
theorem item_eq_error {ms : List (Member ι)} (h : item g visit ms value c p = .error e) :
    (∃ m, ms = [m] ∧ member visit m value c p = .error e) ∨
    (ms.length ≠ 1 ∧ union g visit ms value c = .error e) := by
  unfold item at h
  split at h
  · exact Or.inl ⟨_, rfl, h⟩
  · rename_i hne
    refine Or.inr ⟨fun hl => ?_, h⟩
    obtain ⟨m, rfl⟩ := List.length_eq_one_iff.1 hl
    exact hne m rfl

/-- An error of a list: the value is no list, or the error is that of an item at its position. -/
theorem array_eq_error {ms : List (Member ι)} (h : array g visit ms value c p = .error e) :
    (value.items? = none ∧ c.throwing = true ∧
      e = Told.toError (.typeMismatch "array" value) value c.path) ∨
    ∃ xs i x, value.items? = some xs ∧ xs[i]? = some x ∧
      item g visit ms x (c.into (.index i)) p = .error e := by
  unfold array at h
  split at h
  · rename_i hx
    exact Or.inl ⟨hx, fail_eq_error.1 h⟩
  · rename_i xs hx
    split at h
    · cases h
    · obtain ⟨⟨x, i⟩, hxi, he⟩ := exists_of_allM h (by simp)
      exact Or.inr ⟨xs, i, x, hx, List.mk_mem_zipIdx_iff_getElem?.1 hxi, he⟩

/-- An error of an intersection: it has too few members, or the error is that of one of them. -/
theorem intersection_eq_error {ms : List (Member ι)}
    (h : intersection visit ms value c p = .error e) :
    (ms.length < 2 ∧ e = .schema (.arity ms.length c.path)) ∨
    (2 ≤ ms.length ∧ ∃ m ∈ ms, member visit m value c p = .error e) := by
  unfold intersection at h
  split at h
  · rename_i hl
    exact Or.inl ⟨hl, by cases h; rfl⟩
  · rename_i hl
    exact Or.inr ⟨by omega, exists_of_allM h (by simp)⟩

/-- An error of an object: the value is no object, or a property is missing, or the error is that of
    an entry. -/
theorem object_eq_error {ps : List (String × ι)} (h : object g visit ps value c p = .error e) :
    (value.entries? = none ∧ c.throwing = true ∧
      e = Told.toError (.typeMismatch "object" value) value c.path) ∨
    (∃ es k, value.entries? = some es ∧ missing? g ps es = some k ∧ c.throwing = true ∧
      e = Told.toError (.missingProperty k) value (c.path ++ [.key k])) ∨
    ∃ es k x ref, value.entries? = some es ∧ missing? g ps es = none ∧ (k, x) ∈ es ∧
      ps.lookup k = some ref ∧ visit ref x (c.into (.key k)) p = .error e := by
  unfold object at h
  split at h
  · rename_i he
    exact Or.inl ⟨he, fail_eq_error.1 h⟩
  · rename_i es he
    split at h
    · rename_i k hm
      exact Or.inr (Or.inl ⟨es, k, he, hm, fail_eq_error.1 h⟩)
    · rename_i hm
      obtain ⟨⟨k, x⟩, hx, hv⟩ := exists_of_allM h (by simp)
      unfold entry at hv
      split at hv
      · cases hv
      · rename_i ref hp
        exact Or.inr (Or.inr ⟨es, k, x, ref, he, hm, hx, hp, hv⟩)

end Shapes

/-! ## Calls -/

/-- A call of the walk: a value is checked against a node in a context, with the mark of a trial. -/
structure Call (ι : Type) where
  /-- The node. -/
  ref : ι
  /-- The value. -/
  value : Value
  /-- The context before the node is entered. -/
  context : Context
  /-- Is the node one of several alternatives that are tried? -/
  probe : Bool

/-- The outcome of a call. -/
def Call.outcome (g : Graph ι) (a : Call ι) : Outcome := node g a.ref a.value a.context a.probe

/-- The calls that a call makes, by the kind of its node. -/
inductive Descends (g : Graph ι) (a : Call ι) : Call ι → Prop where
  /-- The fallback of an optional node. -/
  | fallback {ref : ι} (hk : (g a.ref).kind = .optional)
      (hf : (g a.ref).fallback.head? = some ref) :
      Descends g a ⟨ref, a.value, a.context.entered, a.probe⟩
  /-- An item of a list against the only description of items. -/
  | item {ref : ι} {xs : List Value} {i : Nat} {x : Value} (hk : (g a.ref).kind = .array)
      (hx : a.value.items? = some xs) (hi : xs[i]? = some x)
      (hm : (g a.ref).alternatives = [.node ref]) :
      Descends g a ⟨ref, x, a.context.entered.into (.index i), a.probe⟩
  /-- An item of a list against one of several descriptions. -/
  | itemAlternative {ref : ι} {xs : List Value} {i : Nat} {x : Value} (hk : (g a.ref).kind = .array)
      (hx : a.value.items? = some xs) (hi : xs[i]? = some x)
      (hl : (g a.ref).alternatives.length ≠ 1) (hm : .node ref ∈ (g a.ref).alternatives) :
      Descends g a ⟨ref, x, (a.context.entered.into (.index i)).probing, true⟩
  /-- A member of an intersection. -/
  | demand {ref : ι} (hk : (g a.ref).kind = .intersection)
      (hl : 2 ≤ (g a.ref).alternatives.length) (hm : .node ref ∈ (g a.ref).alternatives) :
      Descends g a ⟨ref, a.value, a.context.entered, a.probe⟩
  /-- An alternative of a union. -/
  | alternative {ref : ι} (hk : (g a.ref).kind = .union)
      (hm : .node ref ∈ (g a.ref).alternatives) :
      Descends g a ⟨ref, a.value, a.context.entered.probing, true⟩
  /-- An entry of an object against the property of its key. -/
  | property {ref : ι} {es : List (String × Value)} {k : String} {x : Value}
      (hk : (g a.ref).kind = .object) (he : a.value.entries? = some es)
      (hm : missing? g (g a.ref).properties es = none) (hx : (k, x) ∈ es)
      (hp : (g a.ref).properties.lookup k = some ref) :
      Descends g a ⟨ref, x, a.context.entered.into (.key k), a.probe⟩

/-- The failures that a call tells of itself, by the kind of its node: what is told, of which part of the
    value, and where that part is. -/
inductive Blames (g : Graph ι) (a : Call ι) : Told → Value → Path → Prop where
  /-- The value is not of the primitive type. -/
  | type {p : Primitive} (hk : (g a.ref).kind = .primitive)
      (hp : Primitive.ofName? (g a.ref).typeName = some p) (ha : p.admits a.value = false) :
      Blames g a (.typeMismatch p.name a.value) a.value a.context.path
  /-- The rule of a tag refuses the value. -/
  | tag {p : Primitive} {t : Tag} {rule : Rule} (hk : (g a.ref).kind = .primitive)
      (hp : Primitive.ofName? (g a.ref).typeName = some p) (ha : p.admits a.value = true)
      (ht : t ∈ (g a.ref).tags) (hr : (a.context.registry.table p).find? t.name = some rule)
      (ho : rule a.value t.argument = .ok false) :
      Blames g a (.tagViolation (g a.ref).tags t a.value) a.value a.context.path
  /-- The value is not the literal. -/
  | literal (hk : (g a.ref).kind = .literal) :
      Blames g a (.literalMismatch (Report.literalValue (g a.ref).payload) a.value) a.value
        a.context.path
  /-- The value is no list. -/
  | notList (hk : (g a.ref).kind = .array) (hx : a.value.items? = none) :
      Blames g a (.typeMismatch "array" a.value) a.value a.context.path
  /-- An item is not the only value described. -/
  | item {xs : List Value} {i : Nat} {x expected : Value} (hk : (g a.ref).kind = .array)
      (hx : a.value.items? = some xs) (hi : xs[i]? = some x)
      (hm : (g a.ref).alternatives = [.bare expected]) :
      Blames g a (.literalMismatch expected x) x (a.context.path ++ [.index i])
  /-- No description accepts an item. -/
  | itemUnion {xs : List Value} {i : Nat} {x : Value} (hk : (g a.ref).kind = .array)
      (hx : a.value.items? = some xs) (hi : xs[i]? = some x)
      (hl : (g a.ref).alternatives.length ≠ 1) :
      Blames g a (.unionMismatch g (g a.ref).alternatives x) x (a.context.path ++ [.index i])
  /-- The value is not a value that an intersection demands. -/
  | demand {expected : Value} (hk : (g a.ref).kind = .intersection)
      (hl : 2 ≤ (g a.ref).alternatives.length) (hm : .bare expected ∈ (g a.ref).alternatives) :
      Blames g a (.literalMismatch expected a.value) a.value a.context.path
  /-- No alternative accepts the value. -/
  | union (hk : (g a.ref).kind = .union) :
      Blames g a (.unionMismatch g (g a.ref).alternatives a.value) a.value a.context.path
  /-- The value is no object. -/
  | notObject (hk : (g a.ref).kind = .object) (he : a.value.entries? = none) :
      Blames g a (.typeMismatch "object" a.value) a.value a.context.path
  /-- The object lacks a property. -/
  | missing {es : List (String × Value)} {k : String} (hk : (g a.ref).kind = .object)
      (he : a.value.entries? = some es)
      (hm : missing? g (g a.ref).properties es = some k) :
      Blames g a (.missingProperty k) a.value (a.context.path ++ [.key k])

/-- A failure is reported, or an integer in what is to be told of it is too long to be written. -/
theorem Blames.toError_cases {a : Call ι} {told : Told} {value : Value} {path : Path}
    (h : Blames g a told value path) :
    (∃ f, told.toError value path = .failure f) ∨ told.toError value path = .fault .tooLong := by
  have hword : ∃ P, Worded told P := by
    cases h with
    | type | notList | notObject => exact ⟨_, Told.worded_typeMismatch _ _⟩
    | tag => exact ⟨_, Told.worded_tagViolation _ _ _⟩
    | literal | item | demand => exact ⟨_, Told.worded_literalMismatch _ _⟩
    | itemUnion | union => exact ⟨_, Told.worded_unionMismatch _ _ _⟩
    | missing => exact ⟨_, .given _ trivial⟩
  obtain ⟨P, hword⟩ := hword
  obtain ⟨hfailure, hfault⟩ := Told.toError_worded hword value path
  by_cases hP : P
  · exact Or.inl (hfailure.2 hP)
  · exact Or.inr (hfault.2 hP)

/-- The errors that arise at a call itself. -/
inductive Raises (g : Graph ι) (a : Call ι) : Error → Prop where
  /-- The depth is used up. -/
  | cycle (hd : a.context.maxDepth ≤ a.context.depth) : Raises g a a.context.cycle
  /-- An intersection has too few members. -/
  | arity (hd : a.context.depth < a.context.maxDepth) (hk : (g a.ref).kind = .intersection)
      (hl : (g a.ref).alternatives.length < 2) :
      Raises g a (.schema (.arity (g a.ref).alternatives.length a.context.path))
  /-- The rule of a tag ends in an error. -/
  | rule {p : Primitive} {t : Tag} {rule : Rule} {e : Error}
      (hd : a.context.depth < a.context.maxDepth) (hk : (g a.ref).kind = .primitive)
      (hp : Primitive.ofName? (g a.ref).typeName = some p) (ha : p.admits a.value = true)
      (ht : t ∈ (g a.ref).tags) (hr : (a.context.registry.table p).find? t.name = some rule)
      (ho : rule a.value t.argument = .error e) : Raises g a e
  /-- A failure is reported, or telling of it comes to grief. -/
  | blame {told : Told} {value : Value} {path : Path} (hd : a.context.depth < a.context.maxDepth)
      (ht : a.context.throwing = true) (hb : Blames g a told value path) :
      Raises g a (told.toError value path)

/-- An error of a call is raised there or is the error of a call that it makes. -/
theorem Call.outcome_eq_error {a : Call ι} {e : Error} (h : a.outcome g = .error e) :
    Raises g a e ∨ ∃ b, Descends g a b ∧ b.outcome g = .error e := by
  unfold outcome at h
  rw [node_eq] at h
  split at h
  · rename_i hd
    cases h
    exact Or.inl (.cycle hd)
  rename_i hd
  replace hd : a.context.depth < a.context.maxDepth := by omega
  unfold inside at h
  split at h
  · cases h
  unfold shape at h
  split at h
  · rename_i hk
    split at h
    · rename_i ref rest hf
      exact Or.inr ⟨_, .fallback hk (by rw [hf]; rfl), h⟩
    · cases h
  · rename_i hk
    obtain ⟨ht, rfl⟩ := literal_eq_error h
    exact Or.inl (.blame hd ht (.literal hk))
  · rename_i hk
    unfold primitive at h
    split at h
    · cases h
    · rename_i p hp
      rcases Combinator.of_check_error h with ⟨ha, ht, rfl⟩ |
        ⟨ha, t, ht, rule, hr, ho | ⟨ho, hq, rfl⟩⟩
      · exact Or.inl (.blame hd ht (.type hk hp ha))
      · exact Or.inl (.rule hd hk hp ha ht hr ho)
      · exact Or.inl (.blame hd hq (.tag hk hp ha ht hr ho))
  · rename_i hk
    rcases array_eq_error h with ⟨hx, ht, rfl⟩ | ⟨xs, i, x, hx, hi, h⟩
    · exact Or.inl (.blame hd ht (.notList hk hx))
    · rcases item_eq_error h with ⟨m, hm, h⟩ | ⟨hl, h⟩
      · rcases member_eq_error h with ⟨ref, rfl, h⟩ | ⟨y, rfl, ht, rfl⟩
        · exact Or.inr ⟨_, .item hk hx hi hm, h⟩
        · exact Or.inl (.blame hd ht (.item hk hx hi hm))
      · rcases union_eq_error h with ⟨ref, hm, h⟩ | ⟨ht, rfl⟩
        · exact Or.inr ⟨_, .itemAlternative hk hx hi hl hm, h⟩
        · exact Or.inl (.blame hd ht (.itemUnion hk hx hi hl))
  · rename_i hk
    rcases intersection_eq_error h with ⟨hl, rfl⟩ | ⟨hl, m, hm, h⟩
    · exact Or.inl (.arity hd hk hl)
    · rcases member_eq_error h with ⟨ref, rfl, h⟩ | ⟨y, rfl, ht, rfl⟩
      · exact Or.inr ⟨_, .demand hk hl hm, h⟩
      · exact Or.inl (.blame hd ht (.demand hk hl hm))
  · rename_i hk
    rcases union_eq_error h with ⟨ref, hm, h⟩ | ⟨ht, rfl⟩
    · exact Or.inr ⟨_, .alternative hk hm, h⟩
    · exact Or.inl (.blame hd ht (.union hk))
  · rename_i hk
    rcases object_eq_error h with ⟨he, ht, rfl⟩ | ⟨es, k, he, hm, ht, rfl⟩ |
      ⟨es, k, x, ref, he, hm, hx, hp, h⟩
    · exact Or.inl (.blame hd ht (.notObject hk he))
    · exact Or.inl (.blame hd ht (.missing hk he hm))
    · exact Or.inr ⟨_, .property hk he hm hx hp, h⟩
  · cases h

/-! ## What a call depends on -/

section Visits

variable {visit visit' : Visit ι}

theorem member_congr {m : Member ι} {value : Value} {c : Context} {p : Bool}
    (h : ∀ ref, m = .node ref → visit ref value c p = visit' ref value c p) :
    member visit m value c p = member visit' m value c p := by
  cases m with
  | node ref => exact h ref rfl
  | bare expected => rfl

theorem union_congr {ms : List (Member ι)} {value : Value} {c : Context}
    (h : ∀ ref, .node ref ∈ ms → visit ref value c.probing true = visit' ref value c.probing true) :
    union g visit ms value c = union g visit' ms value c := by
  have htry : ∀ m ∈ ms, tryAlternative visit value c m = tryAlternative visit' value c m := by
    intro m hm
    cases m with
    | node ref => exact h ref hm
    | bare expected => rfl
  rw [union_eq, union_eq, anyM_congr htry]

/-- What is inside a node comes out the same whatever way nodes are visited, if the calls that the node
    makes do. -/
theorem inside_congr {a : Call ι}
    (h : ∀ b, Descends g a b →
      visit b.ref b.value b.context b.probe = visit' b.ref b.value b.context b.probe) :
    inside g visit (g a.ref) a.value a.context.entered a.probe =
      inside g visit' (g a.ref) a.value a.context.entered a.probe := by
  unfold inside
  split
  · rfl
  unfold shape
  cases hk : (g a.ref).kind with
  | optional =>
    cases hf : (g a.ref).fallback with
    | nil => rfl
    | cons ref rest => exact h _ (.fallback hk (by rw [hf]; rfl))
  | array =>
    simp only [array]
    split
    · rfl
    · rename_i xs hx
      split
      · rfl
      · refine allM_congr fun e he => ?_
        have hi : xs[e.2]? = some e.1 := List.mk_mem_zipIdx_iff_getElem?.1 he
        unfold item
        split
        · rename_i m hm
          refine member_congr ?_
          rintro ref rfl
          exact h _ (.item hk hx hi hm)
        · rename_i hne
          refine union_congr fun ref hm => h _ (.itemAlternative hk hx hi (fun hl => ?_) hm)
          obtain ⟨m, hm⟩ := List.length_eq_one_iff.1 hl
          exact hne m hm
  | intersection =>
    simp only [intersection]
    split
    · rfl
    · rename_i hl
      refine allM_congr fun m hm => member_congr ?_
      rintro ref rfl
      exact h _ (.demand hk (by omega) hm)
  | union => exact union_congr fun ref hm => h _ (.alternative hk hm)
  | object =>
    simp only [object]
    split
    · rfl
    · rename_i es he
      split
      · rfl
      · rename_i hm
        refine allM_congr fun e hx => ?_
        unfold entry
        split
        · rfl
        · rename_i ref hp
          exact h _ (.property hk he hm hx hp)
  | _ => rfl

end Visits

/-! ## What a descent keeps -/

namespace Descends

variable {a b : Call ι} (h : Descends g a b)

include h

theorem depth_eq : b.context.depth = a.context.depth + 1 := by cases h <;> rfl

theorem maxDepth_eq : b.context.maxDepth = a.context.maxDepth := by cases h <;> rfl

theorem registry_eq : b.context.registry = a.context.registry := by cases h <;> rfl

theorem throwing_of (ht : b.context.throwing = true) : a.context.throwing = true := by
  cases h with
  | itemAlternative => cases ht
  | alternative => cases ht
  | _ => exact ht

end Descends

/-- A call that is allowed to enter its node, and a call that it then makes. -/
def Nests (g : Graph ι) (a b : Call ι) : Prop :=
  a.context.depth < a.context.maxDepth ∧ Descends g a b

/-- Every error of a call is raised at a call that it leads to, and each call on the way is allowed to
    enter its node. -/
theorem Call.origin_nests {a : Call ι} {e : Error} (h : a.outcome g = .error e) :
    ∃ b, Relation.ReflTransGen (Nests g) a b ∧ Raises g b e := by
  -- a descent uses up one of the levels that remain, and at none left the error is raised
  generalize hk : a.context.remaining = k
  induction k generalizing a with
  | zero =>
    have hd : a.context.maxDepth ≤ a.context.depth := by
      unfold Context.remaining at hk
      omega
    refine ⟨a, .refl, ?_⟩
    unfold outcome at h
    rw [node_eq, if_pos hd] at h
    cases h
    exact .cycle hd
  | succ k ih =>
    have hd : a.context.depth < a.context.maxDepth := by
      unfold Context.remaining at hk
      omega
    rcases outcome_eq_error h with hr | ⟨b, hb, he⟩
    · exact ⟨a, .refl, hr⟩
    · have hrem : b.context.remaining = k := by
        have h1 := hb.depth_eq
        have h2 := hb.maxDepth_eq
        unfold Context.remaining at hk ⊢
        omega
      obtain ⟨b', hpath, hr⟩ := ih he hrem
      exact ⟨b', .head ⟨hd, hb⟩ hpath, hr⟩

/-- Every error of a call is raised at a call that it leads to. -/
theorem Call.origin {a : Call ι} {e : Error} (h : a.outcome g = .error e) :
    ∃ b, Relation.ReflTransGen (Descends g) a b ∧ Raises g b e := by
  obtain ⟨b, hpath, hr⟩ := origin_nests h
  exact ⟨b, Relation.ReflTransGen.mono (fun _ _ hab => hab.2) _ _ hpath, hr⟩

end Conform.Walk
