import Conform.Proofs.Factory
import Conform.Proofs.Rule.Judgement
import Conform.Proofs.Validator
import Conform.Proofs.Walk.Simulation

/-!
# What rules of the caller's own reach

Overrides are laid over the built-in rules type by type and name by name. A walk asks the registry only
about the tags of primitive nodes, and calls a rule only on values of its primitive type, with the
argument of the tag. So two registries that agree that far give the same answers and the same errors:
rules for other types or under other names make no difference, nor does what a rule would say about
values of another type.
-/

namespace Conform

/-! ## Registries that agree on a tag -/

/-- Two registries agree on a tag of a primitive type: neither has a rule for it, or both have one and
    the two give the same outcome for every value of the type with the argument of the tag. -/
def Registry.Agree (r r' : Registry) (p : Primitive) (t : Tag) : Prop :=
  Option.Rel
    (fun rule rule' : Rule => ∀ v, p.admits v = true → rule v t.argument = rule' v t.argument)
    ((r.table p).find? t.name) ((r'.table p).find? t.name)

theorem RuleTable.judge_congr {table table' : RuleTable} {value : Value} {ts : List Tag}
    (h : ∀ t ∈ ts, Option.Rel (fun rule rule' : Rule => rule value t.argument = rule' value t.argument)
      (table.find? t.name) (table'.find? t.name)) :
    table.judge value ts = table'.judge value ts := by
  induction ts with
  | nil => rfl
  | cons t ts ih =>
    rw [List.forall_mem_cons] at h
    have hrest := ih h.2
    obtain ⟨hr, hr'⟩ | ⟨rule, rule', hr, hr', ho⟩ := rel_cases h.1
    · simp only [judge, hr, hr', hrest]
    · simp only [judge, hr, hr', ho, hrest]

theorem Combinator.check_congr {r r' : Registry} {p : Primitive} {tags : List Tag}
    (h : ∀ t ∈ tags, r.Agree r' p t) (value : Value) (throwing : Bool) (path : Path) :
    (ofPrimitive r p).check value tags throwing path =
      (ofPrimitive r' p).check value tags throwing path := by
  have hadmits : (ofPrimitive r p).admits value = (ofPrimitive r' p).admits value := rfl
  rw [check_eq, check_eq, hadmits]
  split
  · rename_i ha
    have hjudge : (ofPrimitive r p).rules.judge value tags = (ofPrimitive r' p).rules.judge value tags := by
      refine RuleTable.judge_congr fun t ht => ?_
      obtain ⟨hr, hr'⟩ | ⟨rule, rule', hr, hr', ho⟩ := rel_cases (h t ht)
      · simp only [ofPrimitive, hr, hr']
        exact .none
      · simp only [ofPrimitive, hr, hr']
        exact .some (ho value ha)
    rw [hjudge]
  · -- the rules are not asked about a value that is not of the type
    rfl

/-- Overrides that give a tag of a primitive type the same rule, or none, lead to registries that agree
    on the tag. -/
theorem Registry.agree_of_overrides {o o' : Overrides} {r r' : Registry} {p : Primitive} {t : Tag}
    (h : Registry.build o = .ok r) (h' : Registry.build o' = .ok r')
    (ho : (overridesFor o p).find? t.name = (overridesFor o' p).find? t.name) : r.Agree r' p t := by
  unfold Agree
  rw [table_of_build h, table_of_build h', RuleTable.find?_laidOver, RuleTable.find?_laidOver, ho]
  exact rel_of_refl (fun _ _ _ => rfl) _

/-! ## The tags that a walk asks about -/

/-- The tags that the rules of a primitive type are asked for: those of the nodes of this type that the
    root of the schema leads to. -/
inductive Schema.Consults {ι : Type} (s : Schema ι) : Primitive → Tag → Prop where
  /-- A tag of such a node. -/
  | tag {ref : ι} {p : Primitive} {t : Tag} (hr : s.Reaches ref)
      (hk : (s.graph ref).kind = .primitive)
      (hp : Primitive.ofName? (s.graph ref).typeName = some p) (ht : t ∈ (s.graph ref).tags) :
      Consults s p t

end Conform

namespace Conform.Walk

open Schema

variable {ι : Type} {s : Schema ι} {r r' : Registry}

/-! ## Walks with either registry -/

/-- The nodes of a schema, the values and the contexts each with itself, but for the registry. -/
def registries (s : Schema ι) (r r' : Registry) : Pairing ι ι where
  refs ref ref' := ref = ref' ∧ s.Reaches ref
  members m m' := m = m' ∧ ∀ ref, m = .node ref → s.Reaches ref
  values := Eq
  extra _ := False
  places c p d q := c.registry = r ∧ d = { c with registry := r' } ∧ p = q
  alike _ o o' := o = o'

theorem simulation_registries {visit : Visit ι}
    (H : ∀ ref value c p, s.Reaches ref → c.registry = r →
      visit ref value c p = visit ref value { c with registry := r' } p) :
    Simulation (registries s r r') s.graph s.graph visit visit where
  toCongruence := congruence_eq
  toSimilarity := Value.similarity_eq
  into := by
    rintro c p _ _ segment ⟨hr, rfl, rfl⟩
    exact ⟨hr, rfl, rfl⟩
  optional_eq := by
    rintro ref _ ⟨rfl, -⟩
    rfl
  node := by
    rintro ref _ value _ c p _ _ ⟨rfl, href⟩ rfl ⟨hr, rfl, rfl⟩
    exact H ref value c p href hr
  member := by
    rintro m _ value _ c p _ _ ⟨rfl, href⟩ rfl ⟨hr, rfl, rfl⟩
    cases m with
    | node ref => exact H ref value c p (href ref rfl) hr
    | bare expected => rfl
  isAlternativeLiteral_eq := by
    rintro m _ value _ ⟨rfl, -⟩ rfl
    rfl
  attempt := by
    rintro m _ value _ c p _ _ ⟨rfl, href⟩ rfl ⟨hr, rfl, rfl⟩ -
    cases m with
    | node ref => exact H ref value c.probing true (href ref rfl) hr
    | bare expected => rfl
  mismatch := by
    rintro ms ms' value _ c p _ _ hms rfl ⟨hr, rfl, rfl⟩
    obtain rfl := eq_of_forall₂ hms fun _ _ hm => hm.1
    rfl
  mistyped := by
    rintro value _ c p _ _ expected rfl ⟨hr, rfl, rfl⟩
    rfl
  lacking := by
    rintro value _ c p _ _ k rfl ⟨hr, rfl, rfl⟩
    rfl
  arity := by
    rintro c p _ _ k ⟨hr, rfl, rfl⟩
    rfl

/-- Walks through a schema come out the same with registries that agree on the tags asked about. -/
theorem levels_registries (hagree : ∀ p t, s.Consults p t → r.Agree r' p t) (k : Nat) (ref : ι)
    (value : Value) (c : Context) (p : Bool) (href : s.Reaches ref) (hr : c.registry = r) :
    levels s.graph k ref value c p = levels s.graph k ref value { c with registry := r' } p := by
  -- on the levels left; the nodes visited stay among those that the root leads to
  induction k generalizing ref value c p with
  | zero => rfl
  | succ k ih =>
    have hmembers : ∀ m ∈ (s.graph ref).alternatives, (registries s r r').members m m := by
      refine fun m hm => ⟨rfl, ?_⟩
      rintro ref' rfl
      exact href.tail (Node.mem_references_of_alternative hm)
    refine (simulation_registries ih).inside
      (.self hmembers (fun _ href' => ⟨rfl, href.tail href'⟩) fun _ _ => not_false) (fun _ => rfl)
      (fun hk => ?_) rfl ⟨hr, rfl, rfl⟩
    have hregistry : c.entered.registry = r := hr
    unfold primitive
    split
    · rfl
    · rename_i t hp
      rw [hregistry]
      exact Combinator.check_congr (fun tag htag => hagree t tag (.tag href hk hp htag)) _ _ _

end Conform.Walk

namespace Conform.Rule

/-- Evenness, for values that count as numbers; anything else brings the rule to grief. -/
def even : Rule := fun value _ =>
  match value.number? with
  | none => .error (.fault .operand)
  | some n => .ok n.isEven

end Conform.Rule

namespace Conform.Validator

open Walk Schema

variable {ι : Type}

/-! ## Validators -/

theorem callAs_of_agree {s : Schema ι} {r r' : Registry}
    (hagree : ∀ p t, s.Consults p t → r.Agree r' p t) (b b' : Bool) (maxDepth : Int)
    (throwing : Bool) (value : Value) :
    (⟨s, r, b, maxDepth⟩ : Validator ι).callAs throwing value =
      (⟨s, r', b', maxDepth⟩ : Validator ι).callAs throwing value := by
  let v : Validator ι := ⟨s, r, b, maxDepth⟩
  let w : Validator ι := ⟨s, r', b', maxDepth⟩
  have hlimit : w.limit = v.limit := rfl
  have hmax : w.maxDepth = v.maxDepth := rfl
  exact callAs_congr hlimit hmax (levels_registries hagree _ _ value _ _ .refl rfl)

/-- Validators built with two sets of overrides have the same outcome for every value, if the rules that
    come of them agree on the tags of the primitive nodes in the schema: for each of these tags neither
    registry has a rule, or the two rules give the same outcome on all values of the type with the
    argument of the tag. The answer is the same, and so is every error, with all that it tells. -/
theorem call_of_agree (o o' : Overrides) (throwing : Bool) (maxDepth : Int) (f f' : Factory)
    (hf : Factory.build o throwing maxDepth = .ok f)
    (hf' : Factory.build o' throwing maxDepth = .ok f') (s : Schema ι)
    (hagree : ∀ p t, s.Consults p t → f.registry.Agree f'.registry p t) (value : Value) :
    (f.bind s).call value = (f'.bind s).call value ∧
      (f.bind s).check value = (f'.bind s).check value := by
  obtain ⟨r, -, rfl⟩ := Factory.registry_of_build hf
  obtain ⟨r', -, rfl⟩ := Factory.registry_of_build hf'
  have hcall := callAs_of_agree hagree throwing throwing maxDepth
  refine ⟨hcall throwing value, ?_⟩
  have hcheck : ∀ v w : Validator ι, v.callAs true value = w.callAs true value →
      v.check value = w.check value := by
    intro v w h
    unfold check
    rw [h]
  exact hcheck _ _ (hcall true value)

/-- Even numbers of at most nine, or lists of them. -/
def evenNumbers : Schema Nat :=
  .ofTable #[⟨"even", { union := true }, [], .members [.node 1, .node 2], []⟩,
    ⟨"number", { primitive := true }, [⟨"even", ""⟩, ⟨"max", "9"⟩], .single .null, []⟩,
    ⟨"list", { array := true }, [], .members [.node 0], []⟩] 0

/-- Evenness for numbers; anything else brings the rule to grief. -/
def evenNumber : Rule := fun value argument =>
  if value.isNumber then Rule.even value argument else .error (.fault .operand)

theorem call_of_agree_evenNumbers :
    let o : Overrides := [("number", some [("even", Rule.even)])]
    let o' : Overrides := [("string", some [("max", Rule.even)]),
      ("number", some [("min", Rule.even), ("even", evenNumber)])]
    ∃ f f', Factory.build o true 4 = .ok f ∧ Factory.build o' true 4 = .ok f' ∧
      (∀ p t, evenNumbers.Consults p t → f.registry.Agree f'.registry p t) ∧
      (f.bind evenNumbers).call (.list [.int 2, .bool true]) =
        (f'.bind evenNumbers).call (.list [.int 2, .bool true]) := by
  intro o o'
  have hknown : ∀ e ∈ o, (Primitive.ofName? e.1).isSome = true := List.forall_mem_singleton.2 rfl
  have hknown' : ∀ e ∈ o', (Primitive.ofName? e.1).isSome = true :=
    List.forall_mem_cons.2 ⟨rfl, List.forall_mem_singleton.2 rfl⟩
  obtain ⟨r, hr, hf⟩ := Factory.build_of_known true hknown (show (1 : Int) ≤ 4 by decide)
  obtain ⟨r', hr', hf'⟩ := Factory.build_of_known true hknown' (show (1 : Int) ≤ 4 by decide)
  have heven : r.Agree r' .number ⟨"even", ""⟩ := by
    unfold Registry.Agree
    rw [Registry.table_of_build hr, Registry.table_of_build hr']
    refine .some fun v hv => ?_
    have hnumber : v.isNumber = true := hv
    exact (if_pos hnumber).symm
  have hmax : r.Agree r' .number ⟨"max", "9"⟩ := Registry.agree_of_overrides hr hr' rfl
  have hreaches : ∀ ref, evenNumbers.Reaches ref → ref = 0 ∨ ref = 1 ∨ ref = 2 := by
    intro ref href
    induction href with
    | refl => exact Or.inl rfl
    | tail _ hstep ih =>
      rcases ih with rfl | rfl | rfl
      · have hmem : _ ∈ [1, 2] := hstep
        simpa using Or.inr hmem
      · cases hstep
      · have hmem : _ ∈ [0] := hstep
        simpa using Or.inl hmem
  have hagree : ∀ p t, evenNumbers.Consults p t → r.Agree r' p t := by
    rintro p t ⟨hr, hk, hp, ht⟩
    rename_i ref
    rcases hreaches ref hr with rfl | rfl | rfl
    · cases hk
    · cases hp
      have hmem : t ∈ [⟨"even", ""⟩, ⟨"max", "9"⟩] := ht
      simp only [List.mem_cons, List.not_mem_nil, or_false] at hmem
      rcases hmem with rfl | rfl
      · exact heven
      · exact hmax
    · cases hk
  exact ⟨_, _, hf, hf', hagree, (call_of_agree o o' true 4 _ _ hf hf' evenNumbers hagree _).1⟩

end Conform.Validator
