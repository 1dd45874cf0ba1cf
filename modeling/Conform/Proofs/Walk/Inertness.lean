import Conform.Proofs.Rule.Judgement
import Conform.Proofs.Validator
import Conform.Proofs.Walk.Alternatives

/-!
# Parts of a schema that nothing reads

Flags may contradict each other, and a node may carry more than its kind looks at: tags where no rule
asks for them, a payload under a primitive type, fallbacks where nothing falls back on them. The kind
of a node is settled without these parts, and so is whether it is a literal among alternatives. So
trees that differ in nothing else, at however many nodes, have the same answers and the same errors
where failures are only answered with no. Only a message may tell that they differ.
-/

namespace Conform

/-! ## Tags without a rule -/

/-- Where failures are not reported, only the tags that have a rule count. -/
theorem Combinator.check_congr_covered {k : Combinator} {ts ts' : List Tag}
    (h : ts'.filter k.rules.covers = ts.filter k.rules.covers) (value : Value) (path : Path) :
    k.check value ts' false path = k.check value ts false path := by
  have hjudge : k.rules.judge value ts' = k.rules.judge value ts := by
    rw [← RuleTable.judge_filter, h, RuleTable.judge_filter]
  rw [check_eq, check_eq, hjudge]
  rfl

end Conform

namespace Conform.Schema

/-! ## Trees that differ in inert parts -/

/-- Two trees that differ, at any number of nodes, in inert parts at most. What is not mentioned may
    differ: the fallbacks of a node that is not optional and those after the first, the payload of a
    primitive node, the type name of a node that is not primitive, and all tags but those of a primitive
    type that have a rule. -/
inductive Tree.Inert (r : Registry) : Tree → Tree → Prop where
  /-- The flags are the same; so are the type name of a primitive node and, if the name is that of a
      primitive type, the tags that have a rule. The payload of any other node is the same up to the
      nodes in it, and what an optional node falls back on first is a tree that differs likewise. -/
  | mk {n n' : Node Tree} (hflags : n'.flags = n.flags)
      (hname : n.kind = .primitive → n'.typeName = n.typeName)
      (htags : n.kind = .primitive → ∀ p, Primitive.ofName? n.typeName = some p →
        n'.tags.filter (r.table p).covers = n.tags.filter (r.table p).covers)
      (hpayload : n.kind ≠ .primitive →
        Payload.Rel (Member.Rel (Inert r)) (Inert r) n.payload n'.payload)
      (hfallback : n.flags.optional = true →
        Option.Rel (Inert r) n.fallback.head? n'.fallback.head?) :
      Inert r (.mk n) (.mk n')

namespace Tree.Inert

/-- A tree differs from itself in nothing. -/
theorem refl (r : Registry) : ∀ t : Tree, Inert r t t
  | .mk n => by
    have hn : n.Pointwise (Inert r) n := Node.Rel.refl n fun s _ => refl r s
    exact .mk rfl (fun _ => rfl) (fun _ _ _ => rfl) (fun _ => hn.payload)
      fun _ => rel_head?_of_forall₂ hn.fallback
termination_by t => t.height
decreasing_by exact height_lt_of_child ‹_›

variable {r : Registry} {t t' : Tree} (h : Inert r t t')

include h

theorem flags_eq : t'.node.flags = t.node.flags := by
  obtain ⟨hflags, -, -, -, -⟩ := h
  exact hflags

theorem payload (hk : t.node.kind ≠ .primitive) :
    Payload.Rel (Member.Rel (Inert r)) (Inert r) t.node.payload t'.node.payload := by
  obtain ⟨-, -, -, hpayload, -⟩ := h
  exact hpayload hk

theorem fallback (ho : t.node.flags.optional = true) :
    Option.Rel (Inert r) t.node.fallback.head? t'.node.fallback.head? := by
  obtain ⟨-, -, -, -, hfallback⟩ := h
  exact hfallback ho

/-- An optional node falls back on something in both trees or in neither. -/
theorem fallback_isEmpty (ho : t.node.flags.optional = true) :
    t'.node.fallback.isEmpty = t.node.fallback.isEmpty := by
  have hhead : ∀ ts : List Tree, ts.isEmpty = ts.head?.isNone := by
    intro ts
    cases ts <;> rfl
  rw [hhead, hhead]
  obtain ⟨hf, hf'⟩ | ⟨s, s', hf, hf', -⟩ := rel_cases (h.fallback ho)
  · rw [hf, hf']
  · rw [hf, hf']
    rfl

/-- Inert parts do not decide the kind. -/
theorem kind_eq : t'.node.kind = t.node.kind := by
  have hoptional : (t'.node.flags.optional && !t'.node.fallback.isEmpty) =
      (t.node.flags.optional && !t.node.fallback.isEmpty) := by
    rw [h.flags_eq]
    cases ho : t.node.flags.optional with
    | false => rfl
    | true => rw [h.fallback_isEmpty ho]
  by_cases hk : t.node.kind = .primitive
  · -- that a node is primitive is settled before its payload is looked at
    rw [hk]
    unfold Node.kind at hk ⊢
    rw [hoptional, h.flags_eq]
    split_ifs at hk ⊢
    rfl
  · unfold Node.kind
    rw [hoptional, h.flags_eq, (h.payload hk).isEmpty_eq, (h.payload hk).isProperties_eq]

/-- Nodes flagged as literals stand for the same value. -/
theorem value?_eq (hl : t.node.flags.literal = true) :
    t'.node.payload.value? = t.node.payload.value? := by
  have hk : t.node.kind ≠ .primitive := by
    intro hk
    rcases Node.kind_of_flag hl with hk' | hk' <;> simp [hk'] at hk
  exact (h.payload hk).value?_eq

theorem counterpart :
    t.node.Counterpart (Member.Rel (Inert r)) (Inert r) (fun _ => False) t'.node where
  kind := h.kind_eq
  optional := by rw [h.flags_eq]
  fallback hk := h.fallback (Node.optional_of_kind hk)
  alternatives hk := by
    refine (h.payload ?_).alternatives
    rcases hk with hk | hk | hk <;> simp [hk]
  properties hk := (h.payload (by simp [hk])).propertyList
  declared _ _ _ := not_false

end Tree.Inert

end Conform.Schema

namespace Conform.Walk

open Schema Outcome

variable {r : Registry}

/-! ## Walks through such trees -/

/-- Trees that differ in inert parts, and each value and each context that reports no failures with
    itself. -/
def inertness (r : Registry) : Pairing Schema.Tree Schema.Tree where
  refs := Tree.Inert r
  members := Member.Rel (Tree.Inert r)
  values := Eq
  extra _ := False
  places c p d q := c = d ∧ p = q ∧ c.registry = r ∧ c.throwing = false
  alike _ o o' := o = o'

theorem isAlternativeLiteral_inert {m m' : Member Schema.Tree} (h : Member.Rel (Tree.Inert r) m m')
    (value : Value) :
    isAlternativeLiteral Schema.Tree.node value m' = isAlternativeLiteral Schema.Tree.node value m := by
  cases h with
  | bare x => rfl
  | @node s s' h =>
    simp only [isAlternativeLiteral, h.flags_eq]
    cases hl : s.node.flags.literal with
    | false => rfl
    | true => rw [isLiteral, isLiteral, h.value?_eq hl]

theorem simulation_inert {visit : Visit Schema.Tree}
    (H : ∀ t t' value c p, Tree.Inert r t t' → c.registry = r → c.throwing = false →
      visit t value c p = visit t' value c p) :
    Simulation (inertness r) Schema.Tree.node Schema.Tree.node visit visit where
  toCongruence := congruence_eq
  toSimilarity := Value.similarity_eq
  into := by
    rintro c p _ _ segment ⟨rfl, rfl, hr, hc⟩
    exact ⟨rfl, rfl, hr, hc⟩
  optional_eq h := by rw [h.flags_eq]
  node := by
    rintro t t' value _ c p _ _ h rfl ⟨rfl, rfl, hr, hc⟩
    exact H t t' value c p h hr hc
  member := by
    rintro m m' value _ c p _ _ h rfl ⟨rfl, rfl, hr, hc⟩
    cases h with
    | node h => exact H _ _ value c p h hr hc
    | bare x => rfl
  isAlternativeLiteral_eq := by
    rintro m m' value _ h rfl
    exact isAlternativeLiteral_inert h value
  attempt := by
    rintro m m' value _ c p _ _ h rfl ⟨rfl, rfl, hr, hc⟩ -
    cases h with
    | node h => exact H _ _ value c.probing true h hr rfl
    | bare x => rfl
  mismatch := by
    rintro ms ms' value _ c p _ _ hms rfl ⟨rfl, rfl, hr, hc⟩
    unfold unionOutcome
    rw [fail_of_quiet hc, fail_of_quiet hc]
    rfl
  mistyped := by
    rintro value _ c p _ _ expected rfl ⟨rfl, rfl, hr, hc⟩
    rfl
  lacking := by
    rintro value _ c p _ _ k rfl ⟨rfl, rfl, hr, hc⟩
    rfl
  arity := by
    rintro c p _ _ k ⟨rfl, rfl, hr, hc⟩
    rfl

theorem primitive_inert {t t' : Schema.Tree} {c : Context} (h : Tree.Inert r t t')
    (hk : t.node.kind = .primitive) (hr : c.registry = r) (hc : c.throwing = false) (value : Value) :
    primitive t.node value c = primitive t'.node value c := by
  subst hr
  obtain ⟨-, hname, htags, -, -⟩ := h
  simp only [Schema.Tree.node] at hk ⊢
  unfold primitive
  rw [hname hk]
  split
  · rfl
  · rename_i p hp
    rw [hc]
    exact (Combinator.check_congr_covered (htags hk p hp) value c.path).symm

/-- Where failures are only answered with no, trees that differ in inert parts have the same outcome. -/
theorem levels_inert (k : Nat) (t t' : Schema.Tree) (value : Value) (c : Context) (p : Bool)
    (h : Tree.Inert r t t') (hr : c.registry = r) (hc : c.throwing = false) :
    levels Schema.Tree.node k t value c p = levels Schema.Tree.node k t' value c p := by
  -- on the levels left: one more of them is one more node of which nothing inert is read
  induction k generalizing t t' value c p with
  | zero => rfl
  | succ k ih =>
    refine (simulation_inert ih).inside h.counterpart (fun hk => ?_) (fun hk => ?_) rfl
      ⟨rfl, rfl, hr, hc⟩
    · have hvalue := h.value?_eq (Node.flag_of_kind hk)
      unfold literal isLiteral Report.literalValue
      rw [hvalue]
      rfl
    · exact primitive_inert h hk hr hc value

end Conform.Walk

namespace Conform.Validator

open Schema Walk

/-- A validator that reports no failures has the same outcome, an answer or an error, for trees that
    differ in inert parts at most. -/
theorem call_of_inert (r : Registry) (t t' : Schema.Tree) (h : Tree.Inert r t t') (maxDepth : Int)
    (value : Value) :
    (⟨.ofTree t, r, false, maxDepth⟩ : Validator Schema.Tree).call value =
      (⟨.ofTree t', r, false, maxDepth⟩ : Validator Schema.Tree).call value := by
  let v : Validator Schema.Tree := ⟨.ofTree t, r, false, maxDepth⟩
  let w : Validator Schema.Tree := ⟨.ofTree t', r, false, maxDepth⟩
  have hlimit : w.limit = v.limit := rfl
  have hmax : w.maxDepth = v.maxDepth := rfl
  exact callAs_congr hlimit hmax (levels_inert _ t t' value _ false h rfl rfl)

/-- Texts of at most three characters, with more tags and a payload. -/
def shortText (tags : List Tag) (payload : Payload Schema.Tree) : Schema.Tree :=
  .mk ⟨"string", { primitive := true }, tags ++ [⟨"max", "3"⟩], payload, []⟩

/-- A name and a mood, which may be lacking; the type names, the tags of the mood and the fallbacks are
    given. -/
def moodOf (name : String) (tags : List Tag) (text : Schema.Tree) (later unused : List Schema.Tree) :
    Schema.Tree :=
  .mk ⟨name, {}, tags, .properties [("name", text),
    ("mood", .mk ⟨name, { optional := true }, tags, .single .null, text :: later⟩)], unused⟩

theorem call_of_inert_mood :
    let text := shortText [] (.single .null)
    let text' := shortText [⟨"error", "too long"⟩] (.members [.node text, .bare (.int 1)])
    let t := moodOf "person" [] text [] [text]
    let t' := moodOf "someone" [⟨"max", "0"⟩] text' [text] []
    let value : Value := .object [("name", .string "Ann"), ("mood", .string "good")]
    Tree.Inert ⟨Primitive.builtIn⟩ t t' ∧
    (⟨.ofTree t, ⟨Primitive.builtIn⟩, false, 3⟩ : Validator Schema.Tree).call value = .ok false ∧
    (⟨.ofTree t, ⟨Primitive.builtIn⟩, false, 3⟩ : Validator Schema.Tree).call value =
      (⟨.ofTree t', ⟨Primitive.builtIn⟩, false, 3⟩ : Validator Schema.Tree).call value := by
  intro text text' t t' value
  have htext : Tree.Inert ⟨Primitive.builtIn⟩ text text' := by
    refine .mk rfl (fun _ => rfl) (fun _ p hp => ?_) (fun hk => absurd rfl hk) nofun
    cases hp
    rfl
  have hmood : Tree.Inert ⟨Primitive.builtIn⟩
      (.mk ⟨"person", { optional := true }, [], .single .null, [text]⟩)
      (.mk ⟨"someone", { optional := true }, [⟨"max", "0"⟩], .single .null, [text', text]⟩) :=
    .mk rfl nofun nofun (fun _ => .single .null) fun _ => .some htext
  have h : Tree.Inert ⟨Primitive.builtIn⟩ t t' :=
    .mk rfl nofun nofun (fun _ => .properties (.cons ⟨htext⟩ (.cons ⟨hmood⟩ .nil))) nofun
  exact ⟨h, by rfl, call_of_inert _ t t' h 3 value⟩

end Conform.Validator
