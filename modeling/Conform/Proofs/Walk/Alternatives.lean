import Conform.Proofs.Walk.Likeness

/-!
# Alternatives on their own and in a union

In a walk that only answers failures with no, the mark of a trial makes no difference, so a union
tries an alternative exactly as the alternative is checked on its own. What a union adds is that the
literals among the alternatives are compared first, by their flag alone. That changes the verdict in
one case only: a node is flagged as a literal, but is optional and has a fallback, which its kind
prefers. Such an alternative is accepted in a union by its literal and on its own by its fallback.
-/

namespace Conform.Schema.Node

variable {ι : Type} {n : Node ι}

/-- The flag of a literal is overridden by a fallback: the node's kind is that of an optional node. -/
def Overridden (n : Node ι) : Prop :=
  n.flags.literal = true ∧ n.flags.optional = true ∧ n.fallback ≠ []

theorem kind_of_literal (h : n.flags.literal = true) : n.Overridden ∨ n.kind = .literal := by
  by_cases ho : n.flags.optional = true ∧ n.fallback ≠ []
  · exact Or.inl ⟨h, ho⟩
  · refine Or.inr ?_
    have hk : (n.flags.optional && !n.fallback.isEmpty) = false := by
      simpa [List.isEmpty_iff] using ho
    simp [kind, hk, h]

end Conform.Schema.Node

namespace Conform.Walk

open Schema Outcome

variable {ι : Type} {g : Graph ι} {c : Context}

/-! ## The mark of a trial -/

theorem probing_of_quiet (h : c.throwing = false) : c.probing = c := by
  unfold Context.probing
  rw [← h]

theorem fail_of_quiet (h : c.throwing = false) (told : Told) (value : Value) :
    c.fail told value = .ok false := by
  unfold Context.fail
  rw [h]
  rfl

/-- The two contexts are the same, in which failures are only answered with no, whatever the marks of
    a trial. -/
def Quiet (c : Context) (_ : Bool) (d : Context) (_ : Bool) : Prop := c = d ∧ c.throwing = false

theorem likeness_trial (g : Graph ι) : Likeness g Quiet fun _ o o' => o = o' where
  toCongruence := congruence_eq
  into s h := by
    obtain ⟨rfl, h⟩ := h
    exact ⟨rfl, h⟩
  probing h := ⟨by rw [h.1], rfl⟩
  fail _ _ h := by rw [h.1]
  missed expected value h := by
    obtain ⟨rfl, hc⟩ := h
    unfold literalOutcome
    rw [fail_of_quiet hc, ite_self, ite_self]
  arity _ h := by rw [h.1]
  primitive _ _ h := by rw [h.1]

/-- Where failures are only answered with no, a trial of a node is a check of it. -/
theorem node_trial (h : c.throwing = false) (ref : ι) (value : Value) (p q : Bool) :
    node g ref value c p = node g ref value c q := by
  have hentered : ∀ {c p d q}, Quiet c p d q → Quiet c.entered p d.entered q := by
    rintro c _ _ _ ⟨rfl, h⟩
    exact ⟨rfl, h⟩
  exact (likeness_trial g).levels hentered (fun h => by rw [h.1]) c.remaining ref value c p c q
    ⟨rfl, h⟩

/-- Where failures are only answered with no, a union tries a node as the node is checked. -/
theorem tryAlternative_node (h : c.throwing = false) (ref : ι) (value : Value) :
    tryAlternative (node g) value c (.node ref) = member (node g) (.node ref) value c false := by
  show node g ref value c.probing true = node g ref value c false
  rw [probing_of_quiet h]
  exact node_trial h ref value true false

/-! ## Literals among the alternatives -/

/-- An alternative that a union accepts by its literal is accepted on its own, unless a fallback
    overrides the literal or its check ends in an error. -/
theorem accepted_of_isAlternativeLiteral {m : Member ι} {value : Value} {p b : Bool}
    (h : isAlternativeLiteral g value m = true) (hb : member (node g) m value c p = .ok b) :
    member (node g) m value c p = .ok true ∨ ∃ ref, m = .node ref ∧ (g ref).Overridden := by
  cases m with
  | bare expected =>
    have he : expected.strictEqual value = true := h
    exact Or.inl (by simp [member, he])
  | node ref =>
    have h' : (g ref).flags.literal = true ∧ isLiteral (g ref).payload value = true := by
      simpa [isAlternativeLiteral] using h
    obtain ⟨hflag, hlit⟩ := h'
    rcases Node.kind_of_literal hflag with ho | hk
    · exact Or.inr ⟨ref, rfl, ho⟩
    · refine Or.inl ?_
      have hn : node g ref value c p = .ok b := hb
      show node g ref value c p = .ok true
      rw [node_eq] at hn ⊢
      split at hn
      · cases hn
      · rename_i hdepth
        simp [hdepth, inside, shape, hk, literal, hlit]

/-- Trying the nodes among the alternatives settles whether one of the propositions holds that the
    trials of the single nodes settle. -/
theorem settles_tryAlternatives {visit : Visit ι} {ms : List (Member ι)} {value : Value}
    {P : ι → Prop} (h : ∀ ref, .node ref ∈ ms → Settles (visit ref value c.probing true) (P ref)) :
    Settles (ms.anyM (tryAlternative visit value c)) (∃ ref, .node ref ∈ ms ∧ P ref) := by
  have htry : ∀ m ∈ ms, Settles (tryAlternative visit value c m) (∃ ref, m = .node ref ∧ P ref) := by
    intro m hm
    cases m with
    | bare expected => exact settles_ok (by simp)
    | node ref => exact (h ref hm).congr (by simp)
  refine (settles_anyM htry).congr ?_
  constructor
  · rintro ⟨_, hm, ref, rfl, hP⟩
    exact ⟨ref, hm, hP⟩
  · rintro ⟨ref, hm, hP⟩
    exact ⟨_, hm, ref, rfl, hP⟩

/-- Where no check of an alternative on its own ends in an error, trying the nodes among the
    alternatives says whether one of them is accepted on its own. -/
theorem tryAlternatives_eq {ms : List (Member ι)} {value : Value} (hc : c.throwing = false)
    (hms : ∀ m ∈ ms, ∃ b, member (node g) m value c false = .ok b) :
    ∃ b, ms.anyM (tryAlternative (node g) value c) = .ok b ∧
      (b = true ↔ ∃ ref, .node ref ∈ ms ∧ node g ref value c false = .ok true) := by
  have hnode : ∀ ref, .node ref ∈ ms →
      Settles (node g ref value c.probing true) (node g ref value c false = .ok true) := by
    intro ref _ b hb
    rw [probing_of_quiet hc, node_trial hc ref value true false] at hb
    simp [hb]
  cases hany : ms.anyM (tryAlternative (node g) value c) with
  | error e =>
    obtain ⟨m, hm, he⟩ := exists_of_anyM hany (by simp)
    cases m with
    | bare expected => cases he
    | node ref =>
      obtain ⟨b, hb⟩ := hms (.node ref) hm
      rw [tryAlternative_node hc, hb] at he
      cases he
  | ok b => exact ⟨b, rfl, settles_tryAlternatives hnode b hany⟩

/-- A union in a walk that only answers failures with no, where no check of an alternative on its own
    ends in an error: it says yes or no, and yes exactly if an alternative is accepted on its own or
    the value is the literal of an alternative whose fallback overrides it. -/
theorem union_eq_true_iff (g : Graph ι) (ms : List (Member ι)) (value : Value) (c : Context)
    (hc : c.throwing = false) (hms : ∀ m ∈ ms, ∃ b, member (node g) m value c false = .ok b) :
    (∃ b, union g (node g) ms value c = .ok b) ∧
    (union g (node g) ms value c = .ok true ↔
      (∃ m ∈ ms, member (node g) m value c false = .ok true) ∨
      ∃ ref, .node ref ∈ ms ∧ (g ref).Overridden ∧ isLiteral (g ref).payload value = true) := by
  have hfail : unionOutcome g ms value c = .ok false := fail_of_quiet hc _ _
  rw [union_eq, hfail]
  split
  -- a literal is equal: the alternative passes on its own unless a fallback overrides its literal
  · rename_i hlit
    refine ⟨⟨true, rfl⟩, iff_of_true rfl ?_⟩
    obtain ⟨m, hm, hml⟩ := List.any_eq_true.1 hlit
    obtain ⟨b, hb⟩ := hms m hm
    rcases accepted_of_isAlternativeLiteral hml hb with h | ⟨ref, rfl, ho⟩
    · exact Or.inl ⟨m, hm, h⟩
    · obtain ⟨-, hl⟩ := Bool.and_eq_true_iff.1 hml
      exact Or.inr ⟨ref, hm, ho, hl⟩
  -- no literal is equal, so only nodes that are tried can pass, and no overridden literal counts
  · rename_i hlit
    have hnone : ∀ m ∈ ms, isAlternativeLiteral g value m = false := by
      simpa using hlit
    obtain ⟨b, hany, hb⟩ := tryAlternatives_eq hc hms
    have hunion : otherwise (ms.anyM (tryAlternative (node g) value c)) (.ok false) = .ok b := by
      rw [hany]
      cases b <;> rfl
    rw [hunion, Except.ok.injEq, hb]
    refine ⟨⟨b, rfl⟩, ?_⟩
    constructor
    · rintro ⟨ref, hm, ht⟩
      exact Or.inl ⟨.node ref, hm, ht⟩
    · rintro (⟨m, hm, ht⟩ | ⟨ref, hm, ho, hl⟩)
      · cases m with
        | bare expected =>
          have he : expected.strictEqual value = false := hnone _ hm
          simp [member, literalOutcome, he, fail_of_quiet hc] at ht
        | node ref => exact ⟨ref, hm, ht⟩
      · have h := hnone _ hm
        simp [isAlternativeLiteral, ho.1, hl] at h

/-- Texts. -/
def anyText : Schema.Tree := .mk ⟨"string", { primitive := true }, [], .single .null, []⟩

/-- The literal `true`, optional and with texts to fall back on. -/
def overriddenLiteral : Schema.Tree :=
  .mk ⟨"true", { optional := true, literal := true }, [], .single (.bool true), [anyText]⟩

/-- A walk through eight levels that only answers failures with no. -/
def eightLevels : Context := ⟨⟨Primitive.builtIn⟩, false, 8, 0, []⟩

/-- The literal that a fallback overrides is refused on its own and accepted in a union. -/
theorem union_accepts_overridden :
    (∀ m ∈ [Member.node overriddenLiteral],
      ∃ b, member (node Schema.Tree.node) m (.bool true) eightLevels false = .ok b) ∧
    ¬(union Schema.Tree.node (node Schema.Tree.node) [.node overriddenLiteral] (.bool true)
        eightLevels = .ok true ↔
      ∃ m ∈ [Member.node overriddenLiteral],
        member (node Schema.Tree.node) m (.bool true) eightLevels false = .ok true) := by
  have hunion : union Schema.Tree.node (node Schema.Tree.node) [.node overriddenLiteral] (.bool true)
      eightLevels = .ok true := rfl
  have hmember : member (node Schema.Tree.node) (.node overriddenLiteral) (.bool true) eightLevels
      false = .ok false := rfl
  simp [hunion, hmember]

theorem union_eq_true_iff_overridden :
    (∀ m ∈ [Member.bare .null, .node anyText, .node overriddenLiteral],
      ∃ b, member (node Schema.Tree.node) m (.bool true) eightLevels false = .ok b) ∧
    union Schema.Tree.node (node Schema.Tree.node) [.bare .null, .node anyText, .node overriddenLiteral]
      (.bool true) eightLevels = .ok true := by
  have hms : ∀ m ∈ [Member.bare .null, .node anyText, .node overriddenLiteral],
      ∃ b, member (node Schema.Tree.node) m (.bool true) eightLevels false = .ok b := by
    simp only [List.forall_mem_cons]
    exact ⟨⟨false, rfl⟩, ⟨false, rfl⟩, ⟨false, rfl⟩, by simp⟩
  have hoverridden : (Schema.Tree.node overriddenLiteral).Overridden :=
    ⟨rfl, rfl, List.cons_ne_nil _ _⟩
  obtain ⟨-, h⟩ := union_eq_true_iff Schema.Tree.node _ (.bool true) eightLevels rfl hms
  exact ⟨hms, h.2 (Or.inr ⟨overriddenLiteral, by simp, hoverridden, rfl⟩)⟩

end Conform.Walk
