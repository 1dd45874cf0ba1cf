import Conform.Proofs.Walk.Likeness
import Conform.Proofs.Walk.Modes

/-!
# The same walk elsewhere

Of its context a walk uses the rules, whether failures are reported and how many levels are left. The
path is only carried along, to be told by errors, and the depth and its limit matter by their difference.
So a node, a list of descriptions, alternatives or properties have the same outcome in two contexts that
agree in these three things, wherever the contexts are: errors tell the paths of their contexts, followed
by the same steps, and a walk that gets too deep tells the limit of its context. What is known of a part of
a schema holds wherever that part stands.
-/

namespace Conform

/-! ## Details of failures -/

/-- Entries of the details of two failures: the same, or the paths of the two. -/
inductive Failure.Detail (path path' : Path) : String × Value → String × Value → Prop where
  /-- The entries are the same. -/
  | same (e : String × Value) : Detail path path' e e
  /-- The entries tell the paths. -/
  | path : Detail path path' ("path", Path.toValue path) ("path", Path.toValue path')

theorem Failure.detail_putEntry {path path' : Path} (k : String) (v : Value)
    {es fs : List (String × Value)} (h : List.Forall₂ (Detail path path') es fs) :
    List.Forall₂ (Detail path path') (Value.putEntry k v es) (Value.putEntry k v fs) := by
  induction h with
  | nil => exact .cons (.same (k, v)) .nil
  | @cons _ _ es fs he hes ih =>
    have hput : ∀ {key : String} {x y : Value}, Detail path path' (key, x) (key, y) →
        List.Forall₂ (Detail path path') (Value.putEntry k v ((key, x) :: es))
          (Value.putEntry k v ((key, y) :: fs)) := by
      intro key x y hxy
      rw [Value.putEntry, Value.putEntry]
      split
      · exact .cons (.same _) hes
      · exact .cons hxy ih
    cases he with
    | same => exact hput (.same _)
    | path => exact hput .path

/-- Failures with the same cause have the same details but for the path. -/
theorem Failure.details_congr {f f' : Failure} (h : f'.cause = f.cause) :
    List.Forall₂ (Detail f.path f'.path) f.details f'.details := by
  have hputs : ∀ (ds es fs : List (String × Value)), List.Forall₂ (Detail f.path f'.path) es fs →
      List.Forall₂ (Detail f.path f'.path) (ds.foldl (fun acc e => Value.putEntry e.1 e.2 acc) es)
        (ds.foldl (fun acc e => Value.putEntry e.1 e.2 acc) fs) := by
    intro ds
    induction ds with
    | nil => exact fun _ _ hes => hes
    | cons e ds ih => exact fun es fs hes => ih _ _ (detail_putEntry e.1 e.2 hes)
  unfold details
  rw [h]
  exact hputs _ _ _ (.cons .path .nil)

end Conform

namespace Conform.Walk

open Schema Outcome

variable {ι : Type}

/-! ## Errors told from two places -/

/-- The errors of one check in the contexts `c` and `d`. What the walk finds itself is told from where
    the context is: the paths go on from those of the contexts with the same steps, and everything else
    is the same, but for the limit on depth, which is that of the context. -/
inductive Elsewhere (c d : Context) : Error → Error → Prop where
  /-- The failures differ in their paths at most, and their details only where these tell the path. -/
  | failure {f f' : Failure} (steps : Path) (hcause : f'.cause = f.cause)
      (hmessage : f'.message = f.message) (hvalue : f'.value = f.value)
      (hpath : f.path = c.path ++ steps) (hpath' : f'.path = d.path ++ steps)
      (hdetails : List.Forall₂ (Failure.Detail f.path f'.path) f.details f'.details) :
      Elsewhere c d (.failure f) (.failure f')
  /-- The nodes are nested too deeply. -/
  | cycle (steps : Path) : Elsewhere c d (.schema (.cycle c.maxDepth (c.path ++ steps)))
      (.schema (.cycle d.maxDepth (d.path ++ steps)))
  /-- An intersection has too few members. -/
  | arity (k : Nat) (steps : Path) : Elsewhere c d (.schema (.arity k (c.path ++ steps)))
      (.schema (.arity k (d.path ++ steps)))
  /-- A failure cannot be told of, wherever it is. -/
  | untold (e : Fault) : Elsewhere c d (.fault e) (.fault e)
  /-- A rule, which is told nothing of the context, ends in the same error. -/
  | rule {p : Primitive} {name argument : String} {rule : Rule} {value : Value} {e : Error}
      (hr : (c.registry.table p).find? name = some rule) (ho : rule value argument = .error e) :
      Elsewhere c d e e

/-- The outcomes of one check in the contexts `c` and `d`. -/
inductive Transferred (c d : Context) : Outcome → Outcome → Prop where
  /-- The answer is the same. -/
  | answer (b : Bool) : Transferred c d (.ok b) (.ok b)
  /-- The error is told from two places. -/
  | error {e e' : Error} (h : Elsewhere c d e e') : Transferred c d (.error e) (.error e')

/-- Places that two walks have got to from the contexts `c₀` and `d₀`: by the same steps, and with as
    many levels left. -/
structure Parallel (c₀ d₀ c : Context) (p : Bool) (d : Context) (q : Bool) : Prop where
  /-- The marks of a trial are the same. -/
  mark : p = q
  /-- The rules have not changed. -/
  rules : c.registry = c₀.registry
  /-- The rules are the same. -/
  rules_eq : d.registry = c.registry
  /-- Failures are reported in both or in neither. -/
  throwing : d.throwing = c.throwing
  /-- The first limit has not changed. -/
  limit : c.maxDepth = c₀.maxDepth
  /-- The second limit has not changed. -/
  limit' : d.maxDepth = d₀.maxDepth
  /-- As many levels are left. -/
  levels : d.maxDepth - d.depth = c.maxDepth - c.depth
  /-- The paths go on with the same steps. -/
  path : ∃ steps, c.path = c₀.path ++ steps ∧ d.path = d₀.path ++ steps

section Places

variable {c₀ d₀ c d : Context} {p q : Bool} (h : Parallel c₀ d₀ c p d q)

include h

theorem Parallel.into (s : Segment) : Parallel c₀ d₀ (c.into s) p (d.into s) q := by
  obtain ⟨steps, hc, hd⟩ := h.path
  refine { h with path := ⟨steps ++ [s], ?_, ?_⟩ }
  · rw [Context.into, hc, List.append_assoc]
  · rw [Context.into, hd, List.append_assoc]

theorem transferred_report (told : Told) (value : Value) :
    Transferred c₀ d₀ (Combinator.report c.throwing told value c.path)
      (Combinator.report d.throwing told value d.path) := by
  obtain ⟨steps, hc, hd⟩ := h.path
  rw [h.throwing]
  cases c.throwing with
  | false => exact .answer false
  | true =>
    cases told with
    | error e => exact .error (.untold e)
    | ok _ => exact .error (.failure steps rfl rfl rfl hc hd (Failure.details_congr rfl))

end Places

/-! ## Walks from two places -/

theorem congruence_transferred (c d : Context) : Congruence fun _ => Transferred c d where
  pass _ := .answer true
  refuse := .answer false
  also h h' := by
    cases h with
    | answer b =>
      cases b with
      | false => exact .answer false
      | true => exact h'
    | error h => exact .error h
  otherwise h h' := by
    cases h with
    | answer b =>
      cases b with
      | false => exact h'
      | true => exact .answer true
    | error h => exact .error h

section Walks

variable {c₀ d₀ : Context}

theorem transferred_primitive (n : Node ι) (value : Value) {c d : Context} {p q : Bool}
    (h : Parallel c₀ d₀ c p d q) :
    Transferred c₀ d₀ (primitive n value c) (primitive n value d) := by
  unfold primitive
  split
  · exact .answer true
  · rename_i t _
    rw [Combinator.check_eq, Combinator.check_eq, h.rules_eq]
    split
    · by_cases hj : ((Combinator.ofPrimitive c.registry t).rules.judge value n.tags).2 = .accepted
      · rw [hj]
        exact .answer true
      · obtain ⟨tag, -, rule, hr, ⟨-, hj⟩ | ⟨e, ho, hj⟩⟩ := RuleTable.exists_of_judge hj
        · rw [hj]
          exact transferred_report h _ _
        · rw [hj]
          exact .error (.rule (h.rules ▸ hr) ho)
    · exact transferred_report h _ _

theorem likeness_parallel (g : Graph ι) (c₀ d₀ : Context) :
    Likeness g (Parallel c₀ d₀) fun _ => Transferred c₀ d₀ where
  toCongruence := congruence_transferred c₀ d₀
  into s h := h.into s
  probing h := { h with mark := rfl, throwing := rfl }
  fail told value h := transferred_report h told value
  missed expected value h := by
    unfold literalOutcome
    rw [← h.mark]
    split
    · exact .answer false
    · exact transferred_report h _ _
  arity k h := by
    obtain ⟨steps, hc, hd⟩ := h.path
    rw [hc, hd]
    exact .error (.arity k steps)
  primitive ref value h := transferred_primitive (g ref) value h

/-- Corresponding walks that have as many levels left have the same outcome, told from two places. -/
theorem node_transferred (g : Graph ι) (ref : ι) (value : Value) (c : Context) (p : Bool) (d : Context)
    (q : Bool) (h : Parallel c₀ d₀ c p d q) :
    Transferred c₀ d₀ (node g ref value c p) (node g ref value d q) := by
  have hentered : ∀ {c p d q}, Parallel c₀ d₀ c p d q → Parallel c₀ d₀ c.entered p d.entered q := by
    intro c p d q h
    have hlevels := h.levels
    refine { h with levels := ?_ }
    simp only [Context.entered]
    omega
  have hcycle : ∀ {c p d q}, Parallel c₀ d₀ c p d q →
      Transferred c₀ d₀ (.error c.cycle) (.error d.cycle) := by
    intro c p d q h
    obtain ⟨steps, hc, hd⟩ := h.path
    unfold Context.cycle
    rw [hc, hd, h.limit, h.limit']
    exact .error (.cycle steps)
  have hremaining : d.remaining = c.remaining := congrArg Int.toNat h.levels
  unfold node
  rw [hremaining]
  exact (likeness_parallel g c₀ d₀).levels hentered hcycle c.remaining ref value c p d q h

end Walks

/-- Only the rules, the reporting of failures and the levels left count. In two contexts that agree in
    them, a node, the descriptions of items, alternatives and properties have the same answer for a
    value, or errors that are told from the two places: the same error with the same steps behind the
    path of the context, where a walk that gets too deep tells the limit of its context. -/
theorem outcome_elsewhere (g : Graph ι) (value : Value) (p : Bool) (c d : Context)
    (hr : d.registry = c.registry) (ht : d.throwing = c.throwing)
    (hd : d.maxDepth - d.depth = c.maxDepth - c.depth) :
    (∀ ref, Transferred c d (node g ref value c p) (node g ref value d p)) ∧
    (∀ ms, Transferred c d (array g (node g) ms value c p) (array g (node g) ms value d p)) ∧
    (∀ ms, Transferred c d (union g (node g) ms value c) (union g (node g) ms value d)) ∧
    ∀ ps, Transferred c d (object g (node g) ps value c p) (object g (node g) ps value d p) := by
  have h : Parallel c d c p d p := ⟨rfl, rfl, hr, ht, rfl, rfl, hd, [], by simp, by simp⟩
  have hself : ∀ ms : List (Member ι), List.Forall₂ Eq ms ms := fun ms =>
    List.forall₂_same.2 fun _ _ => rfl
  have S := (likeness_parallel g c d).simulation (node_transferred g)
  refine ⟨fun ref => node_transferred g ref value c p d p h, fun ms => S.array (hself ms) rfl h,
    fun ms => S.union (hself ms) rfl h, fun ps => ?_⟩
  exact S.object (List.forall₂_same.2 fun _ _ => ⟨rfl⟩) (fun _ _ => not_false) rfl h

/-- Lists of lists of any depth, with three levels left in two places: both walks get too deep at the
    inner list. -/
theorem outcome_elsewhere_nestedLists :
    let c : Context := ⟨⟨Primitive.builtIn⟩, true, 8, 5, [.key "rows", .index 4]⟩
    let d : Context := ⟨⟨Primitive.builtIn⟩, true, 3, 0, []⟩
    let g := Validator.nestedLists.graph
    let value : Value := .list [.list [.null]]
    d.registry = c.registry ∧ d.throwing = c.throwing ∧
    d.maxDepth - d.depth = c.maxDepth - c.depth ∧
    node g 0 value c false = .error (.schema (.cycle 8 [.key "rows", .index 4, .index 0])) ∧
    node g 0 value d false = .error (.schema (.cycle 3 [.index 0])) ∧
    Transferred c d (node g 0 value c false) (node g 0 value d false) := by
  intro c d g value
  have hd : d.maxDepth - d.depth = c.maxDepth - c.depth := by decide
  exact ⟨rfl, rfl, hd, rfl, rfl, (outcome_elsewhere g value false c d rfl rfl hd).1 0⟩

end Conform.Walk
