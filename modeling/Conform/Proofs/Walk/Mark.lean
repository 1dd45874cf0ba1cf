import Conform.Proofs.Walk.Alternatives
import Conform.Proofs.Walk.Modes
import Conform.Proofs.Walk.Origin

/-!
# The mark of a trial

Two things tell a walk to be silent: the context, which answers failures only with no, and the mark of a
trial, which keeps literals silent. They are handed on independently of each other, but never disagree to
any effect. In a context that answers failures only with no the mark changes no outcome
(`Check.outcome_mark`), and a walk marks a check only where the context is such a one: what is made of an
unmarked check on the way down (`Makes`) is marked for the first time where a union tries an alternative,
and from there on both are kept. The calls that a call makes (`Descends`) are among the checks that are
made on the way down, so the walk depends on no others.
-/

namespace Conform.Walk

open Schema Outcome

variable {ι : Type} {g : Graph ι}

/-! ## Checks -/

/-- What a value is checked against. -/
inductive Target (ι : Type) where
  /-- A node. -/
  | node (ref : ι)
  /-- A member, which is a node or a value that stands for itself. -/
  | member (m : Member ι)
  /-- The descriptions of a list's items. -/
  | items (ms : List (Member ι))
  /-- Alternatives. -/
  | alternatives (ms : List (Member ι))
  /-- The properties of an object. -/
  | properties (ps : List (String × ι))

/-- A check that a walk makes, of whatever shape. -/
structure Check (ι : Type) where
  /-- What the value is checked against. -/
  target : Target ι
  /-- The value. -/
  value : Value
  /-- The context. -/
  context : Context
  /-- Is the check part of a trial? -/
  mark : Bool

/-- The outcome of a check. Alternatives have no use for the mark. -/
def Check.outcome (g : Graph ι) (a : Check ι) : Outcome :=
  match a.target with
  | .node ref => node g ref a.value a.context a.mark
  | .member m => member (node g) m a.value a.context a.mark
  | .items ms => array g (node g) ms a.value a.context a.mark
  | .alternatives ms => union g (node g) ms a.value a.context
  | .properties ps => object g (node g) ps a.value a.context a.mark

/-- The checks that a check makes itself, with the contexts and marks that it hands on. -/
inductive Makes (g : Graph ι) : Check ι → Check ι → Prop where
  /-- The fallback of an optional node. -/
  | fallback {ref ref' : ι} {v : Value} {c : Context} {p : Bool} (hk : (g ref).kind = .optional)
      (hf : (g ref).fallback.head? = some ref') :
      Makes g ⟨.node ref, v, c, p⟩ ⟨.node ref', v, c.entered, p⟩
  /-- The descriptions of items of a node for lists. -/
  | items {ref : ι} {v : Value} {c : Context} {p : Bool} (hk : (g ref).kind = .array) :
      Makes g ⟨.node ref, v, c, p⟩ ⟨.items (g ref).alternatives, v, c.entered, p⟩
  /-- A member of an intersection. -/
  | demand {ref : ι} {m : Member ι} {v : Value} {c : Context} {p : Bool}
      (hk : (g ref).kind = .intersection) (hm : m ∈ (g ref).alternatives) :
      Makes g ⟨.node ref, v, c, p⟩ ⟨.member m, v, c.entered, p⟩
  /-- The alternatives of a union. -/
  | alternatives {ref : ι} {v : Value} {c : Context} {p : Bool} (hk : (g ref).kind = .union) :
      Makes g ⟨.node ref, v, c, p⟩ ⟨.alternatives (g ref).alternatives, v, c.entered, p⟩
  /-- The properties of a node for objects. -/
  | properties {ref : ι} {v : Value} {c : Context} {p : Bool} (hk : (g ref).kind = .object) :
      Makes g ⟨.node ref, v, c, p⟩ ⟨.properties (g ref).properties, v, c.entered, p⟩
  /-- The node that a member is. -/
  | member {ref : ι} {v : Value} {c : Context} {p : Bool} :
      Makes g ⟨.member (.node ref), v, c, p⟩ ⟨.node ref, v, c, p⟩
  /-- An item against the only description. -/
  | item {m : Member ι} {v x : Value} {xs : List Value} {i : Nat} {c : Context} {p : Bool}
      (hx : v.items? = some xs) (hi : xs[i]? = some x) :
      Makes g ⟨.items [m], v, c, p⟩ ⟨.member m, x, c.into (.index i), p⟩
  /-- An item against several descriptions. -/
  | itemUnion {ms : List (Member ι)} {v x : Value} {xs : List Value} {i : Nat} {c : Context}
      {p : Bool} (hl : 2 ≤ ms.length) (hx : v.items? = some xs) (hi : xs[i]? = some x) :
      Makes g ⟨.items ms, v, c, p⟩ ⟨.alternatives ms, x, c.into (.index i), p⟩
  /-- The trial of an alternative. -/
  | trial {ms : List (Member ι)} {ref : ι} {v : Value} {c : Context} {p : Bool}
      (hm : .node ref ∈ ms) : Makes g ⟨.alternatives ms, v, c, p⟩ ⟨.node ref, v, c.probing, true⟩
  /-- An entry against the property of its key. -/
  | entry {ps : List (String × ι)} {ref : ι} {k : String} {v x : Value} {es : List (String × Value)}
      {c : Context} {p : Bool} (he : v.entries? = some es) (hx : (k, x) ∈ es)
      (hp : ps.lookup k = some ref) :
      Makes g ⟨.properties ps, v, c, p⟩ ⟨.node ref, x, c.into (.key k), p⟩

/-! ## The mark where failures are only answered with no -/

/-- Where failures are only answered with no, the mark changes no outcome. -/
theorem Check.outcome_mark (target : Target ι) (value : Value) {c : Context} (h : c.throwing = false)
    (p q : Bool) :
    outcome g ⟨target, value, c, p⟩ = outcome g ⟨target, value, c, q⟩ := by
  have hnode : ∀ ref value c p d q, Quiet c p d q → node g ref value c p = node g ref value d q := by
    rintro ref value c p _ q ⟨rfl, h⟩
    exact node_trial h ref value p q
  have S := (likeness_trial g).simulation hnode
  have hplaces : Quiet c p c q := ⟨rfl, h⟩
  cases target with
  | node ref => exact node_trial h ref value p q
  | member m => exact S.member rfl rfl hplaces
  | items ms => exact S.array (List.forall₂_same.2 fun _ _ => rfl) rfl hplaces
  | alternatives ms => rfl
  | properties ps =>
    exact S.object (List.forall₂_same.2 fun _ _ => ⟨rfl⟩) (fun _ _ => not_false) rfl hplaces

/-! ## The mark on the way down -/

/-- Marked only where failures are not reported. -/
def Hushed (c : Context) (p : Bool) : Prop := p = true → c.throwing = false

/-- A check that is marked only where failures are not reported makes no others. -/
theorem Makes.hushed {a b : Check ι} (h : Makes g a b) (ha : Hushed a.context a.mark) :
    Hushed b.context b.mark := by
  cases h with
  | trial => exact fun _ => rfl
  | _ => exact ha

theorem hushed_of_makes {a b : Check ι} (h : Relation.ReflTransGen (Makes g) a b)
    (ha : Hushed a.context a.mark) : Hushed b.context b.mark := by
  induction h with
  | refl => exact ha
  | tail _ hbc ih => exact hbc.hushed ih

/-- A call is the check of its node. -/
def Call.check (a : Call ι) : Check ι := ⟨.node a.ref, a.value, a.context, a.probe⟩

/-- The calls that a call makes are made on the way down, by way of the shape of its node. -/
theorem Descends.makes {a b : Call ι} (h : Descends g a b) :
    Relation.ReflTransGen (Makes g) a.check b.check := by
  cases h with
  | fallback hk hf => exact .single (.fallback hk hf)
  | item hk hx hi hm =>
    have hitems : Makes g a.check ⟨.items (g a.ref).alternatives, a.value, a.context.entered, a.probe⟩ :=
      .items hk
    rw [hm] at hitems
    exact ((Relation.ReflTransGen.single hitems).tail (.item hx hi)).tail .member
  | @itemAlternative ref _ _ _ hk hx hi hl hm =>
    have htwo : 2 ≤ (g a.ref).alternatives.length := by
      have hpos := List.length_pos_of_mem hm
      omega
    exact ((Relation.ReflTransGen.single (.items hk)).tail (.itemUnion htwo hx hi)).tail
      (.trial (p := a.probe) hm)
  | demand hk hl hm => exact (Relation.ReflTransGen.single (.demand hk hm)).tail .member
  | alternative hk hm =>
    exact (Relation.ReflTransGen.single (.alternatives hk)).tail (.trial (p := a.probe) hm)
  | property hk he hm hx hp =>
    exact (Relation.ReflTransGen.single (.properties hk)).tail (.entry he hx hp)

/-- The walk with a number of levels left, if marked checks of nodes that report failures came to what
    is given in advance. -/
def levelsGiven (g : Graph ι) (given : Visit ι) : Nat → Visit ι
  | 0 => fun _ _ c _ => .error c.cycle
  | k + 1 => fun ref value c p =>
    if p && c.throwing then given ref value c p
    else inside g (levelsGiven g given k) (g ref) value c.entered p

/-- No such check is made: what it would come to plays no part. -/
theorem levelsGiven_eq (given : Visit ι) (k : Nat) (ref : ι) (value : Value) (c : Context) (p : Bool)
    (h : Hushed c p) : levelsGiven g given k ref value c p = levels g k ref value c p := by
  induction k generalizing ref value c p with
  | zero => rfl
  | succ k ih =>
    have hno : (p && c.throwing) = false := by
      cases p with
      | false => rfl
      | true => exact h rfl
    have hvisit : ∀ b, Descends g ⟨ref, value, c, p⟩ b →
        levelsGiven g given k b.ref b.value b.context b.probe =
          levels g k b.ref b.value b.context b.probe :=
      fun b hb => ih _ _ _ _ (hushed_of_makes hb.makes h)
    simp only [levelsGiven, hno, levels, Bool.false_eq_true, if_false]
    exact inside_congr hvisit

end Conform.Walk

namespace Conform.Validator

open Walk Schema

variable {ι : Type}

/-- The mark of a trial adds nothing to a context that answers failures only with no. In such a context
    a node, a member, the descriptions of items, alternatives and properties have the same outcome with
    the mark and without. And in the walk of a validator, whether it reports failures or not, every
    marked check is made in such a context: nothing else is ever made on the way down, and what a marked
    check of a node that reports failures would come to plays no part. -/
theorem mark_redundant :
    (∀ (g : Graph ι) (target : Target ι) (value : Value) (c : Walk.Context) (p q : Bool),
      c.throwing = false →
      Check.outcome g ⟨target, value, c, p⟩ = Check.outcome g ⟨target, value, c, q⟩) ∧
    (∀ (v : Validator ι) (throwing : Bool) (value : Value) (b : Check ι),
      Relation.ReflTransGen (Makes v.schema.graph)
        ⟨.node v.schema.root, value, v.start throwing, false⟩ b →
      b.mark = true → b.context.throwing = false) ∧
    ∀ (v : Validator ι) (throwing : Bool) (value : Value) (given : Visit ι),
      levelsGiven v.schema.graph given (v.start throwing).remaining v.schema.root value
          (v.start throwing) false =
        node v.schema.graph v.schema.root value (v.start throwing) false := by
  refine ⟨fun g target value c p q h => Check.outcome_mark target value h p q,
    fun v throwing value b h => hushed_of_makes h nofun, fun v throwing value given => ?_⟩
  exact levelsGiven_eq given _ _ value _ false nofun

/-- Lists of lists of any depth: a literal that is missed under both marks, and the trial of a list,
    which the walk makes two steps from its root. -/
theorem mark_redundant_nestedLists :
    let v : Validator Nat := ⟨nestedLists, ⟨Primitive.builtIn⟩, true, 8⟩
    let c : Walk.Context := v.start false
    let trial : Check Nat := ⟨.node 1, .list [.null], (v.start true).entered.probing, true⟩
    c.throwing = false ∧
    Check.outcome nestedLists.graph ⟨.member (.bare .null), .int 1, c, true⟩ =
      Check.outcome nestedLists.graph ⟨.member (.bare .null), .int 1, c, false⟩ ∧
    Relation.ReflTransGen (Makes nestedLists.graph) ⟨.node 0, .list [.null], v.start true, false⟩ trial ∧
    trial.mark = true ∧ trial.context.throwing = false := by
  intro v c trial
  have hunion : Makes nestedLists.graph ⟨.node 0, .list [.null], v.start true, false⟩
      ⟨.alternatives [.node 1, .bare .null], .list [.null], (v.start true).entered, false⟩ :=
    .alternatives rfl
  have htrial : Makes nestedLists.graph
      ⟨.alternatives [.node 1, .bare .null], .list [.null], (v.start true).entered, false⟩ trial :=
    .trial (by simp)
  have hmade := (Relation.ReflTransGen.single hunion).tail htrial
  obtain ⟨hmark, hquiet, -⟩ := mark_redundant (ι := Nat)
  exact ⟨rfl, hmark _ _ _ c true false rfl, hmade, rfl, hquiet v true _ trial hmade rfl⟩

end Conform.Validator
