import Conform.Proofs.Walk.Diagnostics
import Conform.Proofs.Walk.Errors
import Mathlib.Data.List.Chain

/-!
# The limit on depth

A walk that has entered as many nodes as its context allows, and is to enter one more, ends in an
error. No shape goes on after an error, not even a union that only tries its alternatives, so a walk
that is not cut off has never met the limit: a higher one does not change its outcome
(`walk_of_le`). A walk that is cut off has come down a chain of nodes one longer than the limit, each
led to by the kind of the one before, and has taken at most one step into the value for each node
(`cycle_exact`). In a tree no such chain is longer than the tree is high. On every graph, cyclic or
not, calls are nested no more often than the limit allows.
-/

namespace Conform.Walk

open Schema Outcome

variable {ι : Type} {g : Graph ι}

/-! ## Higher limits -/

/-- The outcome of a check that is cut off because nodes are nested too deeply. -/
def CutOff (o : Outcome) : Prop := ∃ depth path, o = .error (.schema (.cycle depth path))

/-- The outcomes of one check under a limit and under a higher one: the same, unless the first is cut
    off. -/
inductive Outlasts : Outcome → Outcome → Prop where
  /-- The check is cut off under the lower limit. -/
  | cut {o o' : Outcome} (h : CutOff o) : Outlasts o o'
  /-- The outcome is the same. -/
  | same (o : Outcome) : Outlasts o o

theorem Outlasts.eq {o o' : Outcome} (h : Outlasts o o') (ho : ¬CutOff o) : o' = o := by
  cases h with
  | cut hcut => exact absurd hcut ho
  | same => rfl

/-- The second context is the first under a limit that is no lower. -/
def Raised (c : Context) (p : Bool) (d : Context) (q : Bool) : Prop :=
  ∃ m, c.maxDepth ≤ m ∧ d = { c with maxDepth := m } ∧ p = q

/-- A walk under a limit and the same walk under a higher one are alike. -/
theorem likeness_outlasts (g : Graph ι) : Likeness g Raised fun _ => Outlasts where
  into s h := by
    obtain ⟨m, hm, rfl, rfl⟩ := h
    exact ⟨m, hm, rfl, rfl⟩
  probing h := by
    obtain ⟨m, hm, rfl, rfl⟩ := h
    exact ⟨m, hm, rfl, rfl⟩
  pass _ := .same _
  refuse := .same _
  also {_ o _ _ _} h h' := by
    cases h with
    | cut hcut =>
      obtain ⟨depth, path, rfl⟩ := hcut
      exact .cut ⟨depth, path, rfl⟩
    | same =>
      rcases o with e | _ | _
      · exact .same _
      · exact .same _
      · exact h'
  otherwise {_ o _ _ _} h h' := by
    cases h with
    | cut hcut =>
      obtain ⟨depth, path, rfl⟩ := hcut
      exact .cut ⟨depth, path, rfl⟩
    | same =>
      rcases o with e | _ | _
      · exact .same _
      · exact h'
      · exact .same _
  fail told value h := by
    obtain ⟨m, -, rfl, rfl⟩ := h
    exact .same _
  missed expected value h := by
    obtain ⟨m, -, rfl, rfl⟩ := h
    exact .same _
  arity k h := by
    obtain ⟨m, -, rfl, rfl⟩ := h
    exact .same _
  primitive ref value h := by
    obtain ⟨m, -, rfl, rfl⟩ := h
    exact .same _

/-- More levels lead to the same outcome, unless the fewer are used up. -/
theorem levels_outlasts {k k' : Nat} (hk : k ≤ k') (ref : ι) (value : Value) (c : Context) (p : Bool)
    (d : Context) (q : Bool) (h : Raised c p d q) :
    Outlasts (levels g k ref value c p) (levels g k' ref value d q) := by
  -- on the levels that are left under the lower limit; a node has one less for those it leads to
  induction k generalizing k' ref value c p d q with
  | zero => exact .cut ⟨_, _, rfl⟩
  | succ k ih =>
    obtain ⟨j, rfl⟩ : ∃ j, k' = j + 1 := ⟨k' - 1, by omega⟩
    have hentered : Raised c.entered p d.entered q := by
      obtain ⟨m, hm, rfl, rfl⟩ := h
      exact ⟨m, hm, rfl, rfl⟩
    have hj : k ≤ j := by omega
    exact (likeness_outlasts g).inside (ih hj) hentered ref value

/-- A walk that is not cut off has the same outcome under every higher limit. -/
theorem node_of_le (ref : ι) (value : Value) (c : Context) (p : Bool) {m : Int}
    (hm : c.maxDepth ≤ m) (hcut : ¬CutOff (node g ref value c p)) :
    node g ref value { c with maxDepth := m } p = node g ref value c p := by
  have hremaining : c.remaining ≤ { c with maxDepth := m : Context }.remaining := by
    exact Int.toNat_le_toNat (Int.sub_le_sub_right hm c.depth)
  exact (levels_outlasts hremaining ref value c p _ p ⟨m, hm, rfl, rfl⟩).eq hcut

/-! ## Chains of nodes -/

/-- A node and one that its kind leads to. -/
inductive Leads (g : Graph ι) (a b : ι) : Prop where
  /-- The first fallback of an optional node. -/
  | fallback (hk : (g a).kind = .optional) (hb : (g a).fallback.head? = some b) : Leads g a b
  /-- A node in the list of an array, an intersection or a union. -/
  | member (hk : (g a).kind = .array ∨ (g a).kind = .intersection ∨ (g a).kind = .union)
      (hb : .node b ∈ (g a).alternatives) : Leads g a b
  /-- The property of an object under a key. -/
  | property {k : String} (hk : (g a).kind = .object) (hb : (g a).properties.lookup k = some b) :
      Leads g a b

theorem Descends.leads {a b : Call ι} (h : Descends g a b) : Leads g a.ref b.ref := by
  cases h with
  | fallback hk hf => exact .fallback hk hf
  | item hk hx hi hm => exact .member (Or.inl hk) (by simp [hm])
  | itemAlternative hk hx hi hl hm => exact .member (Or.inl hk) hm
  | demand hk hl hm => exact .member (Or.inr (Or.inl hk)) hm
  | alternative hk hm => exact .member (Or.inr (Or.inr hk)) hm
  | property hk he hm hx hp => exact .property hk hp

/-- Nested calls come down a chain of nodes, one for each level. -/
theorem exists_chain {a b : Call ι} (h : Relation.ReflTransGen (Nests g) a b) :
    ∃ chain : List ι, (a.ref :: chain).IsChain (Leads g) ∧
      b.context.depth = a.context.depth + chain.length := by
  induction h using Relation.ReflTransGen.head_induction_on with
  | refl => exact ⟨[], List.isChain_singleton _, by simp⟩
  | @head a c hac _ ih =>
    obtain ⟨chain, hchain, hdepth⟩ := ih
    refine ⟨c.ref :: chain, List.isChain_cons_cons.2 ⟨hac.2.leads, hchain⟩, ?_⟩
    have hstep := hac.2.depth_eq
    rw [hdepth, hstep, List.length_cons]
    omega

/-- Nested calls stay within the limit. -/
theorem depth_le_of_nests {a b : Call ι} (h : Relation.ReflTransGen (Nests g) a b)
    (ha : a.context.depth ≤ a.context.maxDepth) : b.context.depth ≤ b.context.maxDepth := by
  induction h with
  | refl => exact ha
  | tail _ hbc ih =>
    have hdepth := hbc.2.depth_eq
    have hmax := hbc.2.maxDepth_eq
    have hlt := hbc.1
    omega

/-- A chain of nodes in a tree is no longer than the tree is high. -/
theorem length_lt_height {t : Schema.Tree} {chain : List Schema.Tree}
    (h : (t :: chain).IsChain (Leads Schema.Tree.node)) : chain.length < t.height := by
  induction chain generalizing t with
  | nil => exact t.height_pos
  | cons s chain ih =>
    obtain ⟨hts, hchain⟩ := List.isChain_cons_cons.1 h
    have hchild : t.Child s := by
      cases hts with
      | fallback hk hb => exact Node.mem_references_of_fallback hb
      | member hk hb => exact Node.mem_references_of_alternative hb
      | property hk hb => exact Node.mem_references_of_property hb
    have hlower := Schema.Tree.height_lt_of_child hchild
    have hlen := ih hchain
    rw [List.length_cons]
    omega

/-! ## Walks end -/

/-- A way of checking that enters the node, where that is allowed, and checks in the same way the
    nodes that the kind of the node leads to. -/
def Enters (g : Graph ι) (visit : Visit ι) : Prop :=
  ∀ ref value c p, visit ref value c p =
    if c.maxDepth ≤ c.depth then .error c.cycle else inside g visit (g ref) value c.entered p

/-- There is only one such way: the walk. -/
theorem Enters.eq_node {visit : Visit ι} (h : Enters g visit) : visit = node g := by
  have hlevels : ∀ k ref value c p d q, c = d ∧ p = q ∧ c.remaining = k →
      visit ref value c p = node g ref value d q := by
    intro k
    induction k with
    | zero =>
      rintro ref value c p _ _ ⟨rfl, rfl, hk⟩
      have hd : c.maxDepth ≤ c.depth := by
        unfold Context.remaining at hk
        omega
      rw [h, node_eq, if_pos hd, if_pos hd]
    | succ k ih =>
      rintro ref value c p _ _ ⟨rfl, rfl, hk⟩
      have hd : ¬c.maxDepth ≤ c.depth := by
        unfold Context.remaining at hk
        omega
      have hentered : c.entered.remaining = k := by
        simp only [Context.remaining, Context.entered] at hk ⊢
        omega
      rw [h, node_eq, if_neg hd, if_neg hd]
      exact (likeness_eq g k).inside ih ⟨rfl, rfl, hentered⟩ ref value
  funext ref value c p
  exact hlevels c.remaining ref value c p c p ⟨rfl, rfl, rfl⟩

/-- A chain of nested calls is no longer than levels remain at its start. -/
theorem length_le_remaining {a : Call ι} {calls : List (Call ι)}
    (h : (a :: calls).IsChain (Nests g)) : calls.length ≤ a.context.remaining := by
  induction calls generalizing a with
  | nil => exact Nat.zero_le _
  | cons b calls ih =>
    obtain ⟨⟨hlt, hab⟩, hcalls⟩ := List.isChain_cons_cons.1 h
    have hlen := ih hcalls
    have hdepth := hab.depth_eq
    have hmax := hab.maxDepth_eq
    simp only [Context.remaining] at hlen ⊢
    rw [List.length_cons]
    omega

/-! ## Walks that are cut off -/

/-- No rule of the registry ends in the error that nodes are nested too deeply. -/
def CycleFree (r : Registry) : Prop :=
  ∀ p name rule, (r.table p).find? name = some rule →
    ∀ value argument, ¬CutOff (rule value argument)

theorem builtIn_cycleFree : CycleFree ⟨Primitive.builtIn⟩ := by
  rintro p name rule hr value argument ⟨depth, path, he⟩
  obtain ⟨-, -, fault, -, hfault⟩ := builtIn_error hr he
  cases fault <;> cases hfault

/-- A call raises this error itself only where its levels are used up. -/
theorem Raises.cycle_of_cycleFree {a : Call ι} {depth : Int} {path : Path}
    (hr : CycleFree a.context.registry) (h : Raises g a (.schema (.cycle depth path))) :
    a.context.maxDepth ≤ a.context.depth ∧ depth = a.context.maxDepth ∧ path = a.context.path := by
  generalize he : Error.schema (.cycle depth path) = e at h
  cases h with
  | cycle hd =>
    cases he
    exact ⟨hd, rfl, rfl⟩
  | arity hd hk hl => cases he
  | rule hd hk hp ha ht hrule ho => exact absurd ⟨depth, path, he ▸ ho⟩ (hr _ _ _ hrule _ _)
  | blame hd ht hb => exact absurd he.symm Told.toError_ne_schema

/-- A walk from the root that is cut off has come down a chain of nodes, and its path leads to a part
    of the value. -/
theorem exists_of_cycle {r : Registry} (hr : CycleFree r) {throwing : Bool} {maxDepth : Int}
    (hd : 0 ≤ maxDepth) {root : ι} {value : Value} (hv : value.DistinctKeys) {depth : Int} {path : Path}
    (h : node g root value ⟨r, throwing, maxDepth, 0, []⟩ false =
      .error (.schema (.cycle depth path))) :
    depth = maxDepth ∧ path.length ≤ maxDepth ∧ (∃ part, value.follow? path = some part) ∧
    ∃ chain : List ι, (root :: chain).IsChain (Leads g) ∧ chain.length = maxDepth := by
  have hstart : Call.Placed r maxDepth value ⟨root, value, ⟨r, throwing, maxDepth, 0, []⟩, false⟩ :=
    ⟨rfl, rfl, Int.le_refl 0, hv, rfl⟩
  obtain ⟨b, hnests, hraises⟩ :=
    Call.origin_nests (a := ⟨root, value, ⟨r, throwing, maxDepth, 0, []⟩, false⟩) h
  have hb : b.Placed r maxDepth value :=
    hstart.reaches (Relation.ReflTransGen.mono (fun _ _ hab => hab.2) _ _ hnests)
  obtain ⟨hused, rfl, rfl⟩ := hraises.cycle_of_cycleFree (hb.registry ▸ hr)
  have hwithin : b.context.depth ≤ b.context.maxDepth := depth_le_of_nests hnests hd
  obtain ⟨chain, hchain, hdepth⟩ := exists_chain hnests
  have hlevels := hb.levels
  have hlength := hb.length
  replace hdepth : b.context.depth = 0 + chain.length := hdepth
  exact ⟨hlevels, by omega, ⟨b.value, hb.follow⟩, chain, hchain, by omega⟩

/-- A walk is cut off only after it has come down a chain of nodes that starts at the root, each led to
    by the kind of the one before, and that is one longer than the limit; the error tells the limit,
    and its path, which is no longer than the limit, leads to a part of the value. So no walk through a
    tree that is no higher than the limit is cut off. On every graph the entering of nodes leads to
    one outcome, in calls that are nested no more often than the limit allows. The rules do not end in
    this error themselves, and the value has distinct keys, as every decoded value has. -/
theorem cycle_exact (g : Graph ι) (r : Registry) (hr : CycleFree r) (throwing : Bool) (maxDepth : Int)
    (hd : 1 ≤ maxDepth) (root : ι) (value : Value) (hv : value.DistinctKeys) :
    let c : Context := ⟨r, throwing, maxDepth, 0, []⟩
    (∀ depth path, node g root value c false = .error (.schema (.cycle depth path)) →
      depth = maxDepth ∧ path.length ≤ maxDepth ∧ (∃ part, value.follow? path = some part) ∧
      ∃ chain : List ι, chain.head? = some root ∧ chain.length = maxDepth + 1 ∧
        chain.IsChain (Leads g)) ∧
    (∀ t : Schema.Tree, t.height ≤ maxDepth → ¬CutOff (node Schema.Tree.node t value c false)) ∧
    (∃! visit : Visit ι, Enters g visit) ∧
    ∀ calls, (⟨root, value, c, false⟩ :: calls).IsChain (Nests g) → calls.length ≤ maxDepth := by
  intro c
  have hd' : 0 ≤ maxDepth := by omega
  refine ⟨fun depth path h => ?_, ?_, ⟨node g, node_eq g, fun visit hvisit => hvisit.eq_node⟩, ?_⟩
  · obtain ⟨hdepth, hpath, hpart, chain, hchain, hlen⟩ := exists_of_cycle hr hd' hv h
    refine ⟨hdepth, hpath, hpart, root :: chain, rfl, ?_, hchain⟩
    rw [List.length_cons]
    omega
  · rintro t ht ⟨depth, path, h⟩
    obtain ⟨-, -, -, chain, hchain, hlen⟩ := exists_of_cycle hr hd' hv h
    have hheight := length_lt_height hchain
    omega
  · intro calls hcalls
    have hlen := length_le_remaining hcalls
    have hremaining : c.remaining = (maxDepth - 0).toNat := rfl
    simp only [hremaining] at hlen
    omega

/-- Lists of lists of any depth under three levels: the inner list is the one that is not entered. -/
theorem cycle_exact_nestedLists :
    CycleFree ⟨Primitive.builtIn⟩ ∧ (1 : Int) ≤ 3 ∧
    (Value.list [.list [.null]]).DistinctKeys ∧
    node Validator.nestedLists.graph 0 (.list [.list [.null]])
        ⟨⟨Primitive.builtIn⟩, true, 3, 0, []⟩ false =
      .error (.schema (.cycle 3 [.index 0])) ∧
    (∃ part, (Value.list [.list [.null]]).follow? [.index 0] = some part) ∧
    ∃ chain : List Nat, chain.head? = some 0 ∧ (chain.length : Int) = 3 + 1 ∧
      chain.IsChain (Leads Validator.nestedLists.graph) := by
  have hnull : Value.null.DistinctKeys := .plain rfl rfl
  have hinner : (Value.list [.null]).DistinctKeys := .list rfl (by simpa using hnull)
  have hvalue : (Value.list [.list [.null]]).DistinctKeys := .list rfl (by simpa using hinner)
  have hcut : node Validator.nestedLists.graph 0 (.list [.list [.null]])
      ⟨⟨Primitive.builtIn⟩, true, 3, 0, []⟩ false = .error (.schema (.cycle 3 [.index 0])) := rfl
  obtain ⟨hcycle, -⟩ := cycle_exact Validator.nestedLists.graph ⟨Primitive.builtIn⟩ builtIn_cycleFree
    true 3 (by decide) 0 (.list [.list [.null]]) hvalue
  obtain ⟨-, -, hpart, hchain⟩ := hcycle 3 [.index 0] hcut
  exact ⟨builtIn_cycleFree, by decide, hvalue, hcut, hpart, hchain⟩

end Conform.Walk

namespace Conform.Validator

open Walk

variable {ι : Type}

/-! ## Validators under higher limits -/

/-- A validator reports a walk that is cut off as cut off. -/
theorem cutOff_reported {v : Validator ι} {e : Error} (h : CutOff (.error e)) :
    CutOff (.error (v.reported e)) := by
  obtain ⟨depth, path, he⟩ := h
  cases he
  by_cases hlimit : v.limit < v.maxDepth
  · exact ⟨v.maxDepth, [], by rw [reported, if_pos hlimit]⟩
  · exact ⟨depth, path, by rw [reported, if_neg hlimit]⟩

/-- Errors of the walk are reported in the same way under every limit, unless they are reported as
    nodes that are nested too deeply. -/
theorem reported_eq_of_not_cutOff {v w : Validator ι} {e : Error}
    (h : ¬CutOff (.error (v.reported e))) : w.reported e = v.reported e := by
  cases e with
  | failure f => rfl
  | schema e =>
    cases e with
    | cycle depth path => exact absurd (cutOff_reported ⟨depth, path, rfl⟩) h
    | _ => rfl
  | fault f =>
    cases f with
    | exhausted => exact absurd ⟨_, _, rfl⟩ h
    | _ => rfl

/-- The limit only ever cuts off: a walk that is not cut off has the same outcome under every higher
    limit, the same answer or the same error with all that it tells. So has the walk that a validator
    makes, and the answer that it gives. -/
theorem walk_of_le (s : Schema ι) (r : Registry) (throwing : Bool) (value : Value) (m m' : Int)
    (h : m ≤ m') :
    let v : Validator ι := ⟨s, r, throwing, m⟩
    let w : Validator ι := ⟨s, r, throwing, m'⟩
    (¬CutOff (node s.graph s.root value ⟨r, throwing, m, 0, []⟩ false) →
      node s.graph s.root value ⟨r, throwing, m', 0, []⟩ false =
        node s.graph s.root value ⟨r, throwing, m, 0, []⟩ false) ∧
    (¬CutOff (v.walk throwing value) →
      w.walk throwing value = v.walk throwing value ∧ w.call value = v.call value) := by
  intro v w
  refine ⟨node_of_le s.root value ⟨r, throwing, m, 0, []⟩ false h, fun hcut => ?_⟩
  have hlimit : v.limit ≤ w.limit := by
    unfold limit
    cases s.ceiling with
    | none => exact h
    | some n => exact Int.le_min.2 ⟨Int.le_trans (Int.min_le_left _ _) h, Int.min_le_right _ _⟩
  have hnode : ¬CutOff (node s.graph s.root value (v.start throwing) false) →
      node s.graph s.root value (w.start throwing) false =
        node s.graph s.root value (v.start throwing) false :=
    node_of_le s.root value (v.start throwing) false hlimit
  have hwalk : w.walk throwing value = v.walk throwing value := by
    unfold walk at hcut ⊢
    have hcut' : ¬CutOff (node s.graph s.root value (v.start throwing) false) := by
      intro h
      obtain ⟨depth, path, ho⟩ := h
      rw [ho] at hcut
      exact hcut (cutOff_reported ⟨depth, path, rfl⟩)
    rw [hnode hcut']
    cases ho : node s.graph s.root value (v.start throwing) false with
    | ok b => rfl
    | error e =>
      rw [ho] at hcut
      exact congrArg Except.error (reported_eq_of_not_cutOff hcut)
  refine ⟨hwalk, ?_⟩
  show w.callAs throwing value = v.callAs throwing value
  unfold callAs
  rw [hwalk]

/-- Lists of lists of any depth: what five levels suffice for ends in the same way with two hundred. -/
theorem walk_of_le_nestedLists :
    (5 : Int) ≤ 200 ∧
    node nestedLists.graph 0 (.list [.list [.null], .null])
      ⟨⟨Primitive.builtIn⟩, false, 5, 0, []⟩ false = .ok true ∧
    node nestedLists.graph 0 (.list [.list [.null], .null])
      ⟨⟨Primitive.builtIn⟩, false, 200, 0, []⟩ false = .ok true := by
  have hfew : node nestedLists.graph 0 (.list [.list [.null], .null])
      ⟨⟨Primitive.builtIn⟩, false, 5, 0, []⟩ false = .ok true := rfl
  have hcut : ¬CutOff (node nestedLists.graph 0 (.list [.list [.null], .null])
      ⟨⟨Primitive.builtIn⟩, false, 5, 0, []⟩ false) := by
    rw [hfew]
    rintro ⟨depth, path, h⟩
    cases h
  obtain ⟨hmany, -⟩ := walk_of_le nestedLists ⟨Primitive.builtIn⟩ false
    (.list [.list [.null], .null]) 5 200 (by decide)
  exact ⟨by decide, hfew, (hmany hcut).trans hfew⟩

end Conform.Validator
