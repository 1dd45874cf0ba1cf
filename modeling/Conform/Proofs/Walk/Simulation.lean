import Conform.Proofs.Outcome
import Conform.Proofs.Schema.Change
import Conform.Proofs.Value.Extension
import Conform.Walk.Step

/-!
# Walks through two schemas

Two walks are compared step by step, each through a schema and over a value of its own. A `Pairing`
says what corresponds in the two, and a `Simulation` that it does so wherever a walk decides something
by itself. From that follows that corresponding nodes have outcomes that are alike
(`Simulation.inside`): every shape preserves likeness, so a statement about two walks needs no further
look at unions, lists or objects.
-/

namespace Conform.Schema

variable {ι κ : Type}

/-- Two nodes that ask for the same as far as their kind tells: the members and the references that
    this kind looks at are related, and no property is declared under a key that is extra. -/
structure Node.Counterpart (M : Member ι → Member κ → Prop) (T : ι → κ → Prop)
    (extra : String → Prop) (n : Node ι) (n' : Node κ) : Prop where
  /-- The kind is the same. -/
  kind : n'.kind = n.kind
  /-- Both are optional or neither is. -/
  optional : n'.flags.optional = n.flags.optional
  /-- What is fallen back on is related. -/
  fallback : n.kind = .optional → Option.Rel T n.fallback.head? n'.fallback.head?
  /-- The members are related one by one. -/
  alternatives : n.kind = .array ∨ n.kind = .intersection ∨ n.kind = .union →
    List.Forall₂ M n.alternatives n'.alternatives
  /-- The properties are related one by one. -/
  properties : n.kind = .object → List.Forall₂ (Property.Rel T) n.properties n'.properties
  /-- No key of a property is extra. -/
  declared : n.kind = .object → ∀ k ∈ n.properties.map Prod.fst, ¬extra k

/-- Nodes of one shape are counterparts, if no key is extra. -/
theorem Node.Rel.counterpart {M : Member ι → Member κ → Prop} {T : ι → κ → Prop} {n : Node ι}
    {n' : Node κ} (h : Node.Rel M T n n') : n.Counterpart M T (fun _ => False) n' where
  kind := h.kind_eq
  optional := by rw [h.flags_eq]
  fallback _ := rel_head?_of_forall₂ h.fallback
  alternatives _ := h.alternatives
  properties _ := h.properties
  declared _ _ _ := not_false

/-- A node is its own counterpart, if its members and the nodes that it refers to are related to
    themselves and none of its properties is extra. -/
theorem Node.Counterpart.self {M : Member ι → Member ι → Prop} {T : ι → ι → Prop}
    {extra : String → Prop} {n : Node ι} (hM : ∀ m ∈ n.alternatives, M m m)
    (hT : ∀ ref ∈ n.references, T ref ref) (hextra : ∀ k ∈ n.properties.map Prod.fst, ¬extra k) :
    n.Counterpart M T extra n where
  kind := rfl
  optional := rfl
  fallback _ := rel_head?_of_forall₂ (List.forall₂_same.2 fun ref href =>
    hT ref (List.mem_append_right _ href))
  alternatives _ := List.forall₂_same.2 hM
  properties _ := List.forall₂_same.2 fun e he => ⟨hT e.2 (mem_references_of_mem_properties he)⟩
  declared _ := hextra

end Conform.Schema

namespace Conform.Walk

open Schema Outcome

variable {ι κ : Type}

/-- A union as a trial of its alternatives, gone on after a no by the failure of all. -/
theorem union_eq (g : Graph ι) (visit : Visit ι) (ms : List (Member ι)) (value : Value)
    (c : Context) :
    union g visit ms value c =
      if ms.any (isAlternativeLiteral g value) then .ok true
      else otherwise (ms.anyM (tryAlternative visit value c)) (unionOutcome g ms value c) := by
  unfold union
  rcases ms.anyM (tryAlternative visit value c) with e | _ | _ <;> rfl

/-! ## Outcomes that are alike -/

/-- A relation between outcomes that lists of checks preserve. The truth value says whether the first
    outcome is that of a walk that reports failures. -/
structure Congruence (alike : Bool → Outcome → Outcome → Prop) : Prop where
  /-- Passing is like passing. -/
  pass : ∀ b, alike b (.ok true) (.ok true)
  /-- Where failures are not reported, no is like no. -/
  refuse : alike false (.ok false) (.ok false)
  /-- Likeness goes on after a yes. -/
  also : ∀ {b o o' r r'}, alike b o o' → alike b r r' → alike b (also o r) (also o' r')
  /-- Likeness of trials goes on after a no. -/
  otherwise : ∀ {b o o' r r'}, alike false o o' → alike b r r' →
    alike b (otherwise o r) (otherwise o' r')

theorem congruence_eq : Congruence fun _ o o' => o = o' where
  pass _ := rfl
  refuse := rfl
  also h h' := by rw [h, h']
  otherwise h h' := by rw [h, h']

namespace Congruence

variable {alike : Bool → Outcome → Outcome → Prop} (L : Congruence alike)

include L

theorem allM {α β : Type} {b : Bool} {f : α → Outcome} {f' : β → Outcome} {xs : List α} {ys : List β}
    (h : List.Forall₂ (fun x y => alike b (f x) (f' y)) xs ys) : alike b (xs.allM f) (ys.allM f') := by
  induction h with
  | nil => exact L.pass b
  | cons h _ ih =>
    rw [allM_cons, allM_cons]
    exact L.also h ih

theorem anyM {α β : Type} {f : α → Outcome} {f' : β → Outcome} {xs : List α} {ys : List β}
    (h : List.Forall₂ (fun x y => alike false (f x) (f' y)) xs ys) :
    alike false (xs.anyM f) (ys.anyM f') := by
  induction h with
  | nil => exact L.refuse
  | cons h _ ih =>
    rw [anyM_cons, anyM_cons]
    exact L.otherwise h ih

/-- Entries among others are checked alike if the others pass. -/
theorem allM_entries {R : Value → Value → Prop} {extra : String → Prop} {b : Bool}
    {f f' : String × Value → Outcome} {es fs : List (String × Value)} (h : Value.Widens R extra es fs)
    (hkept : ∀ k v w, R v w → alike b (f (k, v)) (f' (k, w)))
    (hadded : ∀ k w, extra k → f' (k, w) = .ok true) : alike b (es.allM f) (fs.allM f') := by
  induction h with
  | nil => exact L.pass b
  | @kept k v w _ _ h _ ih =>
    rw [allM_cons, allM_cons]
    exact L.also (hkept k v w h) ih
  | @added k w _ _ hk _ ih =>
    rw [allM_cons, hadded k w hk]
    exact ih

end Congruence

/-! ## Walks that correspond -/

/-- What corresponds in two walks. -/
structure Pairing (ι κ : Type) where
  /-- The references to nodes. -/
  refs : ι → κ → Prop
  /-- The members of nodes. -/
  members : Member ι → Member κ → Prop
  /-- The values. -/
  values : Value → Value → Prop
  /-- The keys that objects of the second walk may have besides. -/
  extra : String → Prop
  /-- The contexts, each with the mark of a trial. -/
  places : Context → Bool → Context → Bool → Prop
  /-- The outcomes, where the truth value says whether the first walk reports failures. -/
  alike : Bool → Outcome → Outcome → Prop

/-- When two ways of visiting nodes, of the schemas `g` and `g'`, run alike: what corresponds has
    outcomes that are alike wherever a walk decides something by itself. -/
structure Simulation (R : Pairing ι κ) (g : Graph ι) (g' : Graph κ) (visit : Visit ι)
    (visit' : Visit κ) : Prop extends Congruence R.alike, Value.Similarity R.extra R.values where
  /-- A step into the value leads to corresponding contexts. -/
  into : ∀ {c p d q} (s : Segment), R.places c p d q → R.places (c.into s) p (d.into s) q
  /-- Nodes that correspond are optional together. -/
  optional_eq : ∀ {ref ref'}, R.refs ref ref' → (g' ref').flags.optional = (g ref).flags.optional
  /-- Visits of nodes that correspond are alike. -/
  node : ∀ {ref ref' v w c p d q}, R.refs ref ref' → R.values v w → R.places c p d q →
    R.alike c.throwing (visit ref v c p) (visit' ref' w d q)
  /-- Members that correspond are alike. -/
  member : ∀ {m m' v w c p d q}, R.members m m' → R.values v w → R.places c p d q →
    R.alike c.throwing (member visit m v c p) (member visit' m' w d q)
  /-- Alternatives that correspond are literals for the same values. -/
  isAlternativeLiteral_eq : ∀ {m m' v w}, R.members m m' → R.values v w →
    isAlternativeLiteral g' w m' = isAlternativeLiteral g v m
  /-- Trials of alternatives that are no literals for the value are alike. -/
  attempt : ∀ {m m' v w c p d q}, R.members m m' → R.values v w → R.places c p d q →
    isAlternativeLiteral g v m = false →
    R.alike false (tryAlternative visit v c m) (tryAlternative visit' w d m')
  /-- The failures of all alternatives are alike. -/
  mismatch : ∀ {ms ms' v w c p d q}, List.Forall₂ R.members ms ms' → R.values v w →
    R.places c p d q → R.alike c.throwing (unionOutcome g ms v c) (unionOutcome g' ms' w d)
  /-- The failures of values that are not of the type expected are alike. -/
  mistyped : ∀ {v w c p d q} (expected : String), R.values v w → R.places c p d q →
    R.alike c.throwing (typeOutcome expected v c) (typeOutcome expected w d)
  /-- The failures of objects that lack a property are alike. -/
  lacking : ∀ {v w c p d q} (k : String), R.values v w → R.places c p d q →
    R.alike c.throwing ((c.into (.key k)).fail (.missingProperty k) v)
      ((d.into (.key k)).fail (.missingProperty k) w)
  /-- Intersections with too few members are alike. -/
  arity : ∀ {c p d q} (k : Nat), R.places c p d q →
    R.alike c.throwing (.error (.schema (.arity k c.path))) (.error (.schema (.arity k d.path)))

namespace Simulation

variable {R : Pairing ι κ} {g : Graph ι} {g' : Graph κ} {visit : Visit ι} {visit' : Visit κ}
  (S : Simulation R g g' visit visit') {v w : Value} {c d : Context} {p q : Bool}

include S

section Members

variable {ms : List (Member ι)} {ms' : List (Member κ)} (hms : List.Forall₂ R.members ms ms')

include hms

theorem any_eq (hv : R.values v w) :
    ms'.any (isAlternativeLiteral g' w) = ms.any (isAlternativeLiteral g v) := by
  induction hms with
  | nil => rfl
  | cons hm _ ih => rw [List.any_cons, List.any_cons, S.isAlternativeLiteral_eq hm hv, ih]

theorem union (hv : R.values v w) (h : R.places c p d q) :
    R.alike c.throwing (union g visit ms v c) (union g' visit' ms' w d) := by
  rw [union_eq, union_eq, S.any_eq hms hv]
  split
  · exact S.pass _
  · -- no alternative is a literal for either value, so both walks try the nodes among them in turn
    rename_i hno
    have hnone : ∀ m ∈ ms, isAlternativeLiteral g v m = false := by simpa using hno
    refine S.otherwise (S.anyM ((forall₂_and_mem hms).imp fun m m' hm => ?_)) (S.mismatch hms hv h)
    obtain ⟨hm, hmem, -⟩ := hm
    exact S.attempt hm hv h (hnone m hmem)

theorem item (hv : R.values v w) (h : R.places c p d q) :
    R.alike c.throwing (item g visit ms v c p) (item g' visit' ms' w d q) := by
  have hunion := S.union hms hv h
  cases hms with
  | nil => exact hunion
  | cons hm hrest =>
    cases hrest with
    | nil => exact S.member hm hv h
    | cons _ _ => exact hunion

theorem array (hv : R.values v w) (h : R.places c p d q) :
    R.alike c.throwing (array g visit ms v c p) (array g' visit' ms' w d q) := by
  have hempty : ms'.isEmpty = ms.isEmpty := isEmpty_eq_of_forall₂ hms
  unfold Walk.array
  obtain ⟨hx, hy⟩ | ⟨xs, ys, hx, hy, hxy⟩ := rel_cases (S.items hv)
  · rw [hx, hy]
    exact S.mistyped _ hv h
  · rw [hx, hy, hempty]
    simp only
    split
    · exact S.pass _
    · refine S.allM ((forall₂_zipIdx hxy 0).imp fun x y hxy => ?_)
      obtain ⟨hxy, hi⟩ := hxy
      rw [← hi]
      exact S.item hms hxy (S.into (.index x.2) h)

theorem intersection (hv : R.values v w) (h : R.places c p d q) :
    R.alike c.throwing (intersection visit ms v c p) (intersection visit' ms' w d q) := by
  unfold Walk.intersection
  rw [← hms.length_eq]
  split
  · exact S.arity _ h
  · exact S.allM (hms.imp fun m m' hm => S.member hm hv h)

end Members

section Properties

variable {ps : List (String × ι)} {ps' : List (String × κ)}
  (hps : List.Forall₂ (Property.Rel R.refs) ps ps')
  (hdeclared : ∀ k ∈ ps.map Prod.fst, ¬R.extra k)

include hps hdeclared

/-- The same property is missing from both objects. -/
theorem missing?_eq {es fs : List (String × Value)} (hes : Value.Widens R.values R.extra es fs) :
    missing? g' ps' fs = missing? g ps es := by
  unfold missing?
  -- on the properties, of which the first decides in both walks or in neither
  induction hps with
  | nil => rfl
  | cons he _ ih =>
    obtain @⟨k, s, s', href⟩ := he
    obtain ⟨hk, hrest⟩ := List.forall_mem_cons.1 hdeclared
    have hlookup : (fs.lookup k).isNone = (es.lookup k).isNone := by
      obtain ⟨he, hf⟩ | ⟨x, y, he, hf, -⟩ := rel_cases (hes.lookup hk)
      · rw [he, hf]
      · rw [he, hf]
        rfl
    simp only [List.find?_cons, S.optional_eq href, hlookup]
    split
    · rfl
    · exact ih hrest

theorem object (hv : R.values v w) (h : R.places c p d q) :
    R.alike c.throwing (object g visit ps v c p) (object g' visit' ps' w d q) := by
  unfold Walk.object
  obtain ⟨he, hf⟩ | ⟨es, fs, he, hf, hes⟩ := rel_cases (S.entries hv)
  · rw [he, hf]
    exact S.mistyped _ hv h
  · rw [he, hf]
    simp only [S.missing?_eq hps hdeclared hes]
    split
    · exact S.lacking _ hv h
    · refine S.allM_entries hes (fun k x y hxy => ?_) fun k y hk => ?_
      · unfold Walk.entry
        obtain ⟨hp, hp'⟩ | ⟨s, s', hp, hp', href⟩ := rel_cases (rel_lookup_of_forall₂ hps k)
        · rw [hp, hp']
          exact S.pass _
        · rw [hp, hp']
          exact S.node href hxy (S.into (.key k) h)
      · have hnone : ps'.lookup k = none := by
          rw [Entries.lookup_eq_none, keys_eq_of_forall₂ hps]
          exact fun hmem => hdeclared k hmem hk
        rw [Walk.entry, hnone]

end Properties

/-! ## Nodes that correspond -/

section Nodes

variable {n : Node ι} {n' : Node κ} (hn : n.Counterpart R.members R.refs R.extra n')
  (hliteral : n.kind = .literal →
    R.alike c.throwing (literal n.payload v c p) (literal n'.payload w d q))
  (hprimitive : n.kind = .primitive → R.alike c.throwing (primitive n v c) (primitive n' w d))

include hn hliteral hprimitive

/-- The kind of a node asks for outcomes that are alike, if it asks for no literal or primitive type
    whose outcomes are not. -/
theorem shape (hv : R.values v w) (h : R.places c p d q) :
    R.alike c.throwing (shape g visit n v c p) (shape g' visit' n' w d q) := by
  unfold Walk.shape
  rw [hn.kind]
  cases hk : n.kind with
  | optional =>
    obtain ⟨hf, hf'⟩ | ⟨s, s', hf, hf', href⟩ := rel_cases (hn.fallback hk)
    · rw [List.head?_eq_none_iff.1 hf, List.head?_eq_none_iff.1 hf']
      exact S.pass _
    · obtain ⟨rest, hf⟩ := List.head?_eq_some_iff.1 hf
      obtain ⟨rest', hf'⟩ := List.head?_eq_some_iff.1 hf'
      rw [hf, hf']
      exact S.node href hv h
  | literal => exact hliteral hk
  | primitive => exact hprimitive hk
  | array => exact S.array (hn.alternatives (by simp [hk])) hv h
  | intersection => exact S.intersection (hn.alternatives (by simp [hk])) hv h
  | union => exact S.union (hn.alternatives (by simp [hk])) hv h
  | object => exact S.object (hn.properties hk) (hn.declared hk) hv h
  | opaqueKind => exact S.pass _

theorem inside (hv : R.values v w) (h : R.places c p d q) :
    R.alike c.throwing (inside g visit n v c p) (inside g' visit' n' w d q) := by
  unfold Walk.inside
  rw [hn.optional, S.isAbsent_eq hv]
  split
  · exact S.pass _
  · exact S.shape hn hliteral hprimitive hv h

end Nodes

end Simulation

end Conform.Walk
