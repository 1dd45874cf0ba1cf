import Conform.Proofs.Report.Words
import Conform.Proofs.Validator
import Conform.Proofs.Value.Follow
import Conform.Proofs.Walk.Origin

/-!
# Failures tell the truth

A failure names a part of the value and a reason. Every call of a walk stands at a place: the path of
its context leads from the root to its value, and no path is longer than the walk is deep. Each
descent keeps this, so the part that a failure names is where it says, and the reason is read off the
call that reports it.
-/

namespace Conform

/-! ## What failures say -/

/-- The test of a type by the name under which failures report it: lists, objects and the primitive
    types have one. -/
def typeTest? (name : String) : Option (Value → Bool) :=
  if name = "array" then some fun v => v.items?.isSome
  else if name = "object" then some fun v => v.entries?.isSome
  else (Primitive.ofName? name).map Primitive.admits

theorem typeTest?_primitive (p : Primitive) : typeTest? p.name = some p.admits := by
  cases p <;> rfl

namespace Failure

/-- What a failure says of a root value is true, under the rules of a registry and with a number of
    levels. -/
structure Truthful (f : Failure) (r : Registry) (levels : Int) (root : Value) : Prop where
  /-- The path is no longer than the levels are many. -/
  length : f.path.length ≤ levels
  /-- The details list the path. -/
  details : f.details.lookup "path" = some (Path.toValue f.path)
  /-- The path leads to the part, unless a property is missing. -/
  reached : (∀ k, f.cause ≠ .missingProperty k) → root.follow? f.path = some f.value
  /-- If a property is missing, the path without its last step leads to an object, and the last step
      is the key of the property, which the object does not have. -/
  missing : ∀ k, f.cause = .missingProperty k →
    ∃ path es, f.path = path ++ [.key k] ∧ root.follow? path = some f.value ∧
      f.value = .object es ∧ k ∉ es.map Prod.fst
  /-- A value said not to be of a type is not. -/
  type : ∀ name, f.cause = .typeMismatch name →
    ∃ test, typeTest? name = some test ∧ test f.value = false
  /-- A value said to be refused by a tag is of a primitive type whose rule for the tag refuses it. -/
  tag : ∀ name argument, f.cause = .tagViolation name argument →
    ∃ p rule, p.admits f.value = true ∧ (r.table p).find? name = some rule ∧
      rule f.value argument = .ok false

/-- The details of a failure list its path, unless they are the caller's own. -/
theorem details_path {f : Failure} (h : ∀ code details, f.cause ≠ .custom code details) :
    f.details.lookup "path" = some (Path.toValue f.path) := by
  unfold details
  cases hc : f.cause with
  | typeMismatch => rfl
  | tagViolation => rfl
  | literalMismatch => rfl
  | missingProperty => rfl
  | custom code details => exact absurd hc (h code details)

variable {r : Registry} {levels : Int} {root value : Value} {path : Path} {message : String}

section Reached

variable (hlen : path.length ≤ levels) (hv : root.follow? path = some value)

include hlen hv

theorem truthful_literal (expected : List Value) :
    Truthful ⟨.literalMismatch expected, message, value, path⟩ r levels root where
  length := hlen
  details := details_path nofun
  reached _ := hv
  missing := nofun
  type := nofun
  tag := nofun

theorem truthful_type {name : String} {test : Value → Bool} (ht : typeTest? name = some test)
    (hno : test value = false) :
    Truthful ⟨.typeMismatch name, message, value, path⟩ r levels root where
  length := hlen
  details := details_path nofun
  reached _ := hv
  missing := nofun
  type := by
    rintro _ ⟨⟩
    exact ⟨test, ht, hno⟩
  tag := nofun

theorem truthful_tag {name argument : String} {p : Primitive} {rule : Rule}
    (ha : p.admits value = true) (hr : (r.table p).find? name = some rule)
    (hno : rule value argument = .ok false) :
    Truthful ⟨.tagViolation name argument, message, value, path⟩ r levels root where
  length := hlen
  details := details_path nofun
  reached _ := hv
  missing := nofun
  type := nofun
  tag := by
    rintro _ _ ⟨⟩
    exact ⟨p, rule, ha, hr, hno⟩

end Reached

theorem truthful_missing {k : String} {es : List (String × Value)} (hlen : path.length + 1 ≤ levels)
    (hv : root.follow? path = some (.object es)) (hk : k ∉ es.map Prod.fst) :
    Truthful ⟨.missingProperty k, message, .object es, path ++ [.key k]⟩ r levels root where
  length := by simpa using hlen
  details := details_path nofun
  reached h := absurd rfl (h k)
  missing := by
    rintro _ ⟨⟩
    exact ⟨path, es, rfl, hv, rfl, hk⟩
  type := nofun
  tag := nofun

end Failure

end Conform

namespace Conform.Walk

open Schema

variable {ι : Type} {g : Graph ι} {a b : Call ι} {r : Registry} {levels : Int} {root : Value}

/-! ## Places of calls -/

/-- A property that is missing is not among the keys. -/
theorem not_mem_of_missing? {ps : List (String × ι)} {es : List (String × Value)} {k : String}
    (h : missing? g ps es = some k) : k ∉ es.map Prod.fst := by
  unfold missing? at h
  obtain ⟨q, hq, rfl⟩ := Option.map_eq_some_iff.1 h
  have hfound := List.find?_some hq
  obtain ⟨-, hnone⟩ := Bool.and_eq_true_iff.1 hfound
  exact Entries.lookup_eq_none.1 (by simpa using hnone)

/-- A call at a place in the root value: the path of its context leads to its value and is no longer
    than the call is deep. -/
structure Call.Placed (r : Registry) (levels : Int) (root : Value) (a : Call ι) : Prop where
  /-- The rules are those of the registry. -/
  registry : a.context.registry = r
  /-- The depth allowed is the number of levels. -/
  levels : a.context.maxDepth = levels
  /-- Each step into the value came with a node entered. -/
  length : a.context.path.length ≤ a.context.depth
  /-- No object in the value has a key twice. -/
  distinct : a.value.DistinctKeys
  /-- The path leads to the value. -/
  follow : root.follow? a.context.path = some a.value

/-- A descent stays at the place or takes one step into the value. -/
theorem Descends.place (h : Descends g a b) (ha : a.value.DistinctKeys) :
    b.value.DistinctKeys ∧
    (b.context.path = a.context.path ∧ b.value = a.value ∨
      ∃ s, b.context.path = a.context.path ++ [s] ∧ a.value.step? s = some b.value) := by
  cases h with
  | fallback => exact ⟨ha, Or.inl ⟨rfl, rfl⟩⟩
  | demand => exact ⟨ha, Or.inl ⟨rfl, rfl⟩⟩
  | alternative => exact ⟨ha, Or.inl ⟨rfl, rfl⟩⟩
  | item hk hx hi hm =>
    exact ⟨ha.item hx (List.mem_of_getElem? hi), Or.inr ⟨_, rfl, Value.step?_index hx hi⟩⟩
  | itemAlternative hk hx hi hl hm =>
    exact ⟨ha.item hx (List.mem_of_getElem? hi), Or.inr ⟨_, rfl, Value.step?_index hx hi⟩⟩
  | property hk he hm hx hp =>
    exact ⟨ha.entry he hx, Or.inr ⟨_, rfl, Value.step?_key ha he hx⟩⟩

/-- A descent leads to a place. -/
theorem Call.Placed.descends (ha : a.Placed r levels root) (h : Descends g a b) :
    b.Placed r levels root := by
  obtain ⟨hdistinct, hplace⟩ := h.place ha.distinct
  have hlength := ha.length
  refine ⟨h.registry_eq.trans ha.registry, h.maxDepth_eq.trans ha.levels, ?_, hdistinct, ?_⟩
  · rw [h.depth_eq]
    rcases hplace with ⟨hp, -⟩ | ⟨s, hp, -⟩
    · rw [hp]
      omega
    · rw [hp, List.length_append, List.length_singleton]
      omega
  · rcases hplace with ⟨hp, hv⟩ | ⟨s, hp, hv⟩
    · rw [hp, hv]
      exact ha.follow
    · rw [hp, Value.follow?_concat ha.follow]
      exact hv

/-- Every call that a call leads to is at a place. -/
theorem Call.Placed.reaches (ha : a.Placed r levels root)
    (h : Relation.ReflTransGen (Descends g) a b) : b.Placed r levels root := by
  induction h with
  | refl => exact ha
  | tail _ hbc ih => exact ih.descends hbc

/-- What a call at a place reports is true. -/
theorem Blames.truthful {told : Told} {cause : Failure.Cause} {message : String} {value : Value}
    {path : Path} (h : Blames g a told value path) (htold : told = .ok (cause, message))
    (ha : a.Placed r levels root) (hd : a.context.depth < a.context.maxDepth) :
    Failure.Truthful ⟨cause, message, value, path⟩ r levels root := by
  have hlen : (a.context.path.length : Int) + 1 ≤ levels := by
    have hlength := ha.length
    rw [ha.levels] at hd
    omega
  have hlen' : (a.context.path.length : Int) ≤ levels := by omega
  have hitem : ∀ {xs : List Value} {i : Nat} {x : Value}, a.value.items? = some xs →
      xs[i]? = some x → root.follow? (a.context.path ++ [.index i]) = some x := by
    intro xs i x hx hi
    rw [Value.follow?_concat ha.follow]
    exact Value.step?_index hx hi
  have hstep : ∀ s : Segment, ((a.context.path ++ [s]).length : Int) ≤ levels := by
    intro s
    simpa using hlen
  cases h with
  | type hk hp hno =>
    obtain rfl := Told.cause_of_typeMismatch htold
    exact Failure.truthful_type hlen' ha.follow (typeTest?_primitive _) hno
  | tag hk hp hadmits ht hr ho =>
    obtain rfl := Told.cause_of_tagViolation htold
    rw [ha.registry] at hr
    exact Failure.truthful_tag hlen' ha.follow hadmits hr ho
  | literal hk =>
    obtain rfl := Told.cause_of_literalMismatch htold
    exact Failure.truthful_literal hlen' ha.follow _
  | notList hk hx =>
    obtain rfl := Told.cause_of_typeMismatch htold
    exact Failure.truthful_type hlen' ha.follow rfl (by simp [hx])
  | item hk hx hi hm =>
    obtain rfl := Told.cause_of_literalMismatch htold
    exact Failure.truthful_literal (hstep _) (hitem hx hi) _
  | itemUnion hk hx hi hl =>
    obtain ⟨⟨described, -, rfl⟩, -⟩ := Told.unionMismatch_eq_ok.1 htold
    exact Failure.truthful_literal (hstep _) (hitem hx hi) _
  | demand hk hl hm =>
    obtain rfl := Told.cause_of_literalMismatch htold
    exact Failure.truthful_literal hlen' ha.follow _
  | union hk =>
    obtain ⟨⟨described, -, rfl⟩, -⟩ := Told.unionMismatch_eq_ok.1 htold
    exact Failure.truthful_literal hlen' ha.follow _
  | notObject hk he =>
    obtain rfl := Told.cause_of_typeMismatch htold
    exact Failure.truthful_type hlen' ha.follow rfl (by simp [he])
  | missing hk he hm =>
    cases htold
    obtain hobject := Value.entries?_eq_some.1 he
    have hfollow := ha.follow
    rw [hobject] at hfollow ⊢
    exact Failure.truthful_missing hlen hfollow (not_mem_of_missing? hm)

end Conform.Walk

namespace Conform.Validator

open Walk

variable {ι : Type}

/-! ## Failures of validators -/

/-- The failure that a validator reports of a value, or is asked for, tells the truth, as long as the
    rules end in no failures of their own. The value has distinct keys, as every decoded value has. -/
theorem failure_truthful (v : Validator ι) (hr : v.registry.FailureFree) (x : Value)
    (hx : x.DistinctKeys) (f : Failure)
    (h : v.call x = .error (.failure f) ∨ v.check x = .ok (some f)) :
    f.Truthful v.registry v.maxDepth x := by
  have hnode : ∃ throwing, node v.schema.graph v.schema.root x (v.start throwing) false =
      .error (.failure f) := by
    rcases h with h | h
    · exact ⟨v.throwing, callAs_eq_failure.1 h⟩
    · exact ⟨true, callAs_eq_failure.1 (check_eq_failure.1 h)⟩
  obtain ⟨throwing, hnode⟩ := hnode
  have hplaced : Call.Placed v.registry v.limit x ⟨v.schema.root, x, v.start throwing, false⟩ :=
    ⟨rfl, rfl, Int.le_refl 0, hx, rfl⟩
  obtain ⟨b, hpath, hraises⟩ := Call.origin (a := ⟨v.schema.root, x, v.start throwing, false⟩) hnode
  have hb := hplaced.reaches hpath
  have htruth : f.Truthful v.registry v.limit x := by
    generalize he : Error.failure f = e at hraises
    cases hraises with
    | cycle => cases he
    | arity => cases he
    | rule hd hk hp ha ht hrule ho =>
      rw [hb.registry] at hrule
      exact absurd (he ▸ ho) (hr _ _ _ hrule _ _ f)
    | blame hd ht hblames =>
      obtain ⟨htold, rfl, rfl⟩ := Told.toError_eq_failure.1 he.symm
      exact hblames.truthful htold hb hd
  exact { htruth with length := Int.le_trans htruth.length v.limit_le }

/-- Objects with a list of texts of at most five characters each under the key `names`. -/
def named : Schema Nat :=
  .ofTable #[⟨"named", {}, [], .properties [("names", 1)], []⟩,
    ⟨"list", { array := true }, [], .members [.node 2], []⟩,
    ⟨"string", { primitive := true }, [⟨"max", "5"⟩], .single .null, []⟩] 0

/-- A document with a text of six characters. -/
def tooLong : Value := .object [("names", .list [.string "three", .string "twelve"])]

theorem failure_truthful_named :
    tooLong.DistinctKeys ∧ Registry.FailureFree ⟨Primitive.builtIn⟩ ∧
    ∃ f, (⟨named, ⟨Primitive.builtIn⟩, false, 3⟩ : Validator Nat).check tooLong = .ok (some f) ∧
      f.cause = .tagViolation "max" "5" ∧ f.path = [.key "names", .index 1] ∧
      f.Truthful ⟨Primitive.builtIn⟩ 3 tooLong := by
  have htext (s : String) : (Value.string s).DistinctKeys := .plain rfl rfl
  have hnames : (Value.list [.string "three", .string "twelve"]).DistinctKeys :=
    .list rfl (by simp [htext])
  have hdistinct : tooLong.DistinctKeys :=
    .object (List.nodup_singleton _) (List.forall_mem_singleton.2 hnames)
  refine ⟨hdistinct, builtIn_failureFree, _, rfl, rfl, rfl, ?_⟩
  exact failure_truthful ⟨named, ⟨Primitive.builtIn⟩, false, 3⟩ builtIn_failureFree tooLong
    hdistinct _ (Or.inr rfl)

end Conform.Validator
