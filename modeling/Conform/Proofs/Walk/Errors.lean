import Conform.Proofs.Factory
import Conform.Proofs.Schema.Sound
import Conform.Proofs.Walk.Silence
import Conform.Proofs.Walk.Verdict

/-!
# Errors that come out

Every error of a walk is raised at one of its calls, so what a validator can end in is read off the
nodes that its schema leads to and the rules that it is given. In a tree that a document stands for,
no intersection lacks members, so that error comes from a rule or not at all. With the built-in
rules, the only errors are those of a walk that gets too deep, of an intersection, and of a pattern
that cannot be compiled. The first two and most of the third are errors of the schema, which a
validator that reports no failures answers with no; what remains are patterns that fail in other
ways than by being refused.
-/

namespace Conform

/-! ## Built-in rules -/

/-- Of the built-in rules, only the one for patterns ends in errors: those of its pattern. -/
theorem builtIn_error {p : Primitive} {name argument : String} {rule : Rule} {value : Value}
    {e : Error} (hr : p.builtIn.find? name = some rule) (he : rule value argument = .error e) :
    p = .string ∧ name = "regex" ∧
      ∃ fault, Pattern.compile argument.toList = .error fault ∧
        Rule.patternError argument fault = e := by
  by_cases hn : name = "regex"
  · subst hn
    cases p with
    | number => cases hr
    | boolean => cases hr
    | string =>
      obtain rfl : Rule.regex = rule := Option.some.inj hr
      exact ⟨rfl, rfl, Rule.regex_eq_error he⟩
  · obtain ⟨b, hb⟩ := builtIn_answers hr hn value argument
    rw [hb] at he
    cases he

/-- A pattern that is not refused but fails in another way: a count is too large or has too many
    digits, or the flags of the whole pattern exclude each other. -/
theorem Rule.patternError_eq_fault {argument : String} {fault : Pattern.Fault} {f : Fault}
    (h : Rule.patternError argument fault = .fault f) :
    fault = .repetition ∨ (∃ count, fault = .digits count) ∨ fault = .contradiction := by
  cases fault with
  | «at» cause position => cases h
  | overall cause => cases h
  | repetition => exact Or.inl rfl
  | digits count => exact Or.inr (Or.inl ⟨count, rfl⟩)
  | contradiction => exact Or.inr (Or.inr rfl)

theorem Primitive.name_of_ofName? {name : String} {p : Primitive} (h : ofName? name = some p) :
    p.name = name := by
  simpa using List.find?_some h

end Conform

namespace Conform.Walk

open Schema

/-! ## Calls in trees -/

theorem Call.reaches {a b : Call Schema.Tree}
    (h : Relation.ReflTransGen (Descends Schema.Tree.node) a b) : a.ref.Reaches b.ref :=
  h.lift Call.ref fun _ _ hab => hab.child

theorem Call.registry_of_reaches {ι : Type} {g : Graph ι} {a b : Call ι}
    (h : Relation.ReflTransGen (Descends g) a b) : b.context.registry = a.context.registry := by
  induction h with
  | refl => rfl
  | tail _ hbc ih => rw [hbc.registry_eq, ih]

/-- In a tree of sound nodes, no call finds an intersection that lacks members: such an error is that
    of a rule. -/
theorem Raises.arity_of_sound {a : Call Schema.Tree} {k : Nat} {path : Path}
    (hs : a.ref.node.Sound)
    (h : Raises Schema.Tree.node a (.schema (.arity k path))) :
    ∃ p tag rule, tag ∈ a.ref.node.tags ∧
      (a.context.registry.table p).find? tag.name = some rule ∧
      rule a.value tag.argument = .error (.schema (.arity k path)) := by
  generalize he : Error.schema (.arity k path) = e at h
  cases h with
  | cycle hd => cases he
  | arity hd hk hl => exact absurd (hs.two_le_of_kind hk) (by omega)
  | rule hd hk hp ha ht hr ho => exact ⟨_, _, _, ht, hr, ho⟩
  | blame hd ht hb => exact absurd he.symm Told.toError_ne_schema

/-- The error of a pattern in a tree that is not refused but fails in another way. -/
inductive FailingPattern (t : Schema.Tree) : Error → Prop where
  /-- The pattern is the argument of a tag of a text type that the tree leads to. Its count is too
      large or has too many digits, or its flags exclude each other. -/
  | tag {s : Schema.Tree} {tag : Tag} {fault : Pattern.Fault} (hs : t.Reaches s)
      (hk : s.node.kind = .primitive) (hname : s.node.typeName = "string") (ht : tag ∈ s.node.tags)
      (hregex : tag.name = "regex") (hc : Pattern.compile tag.argument.toList = .error fault)
      (hf : fault = .repetition ∨ (∃ count, fault = .digits count) ∨ fault = .contradiction) :
      FailingPattern t (Rule.patternError tag.argument fault)

theorem FailingPattern.fault {t : Schema.Tree} {e : Error} (h : FailingPattern t e) :
    ∃ f, f ≠ .exhausted ∧ e = .fault f := by
  cases h with
  | tag hs hk hname ht hregex hc hf =>
    rcases hf with rfl | ⟨count, rfl⟩ | rfl
    · exact ⟨_, by simp, rfl⟩
    · exact ⟨_, by simp, rfl⟩
    · exact ⟨_, by simp, rfl⟩

/-- With the built-in rules, a fault is that of a failing pattern, where failures are not reported. -/
theorem Raises.fault_of_builtIn {t : Schema.Tree} {a : Call Schema.Tree} {f : Fault}
    (ht : t.Reaches a.ref) (hr : a.context.registry = ⟨Primitive.builtIn⟩)
    (hq : a.context.throwing = false) (h : Raises Schema.Tree.node a (.fault f)) : FailingPattern t (.fault f) := by
  generalize he : Error.fault f = e at h
  cases h with
  | cycle hd => cases he
  | arity hd hk hl => cases he
  | blame hd ht hb =>
    rw [hq] at ht
    cases ht
  | rule hd hk hp ha htag hrule ho =>
    rw [hr] at hrule
    obtain ⟨rfl, hregex, fault, hc, rfl⟩ := builtIn_error hrule ho
    exact .tag ht hk (Primitive.name_of_ofName? hp).symm htag hregex hc
      (Rule.patternError_eq_fault he.symm)

end Conform.Walk

namespace Conform.Validator

open Walk Schema

variable {ι : Type}

/-! ## Errors of validators -/

/-- An error of the walk that a validator makes is raised at a call. -/
theorem exists_raises {v : Validator ι} {throwing : Bool} {value : Value} {e : Error}
    (h : node v.schema.graph v.schema.root value (v.start throwing) false = .error e) :
    ∃ b, Relation.ReflTransGen (Descends v.schema.graph)
      ⟨v.schema.root, value, v.start throwing, false⟩ b ∧ Raises v.schema.graph b e :=
  Call.origin (a := ⟨v.schema.root, value, v.start throwing, false⟩) h

theorem walk_of_callAs {v : Validator ι} {throwing : Bool} {value : Value} {e : Error}
    (h : v.callAs throwing value = .error e) : v.walk throwing value = .error e := by
  unfold callAs at h
  split at h
  · rename_i hw
    split at h
    · rw [hw, ← h]
    · cases h
  · exact h

theorem callAs_of_check {v : Validator ι} {value : Value} {e : Error}
    (h : v.check value = .error e) : v.callAs true value = .error e := by
  unfold check at h
  split at h
  · cases h
  · cases h
  · rename_i hc
    cases h
    exact hc

theorem reported_eq_arity {v : Validator ι} {e : Error} {k : Nat} {path : Path} :
    v.reported e = .schema (.arity k path) ↔ e = .schema (.arity k path) := by
  unfold reported
  split
  · split <;> simp
  · simp
  · rfl

/-- An error of the schema comes out as one. -/
theorem reported_schema (v : Validator ι) (e : SchemaError) :
    ∃ e', v.reported (.schema e) = .schema e' := by
  cases e with
  | cycle depth path =>
    simp only [reported]
    split
    · exact ⟨_, rfl⟩
    · exact ⟨_, rfl⟩
  | _ => exact ⟨_, rfl⟩

theorem reported_failingPattern (v : Validator ι) {t : Schema.Tree} {e : Error}
    (h : FailingPattern t e) : v.reported e = e := by
  obtain ⟨f, hf, rfl⟩ := h.fault
  unfold reported
  split
  · rename_i he
    cases he
  · rename_i he
    exact absurd (Error.fault.inj he) hf
  · rfl

/-! ## Trees of documents -/

/-- A tree that a document stands for leads to sound nodes only: a literal carries a single scalar, an
    intersection has at least two members, and an array carries nothing or a list. So whatever the
    rules, no walk through it finds an intersection that lacks members, whether failures are reported,
    answered with no or asked for: if such an error comes out, the rule of a tag has ended in it. -/
theorem sound_of_loaded (t : Schema.Tree) (ht : Loaded t) :
    (∀ s, t.Reaches s → s.node.Sound) ∧
    ∀ (r : Registry) (maxDepth : Int) (throwing : Bool) (value : Value) (k : Nat) (path : Path),
      let v : Validator Schema.Tree := ⟨.ofTree t, r, throwing, maxDepth⟩
      v.walk throwing value = .error (.schema (.arity k path)) ∨
        v.call value = .error (.schema (.arity k path)) ∨
        v.check value = .error (.schema (.arity k path)) →
      ∃ s p tag rule x, t.Reaches s ∧ tag ∈ s.node.tags ∧
        (r.table p).find? tag.name = some rule ∧
        rule x tag.argument = .error (.schema (.arity k path)) := by
  refine ⟨ht.sound, ?_⟩
  intro r maxDepth throwing value k path v h
  obtain ⟨b, hw⟩ : ∃ b, v.walk b value = .error (.schema (.arity k path)) := by
    rcases h with h | h | h
    · exact ⟨throwing, h⟩
    · exact ⟨throwing, walk_of_callAs h⟩
    · exact ⟨true, walk_of_callAs (callAs_of_check h)⟩
  obtain ⟨e, hnode, he⟩ := Outcome.mapError_eq_error hw
  obtain rfl := reported_eq_arity.1 he
  obtain ⟨a, hpath, hraises⟩ := exists_raises hnode
  have hreach : t.Reaches a.ref := Call.reaches hpath
  have hregistry : a.context.registry = r := Call.registry_of_reaches hpath
  obtain ⟨p, tag, rule, htag, hr, ho⟩ := hraises.arity_of_sound (ht.sound _ hreach)
  rw [hregistry] at hr
  exact ⟨a.ref, p, tag, rule, a.value, hreach, htag, hr, ho⟩

/-- A document of texts that a rule of the name `paired` and a second demand both accept, and the tree
    that it stands for. -/
def pairedTexts : Value :=
  .object [("type", .string "text"), ("intersection", .bool true),
    ("children", .list [
      .object [("type", .string "string"), ("primitive", .bool true),
        ("tags", .list [.list [.string "paired"]])],
      .string "both"])]

/-- The node of texts under the rule `paired`. -/
def pairedText : Schema.Tree :=
  .mk ⟨"string", { primitive := true }, [⟨"paired", ""⟩], .single .null, []⟩

/-- Rules of which `paired` always finds a member lacking. -/
def pairedRules : Registry :=
  ⟨fun _ => [("paired", fun _ _ => .error (.schema (.arity 1 [])))]⟩

theorem sound_of_loaded_pairedTexts :
    let t : Schema.Tree := .mk ⟨"text", { intersection := true }, [],
      .members [.node pairedText, .bare (.string "both")], []⟩
    Loaded t ∧ t.node.Sound ∧ pairedText.node.Sound ∧
    (⟨.ofTree t, pairedRules, true, 2⟩ : Validator Schema.Tree).call (.string "both") =
      .error (.schema (.arity 1 [])) ∧
    ∃ s p tag rule x, t.Reaches s ∧ tag ∈ s.node.tags ∧
      (pairedRules.table p).find? tag.name = some rule ∧
      rule x tag.argument = .error (.schema (.arity 1 [])) := by
  intro t
  have hloaded : Loaded t := Or.inl ⟨pairedTexts, rfl⟩
  obtain ⟨hsound, harity⟩ := sound_of_loaded t hloaded
  have hchild : t.Child pairedText := List.mem_cons_self
  have hcall : (⟨.ofTree t, pairedRules, true, 2⟩ : Validator Schema.Tree).call (.string "both") =
      .error (.schema (.arity 1 [])) := rfl
  exact ⟨hloaded, hsound t .refl, hsound pairedText (.single hchild), hcall,
    harity pairedRules 2 true (.string "both") 1 [] (Or.inr (Or.inl hcall))⟩

/-! ## The built-in rules -/

theorem callAs_of_walk {v : Validator ι} {throwing : Bool} {value : Value} {o : Outcome}
    (h : v.walk throwing value = o) (ho : ∀ e, o ≠ .error (.schema e)) :
    v.callAs throwing value = o := by
  unfold callAs
  rw [h]
  split
  · rename_i e
    exact absurd rfl (ho e)
  · rfl

/-- A validator that reports no failures answers an error of the schema with no. -/
theorem callAs_of_walk_schema {v : Validator ι} {value : Value} {e : SchemaError}
    (h : v.walk false value = .error (.schema e)) : v.callAs false value = .ok false := by
  unfold callAs
  rw [h]
  rfl

/-- With the built-in rules, a walk that answers failures with no ends in an answer, in an error of
    the schema, or in that of a failing pattern. -/
theorem walk_builtIn (t : Schema.Tree) (maxDepth : Int) (value : Value) :
    let v : Validator Schema.Tree := ⟨.ofTree t, ⟨Primitive.builtIn⟩, false, maxDepth⟩
    (∃ b, v.walk false value = .ok b) ∨ (∃ e, v.walk false value = .error (.schema e)) ∨
      ∃ e, FailingPattern t e ∧ v.walk false value = .error e := by
  intro v
  cases hw : v.walk false value with
  | ok b => exact Or.inl ⟨b, rfl⟩
  | error e' =>
    refine Or.inr ?_
    obtain ⟨e, hnode, rfl⟩ := Outcome.mapError_eq_error hw
    have hsilent : Call.Silent ⟨t, value, v.start false, false⟩ := ⟨rfl, builtIn_failureFree⟩
    cases e with
    | schema e =>
      obtain ⟨e', he'⟩ := reported_schema v e
      exact Or.inl ⟨e', by rw [he']⟩
    | failure f => exact absurd hnode (hsilent.outcome f)
    | fault f =>
      obtain ⟨a, hpath, hraises⟩ := exists_raises hnode
      have hfailing : FailingPattern t (.fault f) :=
        hraises.fault_of_builtIn (Call.reaches hpath) (Call.registry_of_reaches hpath)
          (hsilent.reaches hpath).quiet
      exact Or.inr ⟨.fault f, hfailing, by rw [reported_failingPattern v hfailing]⟩

/-- Without rules of the caller's own, a validator that reports no failures answers yes or no to every
    value, with no for every error of the schema that its walk comes upon. The one exception is a
    pattern that is not refused but fails in another way: its error comes out. -/
theorem call_builtIn (maxDepth : Int) (hd : 1 ≤ maxDepth) :
    ∃ f, Factory.build [] false maxDepth = .ok f ∧
    ∀ (t : Schema.Tree) (value : Value),
      let v := f.bind (.ofTree t)
      (∀ e, v.walk false value = .error (.schema e) → v.call value = .ok false) ∧
      ((∃ b, v.call value = .ok b) ∨ ∃ e, FailingPattern t e ∧ v.call value = .error e) := by
  refine ⟨_, Factory.build_nil hd, fun t value => ⟨fun e => callAs_of_walk_schema, ?_⟩⟩
  rcases walk_builtIn t maxDepth value with ⟨b, hw⟩ | ⟨e, hw⟩ | ⟨e, hfailing, hw⟩
  · exact Or.inl ⟨b, callAs_of_walk hw nofun⟩
  · exact Or.inl ⟨false, callAs_of_walk_schema hw⟩
  · refine Or.inr ⟨e, hfailing, callAs_of_walk hw ?_⟩
    obtain ⟨f, -, rfl⟩ := hfailing.fault
    exact nofun

/-- A document of texts that hold a pattern, and the tree that it stands for. -/
def matching (pattern : String) : Value :=
  .object [("type", .string "string"), ("primitive", .bool true),
    ("tags", .list [.list [.string "regex", .string pattern]])]

/-- The texts that hold a pattern. -/
def matchingTexts (pattern : String) : Schema.Tree :=
  .mk ⟨"string", { primitive := true }, [⟨"regex", pattern⟩], .single .null, []⟩

/-- A count that is too large for a pattern comes out as a fault: the validator does not answer. -/
theorem call_countless :
    load (matching "a\x7b4294967295\x7d") = .ok (matchingTexts "a\x7b4294967295\x7d") ∧
    ∃ f, Factory.build [] false 128 = .ok f ∧
      ¬∃ b, (f.bind (.ofTree (matchingTexts "a\x7b4294967295\x7d"))).call (.string "a") = .ok b := by
  refine ⟨by rfl, _, Factory.build_nil (by decide), ?_⟩
  have hcall : ((⟨.ofTree (matchingTexts "a\x7b4294967295\x7d"), ⟨Primitive.builtIn⟩, false, 128⟩ :
      Validator Schema.Tree).call (.string "a")).isOk = false := by decide +kernel
  rintro ⟨b, hb⟩
  rw [Factory.bind] at hb
  rw [hb] at hcall
  cases hcall

/-- A set that is not closed is refused as a pattern: the validator answers no. -/
theorem call_builtIn_unclosed :
    (1 : Int) ≤ 1 ∧ ∃ f, Factory.build [] false 1 = .ok f ∧
      ∃ e, (f.bind (.ofTree (matchingTexts "["))).walk false (.string "a") = .error (.schema e) ∧
        (f.bind (.ofTree (matchingTexts "["))).call (.string "a") = .ok false := by
  obtain ⟨f, hf, hcall⟩ := call_builtIn 1 (by decide)
  obtain rfl := Except.ok.inj ((Factory.build_nil (by decide)).symm.trans hf)
  have hwalk : ∃ e, (Factory.bind ⟨⟨Primitive.builtIn⟩, false, 1⟩
      (.ofTree (matchingTexts "["))).walk false (.string "a") = .error (.schema e) := ⟨_, rfl⟩
  obtain ⟨e, he⟩ := hwalk
  exact ⟨by decide, _, hf, e, he, (hcall (matchingTexts "[") (.string "a")).1 e he⟩

end Conform.Validator
