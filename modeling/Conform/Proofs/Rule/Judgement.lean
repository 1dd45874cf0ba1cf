import Conform.Combinator
import Conform.Proofs.Entries
import Conform.Proofs.Outcome

/-!
# What the rules of tags decide

The verdict on a value and a list of tags, in terms of the single rules: all of them accept, or one
tag is refused by its rule, or the rule of one tag ends in an error. The outcome of a combinator
follows, once for where it comes from and once for what it means.
-/

namespace Conform

/-! ## Verdicts -/

namespace RuleTable

variable {table : RuleTable} {value : Value} {ts : List Tag}

/-- Rules accept a value exactly if each tag that has a rule is accepted by it. -/
theorem judge_accepted_iff :
    (table.judge value ts).2 = .accepted ↔
      ∀ t ∈ ts, ∀ rule, table.find? t.name = some rule → rule value t.argument = .ok true := by
  induction ts with
  | nil => simp [judge]
  | cons t ts ih =>
    rw [List.forall_mem_cons, ← ih]
    cases hr : table.find? t.name with
    | none => simp [judge, hr]
    | some rule => rcases ho : rule value t.argument with e | _ | _ <;> simp [judge, hr, ho]

/-- Where rules do not accept, the verdict is that of the rule of one of the tags: it refuses the
    value or ends in an error. -/
theorem exists_of_judge (h : (table.judge value ts).2 ≠ .accepted) :
    ∃ t ∈ ts, ∃ rule, table.find? t.name = some rule ∧
      (rule value t.argument = .ok false ∧ (table.judge value ts).2 = .refused t ∨
        ∃ e, rule value t.argument = .error e ∧ (table.judge value ts).2 = .raised e) := by
  induction ts with
  | nil => exact absurd rfl h
  | cons s ts ih =>
    -- the rules of the rest decide if `s` has no rule or is accepted
    have hrest : (table.judge value (s :: ts)).2 = (table.judge value ts).2 →
        ∃ t ∈ s :: ts, ∃ rule, table.find? t.name = some rule ∧
          (rule value t.argument = .ok false ∧ (table.judge value (s :: ts)).2 = .refused t ∨
            ∃ e, rule value t.argument = .error e ∧
              (table.judge value (s :: ts)).2 = .raised e) := by
      intro heq
      rw [heq] at h ⊢
      obtain ⟨t, ht, hrule⟩ := ih h
      exact ⟨t, List.mem_cons_of_mem _ ht, hrule⟩
    cases hr : table.find? s.name with
    | none => exact hrest (by simp [judge, hr])
    | some rule =>
      rcases ho : rule value s.argument with e | _ | _
      · exact ⟨s, List.mem_cons_self, rule, hr, Or.inr ⟨e, ho, by simp [judge, hr, ho]⟩⟩
      · exact ⟨s, List.mem_cons_self, rule, hr, Or.inl ⟨ho, by simp [judge, hr, ho]⟩⟩
      · exact hrest (by simp [judge, hr, ho])

/-- Has the table a rule for a tag? -/
def covers (table : RuleTable) (t : Tag) : Bool := (table.find? t.name).isSome

/-- Tags without a rule are passed over. -/
theorem judge_filter (table : RuleTable) (value : Value) (ts : List Tag) :
    table.judge value (ts.filter table.covers) = table.judge value ts := by
  induction ts with
  | nil => rfl
  | cons t ts ih =>
    cases hr : table.find? t.name with
    | none =>
      have hcovers : ¬table.covers t = true := by simp [covers, hr]
      rw [List.filter_cons_of_neg hcovers, ih]
      simp only [judge, hr]
    | some rule =>
      have hcovers : table.covers t = true := by simp [covers, hr]
      rw [List.filter_cons_of_pos hcovers]
      simp only [judge, hr, ih]

end RuleTable

/-! ## Combinators -/

namespace Combinator

open Outcome

variable {k : Combinator} {value : Value} {tags : List Tag} {throwing : Bool} {path : Path}

theorem check_eq (k : Combinator) (value : Value) (tags : List Tag) (throwing : Bool) (path : Path) :
    k.check value tags throwing path =
      if k.admits value then
        match (k.rules.judge value tags).2 with
        | .accepted => .ok true
        | .refused t => report throwing (.tagViolation tags t value) value path
        | .raised e => .error e
      else report throwing (.typeMismatch k.name value) value path := by
  unfold check run
  cases k.admits value with
  | false => rfl
  | true =>
    simp only [Bool.not_true, Bool.false_eq_true, if_false, if_true]
    rcases k.rules.judge value tags with ⟨called, _ | t | e⟩ <;> rfl

/-- Where failures are not reported, the outcome for a single tag is that of its rule. -/
theorem check_singleton {t : Tag} {rule : Rule} (ha : k.admits value = true)
    (hr : k.rules.find? t.name = some rule) :
    k.check value [t] false path = rule value t.argument := by
  rw [check_eq, if_pos ha]
  rcases ho : rule value t.argument with e | _ | _ <;> simp [RuleTable.judge, hr, ho, report]

/-- A failure is told of exactly where failures are reported. -/
theorem report_eq_error {told : Told} {e : Error} :
    report throwing told value path = .error e ↔
      throwing = true ∧ e = told.toError value path := by
  cases throwing with
  | false => simp [report]
  | true => simp [report, eq_comm]

/-- Where an error of a combinator comes from: the value is not of the type, or the rule of a tag
    ends in this error, or the rule of a tag refuses the value. -/
theorem of_check_error {e : Error} (h : k.check value tags throwing path = .error e) :
    (k.admits value = false ∧ throwing = true ∧
      e = Told.toError (.typeMismatch k.name value) value path) ∨
    (k.admits value = true ∧ ∃ t ∈ tags, ∃ rule, k.rules.find? t.name = some rule ∧
      (rule value t.argument = .error e ∨
        rule value t.argument = .ok false ∧ throwing = true ∧
          e = Told.toError (.tagViolation tags t value) value path)) := by
  rw [check_eq] at h
  split at h
  · rename_i ha
    refine Or.inr ⟨ha, ?_⟩
    have hj : (k.rules.judge value tags).2 ≠ .accepted := by
      intro hj
      rw [hj] at h
      cases h
    obtain ⟨t, ht, rule, hr, ⟨ho, hj⟩ | ⟨e', ho, hj⟩⟩ := RuleTable.exists_of_judge hj
    · rw [hj] at h
      exact ⟨t, ht, rule, hr, Or.inr ⟨ho, report_eq_error.1 h⟩⟩
    · rw [hj] at h
      obtain rfl : e' = e := by simpa using h
      exact ⟨t, ht, rule, hr, Or.inl ho⟩
  · rename_i ha
    exact Or.inl ⟨by simpa using ha, report_eq_error.1 h⟩

/-- A failure settles what does not hold. -/
theorem settles_report {told : Told} {P : Prop} (h : ¬P) :
    Settles (report throwing told value path) P := by
  cases throwing with
  | false => exact settles_ok (by simp [h])
  | true => exact settles_error

/-- A combinator settles whether the value is of the type and each tag that has a rule accepts it. -/
theorem settles_check :
    Settles (k.check value tags throwing path)
      (k.admits value = true ∧
        ∀ t ∈ tags, ∀ rule, k.rules.find? t.name = some rule → rule value t.argument = .ok true) := by
  rw [check_eq, ← RuleTable.judge_accepted_iff]
  split
  · rename_i ha
    split
    · rename_i hj
      exact settles_ok (by simp [ha, hj])
    · rename_i t hj
      exact settles_report (by simp [hj])
    · exact settles_error
  · rename_i ha
    exact settles_report (by simp [ha])

end Combinator

/-- Values of a primitive type are scalars. -/
theorem Primitive.isScalar_of_admits {p : Primitive} {v : Value} (h : p.admits v = true) :
    v.isScalar = true := by
  cases v with
  | missing | list | tuple | object => cases p <;> cases h
  | _ => rfl

/-- Values of a primitive type have no parts. -/
theorem Primitive.plain_of_admits {p : Primitive} {v : Value} (h : p.admits v = true) :
    v.items? = none ∧ v.entries? = none := by
  have hscalar := isScalar_of_admits h
  cases v with
  | list | tuple | object => cases hscalar
  | _ => exact ⟨rfl, rfl⟩

/-! ## Registries whose rules report no failures -/

/-- No rule of the registry ends in a failure; any other error will do. -/
def Registry.FailureFree (r : Registry) : Prop :=
  ∀ p name rule, (r.table p).find? name = some rule →
    ∀ value argument f, rule value argument ≠ .error (.failure f)

theorem Rule.patternError_ne_failure (argument : String) (fault : Pattern.Fault) (f : Failure) :
    Rule.patternError argument fault ≠ .failure f := by
  cases fault <;> simp [Rule.patternError]

/-- The rule for patterns ends in an error only where the pattern of its argument does. -/
theorem Rule.regex_eq_error {value : Value} {argument : String} {e : Error}
    (h : Rule.regex value argument = .error e) :
    ∃ fault, Pattern.compile argument.toList = .error fault ∧ Rule.patternError argument fault = e := by
  cases value with
  | string s =>
    refine Outcome.mapError_eq_error ?_
    have hmap : (Rule.patternOf argument).map (·.occursIn s.toList) = .error e := h
    cases ho : Rule.patternOf argument with
    | error e' =>
      rw [ho] at hmap
      cases hmap
      exact ho
    | ok pattern =>
      rw [ho] at hmap
      cases hmap
  | _ => cases h

/-- A pattern that cannot be compiled is no failure of the value. -/
theorem Rule.regex_ne_failure (value : Value) (argument : String) (f : Failure) :
    Rule.regex value argument ≠ .error (.failure f) := by
  intro h
  obtain ⟨fault, -, he⟩ := Rule.regex_eq_error h
  exact Rule.patternError_ne_failure argument fault f he

/-- The built-in rules answer, the one for patterns aside. -/
theorem builtIn_answers {p : Primitive} {name : String} {rule : Rule}
    (hr : p.builtIn.find? name = some rule) (hn : name ≠ "regex") (value : Value)
    (argument : String) : ∃ b, rule value argument = .ok b := by
  have hmem : (name, rule) ∈ p.builtIn := Entries.mem_of_lookup hr
  cases p with
  | string =>
    simp only [Primitive.builtIn, Rule.textRules, List.mem_cons, Prod.mk.injEq,
      List.not_mem_nil, or_false] at hmem
    rcases hmem with ⟨rfl, -⟩ | ⟨-, rfl⟩ | ⟨-, rfl⟩ | ⟨-, rfl⟩ | ⟨-, rfl⟩
    · exact absurd rfl hn
    all_goals cases value <;> exact ⟨_, rfl⟩
  | number =>
    simp only [Primitive.builtIn, Rule.numberRules, List.mem_cons, Prod.mk.injEq,
      List.not_mem_nil, or_false] at hmem
    rcases hmem with ⟨-, rfl⟩ | ⟨-, rfl⟩
    all_goals
      simp only [Rule.minimum, Rule.maximum, Rule.onNumber]
      split <;> exact ⟨_, rfl⟩
  | boolean => simp [Primitive.builtIn] at hmem

/-- The built-in rules report no failures. -/
theorem builtIn_failureFree : Registry.FailureFree ⟨Primitive.builtIn⟩ := by
  intro p name rule hr value argument f
  by_cases hn : name = "regex"
  · subst hn
    cases p with
    | string =>
      obtain rfl : Rule.regex = rule := Option.some.inj hr
      exact Rule.regex_ne_failure value argument f
    | number => cases hr
    | boolean => cases hr
  · obtain ⟨b, hb⟩ := builtIn_answers hr hn value argument
    simp [hb]

end Conform
