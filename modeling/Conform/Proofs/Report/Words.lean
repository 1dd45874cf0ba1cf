import Conform.Proofs.Outcome
import Conform.Proofs.Value.Legible
import Conform.Report.Message

/-!
# What can be put into words

A value is shown exactly if all integers in it can be written, and so a message is given exactly if the
values in it are shown; in any other case it comes to grief on an integer that is too long. A custom
message puts the value into words even where its template has no place for it. Which of several values
comes to grief makes no difference, as they all do in the same way.
-/

namespace Conform

open Schema Outcome

/-! ## Words that may be lacking -/

/-- Words that are given exactly if something holds, and in any other case come to grief on an integer
    that is too long. -/
inductive Worded {α : Type} : Except Fault α → Prop → Prop where
  /-- There are the words. -/
  | given {P : Prop} (a : α) (h : P) : Worded (.ok a) P
  /-- An integer is too long. -/
  | lacking {P : Prop} (h : ¬P) : Worded (.error .tooLong) P

namespace Worded

variable {α β : Type} {o : Except Fault α} {P Q : Prop}

theorem congr (h : Worded o P) (hpq : P ↔ Q) : Worded o Q := by
  cases h with
  | given a h => exact .given a (hpq.1 h)
  | lacking h => exact .lacking fun hq => h (hpq.2 hq)

theorem eq_error (h : Worded o P) (hP : ¬P) : o = .error .tooLong := by
  cases h with
  | given a h => exact absurd h hP
  | lacking h => rfl

/-- Words that go on after others. -/
theorem bind {next : α → Except Fault β} (h : Worded o P) (hnext : ∀ a, Worded (next a) Q) :
    Worded (o >>= next) (P ∧ Q) := by
  cases h with
  | given a h => exact (hnext a).congr (by simp [h])
  | lacking h => exact .lacking fun hpq => h hpq.1

/-- Words that only put together what there is. -/
theorem map {f : α → β} (h : Worded o P) : Worded (o >>= fun a => pure (f a)) P :=
  (h.bind fun _ => given _ trivial).congr (and_iff_left trivial)

theorem mapM {γ : Type} {f : γ → Except Fault α} {P : γ → Prop} {xs : List γ}
    (h : ∀ x ∈ xs, Worded (f x) (P x)) : Worded (xs.mapM f) (∀ x ∈ xs, P x) := by
  induction xs with
  | nil => exact .given [] nofun
  | cons x xs ih =>
    rw [List.forall_mem_cons] at h
    rw [List.mapM_cons]
    exact (h.1.bind fun _ => (ih h.2).map).congr List.forall_mem_cons.symm

end Worded

/-! ## Values -/

namespace Report

theorem worded_formatValue (v : Value) : Worded (formatValue v) (v.isLegible = true) := by
  unfold formatValue
  split
  · rename_i h
    exact .given _ h
  · rename_i h
    exact .lacking h

theorem formatValue_eq_ok {v : Value} (h : v.isLegible = true) : formatValue v = .ok (shown v) :=
  if_pos h

theorem quoteValue_eq_ok {v : Value} (h : v.isLegible = true) : quoteValue v = .ok (quoted v) := by
  cases v with
  | string s => rfl
  | _ => exact formatValue_eq_ok h

theorem worded_quoteValue (v : Value) : Worded (quoteValue v) (v.isLegible = true) := by
  cases v with
  | string s => exact .given _ rfl
  | _ => exact worded_formatValue _

/-! ## Messages -/

theorem worded_typeMismatch (expected : String) (value : Value) :
    Worded (typeMismatch expected value) (value.isLegible = true) :=
  (worded_quoteValue value).map

theorem worded_literalMismatch (expected value : Value) :
    Worded (literalMismatch expected value)
      (expected.isLegible = true ∧ value.isLegible = true) :=
  (worded_quoteValue expected).bind fun _ => (worded_quoteValue value).map

theorem literalMismatch_eq_ok {expected value : Value} (he : expected.isLegible = true)
    (hv : value.isLegible = true) :
    literalMismatch expected value =
      .ok s!"Expected {quoted expected} but received {quoted value}" := by
  rw [literalMismatch, quoteValue_eq_ok he, quoteValue_eq_ok hv]
  rfl

/-- Can an alternative be listed? Only that of a value or a literal may not. -/
def Listable {ι : Type} (g : Graph ι) : Member ι → Prop
  | .bare v => v.isLegible = true
  | .node ref => (g ref).flags.literal = true → (literalValue (g ref).payload).isLegible = true

theorem worded_describe {ι : Type} (g : Graph ι) (m : Member ι) :
    Worded (describe g m) (Listable g m) := by
  cases m with
  | bare v => exact worded_formatValue v
  | node ref =>
    simp only [describe, Listable]
    cases (g ref).flags.literal with
    | true => exact (worded_formatValue _).congr (by simp)
    | false => exact .given _ (by simp)

theorem worded_unionMismatch {ι : Type} (g : Graph ι) (ms : List (Member ι)) (value : Value) :
    Worded (unionMismatch g ms value) ((∀ m ∈ ms, Listable g m) ∧ value.isLegible = true) :=
  (Worded.mapM fun m _ => worded_describe g m).bind fun _ => (worded_quoteValue value).map

theorem worded_tagViolation (tags : List Tag) (tag : Tag) (value : Value) :
    Worded (tagViolation tags tag value) (value.isLegible = true) := by
  unfold tagViolation customMessage?
  cases (template? tags).bind (·.select? tag.name) with
  | none => exact (worded_quoteValue value).map
  | some template =>
    have htext := worded_formatValue value
    unfold applyTemplate
    generalize formatValue value = text at htext ⊢
    cases htext with
    | given text h => exact .given _ h
    | lacking h => exact .lacking h

end Report

/-! ## What is told of failures -/

namespace Told

section Told

variable {told : Told} {cause : Failure.Cause} {message : String} {value : Value} {path : Path}

/-- The error of a failure is the failure exactly if it is told of. -/
theorem toError_eq_failure {f : Failure} :
    told.toError value path = .failure f ↔
      told = .ok (f.cause, f.message) ∧ f.value = value ∧ f.path = path := by
  obtain ⟨cause, message, value', path'⟩ := f
  rcases told with e | ⟨c, m⟩
  · simp [toError]
  · simp only [toError, Error.failure.injEq, Failure.mk.injEq, Except.ok.injEq, Prod.mk.injEq]
    exact ⟨fun ⟨hc, hm, hv, hp⟩ => ⟨⟨hc, hm⟩, hv.symm, hp.symm⟩,
      fun ⟨⟨hc, hm⟩, hv, hp⟩ => ⟨hc, hm, hv.symm, hp.symm⟩⟩

/-- A failure is reported exactly if there are words for it. -/
theorem toError_worded {P : Prop} (h : Worded told P) (value : Value) (path : Path) :
    ((∃ f, told.toError value path = .failure f) ↔ P) ∧
    (told.toError value path = .fault .tooLong ↔ ¬P) := by
  cases h with
  | given a h => simp [toError, h]
  | lacking h => simp [toError, h]

theorem toError_ne_schema {e : SchemaError} : told.toError value path ≠ .schema e := by
  rcases told with e | ⟨c, m⟩
  · simp [toError]
  · simp [toError]

theorem cause_of_typeMismatch {expected : String}
    (h : typeMismatch expected value = .ok (cause, message)) : cause = .typeMismatch expected := by
  obtain ⟨m, -, hm⟩ := bind_eq_ok.1 h
  cases hm
  rfl

theorem cause_of_tagViolation {tags : List Tag} {t : Tag}
    (h : tagViolation tags t value = .ok (cause, message)) :
    cause = .tagViolation t.name t.argument := by
  obtain ⟨m, -, hm⟩ := bind_eq_ok.1 h
  cases hm
  rfl

theorem cause_of_literalMismatch {expected : Value}
    (h : literalMismatch expected value = .ok (cause, message)) :
    cause = .literalMismatch [expected] := by
  obtain ⟨m, -, hm⟩ := bind_eq_ok.1 h
  cases hm
  rfl

/-- A union lists its alternatives, and gives them as what was expected. -/
theorem unionMismatch_eq_ok {ι : Type} {g : Graph ι} {ms : List (Member ι)} :
    unionMismatch g ms value = .ok (cause, message) ↔
      (∃ described, ms.mapM (Report.describe g) = .ok described ∧
        cause = .literalMismatch (described.map .string)) ∧
      Report.unionMismatch g ms value = .ok message := by
  unfold unionMismatch
  rw [bind_eq_ok]
  simp only [bind_eq_ok]
  constructor
  · rintro ⟨described, hd, m, hm, hpure⟩
    cases hpure
    exact ⟨⟨described, hd, rfl⟩, hm⟩
  · rintro ⟨⟨described, hd, rfl⟩, hm⟩
    exact ⟨described, hd, message, hm, rfl⟩

end Told

theorem worded_typeMismatch (expected : String) (value : Value) :
    Worded (typeMismatch expected value) (value.isLegible = true) :=
  (Report.worded_typeMismatch expected value).map

theorem worded_tagViolation (tags : List Tag) (tag : Tag) (value : Value) :
    Worded (tagViolation tags tag value) (value.isLegible = true) :=
  (Report.worded_tagViolation tags tag value).map

theorem worded_literalMismatch (expected value : Value) :
    Worded (literalMismatch expected value)
      (expected.isLegible = true ∧ value.isLegible = true) :=
  (Report.worded_literalMismatch expected value).map

theorem worded_unionMismatch {ι : Type} (g : Graph ι) (ms : List (Member ι)) (value : Value) :
    Worded (unionMismatch g ms value)
      ((∀ m ∈ ms, Report.Listable g m) ∧ value.isLegible = true) := by
  refine ((Worded.mapM fun m _ => Report.worded_describe g m).bind fun _ =>
    (Report.worded_unionMismatch g ms value).map).congr ?_
  simp

end Told

end Conform
