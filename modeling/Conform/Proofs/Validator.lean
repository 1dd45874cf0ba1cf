import Conform.Proofs.Outcome
import Conform.Proofs.Report.Words
import Conform.Proofs.Schema.Subtree
import Conform.Validator
import Mathlib.Logic.Relation

/-!
# From the walk to the validator

The walk of a validator starts at the root of its schema and gets to nodes only that the root leads to
(`Schema.Reaches`). The validator passes on what its walk answers and the failures that it reports. Of
the errors, those of the schema may come out changed: a walk that was given up counts as one that got
too deep.
-/

namespace Conform.Schema

variable {ι : Type}

/-- The nodes that a schema's root leads to, in any number of steps. -/
def Reaches (s : Schema ι) : ι → Prop :=
  Relation.ReflTransGen (fun a b => b ∈ (s.graph a).references) s.root

end Conform.Schema

namespace Conform.Validator

open Walk

variable {ι : Type}

theorem limit_le (v : Validator ι) : v.limit ≤ v.maxDepth := by
  unfold limit
  split
  · exact Int.le_refl _
  · exact Int.min_le_left _ _

theorem reported_eq_failure {v : Validator ι} {e : Error} {f : Failure} :
    v.reported e = .failure f ↔ e = .failure f := by
  unfold reported
  split
  · split <;> simp
  · simp
  · rfl

/-- Validators with the same limits give the same answer where their walks come out the same. -/
theorem callAs_congr {κ : Type} {v : Validator ι} {w : Validator κ} (hlimit : w.limit = v.limit)
    (hmax : w.maxDepth = v.maxDepth) {throwing : Bool} {x y : Value}
    (h : node v.schema.graph v.schema.root x (v.start throwing) false =
      node w.schema.graph w.schema.root y (w.start throwing) false) :
    v.callAs throwing x = w.callAs throwing y := by
  have hreported : w.reported = v.reported := by
    funext e
    unfold reported
    rw [hlimit, hmax]
  unfold callAs walk
  rw [h, hreported]

/-- What the walk answers is answered. -/
theorem callAs_of_ok {v : Validator ι} {throwing b : Bool} {value : Value}
    (h : node v.schema.graph v.schema.root value (v.start throwing) false = .ok b) :
    v.callAs throwing value = .ok b := by
  unfold callAs walk
  rw [h]
  rfl

/-- That an integer is too long to be written comes out as it is. -/
theorem callAs_of_tooLong {v : Validator ι} {throwing : Bool} {x : Value}
    (h : node v.schema.graph v.schema.root x (v.start throwing) false = .error (.fault .tooLong)) :
    v.callAs throwing x = .error (.fault .tooLong) := by
  unfold callAs walk
  rw [h]
  rfl

/-- A failure that the walk cannot tell of comes out as a fault. -/
theorem callAs_of_untold {v : Validator ι} {throwing : Bool} {x value : Value} {path : Path}
    {told : Told} {P : Prop} (htold : Worded told P) (hP : ¬P)
    (h : node v.schema.graph v.schema.root x (v.start throwing) false =
      .error (told.toError value path)) : v.callAs throwing x = .error (.fault .tooLong) := by
  rw [(Told.toError_worded htold value path).2.2 hP] at h
  exact callAs_of_tooLong h

/-- A failure comes from the walk and comes out as it is. -/
theorem callAs_eq_failure {v : Validator ι} {throwing : Bool} {value : Value} {f : Failure} :
    v.callAs throwing value = .error (.failure f) ↔
      node v.schema.graph v.schema.root value (v.start throwing) false = .error (.failure f) := by
  unfold callAs walk
  cases node v.schema.graph v.schema.root value (v.start throwing) false with
  | ok b => simp [Outcome.mapError_ok]
  | error e =>
    rw [Except.error.injEq, ← reported_eq_failure (v := v)]
    simp only [Outcome.mapError_error]
    cases v.reported e with
    | schema e => cases throwing <;> simp
    | failure f => simp
    | fault e => simp

/-- The failure that a validator is asked for is that of the walk that reports. -/
theorem check_eq_failure {v : Validator ι} {x : Value} {f : Failure} :
    v.check x = .ok (some f) ↔ v.callAs true x = .error (.failure f) := by
  unfold check
  rcases v.callAs true x with (e | f' | e) | b <;> simp

end Conform.Validator
