import Conform.Failure

/-!
# Outcomes of checks made one after the other

A list of checks is stopped at the first that decides it. With `also` and `otherwise`, the two ways
of going on after an outcome, a list of checks unfolds one check at a time; from that follows what an
outcome of the whole list says about the outcomes of its members.
-/

namespace Conform.Outcome

variable {α : Type} {f : α → Outcome} {xs : List α}

/-! ## Going on after an outcome -/

/-- The second outcome if the first is yes, else the first. -/
def also (o r : Outcome) : Outcome :=
  match o with
  | .ok true => r
  | o => o

/-- The second outcome if the first is no, else the first. -/
def otherwise (o r : Outcome) : Outcome :=
  match o with
  | .ok false => r
  | o => o

theorem also_of_ne {o r : Outcome} (ho : o ≠ .ok true) : also o r = o := by
  rcases o with e | _ | _
  · rfl
  · rfl
  · exact absurd rfl ho

theorem also_eq_true {o r : Outcome} : also o r = .ok true ↔ o = .ok true ∧ r = .ok true := by
  rcases o with e | _ | _ <;> simp [also]

theorem also_eq {o r s : Outcome} (hs : s ≠ .ok true) :
    also o r = s ↔ o = s ∨ o = .ok true ∧ r = s := by
  rcases o with e | _ | _ <;> simp [also, hs.symm]

theorem otherwise_eq_false {o r : Outcome} :
    otherwise o r = .ok false ↔ o = .ok false ∧ r = .ok false := by
  rcases o with e | _ | _ <;> simp [otherwise]

theorem otherwise_eq {o r s : Outcome} (hs : s ≠ .ok false) :
    otherwise o r = s ↔ o = s ∨ o = .ok false ∧ r = s := by
  rcases o with e | _ | _ <;> simp [otherwise, hs.symm]

/-! ## Outcomes that are passed on -/

section Passing

variable {ε δ β : Type} {g : ε → δ}

theorem mapError_ok {a : α} : (Except.ok a).mapError g = .ok a := rfl

theorem mapError_error {e : ε} : (Except.error e : Except ε α).mapError g = .error (g e) := rfl

theorem mapError_eq_ok {o : Except ε α} {a : α} : o.mapError g = .ok a ↔ o = .ok a := by
  cases o with
  | error e => simp only [mapError_error, reduceCtorEq]
  | ok b => simp only [mapError_ok, Except.ok.injEq]

theorem mapError_eq_error {o : Except ε α} {d : δ} (h : o.mapError g = .error d) :
    ∃ e, o = .error e ∧ g e = d := by
  cases o with
  | error e => exact ⟨e, rfl, Except.error.inj h⟩
  | ok a => cases h

theorem bind_eq_ok {o : Except ε α} {next : α → Except ε β} {b : β} :
    o >>= next = .ok b ↔ ∃ a, o = .ok a ∧ next a = .ok b := by
  cases o with
  | error e => simp [bind, Except.bind]
  | ok a => simp [bind, Except.bind]

end Passing

/-! ## Lists of checks -/

theorem allM_cons (x : α) : (x :: xs).allM f = also (f x) (xs.allM f) := by
  rw [List.allM]
  rcases f x with e | _ | _ <;> rfl

theorem anyM_cons (x : α) : (x :: xs).anyM f = otherwise (f x) (xs.anyM f) := by
  rw [List.anyM]
  rcases f x with e | _ | _ <;> rfl

/-- All checks are passed if each of them is. -/
theorem allM_eq_true : xs.allM f = .ok true ↔ ∀ x ∈ xs, f x = .ok true := by
  induction xs with
  | nil => simp [List.allM, pure, Except.pure]
  | cons x xs ih => rw [allM_cons, also_eq_true, ih, List.forall_mem_cons]

/-- Where not all checks are passed, the outcome is that of one of them. -/
theorem exists_of_allM {o : Outcome} (h : xs.allM f = o) (ho : o ≠ .ok true) :
    ∃ x ∈ xs, f x = o := by
  induction xs with
  | nil => exact absurd h.symm ho
  | cons x xs ih =>
    rw [allM_cons, also_eq ho] at h
    rcases h with h | ⟨-, h⟩
    · exact ⟨x, List.mem_cons_self, h⟩
    · obtain ⟨y, hy, hf⟩ := ih h
      exact ⟨y, List.mem_cons_of_mem _ hy, hf⟩

/-- No check is passed if each of them is answered with no. -/
theorem anyM_eq_false : xs.anyM f = .ok false ↔ ∀ x ∈ xs, f x = .ok false := by
  induction xs with
  | nil => simp [List.anyM, pure, Except.pure]
  | cons x xs ih => rw [anyM_cons, otherwise_eq_false, ih, List.forall_mem_cons]

/-- Where not every check is answered with no, the outcome is that of one of them. -/
theorem exists_of_anyM {o : Outcome} (h : xs.anyM f = o) (ho : o ≠ .ok false) :
    ∃ x ∈ xs, f x = o := by
  induction xs with
  | nil => exact absurd h.symm ho
  | cons x xs ih =>
    rw [anyM_cons, otherwise_eq ho] at h
    rcases h with h | ⟨-, h⟩
    · exact ⟨x, List.mem_cons_self, h⟩
    · obtain ⟨y, hy, hf⟩ := ih h
      exact ⟨y, List.mem_cons_of_mem _ hy, hf⟩

/-! ## The check that decides -/

/-- What a list of checks comes to, where a check may depend on the position of its item: yes if all are
    passed, else the outcome of the first that is not. -/
inductive Decided (f : Nat → α → Outcome) (xs : List α) : Outcome → Prop where
  /-- All checks are passed. -/
  | passed (h : ∀ i x, xs[i]? = some x → f i x = .ok true) : Decided f xs (.ok true)
  /-- A check is not passed, and all before it are. -/
  | stopped {before after : List α} {x : α} (hxs : xs = before ++ x :: after)
      (hbefore : ∀ i y, before[i]? = some y → f i y = .ok true)
      (hx : f before.length x ≠ .ok true) : Decided f xs (f before.length x)

theorem Decided.cons {f : Nat → α → Outcome} {x : α} {o : Outcome} (hx : f 0 x = .ok true)
    (h : Decided (fun i => f (i + 1)) xs o) : Decided f (x :: xs) o := by
  have hshift : ∀ {l : List α}, (∀ i y, l[i]? = some y → f (i + 1) y = .ok true) →
      ∀ i y, (x :: l)[i]? = some y → f i y = .ok true := by
    rintro l hl (_ | i) y hy
    · cases hy
      exact hx
    · exact hl i y hy
  cases h with
  | passed h => exact .passed (hshift h)
  | stopped hxs hbefore hstop =>
    rw [hxs]
    exact .stopped (List.cons_append ..).symm (hshift hbefore) hstop

/-- The checks of the items with their positions, counted from `n`. -/
theorem decided_allM_from (f : Nat → α → Outcome) (xs : List α) (n : Nat) :
    Decided (fun i => f (n + i)) xs ((xs.zipIdx n).allM fun e => f e.2 e.1) := by
  induction xs generalizing n with
  | nil => exact .passed (by simp)
  | cons x xs ih =>
    rw [List.zipIdx_cons, allM_cons]
    by_cases hx : f n x = .ok true
    · have hrest : Decided (fun i => f (n + (i + 1))) xs
          ((xs.zipIdx (n + 1)).allM fun e => f e.2 e.1) := by
        simpa only [Nat.add_assoc, Nat.add_comm 1] using ih (n + 1)
      rw [hx]
      exact hrest.cons hx
    · rw [also_of_ne hx]
      exact @Decided.stopped _ _ _ [] xs x rfl (by simp) hx

theorem decided_zipIdx (f : Nat → α → Outcome) (xs : List α) :
    Decided f xs (xs.zipIdx.allM fun e => f e.2 e.1) := by
  simpa only [Nat.zero_add] using decided_allM_from f xs 0

theorem allM_zipIdx (f : α → Outcome) (xs : List α) (n : Nat) :
    ((xs.zipIdx n).allM fun e => f e.1) = xs.allM f := by
  induction xs generalizing n with
  | nil => rfl
  | cons x xs ih => rw [List.zipIdx_cons, allM_cons, allM_cons, ih]

theorem decided_allM (f : α → Outcome) (xs : List α) : Decided (fun _ => f) xs (xs.allM f) := by
  rw [← allM_zipIdx f xs 0]
  exact decided_zipIdx _ xs

theorem allM_append (xs ys : List α) : (xs ++ ys).allM f = also (xs.allM f) (ys.allM f) := by
  induction xs with
  | nil => rfl
  | cons x xs ih =>
    rw [List.cons_append, allM_cons, allM_cons, ih]
    rcases f x with e | _ | _ <;> rfl

theorem allM_congr {f' : α → Outcome} (h : ∀ x ∈ xs, f x = f' x) : xs.allM f = xs.allM f' := by
  induction xs with
  | nil => rfl
  | cons x xs ih =>
    rw [List.forall_mem_cons] at h
    rw [allM_cons, allM_cons, h.1, ih h.2]

theorem anyM_congr {f' : α → Outcome} (h : ∀ x ∈ xs, f x = f' x) : xs.anyM f = xs.anyM f' := by
  induction xs with
  | nil => rfl
  | cons x xs ih =>
    rw [List.forall_mem_cons] at h
    rw [anyM_cons, anyM_cons, h.1, ih h.2]

/-- What stands after a check that is not passed plays no part. -/
theorem allM_eq_of_stop {x : α} (hx : f x ≠ .ok true) (before after after' : List α) :
    (before ++ x :: after).allM f = (before ++ x :: after').allM f := by
  rw [allM_append, allM_append, allM_cons, allM_cons, also_of_ne hx, also_of_ne hx]

/-! ## Questions that outcomes settle -/

/-- Where the outcome is an answer at all, it is yes exactly if the proposition holds. -/
def Settles (o : Outcome) (P : Prop) : Prop := ∀ b, o = .ok b → (b = true ↔ P)

theorem Settles.congr {o : Outcome} {P Q : Prop} (h : Settles o P) (hPQ : P ↔ Q) : Settles o Q :=
  fun b hb => (h b hb).trans hPQ

theorem settles_ok {b : Bool} {P : Prop} (h : b = true ↔ P) : Settles (.ok b) P := by
  intro b' hb
  cases hb
  exact h

theorem settles_error {e : Error} {P : Prop} : Settles (.error e) P := by
  intro b hb
  cases hb

/-- All checks settle whether each of the propositions holds that the single ones settle. -/
theorem settles_allM {P : α → Prop} (h : ∀ x ∈ xs, Settles (f x) (P x)) :
    Settles (xs.allM f) (∀ x ∈ xs, P x) := by
  rintro (_ | _) hb
  · obtain ⟨x, hx, hf⟩ := exists_of_allM hb (by simp)
    have hP : ¬P x := by simpa using h x hx false hf
    simpa using ⟨x, hx, hP⟩
  · have hall := allM_eq_true.1 hb
    simpa using fun x hx => (h x hx true (hall x hx)).1 rfl

/-- Trying checks settles whether one of the propositions holds that the single ones settle. -/
theorem settles_anyM {P : α → Prop} (h : ∀ x ∈ xs, Settles (f x) (P x)) :
    Settles (xs.anyM f) (∃ x ∈ xs, P x) := by
  rintro (_ | _) hb
  · have hall := anyM_eq_false.1 hb
    simpa using fun x hx => by simpa using h x hx false (hall x hx)
  · obtain ⟨x, hx, hf⟩ := exists_of_anyM hb (by simp)
    simpa using ⟨x, hx, (h x hx true hf).1 rfl⟩

/-- Going on after a no settles a disjunction. -/
theorem settles_otherwise {o r : Outcome} {P Q : Prop} (ho : Settles o P) (hr : Settles r Q) :
    Settles (otherwise o r) (P ∨ Q) := by
  rcases o with e | _ | _
  · exact settles_error
  · have hP : ¬P := by simpa using ho false rfl
    exact hr.congr (by simp [hP])
  · have hP : P := (ho true rfl).1 rfl
    exact settles_ok (by simp [hP])

end Conform.Outcome
