import Conform.Proofs.Double.Integer
import Conform.Proofs.Double.Reader
import Conform.Proofs.Rule.Judgement

/-!
# Integer bounds

The built-in rules for numbers take the bound from the text of an argument. An integer bound is read
as a double, so what a value is compared with is the integer that is nearest among those that double
precision holds, or an infinity. The comparison itself is exact. The bound is thus the one written
down, the bound included, exactly for the integers that double precision holds.
-/

namespace Conform.Bound

open Double Text

/-! ## Bounds as data -/

/-- A piece of data that spells an integer as the argument of a tag: its text, or the number itself
    if it has no more digits than documents may have. -/
inductive Spells (n : Int) : Value → Prop where
  | text : Spells n (.string (String.ofList (intText n)))
  | number (h : (natText n.natAbs).length ≤ maxDigits) : Spells n (.int n)

/-- The outcome of the built-in rules for an integer and one tag given as data. -/
def outcome (name : String) (argument : Value) (v : Int) : Outcome := do
  let tags ← Combinator.readTags [.list [.string name, argument]]
  (Combinator.ofPrimitive ⟨Primitive.builtIn⟩ .number).check (.int v) tags false []

/-- As the argument of `max` and of `min`, a piece of data admits exactly the integers on that side of
    `k`, and `k` itself both times. -/
def Inclusive (a : Value) (k : Int) : Prop :=
  ∀ v, outcome "max" a v = .ok (decide (v ≤ k)) ∧ outcome "min" a v = .ok (decide (k ≤ v))

variable {n : Int} {a : Value}

theorem Inclusive.self (h : Inclusive a n) :
    outcome "max" a n = .ok true ∧ outcome "min" a n = .ok true := by
  simpa using h n

theorem Spells.argumentText (ha : Spells n a) :
    Tag.argumentText (some a) = .ok (String.ofList (intText n)) := by
  cases ha with
  | text => rfl
  | number h =>
    have hshort : Tag.obstacle? (.int n) = none := by
      simp [Tag.obstacle?, Value.atoms, Tag.partObstacle?, Value.isShort, h]
    rw [Tag.argumentText, hshort]
    · rfl
    · simp
    · simp

/-- A tag with an integer as its argument keeps the text of the integer. -/
theorem Spells.readTags (ha : Spells n a) {name : String}
    (hname : Tag.normalName name.toList = name.toList) (hne : name.toList ≠ []) :
    Combinator.readTags [.list [.string name, a]] =
      .ok [⟨name, String.ofList (intText n)⟩] := by
  have htrim : trim (intText n) = intText n := (isNumeric_intText n).trim_eq
  have hmake : Tag.make name (String.ofList (intText n)) =
      .ok ⟨name, String.ofList (intText n)⟩ := by
    simp [Tag.make, hname, hne, htrim]
  have htag : Tag.ofValue (.list [.string name, a]) = .ok ⟨name, String.ofList (intText n)⟩ := by
    rw [Tag.ofValue, Tag.ofItems, Tag.ofFields, ha.argumentText]
    exact hmake
  simp [Combinator.readTags, htag]
  rfl

/-! ## The rules at an integer bound -/

/-- A rule for numbers compares with the double nearest to the integer that it reads. -/
theorem onNumber_intText (accepts : Ordering → Bool) (n v : Int) :
    Rule.onNumber accepts (.int v) (String.ofList (intText n)) =
      .ok (((compare? (exactInt v) (ofInt n)).map accepts).getD false) := by
  simp [Rule.onNumber, Value.number?, ofText?_intText]

/-- A tag whose rule compares with its argument. -/
theorem Spells.outcome_eq (ha : Spells n a) {name : String} {accepts : Ordering → Bool}
    (hname : Tag.normalName name.toList = name.toList) (hne : name.toList ≠ [])
    (hrule : Rule.numberRules.find? name = some (Rule.onNumber accepts)) (v : Int) :
    outcome name a v = .ok (((compare? (exactInt v) (ofInt n)).map accepts).getD false) := by
  have hfind : (Combinator.ofPrimitive ⟨Primitive.builtIn⟩ .number).rules.find? name =
      some (Rule.onNumber accepts) := hrule
  have hcheck := @Combinator.check_singleton _ (.int v) [] ⟨name, String.ofList (intText n)⟩ _
    rfl hfind
  rw [outcome, ha.readTags hname hne]
  exact hcheck.trans (onNumber_intText accepts n v)

theorem Spells.outcome_max (ha : Spells n a) (v : Int) :
    outcome "max" a v = .ok (((compare? (exactInt v) (ofInt n)).map Ordering.isLE).getD false) :=
  ha.outcome_eq (by decide) (by decide) rfl v

theorem Spells.outcome_min (ha : Spells n a) (v : Int) :
    outcome "min" a v = .ok (((compare? (exactInt v) (ofInt n)).map Ordering.isGE).getD false) :=
  ha.outcome_eq (by decide) (by decide) rfl v

/-- A bound that rounds to an integer is compared with as this integer. -/
theorem Spells.inclusive_of_toInt? (ha : Spells n a) {k : Int} (hk : (ofInt n).toInt? = some k) :
    Inclusive a k := by
  intro v
  have hle : (compare v k).isLE = decide (v ≤ k) := Bool.eq_iff_iff.2 (by simp [Std.isLE_compare])
  have hge : (compare v k).isGE = decide (k ≤ v) := Bool.eq_iff_iff.2 (by simp [Std.isGE_compare])
  rw [ha.outcome_max, ha.outcome_min, compare?_exactInt hk, ← hle, ← hge]
  exact ⟨rfl, rfl⟩

/-- A bound that overflows is above or below all integers, by its sign. -/
theorem Spells.outcome_of_overflow (ha : Spells n a) (hn : ofInt n = infinite (decide (n < 0)))
    (v : Int) :
    outcome "max" a v = .ok (decide (0 ≤ n)) ∧ outcome "min" a v = .ok (decide (n < 0)) := by
  rw [ha.outcome_max, ha.outcome_min, hn]
  rcases Int.lt_or_le n 0 with h | h
  · simp [h, exactInt, compare?, Int.not_le.2 h]
  · simp [h, exactInt, compare?, Int.not_lt.2 h]

/-! ## Inclusive bounds -/

/-- An integer bound stands for the nearest integer that double precision holds, or, where it
    overflows, is above or below all integers. -/
theorem Spells.inclusive_or_overflow (ha : Spells n a) :
    (n.natAbs < overflow ∧ ∃ k, Nearest n k ∧ Inclusive a k) ∨
    (overflow ≤ n.natAbs ∧ ∀ v,
      outcome "max" a v = .ok (decide (0 < n)) ∧ outcome "min" a v = .ok (decide (n < 0))) := by
  rcases ofInt_cases n with ⟨hlt, k, hk, hnear⟩ | ⟨hle, hinf⟩
  · exact Or.inl ⟨hlt, k, hnear, ha.inclusive_of_toInt? hk⟩
  · have hzero : n ≠ 0 := by
      rintro rfl
      exact absurd overflow_pos (Nat.not_lt.2 hle)
    have hsign : decide (0 ≤ n) = decide (0 < n) := decide_eq_decide.2 (by omega)
    exact Or.inr ⟨hle, fun v => hsign ▸ ha.outcome_of_overflow hinf v⟩

theorem Spells.inclusive_of_exact (ha : Spells n a) (hn : Exact n) : Inclusive a n := by
  rcases ha.inclusive_or_overflow with ⟨-, k, hnear, hk⟩ | ⟨hle, -⟩
  · exact hnear.eq hn ▸ hk
  · exact absurd hn.lt_overflow (Nat.not_lt.2 hle)

/-- A bound that is admitted both as the greatest and as the least size is one that double precision
    holds: it lies on neither side of the integer that it stands for. -/
theorem Spells.exact_of_self (ha : Spells n a)
    (h : outcome "max" a n = .ok true ∧ outcome "min" a n = .ok true) : Exact n := by
  obtain ⟨hmax, hmin⟩ := h
  rcases ha.inclusive_or_overflow with ⟨-, k, hnear, hk⟩ | ⟨-, hsign⟩
  · have hle : n ≤ k := by simpa [hmax] using (hk n).1
    have hge : k ≤ n := by simpa [hmin] using (hk n).2
    exact Int.le_antisymm hge hle ▸ hnear.exact
  · have hpos : 0 < n := by simpa [hmax] using (hsign n).1
    have hneg : n < 0 := by simpa [hmin] using (hsign n).2
    omega

/-- An integer bound admits the integers up to it, or from it on, exactly if double precision holds
    it, and this shows at the bound itself. Any other bound stands for the nearest integer that
    double precision holds, or, where it overflows, is above or below all integers. -/
theorem inclusive_iff (ha : Spells n a) :
    (Inclusive a n ↔ Exact n) ∧
    (outcome "max" a n = .ok true ∧ outcome "min" a n = .ok true ↔ Exact n) ∧
    (n.natAbs < overflow → ∃ k, Nearest n k ∧ Inclusive a k) ∧
    (overflow ≤ n.natAbs → ∀ v,
      outcome "max" a v = .ok (decide (0 < n)) ∧ outcome "min" a v = .ok (decide (n < 0))) := by
  refine ⟨⟨fun h => ha.exact_of_self h.self, ha.inclusive_of_exact⟩,
    ⟨ha.exact_of_self, fun hn => (ha.inclusive_of_exact hn).self⟩, fun hlt => ?_, fun hle => ?_⟩
  · rcases ha.inclusive_or_overflow with ⟨-, hk⟩ | ⟨hle, -⟩
    · exact hk
    · exact absurd hlt (Nat.not_lt.2 hle)
  · rcases ha.inclusive_or_overflow with ⟨hlt, -⟩ | ⟨-, hsign⟩
    · exact absurd hlt (Nat.not_lt.2 hle)
    · exact hsign

/-- A bound of 202 bits, two of them significant. -/
theorem inclusive_iff_large :
    Spells (3 * 2 ^ 200) (.int (3 * 2 ^ 200)) ∧
    (∀ v, outcome "max" (.int (3 * 2 ^ 200)) v = .ok (decide (v ≤ 3 * 2 ^ 200)) ∧
      outcome "min" (.int (3 * 2 ^ 200)) v = .ok (decide (3 * 2 ^ 200 ≤ v))) ∧
    outcome "max" (.int (3 * 2 ^ 200)) (3 * 2 ^ 200) = .ok true ∧
    outcome "min" (.int (3 * 2 ^ 200)) (3 * 2 ^ 200) = .ok true := by
  have hspells : Spells (3 * 2 ^ 200) (.int (3 * 2 ^ 200)) := .number (by decide +kernel)
  have hexact : Exact (3 * 2 ^ 200) := ⟨3, 200, by decide, by decide, rfl⟩
  obtain ⟨hinclusive, hself, -⟩ := inclusive_iff hspells
  exact ⟨hspells, hinclusive.2 hexact, hself.2 hexact⟩

/-- The least natural number that double precision does not hold is refused as its own greatest
    size. -/
theorem max_refuses_itself :
    Spells 9007199254740993 (.string "9007199254740993") ∧
      outcome "max" (.string "9007199254740993") 9007199254740993 = .ok false := by
  have htext : "9007199254740993" = String.ofList (intText 9007199254740993) := by decide
  exact ⟨htext ▸ .text, by rfl⟩

end Conform.Bound
