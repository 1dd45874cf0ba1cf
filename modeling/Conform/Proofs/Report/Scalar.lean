import Conform.Proofs.Json.Quotation
import Conform.Proofs.Report.Words
import Conform.Proofs.Text.Numeral
import Conform.Proofs.Value.Equality

/-!
# Scalars in messages

The text of a scalar tells it from every scalar that is not strictly equal to it: a word stands for each of
the few values that have no content, a text stands between quotes, and what is left is an integer, by its
digits. A double that denotes an integer is strictly equal to that integer and is shown as it. No such text
has a space in it outside of quotes, so in a message the text of the first value ends where the words
after it begin, whatever the values are.
-/

namespace Conform.Report

open Text

variable {a b v : Value}

/-- A value without parts that its text tells in full: an integer has no more digits than can be written,
    and a double denotes an integer or is infinite. -/
inductive Scalar : Value → Prop where
  /-- The explicit absence of a value. -/
  | null : Scalar .null
  /-- A property that its object lacks. -/
  | missing : Scalar .missing
  /-- A truth value. -/
  | bool (x : Bool) : Scalar (.bool x)
  /-- An integer. -/
  | int {n : Int} (h : (natText n.natAbs).length ≤ Double.maxDigits) : Scalar (.int n)
  /-- A double that denotes an integer; zero may have either sign. -/
  | whole {d : Double} {n : Int} (h : d.toInt? = some n) : Scalar (.double d)
  /-- An infinity. -/
  | infinite (s : Bool) : Scalar (.double (.infinite s))
  /-- A text. -/
  | string (s : String) : Scalar (.string s)

/-- The values that a word stands for. -/
def words : List Value :=
  [.null, .missing, .bool true, .bool false, .double (.infinite true), .double (.infinite false)]

/-- A scalar that is strictly equal to no other one of these: no double stands for an integer. -/
inductive Reduced : Value → Prop where
  /-- A value that a word stands for. -/
  | word {v : Value} (h : v ∈ words) : Reduced v
  /-- An integer. -/
  | int (n : Int) : Reduced (.int n)
  /-- A text. -/
  | string (s : String) : Reduced (.string s)

/-! ## The texts -/

theorem formatChars_int (n : Int) : formatChars (.int n) = intText n := by
  show Json.write Json.compact (.int n) = intText n
  rw [Json.write]

theorem quoted_int (n : Int) : quoted (.int n) = String.ofList (intText n) :=
  congrArg String.ofList (formatChars_int n)

theorem quoted_string (s : String) :
    quoted (.string s) = String.ofList (Json.writeString false s.toList) := by
  rw [quoted]

/-- A double that denotes an integer is shown as the integer. -/
theorem quoted_whole {d : Double} {n : Int} (h : d.toInt? = some n) :
    quoted (.double d) = quoted (.int n) := by
  have hchars : formatChars (.double d) = intText n := by
    unfold formatChars
    simp only [h]
  rw [quoted_int]
  exact congrArg String.ofList hchars

theorem intText_injective {n m : Int} (h : intText n = intText m) : n = m := by
  have hsplit := splitSign_intText n
  rw [h, splitSign_intText m, Prod.mk.injEq, decide_eq_decide] at hsplit
  obtain ⟨hsign, hdigits⟩ := hsplit
  have hsize : m.natAbs = n.natAbs := by
    rw [← ofDigits_natText m.natAbs, hdigits, ofDigits_natText]
  omega

/-- The end of a quoted text is known by its quote, whatever follows. -/
theorem writeString_append_injective {s t r u : List Char}
    (h : Json.writeString false s ++ r = Json.writeString false t ++ u) : s = t ∧ r = u := by
  have hbody : s.flatMap (Json.writeChar false) ++ '"' :: r =
      t.flatMap (Json.writeChar false) ++ '"' :: u := by
    simpa [Json.writeString] using h
  have hread := Json.chars_writeString false [] s r
  rw [hbody, Json.chars_writeString false [] t u] at hread
  obtain ⟨hs, hr⟩ := Prod.mk.inj (Except.ok.inj hread)
  exact ⟨hs.symm, hr.symm⟩

/-- The words are different. -/
theorem quoted_words : (words.map quoted).Nodup := by decide

/-- Only a text is shown with a quote in front. -/
theorem Reduced.head?_quoted (h : Reduced v) :
    (quoted v).toList.head? = some '"' ↔ ∃ s, v = .string s := by
  cases h with
  | word h =>
    have hquote : ∀ v ∈ words, (quoted v).toList.head? ≠ some '"' := by decide
    refine iff_of_false (hquote v h) ?_
    rintro ⟨s, rfl⟩
    simp [words] at h
  | int n =>
    refine iff_of_false (fun hn => ?_) nofun
    obtain ⟨c, s, hs, hc⟩ := exists_intText n
    rw [quoted_int, String.toList_ofList, hs] at hn
    exact ne_of_numeric hc (by decide) (by decide) (Option.some.inj hn)
  | string s =>
    refine iff_of_true ?_ ⟨s, rfl⟩
    rw [quoted_string, String.toList_ofList]
    rfl

/-- Only an integer is shown by digits and a sign. -/
theorem Reduced.isNumeric_quoted (h : Reduced v) :
    IsNumeric (quoted v).toList ↔ ∃ n, v = .int n := by
  cases h with
  | word h =>
    have hletter : ∀ v ∈ words, ((quoted v).toList.any fun c => c != '-' && !c.isDigit) = true := by
      decide
    obtain ⟨c, hc, hother⟩ := List.any_eq_true.1 (hletter v h)
    obtain ⟨hminus, hdigit⟩ : c ≠ '-' ∧ c.isDigit = false := by simpa using hother
    refine iff_of_false (fun hs => ne_of_numeric (hs c hc) hminus hdigit rfl) ?_
    rintro ⟨n, rfl⟩
    simp [words] at h
  | int n =>
    refine iff_of_true ?_ ⟨n, rfl⟩
    rw [quoted_int, String.toList_ofList]
    exact isNumeric_intText n
  | string s =>
    refine iff_of_false (fun hs => ?_) nofun
    rw [quoted_string, String.toList_ofList] at hs
    exact ne_of_numeric (hs '"' List.mem_cons_self) (by decide) (by decide) rfl

/-- The text of a reduced scalar tells the scalar. -/
theorem Reduced.quoted_injective (ha : Reduced a) (hb : Reduced b)
    (h : quoted a = quoted b) : a = b := by
  have hint : (∃ n, a = .int n) ↔ ∃ n, b = .int n := by
    rw [← ha.isNumeric_quoted, ← hb.isNumeric_quoted, h]
  have hstring : (∃ s, a = .string s) ↔ ∃ s, b = .string s := by
    rw [← ha.head?_quoted, ← hb.head?_quoted, h]
  cases ha with
  | int n =>
    obtain ⟨m, rfl⟩ := hint.1 ⟨n, rfl⟩
    rw [quoted_int, quoted_int] at h
    rw [intText_injective (String.ofList_injective h)]
  | string s =>
    obtain ⟨t, rfl⟩ := hstring.1 ⟨s, rfl⟩
    rw [quoted_string, quoted_string] at h
    have hchars : s.toList = t.toList :=
      (writeString_append_injective (congrArg (· ++ []) (String.ofList_injective h))).1
    rw [String.toList_injective hchars]
  | word ha =>
    cases hb with
    | word hb => exact List.inj_on_of_nodup_map quoted_words ha hb h
    | int n =>
      obtain ⟨m, rfl⟩ := hint.2 ⟨n, rfl⟩
      simp [words] at ha
    | string s =>
      obtain ⟨t, rfl⟩ := hstring.2 ⟨s, rfl⟩
      simp [words] at ha

/-! ## Strict equality -/

theorem Reduced.strictEqual_self (h : Reduced v) : v.strictEqual v = true := by
  cases h with
  | word h =>
    have hself : ∀ v ∈ words, v.strictEqual v = true := by decide
    exact hself v h
  | int n =>
    have hsame : Value.Equal (.int n) (.int n) := .number (Value.size?_int n) (Value.size?_int n)
    exact Value.strictEqual_iff.2 ⟨rfl, Value.same_iff_equal.2 hsame⟩
  | string s => exact beq_self_eq_true s

/-- Reduced scalars that are strictly equal are one: of two types there is none that a double could be
    equal across, as the doubles among them are infinite. -/
theorem Reduced.eq_of_strictEqual (ha : Reduced a) (hb : Reduced b) (h : a.strictEqual b = true) :
    a = b := by
  have hform : a.form = b.form := by
    have hdouble : ∀ {d : Double} {n : Int}, Reduced (.double d) → d.size? ≠ some (.rational n) := by
      rintro d n ⟨hd⟩ hsize
      simp only [words, List.mem_cons, Value.double.injEq, reduceCtorEq, List.not_mem_nil, or_false,
        false_or] at hd
      rcases hd with rfl | rfl
      · cases hsize
      · cases hsize
    rcases Value.form_of_strictEqual h with hform | ⟨n, d, ⟨-, rfl⟩ | ⟨rfl, -⟩, hsize⟩
    · exact hform
    · exact absurd hsize (hdouble hb)
    · exact absurd hsize (hdouble ha)
  have hwords : ∀ v ∈ words, v.form ≠ .int ∧ v.form ≠ .string := by decide
  cases ha with
  | word ha =>
    cases hb with
    | word hb =>
      have hquote : ∀ v ∈ words, ∀ w ∈ words, v.strictEqual w = true → quoted v = quoted w := by
        decide
      exact List.inj_on_of_nodup_map quoted_words ha hb (hquote a ha b hb h)
    | int m => exact absurd hform (hwords a ha).1
    | string t => exact absurd hform (hwords a ha).2
  | int n =>
    cases hb with
    | word hb => exact absurd hform.symm (hwords b hb).1
    | int m =>
      cases Value.same_iff_equal.1 (Value.strictEqual_iff.1 h).2 with
      | number hn hm =>
        rw [Value.size?_int] at hn hm
        have hsize : (n : ℚ) = m := Double.Size.rational.inj (Option.some.inj (hn.trans hm.symm))
        rw [Int.cast_injective hsize]
    | string t => cases hform
  | string s =>
    cases hb with
    | word hb => exact absurd hform.symm (hwords b hb).2
    | int m => cases hform
    | string t => rw [eq_of_beq h]

theorem Reduced.distinctKeys (h : Reduced v) : v.DistinctKeys := by
  cases h with
  | word h =>
    have hplain : ∀ v ∈ words, v.items? = none ∧ v.entries? = none := by
      simp [words, Value.items?, Value.entries?]
    exact .plain (hplain v h).1 (hplain v h).2
  | int n => exact .plain rfl rfl
  | string s => exact .plain rfl rfl

theorem Scalar.distinctKeys (h : Scalar v) : v.DistinctKeys := by
  cases h <;> exact .plain rfl rfl

/-- A scalar is strictly equal to a reduced one, and has its text. -/
theorem Scalar.exists_reduced (h : Scalar v) :
    ∃ w, Reduced w ∧ v.strictEqual w = true ∧ quoted v = quoted w := by
  have hreduced : Reduced v → ∃ w, Reduced w ∧ v.strictEqual w = true ∧ quoted v = quoted w :=
    fun h => ⟨v, h, h.strictEqual_self, rfl⟩
  cases h with
  | null => exact hreduced (.word (by simp [words]))
  | missing => exact hreduced (.word (by simp [words]))
  | bool x => exact hreduced (.word (by cases x <;> simp [words]))
  | @int n h => exact hreduced (.int n)
  | @whole d n h =>
    have hsize : d.size? = some (.rational n) := Double.size?_of_toInt? h
    have hequal : (Value.int n).strictEqual (.double d) = true := Value.strictEqual_int_double.2 hsize
    refine ⟨.int n, .int n, ?_, quoted_whole h⟩
    exact Value.strictEqual_symm (.plain rfl rfl) (.plain rfl rfl) hequal
  | infinite s => exact hreduced (.word (by cases s <;> simp [words]))
  | string s => exact hreduced (.string s)

/-- Scalars are strictly equal exactly if their texts are equal. -/
theorem Scalar.strictEqual_iff (ha : Scalar a) (hb : Scalar b) :
    a.strictEqual b = true ↔ quoted a = quoted b := by
  obtain ⟨v, hv, hav, hva⟩ := ha.exists_reduced
  obtain ⟨w, hw, hbw, hwb⟩ := hb.exists_reduced
  rw [hva, hwb]
  constructor
  · intro h
    have hva : v.strictEqual a = true := Value.strictEqual_symm ha.distinctKeys hv.distinctKeys hav
    have hvw : v.strictEqual w = true :=
      Value.strictEqual_trans hv.distinctKeys hva (Value.strictEqual_trans ha.distinctKeys h hbw)
    rw [hv.eq_of_strictEqual hw hvw]
  · intro h
    obtain rfl := hv.quoted_injective hw h
    exact Value.strictEqual_trans ha.distinctKeys hav
      (Value.strictEqual_symm hb.distinctKeys hv.distinctKeys hbw)

/-! ## Messages -/

theorem Scalar.isLegible (h : Scalar v) : v.isLegible = true := by
  cases h with
  | @int n h => exact Value.isLegible_int.2 h
  | _ => rfl

/-- Only a text is shown with a space in it. -/
theorem Reduced.space_not_mem (h : Reduced v) (hv : ¬∃ s, v = .string s) :
    ' ' ∉ (quoted v).toList := by
  cases h with
  | word h =>
    have hspace : ∀ v ∈ words, ' ' ∉ (quoted v).toList := by decide
    exact hspace v h
  | int n =>
    intro hmem
    rw [quoted_int, String.toList_ofList] at hmem
    exact ne_of_numeric (isNumeric_intText n ' ' hmem) (by decide) (by decide) rfl
  | string s => exact absurd ⟨s, rfl⟩ hv

/-- Texts up to the first occurrence of a character. -/
theorem append_cons_injective {s t r u : List Char} {c : Char} (hs : c ∉ s) (ht : c ∉ t)
    (h : s ++ c :: r = t ++ c :: u) : s = t := by
  rcases List.append_eq_append_iff.1 h with ⟨x, rfl, hx⟩ | ⟨x, rfl, hx⟩
  · cases x with
    | nil => rw [List.append_nil]
    | cons d x =>
      obtain ⟨rfl, -⟩ := List.cons.inj hx
      exact absurd (List.mem_append_right s List.mem_cons_self) ht
  · cases x with
    | nil => rw [List.append_nil]
    | cons d x =>
      obtain ⟨rfl, -⟩ := List.cons.inj hx
      exact absurd (List.mem_append_right t List.mem_cons_self) hs

/-- Where a space follows it, the text of a reduced scalar is known by itself. -/
theorem Reduced.quoted_append_injective (ha : Reduced a) (hb : Reduced b) {r u : List Char}
    (h : (quoted a).toList ++ ' ' :: r = (quoted b).toList ++ ' ' :: u) : a = b := by
  have hhead : ∀ {s t r u : List Char}, s ++ ' ' :: r = t ++ ' ' :: u → s.head? = some '"' →
      t.head? = some '"' := by
    intro s t r u hst hs
    have hfirst := congrArg List.head? hst
    rw [List.head?_append, List.head?_append, hs] at hfirst
    cases ht : t.head? with
    | none =>
      rw [ht] at hfirst
      cases hfirst
    | some c =>
      rw [ht] at hfirst
      exact hfirst.symm
  have hstring : (∃ s, a = .string s) ↔ ∃ s, b = .string s := by
    rw [← ha.head?_quoted, ← hb.head?_quoted]
    exact ⟨hhead h, hhead h.symm⟩
  by_cases hs : ∃ s, a = .string s
  · obtain ⟨t, rfl⟩ := hstring.1 hs
    obtain ⟨s, rfl⟩ := hs
    rw [quoted_string, quoted_string, String.toList_ofList, String.toList_ofList] at h
    rw [String.toList_injective (writeString_append_injective h).1]
  · have ht : ¬∃ t, b = .string t := fun ht => hs (hstring.2 ht)
    have htext := append_cons_injective (ha.space_not_mem hs) (hb.space_not_mem ht) h
    exact ha.quoted_injective hb (String.toList_injective htext)

/-- What a message says of two scalars tells both of their texts. -/
theorem Scalar.words_injective {c d : Value} (ha : Scalar a) (hc : Scalar c)
    (h : s!"Expected {quoted a} but received {quoted b}" =
      s!"Expected {quoted c} but received {quoted d}") :
    quoted a = quoted c ∧ quoted b = quoted d := by
  have hchars : ∀ v w : Value, s!"Expected {quoted v} but received {quoted w}".toList =
      "Expected ".toList ++ ((quoted v).toList ++
        ' ' :: ("but received ".toList ++ (quoted w).toList)) := by
    intro v w
    have hgap : " but received ".toList = ' ' :: "but received ".toList := rfl
    simp only [toString, String.toList_append, hgap]
    simp
  have hlist := congrArg String.toList h
  rw [hchars, hchars, List.append_cancel_left_eq] at hlist
  obtain ⟨v, hv, -, hav⟩ := ha.exists_reduced
  obtain ⟨w, hw, -, hcw⟩ := hc.exists_reduced
  have hac : quoted a = quoted c := by
    rw [hav, hcw] at hlist
    rw [hav, hcw, hv.quoted_append_injective hw hlist]
  rw [hac, List.append_cancel_left_eq, List.cons_eq_cons, List.append_cancel_left_eq] at hlist
  exact ⟨hac, String.toList_injective hlist.2⟩

/-- Two scalars have one text exactly if they are strictly equal. So a message about a literal that is
    missed never shows one text, that of a scalar, in the place of both values. -/
theorem quoteValue_eq_iff (ha : Scalar a) (hb : Scalar b) :
    ∃ s t message, quoteValue a = .ok s ∧ quoteValue b = .ok t ∧
      literalMismatch a b = .ok message ∧ (s = t ↔ a.strictEqual b = true) ∧
      (a.strictEqual b = false → ∀ c text, Scalar c → quoteValue c = .ok text →
        message ≠ s!"Expected {text} but received {text}") := by
  refine ⟨_, _, _, quoteValue_eq_ok ha.isLegible, quoteValue_eq_ok hb.isLegible,
    literalMismatch_eq_ok ha.isLegible hb.isLegible, (ha.strictEqual_iff hb).symm, ?_⟩
  intro hne c text hc htext h
  rw [quoteValue_eq_ok hc.isLegible, Except.ok.injEq] at htext
  subst htext
  obtain ⟨hac, hbc⟩ := ha.words_injective (b := b) (d := c) hc h
  rw [(ha.strictEqual_iff hb).2 (hac.trans hbc.symm)] at hne
  cases hne

/-- A text that looks like the end of a message and the number at its end: read without its quotes, the
    message would have one text in both places, but that is the text of no scalar. -/
example : literalMismatch (.string " but received 1 but received ") (.int 1) =
    .ok ("Expected " ++ "\" but received 1" ++ " but received " ++ "\" but received 1") := by
  decide

/-- An integer of more than 53 bits, which a double holds. -/
def largeInteger : Value := .int 18014398509481984

theorem quoteValue_eq_iff_largeInteger :
    Scalar largeInteger ∧ Scalar (.double (.finite false (2 ^ 52) 2)) ∧
      Scalar (.string "18014398509481984") ∧
      quoteValue largeInteger = quoteValue (.double (.finite false (2 ^ 52) 2)) ∧
      quoteValue largeInteger ≠ quoteValue (.string "18014398509481984") ∧
      literalMismatch largeInteger (.string "18014398509481984") ≠
        .ok "Expected 18014398509481984 but received 18014398509481984" := by
  have hinteger : Scalar largeInteger := .int (by decide)
  have hdouble : Scalar (.double (.finite false (2 ^ 52) 2)) :=
    .whole (n := 18014398509481984) (by decide)
  have hstring : Scalar (.string "18014398509481984") := .string _
  obtain ⟨s, t, -, hs, ht, -, hequal, -⟩ := quoteValue_eq_iff hinteger hdouble
  obtain ⟨s', t', message, hs', ht', hwords, hdiffer, hmessage⟩ := quoteValue_eq_iff hinteger hstring
  refine ⟨hinteger, hdouble, hstring, ?_, fun h => ?_, fun h => ?_⟩
  · rw [hs, ht, hequal.2 (by decide)]
  · rw [hs', ht', Except.ok.injEq] at h
    exact absurd (hdiffer.1 h) (by decide)
  · rw [hwords, Except.ok.injEq] at h
    exact hmessage (by decide) largeInteger "18014398509481984" hinteger (by decide) h

end Conform.Report
