import Conform.Proofs.Json.Quotation
import Conform.Proofs.Text.Numeral
import Conform.Proofs.Value.Follow
import Mathlib.Data.List.TakeWhile

/-!
# Documents that are written and read back

A value that holds neither doubles nor marks that only stand in values is read back from what it is
written as, in any layout whose gaps are white space. A number has no mark at its end, so its text is
read back only in front of something that does not go on with it: the end of the text, a comma or a
closing bracket, and nothing else ever follows a value. The reader counts its calls; the length of the
text is always enough.
-/

namespace Conform.Json

open Text

variable {r s : List Char}

/-! ## What is written exactly -/

/-- A value that its text tells in full: no doubles, integers within the limit on digits, and no key
    twice in an object. -/
inductive Exact : Value → Prop where
  /-- The explicit absence of a value. -/
  | null : Exact .null
  /-- A truth value. -/
  | bool (b : Bool) : Exact (.bool b)
  /-- An integer with no more digits than are read. -/
  | int {n : Int} (h : (natText n.natAbs).length ≤ Double.maxDigits) : Exact (.int n)
  /-- A text. -/
  | string (s : String) : Exact (.string s)
  /-- A list of such values. -/
  | list {xs : List Value} (h : ∀ x ∈ xs, Exact x) : Exact (.list xs)
  /-- An object with different keys, under each such a value. -/
  | object {es : List (String × Value)} (hn : (es.map Prod.fst).Nodup)
      (h : ∀ e ∈ es, Exact e.2) : Exact (.object es)

@[simp]
theorem exact_null : Exact .null := .null

@[simp]
theorem exact_bool (b : Bool) : Exact (.bool b) := .bool b

@[simp]
theorem exact_int {n : Int} : Exact (.int n) ↔ (natText n.natAbs).length ≤ Double.maxDigits :=
  ⟨fun | .int h => h, .int⟩

@[simp]
theorem exact_string (s : String) : Exact (.string s) := .string s

@[simp]
theorem exact_list {xs : List Value} : Exact (.list xs) ↔ ∀ x ∈ xs, Exact x :=
  ⟨fun | .list h => h, .list⟩

@[simp]
theorem exact_object {es : List (String × Value)} :
    Exact (.object es) ↔ (es.map Prod.fst).Nodup ∧ ∀ e ∈ es, Exact e.2 :=
  ⟨fun | .object hn h => ⟨hn, h⟩, fun h => .object h.1 h.2⟩

/-- What can follow a value in a document: nothing, a comma or a closing bracket. -/
def Ends (r : List Char) : Prop := ∀ c ∈ r.head?, c = ',' ∨ c = ']' ∨ c = '\x7d'

theorem Ends.not_digit (h : Ends r) : r.takeWhile isAsciiDigit = [] ∧ r.dropWhile isAsciiDigit = r := by
  cases r with
  | nil => exact ⟨rfl, rfl⟩
  | cons c r =>
    have hc : isAsciiDigit c = false := by
      rcases h c rfl with rfl | rfl | rfl <;> rfl
    simp [hc]

/-! ## Numbers -/

theorem wholePart_natText (k : Nat) (hr : Ends r) : wholePart (natText k ++ r) = (natText k, r) := by
  have hdigits : ∀ c ∈ natText k, isAsciiDigit c = true := fun c hc =>
    isAsciiDigit_of_isDigit (isDigit_of_mem_natText hc)
  obtain ⟨htake, hdrop⟩ := hr.not_digit
  obtain ⟨c, s, hs, -⟩ := exists_natText k
  by_cases hc : c = '0'
  · -- a zero stands alone, in the reader as in the text
    subst hc
    obtain rfl := eq_zero_of_natText hs
    rfl
  · unfold wholePart
    split
    · rename_i heq
      rw [hs] at heq
      exact absurd (List.cons.inj heq).1 hc
    · rw [List.takeWhile_append_of_pos hdigits, List.dropWhile_append_of_pos hdigits, htake, hdrop,
        List.append_nil]

theorem Ends.not_fraction (h : Ends r) : fractionPart? r = none := by
  cases r with
  | nil => rfl
  | cons c r => rcases h c rfl with rfl | rfl | rfl <;> rfl

theorem Ends.not_exponent (h : Ends r) : exponentPart? r = none := by
  cases r with
  | nil => rfl
  | cons c r => rcases h c rfl with rfl | rfl | rfl <;> rfl

/-- Digits are a number as far as the limit goes. -/
theorem number_eq (start : List Char) (negative : Bool) (k : Nat) (hr : Ends r) :
    number start negative (natText k ++ r) =
      if Double.maxDigits < (natText k).length then .error (.digits (natText k).length)
      else .ok (.int (Double.signed negative k), r) := by
  have hempty : (natText k).isEmpty = false := by simp [natText_ne_nil]
  unfold number
  simp only [wholePart_natText k hr, hempty, hr.not_fraction]
  simp [hr.not_exponent, ofDigits_natText]

theorem number_natText {start : List Char} {negative : Bool} {k : Nat}
    (hk : (natText k).length ≤ Double.maxDigits) (hr : Ends r) :
    number start negative (natText k ++ r) = .ok (.int (Double.signed negative k), r) := by
  rw [number_eq start negative k hr, if_neg (Nat.not_lt.2 hk)]

/-- No word of the grammar starts with a digit, or with a digit behind a minus sign. -/
theorem atom_of_digit {c : Char} (hc : c.isDigit = true) :
    atom (c :: s) = number (c :: s) false (c :: s) ∧
      atom ('-' :: c :: s) = number ('-' :: c :: s) true (c :: s) := by
  have hne : ∀ d : Char, d.isDigit = false → d ≠ c := by
    rintro d hd rfl
    rw [hc] at hd
    cases hd
  constructor
  · simp only [atom, wordValues]
    simp [after?, hne]
    split
    · rename_i heq
      cases heq
      cases hc
    · rfl
  · simp [atom, wordValues, after?, hne]

theorem atom_intText {n : Int} (hn : (natText n.natAbs).length ≤ Double.maxDigits) (hr : Ends r) :
    atom (intText n ++ r) = .ok (.int n, r) := by
  obtain ⟨c, s, hs, hc⟩ := exists_natText n.natAbs
  unfold intText
  split
  · rename_i hneg
    have hsigned : Double.signed true n.natAbs = n := by
      simp only [Double.signed, if_true]
      omega
    rw [List.cons_append, hs, List.cons_append, (atom_of_digit hc).2, ← List.cons_append, ← hs,
      number_natText hn hr, hsigned]
  · rename_i hneg
    have hsigned : Double.signed false n.natAbs = n := by
      simp only [Double.signed, Bool.false_eq_true, if_false]
      omega
    rw [hs, List.cons_append, (atom_of_digit hc).1, ← List.cons_append, ← hs,
      number_natText hn hr, hsigned]

/-! ## Values -/

/-- The first character of a value is none that ends a value or is passed over. -/
theorem exists_write (l : Layout) {v : Value} (h : Exact v) :
    ∃ c s, write l v = c :: s ∧ isSpace c = false ∧ c ≠ ']' ∧ c ≠ '\ufeff' := by
  cases h with
  | null => exact ⟨_, _, rfl, by decide⟩
  | bool b => cases b <;> exact ⟨_, _, rfl, by decide⟩
  | @int n h =>
    obtain ⟨c, s, hs, hc⟩ := exists_intText n
    have hspace : isSpace c = false := by
      simp [isSpace, ne_of_numeric hc]
    exact ⟨c, s, hs, hspace, ne_of_numeric hc (by decide) (by decide),
      ne_of_numeric hc (by decide) (by decide)⟩
  | string s => exact ⟨_, _, rfl, by decide⟩
  | list h => exact ⟨_, _, rfl, by decide⟩
  | object hn h => exact ⟨_, _, rfl, by decide⟩

theorem skip_write (l : Layout) {v : Value} (h : Exact v) (r : List Char) :
    skip (write l v ++ r) = write l v ++ r := by
  obtain ⟨c, s, hs, hc, -⟩ := exists_write l h
  rw [hs, List.cons_append, skip, List.dropWhile_cons_of_neg (by simp [hc])]

section Lists

variable (l : Layout) (x y : Value) (xs : List Value) (e f : String × Value)
  (es : List (String × Value))

theorem writeItems_cons_cons :
    writeItems l (x :: y :: xs) = write l x ++ ',' :: (l.gap ++ writeItems l (y :: xs)) := by
  rw [writeItems]
  simp

theorem writeEntries_cons_cons :
    writeEntries l (e :: f :: es) = writeString l.ascii e.1.toList ++
      ':' :: (l.gap ++ (write l e.2 ++ ',' :: (l.gap ++ writeEntries l (f :: es)))) := by
  rw [writeEntries]
  simp

/-- Entries start with a quote. -/
theorem exists_writeEntries : ∃ s, writeEntries l (e :: es) = '"' :: s := by
  cases es with
  | nil => exact ⟨_, rfl⟩
  | cons f es => exact ⟨_, writeEntries_cons_cons l e f es⟩

/-- Items start with what the first of them starts with. -/
theorem exists_writeItems : ∃ s, writeItems l (x :: xs) = write l x ++ s := by
  cases xs with
  | nil => exact ⟨[], (List.append_nil _).symm⟩
  | cons y xs => exact ⟨_, writeItems_cons_cons l x y xs⟩

end Lists

/-- The value is read back with the fuel given, in front of anything that can follow it. -/
def ReadsBack (l : Layout) (fuel : Nat) (v : Value) : Prop :=
  ∀ r, Ends r → value fuel (write l v ++ r) = .ok (v, r)

/-- The items are read back up to their bracket. -/
def ItemsReadBack (l : Layout) (fuel : Nat) (xs : List Value) : Prop :=
  ∀ r, items fuel (writeItems l xs ++ ']' :: r) = .ok (xs, r)

/-- The entries are read back up to their brace. -/
def EntriesReadBack (l : Layout) (fuel : Nat) (es : List (String × Value)) : Prop :=
  ∀ r, members fuel (writeEntries l es ++ '\x7d' :: r) = .ok (es, r)

section Steps

variable {l : Layout} {fuel : Nat}

theorem ends_comma (r : List Char) : Ends (',' :: r) := by
  rintro c ⟨⟩
  simp

theorem ends_bracket (r : List Char) : Ends (']' :: r) := by
  rintro c ⟨⟩
  simp

theorem ends_brace (r : List Char) : Ends ('\x7d' :: r) := by
  rintro c ⟨⟩
  simp

section Gaps

variable (hl : ∀ c ∈ l.gap, isSpace c = true)

include hl

theorem skip_gap (s : List Char) : skip (l.gap ++ s) = skip s := List.dropWhile_append_of_pos hl

/-- Items are read back if the first of them is and so are the others. -/
theorem itemsReadBack_cons {x : Value} {xs : List Value} (hx : ReadsBack l fuel x)
    (hxs : ∀ y ys, xs = y :: ys → Exact y ∧ ItemsReadBack l fuel (y :: ys)) :
    ItemsReadBack l (fuel + 1) (x :: xs) := by
  intro r
  cases xs with
  | nil =>
    have hread := hx (']' :: r) (ends_bracket r)
    unfold items
    rw [writeItems, hread]
    rfl
  | cons y ys =>
    obtain ⟨hy, hys⟩ := hxs y ys rfl
    have hskip : skip (l.gap ++ (writeItems l (y :: ys) ++ ']' :: r)) =
        writeItems l (y :: ys) ++ ']' :: r := by
      obtain ⟨s, hs⟩ := exists_writeItems l y ys
      rw [skip_gap hl, hs, List.append_assoc, skip_write l hy]
    have hread := hx (',' :: (l.gap ++ (writeItems l (y :: ys) ++ ']' :: r))) (ends_comma _)
    unfold items
    rw [writeItems_cons_cons, List.append_assoc, List.cons_append, List.append_assoc, hread]
    show (items fuel (skip (l.gap ++ (writeItems l (y :: ys) ++ ']' :: r)))).map _ = _
    rw [hskip, hys r]
    rfl

/-- An entry is read up to its value; what follows tells whether it is the last. -/
theorem members_entry {k : String} {v : Value} (hv : Exact v) (hx : ReadsBack l fuel v) :
    (∀ r, members (fuel + 1) (writeString l.ascii k.toList ++
        ':' :: (l.gap ++ (write l v ++ '\x7d' :: r))) = .ok ([(k, v)], r)) ∧
      ∀ r, members (fuel + 1) (writeString l.ascii k.toList ++
        ':' :: (l.gap ++ (write l v ++ ',' :: r))) =
          (members fuel (skip r)).map fun p => ((k, v) :: p.1, p.2) := by
  have hkey : ∀ opening r, chars opening 0 (k.toList.flatMap (writeChar l.ascii) ++ '"' :: r) =
      .ok (k.toList, r) := fun opening r => chars_writeString l.ascii opening k.toList r
  have hcolon : ∀ r, skip (':' :: r) = ':' :: r := fun r => rfl
  have hbrace : ∀ r, skip ('\x7d' :: r) = '\x7d' :: r := fun r => rfl
  have hcomma : ∀ r, skip (',' :: r) = ',' :: r := fun r => rfl
  constructor
  · intro r
    rw [writeString, List.cons_append, List.append_assoc, List.singleton_append, members]
    simp only [hkey, hcolon, skip_gap hl, skip_write l hv, hx _ (ends_brace r), hbrace,
      String.ofList_toList]
  · intro r
    rw [writeString, List.cons_append, List.append_assoc, List.singleton_append, members]
    simp only [hkey, hcolon, skip_gap hl, skip_write l hv, hx _ (ends_comma r), hcomma,
      String.ofList_toList]

/-- Entries are read back if the value of the first of them is and so are the others. -/
theorem entriesReadBack_cons {e : String × Value} {es : List (String × Value)} (he : Exact e.2)
    (hx : ReadsBack l fuel e.2) (hes : ∀ f fs, es = f :: fs → EntriesReadBack l fuel (f :: fs)) :
    EntriesReadBack l (fuel + 1) (e :: es) := by
  intro r
  obtain ⟨k, v⟩ := e
  obtain ⟨hlast, hnext⟩ := members_entry hl (k := k) he hx
  cases es with
  | nil =>
    rw [writeEntries, List.append_assoc, List.cons_append, List.append_assoc]
    exact hlast r
  | cons f fs =>
    have hskip : skip (l.gap ++ (writeEntries l (f :: fs) ++ '\x7d' :: r)) =
        writeEntries l (f :: fs) ++ '\x7d' :: r := by
      obtain ⟨s, hs⟩ := exists_writeEntries l f fs
      rw [skip_gap hl, hs]
      rfl
    rw [writeEntries_cons_cons]
    simp only [List.append_assoc, List.cons_append]
    rw [hnext, hskip, hes f fs rfl r]
    rfl

end Gaps

theorem readsBack_string (l : Layout) (fuel : Nat) (s : String) :
    ReadsBack l (fuel + 1) (.string s) := by
  intro r _
  rw [write, writeString, List.cons_append, List.append_assoc, List.singleton_append, value,
    chars_writeString]
  show Except.ok (Value.string (String.ofList s.toList), r) = _
  rw [String.ofList_toList]

theorem readsBack_int (l : Layout) (fuel : Nat) {n : Int}
    (hn : (natText n.natAbs).length ≤ Double.maxDigits) : ReadsBack l (fuel + 1) (.int n) := by
  intro r hr
  have hatom := atom_intText hn hr
  obtain ⟨c, s, hs, hc⟩ := exists_intText n
  -- what starts with a minus sign or a digit opens neither a string nor a list nor an object
  rw [write, ← hatom, hs, List.cons_append, value]
  · exact fun _ h => ne_of_numeric hc (by decide) (by decide) (List.cons.inj h).1
  · exact fun _ h => ne_of_numeric hc (by decide) (by decide) (List.cons.inj h).1
  · exact fun _ h => ne_of_numeric hc (by decide) (by decide) (List.cons.inj h).1

theorem readsBack_list (fuel : Nat) {xs : List Value} (hxs : ∀ x ∈ xs, Exact x)
    (h : ∀ y ys, xs = y :: ys → ItemsReadBack l fuel (y :: ys)) :
    ReadsBack l (fuel + 1) (.list xs) := by
  intro r _
  cases xs with
  | nil => rfl
  | cons y ys =>
    obtain ⟨c, s, hs, -, hbracket, -⟩ := exists_write l (hxs y List.mem_cons_self)
    obtain ⟨t, ht⟩ := exists_writeItems l y ys
    have hcons : writeItems l (y :: ys) ++ ']' :: r = c :: (s ++ (t ++ ']' :: r)) := by
      rw [ht, hs, List.cons_append, List.cons_append, List.append_assoc]
    have hskip : skip (c :: (s ++ (t ++ ']' :: r))) = c :: (s ++ (t ++ ']' :: r)) := by
      have := skip_write l (hxs y List.mem_cons_self) (t ++ ']' :: r)
      rwa [hs] at this
    have hread := h y ys rfl r
    rw [hcons] at hread
    rw [write, List.cons_append, List.append_assoc, List.singleton_append, value, hcons, hskip]
    split
    · rename_i heq
      exact absurd (List.cons.inj heq).1 hbracket
    · rw [hread]
      rfl

theorem readsBack_object (fuel : Nat) {es : List (String × Value)} (hn : (es.map Prod.fst).Nodup)
    (h : ∀ f fs, es = f :: fs → EntriesReadBack l fuel (f :: fs)) :
    ReadsBack l (fuel + 1) (.object es) := by
  intro r _
  cases es with
  | nil => rfl
  | cons f fs =>
    obtain ⟨t, ht⟩ := exists_writeEntries l f fs
    have hread := h f fs rfl r
    rw [ht, List.cons_append] at hread
    have hskip : skip ('"' :: (t ++ '\x7d' :: r)) = '"' :: (t ++ '\x7d' :: r) := rfl
    rw [write, List.cons_append, List.append_assoc, List.singleton_append, value, ht,
      List.cons_append, hskip]
    show (members fuel ('"' :: (t ++ '\x7d' :: r))).map _ = _
    rw [hread]
    show Except.ok (Value.ofEntries (f :: fs), r) = _
    rw [Value.ofEntries_of_nodup hn]

theorem readsBack_null (l : Layout) (fuel : Nat) : ReadsBack l (fuel + 1) .null := fun _ _ => rfl

theorem readsBack_bool (l : Layout) (fuel : Nat) (b : Bool) : ReadsBack l (fuel + 1) (.bool b) := by
  intro r _
  cases b <;> rfl

end Steps

section Whole

variable {l : Layout} (hl : ∀ c ∈ l.gap, isSpace c = true)

include hl

/-- As much fuel as the text is long reads it back; items and entries need one more. -/
theorem readsBack_of_length (fuel : Nat) :
    (∀ v, Exact v → (write l v).length ≤ fuel → ReadsBack l fuel v) ∧
      (∀ x xs, (∀ y ∈ x :: xs, Exact y) → (writeItems l (x :: xs)).length < fuel →
        ItemsReadBack l fuel (x :: xs)) ∧
      ∀ e es, (∀ f ∈ e :: es, Exact f.2) → (writeEntries l (e :: es)).length < fuel →
        EntriesReadBack l fuel (e :: es) := by
  induction fuel with
  | zero =>
    refine ⟨fun v hv hlength => ?_, fun _ _ _ hlength => ?_, fun _ _ _ hlength => ?_⟩
    · obtain ⟨c, s, hs, -⟩ := exists_write l hv
      rw [hs] at hlength
      cases hlength
    · cases hlength
    · cases hlength
  | succ fuel ih =>
    obtain ⟨ihvalue, ihitems, ihentries⟩ := ih
    refine ⟨?_, ?_, ?_⟩
    · intro v hv hlength
      cases hv with
      | null => exact readsBack_null l fuel
      | bool b => exact readsBack_bool l fuel b
      | int hn => exact readsBack_int l fuel hn
      | string s => exact readsBack_string l fuel s
      | list hxs =>
        refine readsBack_list fuel hxs ?_
        rintro y ys rfl
        simp only [write, List.length_cons, List.length_append, List.length_nil] at hlength
        exact ihitems y ys hxs (by omega)
      | object hn hes =>
        refine readsBack_object fuel hn ?_
        rintro f fs rfl
        simp only [write, List.length_cons, List.length_append, List.length_nil] at hlength
        exact ihentries f fs hes (by omega)
    · intro x xs hxs hlength
      have hfirst : (write l x).length ≤ (writeItems l (x :: xs)).length := by
        obtain ⟨s, hs⟩ := exists_writeItems l x xs
        simp [hs]
      refine itemsReadBack_cons hl (ihvalue x (hxs x List.mem_cons_self) (by omega)) ?_
      rintro y ys rfl
      have hothers : ∀ z ∈ y :: ys, Exact z := fun z hz => hxs z (List.mem_cons_of_mem x hz)
      rw [writeItems_cons_cons] at hlength
      simp only [List.length_cons, List.length_append] at hlength
      exact ⟨hothers y List.mem_cons_self, ihitems y ys hothers (by omega)⟩
    · intro e es hes hlength
      have hfirst : (write l e.2).length ≤ (writeEntries l (e :: es)).length := by
        cases es with
        | nil =>
          simp only [writeEntries, List.length_cons, List.length_append]
          omega
        | cons f fs =>
          simp only [writeEntries_cons_cons, List.length_cons, List.length_append]
          omega
      have he : Exact e.2 := hes e List.mem_cons_self
      refine entriesReadBack_cons hl he (ihvalue e.2 he (by omega)) ?_
      rintro f fs rfl
      rw [writeEntries_cons_cons] at hlength
      simp only [List.length_cons, List.length_append] at hlength
      exact ihentries f fs (fun g hg => hes g (List.mem_cons_of_mem e hg)) (by omega)

theorem document_write {v : Value} (h : Exact v) : document (write l v) = .ok v := by
  have hread := (readsBack_of_length hl (2 * (write l v).length + 2)).1 v h (by omega) []
    (by rintro c ⟨⟩)
  have hskip := skip_write l h []
  rw [List.append_nil] at hread hskip
  rw [document, hskip, hread]
  rfl

/-- What is written exactly is read back as it was. -/
theorem read_write {v : Value} (h : Exact v) : read (write l v) = .ok v := by
  have hdocument := document_write hl h
  obtain ⟨c, s, hs, -, -, hmark⟩ := exists_write l h
  rw [hs] at hdocument ⊢
  rw [read, hdocument]
  exact fun _ hc => hmark (List.cons.inj hc).1

end Whole

theorem isSpace_spaced : ∀ c ∈ spaced.gap, isSpace c = true := by
  intro c hc
  rw [List.mem_singleton.1 hc]
  rfl

/-! ## Integers that are too long -/

theorem write_natCast (l : Layout) (k : Nat) : write l (.int k) = natText k := by
  rw [write, intText, if_neg (by omega), Int.natAbs_natCast]

section TooLong

variable {l : Layout} {r : List Char} {fuel k : Nat} (hk : Double.maxDigits < (natText k).length)

include hk

/-- Digits beyond the limit are no value. -/
theorem value_tooLong (hr : Ends r) :
    value (fuel + 1) (natText k ++ r) = .error (.digits (natText k).length) := by
  have hnumber (start : List Char) :
      number start false (natText k ++ r) = .error (.digits (natText k).length) := by
    rw [number_eq start false k hr, if_pos hk]
  obtain ⟨c, s, hs, hc⟩ := exists_natText k
  have hne {d : Char} (hminus : d ≠ '-') (hdigit : d.isDigit = false) : c ≠ d :=
    ne_of_numeric (Or.inr hc) hminus hdigit
  rw [hs, List.cons_append] at hnumber ⊢
  rw [value, (atom_of_digit hc).1, hnumber]
  · exact fun _ h => hne (by decide) (by decide) (List.cons.inj h).1
  · exact fun _ h => hne (by decide) (by decide) (List.cons.inj h).1
  · exact fun _ h => hne (by decide) (by decide) (List.cons.inj h).1

theorem members_tooLong (hl : ∀ c ∈ l.gap, isSpace c = true) (hr : Ends r) (key : String) :
    members (fuel + 2) (writeString l.ascii key.toList ++ ':' :: (l.gap ++ (natText k ++ r))) =
      .error (.digits (natText k).length) := by
  have hcolon (r : List Char) : skip (':' :: r) = ':' :: r := rfl
  have hskip : skip (natText k ++ r) = natText k ++ r := by
    obtain ⟨c, s, hs, hc⟩ := exists_natText k
    have hspace : isSpace c = false := by
      simp [isSpace, ne_of_numeric (Or.inr hc)]
    rw [hs, List.cons_append, skip, List.dropWhile_cons_of_neg (by simp [hspace])]
  rw [writeString, List.cons_append, List.append_assoc, List.singleton_append]
  unfold members
  simp only [chars_writeString, hcolon, skip_gap hl, hskip, value_tooLong hk hr]

/-- An object is not read if the first value in it is an integer too long to be read. -/
theorem read_object_tooLong (hl : ∀ c ∈ l.gap, isSpace c = true) (key : String)
    (es : List (String × Value)) :
    read (write l (.object ((key, .int k) :: es))) = .error (.digits (natText k).length) := by
  have hint := write_natCast l k
  obtain ⟨r, hr, hends⟩ : ∃ r, writeEntries l ((key, .int k) :: es) ++ ['\x7d'] =
      writeString l.ascii key.toList ++ ':' :: (l.gap ++ (natText k ++ r)) ∧ Ends r := by
    cases es with
    | nil => exact ⟨_, by simp [writeEntries, hint], ends_brace []⟩
    | cons e es =>
      exact ⟨',' :: (l.gap ++ (writeEntries l (e :: es) ++ ['\x7d'])),
        by simp [writeEntries_cons_cons, hint], ends_comma _⟩
  have hmembers (fuel : Nat) : members (fuel + 2) (writeEntries l ((key, .int k) :: es) ++ ['\x7d']) =
      .error (.digits (natText k).length) := by
    rw [hr, members_tooLong hk hl hends]
  obtain ⟨s, hs⟩ := exists_writeEntries l (key, .int k) es
  rw [hs, List.cons_append] at hmembers
  have hskip : skip ('\x7b' :: '"' :: (s ++ ['\x7d'])) = '\x7b' :: '"' :: (s ++ ['\x7d']) := rfl
  have hvalue : value (2 * ('\x7b' :: '"' :: (s ++ ['\x7d'])).length + 2)
      ('\x7b' :: '"' :: (s ++ ['\x7d'])) = .error (.digits (natText k).length) := by
    show (members (2 * ('"' :: (s ++ ['\x7d'])).length + 3) ('"' :: (s ++ ['\x7d']))).map _ = _
    rw [hmembers]
    rfl
  have hdocument : document ('\x7b' :: '"' :: (s ++ ['\x7d'])) =
      .error (.digits (natText k).length) := by
    rw [document, hskip, hvalue]
  rw [write, hs, List.cons_append]
  exact hdocument

end TooLong

end Conform.Json
