import Conform.Proofs.Double.Size
import Conform.Proofs.Related
import Conform.Proofs.Value.Follow
import Conform.Proofs.Value.Order
import Mathlib.Data.List.Perm.Subperm

/-!
# Equality as an equivalence

Two values are equal in depth in one of a few ways: both are the same value without parts, both have the
same size, or their parts are equal one by one. The ways chain, and they can be turned around as no object
has a key twice: as many different keys in either object, all of one among those of the other, are the
same keys. A value is equal to itself unless there is something in it that is not a number. Strict equality
keeps truth values apart in addition, so the only values of two types that it takes for equal are an
integer and a double of the same size.
-/

namespace Conform.Value

variable {a b c : Value}

/-! ## Sizes -/

/-- The size that a value counts as. -/
def size? (v : Value) : Option Double.Size := v.number?.bind Double.size?

theorem size?_int (n : Int) : (int n).size? = some (.rational n) := Double.size?_exactInt n

theorem size?_bool (x : Bool) :
    (bool x).size? = some (.rational ((if x then 1 else 0 : Int) : ℚ)) := Double.size?_exactInt _

theorem sameNumber_iff :
    sameNumber a.number? b.number? = true ↔ ∃ z, a.size? = some z ∧ b.size? = some z := by
  unfold size?
  cases a.number? with
  | none => simp [sameNumber]
  | some x =>
    cases b.number? with
    | none => simp [sameNumber]
    | some y => simpa [sameNumber] using Double.compare?_eq_iff

/-! ## The ways to be equal -/

theorem sameItems_iff {xs ys : List Value} :
    sameItems xs ys = true ↔ List.Forall₂ (fun x y => same x y = true) xs ys := by
  induction xs generalizing ys with
  | nil => cases ys <;> simp [sameItems]
  | cons x xs ih =>
    cases ys with
    | nil => simp [sameItems]
    | cons y ys => simp [sameItems, ih]

/-- Each entry has an equal value under its key. -/
theorem sameEntries_iff {es fs : List (String × Value)} :
    sameEntries es fs = true ↔
      ∀ k x, (k, x) ∈ es → ∃ y, fs.lookup k = some y ∧ same x y = true := by
  induction es with
  | nil => simp [sameEntries]
  | cons e es ih =>
    obtain ⟨k, x⟩ := e
    rw [sameEntries_cons, Bool.and_eq_true, ih, Option.any_eq_true]
    constructor
    · rintro ⟨hx, hes⟩ k' x' hmem
      rcases List.mem_cons.1 hmem with heq | hmem
      · obtain ⟨rfl, rfl⟩ := Prod.mk.inj heq
        exact hx
      · exact hes k' x' hmem
    · intro h
      exact ⟨h k x List.mem_cons_self, fun k' x' hmem => h k' x' (List.mem_cons_of_mem _ hmem)⟩

/-- In which way two values are equal. -/
inductive Equal : Value → Value → Prop where
  /-- Both are null. -/
  | null : Equal .null .null
  /-- Both are missing. -/
  | missing : Equal .missing .missing
  /-- Both are the same text. -/
  | string (s : String) : Equal (.string s) (.string s)
  /-- Both count as numbers of the same size. -/
  | number {v w : Value} {z : Double.Size} (hv : v.size? = some z) (hw : w.size? = some z) : Equal v w
  /-- Both are lists of equal items. -/
  | list {xs ys : List Value} (h : List.Forall₂ (fun x y => same x y = true) xs ys) :
      Equal (.list xs) (.list ys)
  /-- Both are tuples of equal items. -/
  | tuple {xs ys : List Value} (h : List.Forall₂ (fun x y => same x y = true) xs ys) :
      Equal (.tuple xs) (.tuple ys)
  /-- Both are objects, of one size, and the one has equal values under the keys of the other. -/
  | object {es fs : List (String × Value)} (hlength : es.length = fs.length)
      (h : ∀ k x, (k, x) ∈ es → ∃ y, fs.lookup k = some y ∧ same x y = true) :
      Equal (.object es) (.object fs)

theorem same_iff_equal : same a b = true ↔ Equal a b := by
  constructor
  · intro h
    unfold same at h
    split at h
    · exact .null
    · exact .missing
    · rw [eq_of_beq h]
      exact .string _
    · exact .list (sameItems_iff.1 h)
    · exact .tuple (sameItems_iff.1 h)
    · rw [Bool.and_eq_true] at h
      exact .object (eq_of_beq h.1) (sameEntries_iff.1 h.2)
    · obtain ⟨z, ha, hb⟩ := sameNumber_iff.1 h
      exact .number ha hb
  · intro h
    cases h with
    | null => rfl
    | missing => rfl
    | string s => exact beq_self_eq_true s
    | number ha hb =>
      have hsame : sameNumber a.number? b.number? = true := sameNumber_iff.2 ⟨_, ha, hb⟩
      unfold same
      split
      · rfl
      · rfl
      · cases ha
      · cases ha
      · cases ha
      · cases ha
      · exact hsame
    | list h => exact sameItems_iff.2 h
    | tuple h => exact sameItems_iff.2 h
    | object hlength h =>
      rw [same, sameEntries_iff.2 h, beq_iff_eq.2 hlength]
      rfl

/-! ## An equivalence -/

theorem forall₂_symm {R : Value → Value → Prop} {xs ys : List Value} (h : List.Forall₂ R xs ys)
    (hR : ∀ x ∈ xs, ∀ y ∈ ys, R x y → R y x) : List.Forall₂ R ys xs :=
  forall₂_swap (forall₂_and_mem h) fun x y hxy => hR x hxy.2.1 y hxy.2.2 hxy.1

/-- If one object has values under all keys of another and is of the same size, the other has values under
    all of its keys. -/
theorem keys_subset {es fs : List (String × Value)} (hn : (es.map Prod.fst).Nodup)
    (hlength : es.length = fs.length)
    (h : ∀ k x, (k, x) ∈ es → ∃ y, fs.lookup k = some y ∧ same x y = true) :
    fs.map Prod.fst ⊆ es.map Prod.fst := by
  have hsub : es.map Prod.fst ⊆ fs.map Prod.fst := by
    intro k hk
    obtain ⟨⟨k, x⟩, he, rfl⟩ := List.mem_map.1 hk
    obtain ⟨y, hy, -⟩ := h k x he
    exact List.mem_map.2 ⟨(k, y), Entries.mem_of_lookup hy, rfl⟩
  have hperm : (es.map Prod.fst).Perm (fs.map Prod.fst) :=
    (List.subperm_of_subset hn hsub).perm_of_length_le (by simp [hlength])
  exact hperm.symm.subset

theorem same_symm (ha : a.DistinctKeys) (hb : b.DistinctKeys) (h : same a b = true) :
    same b a = true := by
  induction ha generalizing b with
  | @plain a hx he =>
    rw [same_iff_equal] at h ⊢
    cases h with
    | null => exact .null
    | missing => exact .missing
    | string s => exact .string s
    | number hv hw => exact .number hw hv
    | list h => cases hx
    | tuple h => cases hx
    | object hlength h => cases he
  | @list a zs hx hzs ih =>
    have hitems : ∀ {xs ys : List Value}, a.items? = some xs → b.items? = some ys →
        List.Forall₂ (fun x y => same x y = true) xs ys →
        List.Forall₂ (fun x y => same x y = true) ys xs := by
      intro xs ys hxs hys h
      obtain rfl : zs = xs := Option.some.inj (hx.symm.trans hxs)
      exact forall₂_symm h fun x hx y hy hxy => ih x hx (hb.item hys hy) hxy
    rw [same_iff_equal] at h ⊢
    cases h with
    | null => exact .null
    | missing => exact .missing
    | string s => exact .string s
    | number hv hw => exact .number hw hv
    | list h => exact .list (hitems rfl rfl h)
    | tuple h => exact .tuple (hitems rfl rfl h)
    | object hlength h => cases hx
  | @object es hn hes ih =>
    rw [same_iff_equal] at h ⊢
    cases h with
    | number hv hw => cases hv
    | @object _ fs hlength h =>
      refine .object hlength.symm fun k y hy => ?_
      have hk : k ∈ es.map Prod.fst := keys_subset hn hlength h (List.mem_map.2 ⟨(k, y), hy, rfl⟩)
      obtain ⟨⟨k, x⟩, hx, rfl⟩ := List.mem_map.1 hk
      obtain ⟨z, hz, hxz⟩ := h k x hx
      obtain rfl : z = y := by
        rw [Entries.lookup_of_mem (hb.nodup rfl) hy] at hz
        exact (Option.some.inj hz).symm
      exact ⟨x, Entries.lookup_of_mem hn hx, ih (k, x) hx (hb.entry rfl hy) hxz⟩

theorem same_trans (ha : a.DistinctKeys) (hab : same a b = true) (hbc : same b c = true) :
    same a c = true := by
  induction ha generalizing b c with
  | @plain a hx he =>
    rw [same_iff_equal] at hab hbc ⊢
    cases hab with
    | null => exact hbc
    | missing => exact hbc
    | string s => exact hbc
    | @number _ _ z hv hw =>
      cases hbc with
      | number hv' hw' =>
        rw [hw] at hv'
        cases hv'
        exact .number hv hw'
      | _ => cases hw
    | list h => cases hx
    | tuple h => cases hx
    | object hlength h => cases he
  | @list a ws hx hws ih =>
    have hitems : ∀ {xs ys zs : List Value}, a.items? = some xs →
        List.Forall₂ (fun x y => same x y = true) xs ys →
        List.Forall₂ (fun x y => same x y = true) ys zs →
        List.Forall₂ (fun x y => same x y = true) xs zs := by
      intro xs ys zs hxs hxy hyz
      obtain rfl : ws = xs := Option.some.inj (hx.symm.trans hxs)
      exact forall₂_chain hxy hyz fun x hx y z => ih x hx
    rw [same_iff_equal] at hab hbc ⊢
    cases hab with
    | null => cases hx
    | missing => cases hx
    | string s => cases hx
    | number hv hw =>
      cases a with
      | list => cases hv
      | tuple => cases hv
      | _ => cases hx
    | list h =>
      cases hbc with
      | number hv' hw' => cases hv'
      | list h' => exact .list (hitems rfl h h')
    | tuple h =>
      cases hbc with
      | number hv' hw' => cases hv'
      | tuple h' => exact .tuple (hitems rfl h h')
    | object hlength h => cases hx
  | @object es hn hes ih =>
    rw [same_iff_equal] at hab hbc ⊢
    cases hab with
    | number hv hw => cases hv
    | @object _ fs hlength h =>
      cases hbc with
      | number hv' hw' => cases hv'
      | object hlength' h' =>
        refine .object (hlength.trans hlength') fun k x hx => ?_
        obtain ⟨y, hy, hxy⟩ := h k x hx
        obtain ⟨z, hz, hyz⟩ := h' k y (Entries.mem_of_lookup hy)
        exact ⟨z, hz, ih (k, x) hx hxy hyz⟩

/-- A value is equal to itself, unless there is something in it that is not a number. -/
theorem same_refl (ha : a.DistinctKeys) (h : ∀ path, a.follow? path ≠ some (.double .nan)) :
    same a a = true := by
  -- what is in a part is in the whole
  have hpart : ∀ {v x : Value} {s : Segment}, v.step? s = some x →
      (∀ path, v.follow? path ≠ some (.double .nan)) → ∀ path, x.follow? path ≠ some (.double .nan) := by
    intro v x s hs hv path hpath
    refine hv (s :: path) ?_
    rw [follow?, hs, Option.bind_some, hpath]
  induction ha with
  | @plain a hx he =>
    rw [same_iff_equal]
    cases a with
    | null => exact .null
    | missing => exact .missing
    | bool x => exact .number (size?_bool x) (size?_bool x)
    | int n => exact .number (size?_int n) (size?_int n)
    | double d =>
      cases d with
      | nan => exact absurd rfl (h [])
      | infinite s => exact .number rfl rfl
      | finite s m e => exact .number rfl rfl
    | string s => exact .string s
    | list xs => cases hx
    | tuple xs => cases hx
    | object es => cases he
  | @list a xs hx hxs ih =>
    have hitems : List.Forall₂ (fun x y => same x y = true) xs xs := by
      rw [List.forall₂_same]
      intro x hmem
      obtain ⟨i, hi⟩ := List.mem_iff_getElem?.1 hmem
      exact ih x hmem (hpart (step?_index hx hi) h)
    rw [same_iff_equal]
    cases a with
    | list ys =>
      cases hx
      exact .list hitems
    | tuple ys =>
      cases hx
      exact .tuple hitems
    | _ => cases hx
  | @object es hn hes ih =>
    rw [same_iff_equal]
    refine .object rfl fun k x hx => ?_
    have hlookup : es.lookup k = some x := Entries.lookup_of_mem hn hx
    exact ⟨x, hlookup, ih (k, x) hx (hpart (step?_key (.object hn hes) rfl hx) h)⟩

/-! ## Strict equality -/

/-- Strict equality is equality of values that both are truth values or both are not. -/
theorem strictEqual_iff : strictEqual a b = true ↔ a.isBool = b.isBool ∧ same a b = true := by
  by_cases hb : b.isBool = true
  · cases b with
    | bool y =>
      cases a with
      | bool x =>
        have hsame : (x == y) = same (bool x) (bool y) := by cases x <;> cases y <;> decide
        rw [strictEqual, hsame]
        exact (and_iff_right rfl).symm
      | _ => simp [strictEqual, isBool]
    | _ => cases hb
  · rw [Bool.not_eq_true] at hb
    rw [strictEqual_eq_same hb, hb]
    simp

theorem strictEqual_symm (ha : a.DistinctKeys) (hb : b.DistinctKeys) (h : strictEqual a b = true) :
    strictEqual b a = true := by
  obtain ⟨hbool, hsame⟩ := strictEqual_iff.1 h
  exact strictEqual_iff.2 ⟨hbool.symm, same_symm ha hb hsame⟩

theorem strictEqual_trans (ha : a.DistinctKeys) (hab : strictEqual a b = true)
    (hbc : strictEqual b c = true) : strictEqual a c = true := by
  obtain ⟨hbool, hsame⟩ := strictEqual_iff.1 hab
  obtain ⟨hbool', hsame'⟩ := strictEqual_iff.1 hbc
  exact strictEqual_iff.2 ⟨hbool.trans hbool', same_trans ha hsame hsame'⟩

theorem strictEqual_refl (ha : a.DistinctKeys) (h : ∀ path, a.follow? path ≠ some (.double .nan)) :
    strictEqual a a = true :=
  strictEqual_iff.2 ⟨rfl, same_refl ha h⟩

/-- The types of values. -/
inductive Form where
  | null
  | missing
  | bool
  | int
  | double
  | string
  | list
  | tuple
  | object
  deriving DecidableEq

/-- The type of a value. -/
def form : Value → Form
  | null => .null
  | missing => .missing
  | bool _ => .bool
  | int _ => .int
  | double _ => .double
  | string _ => .string
  | list _ => .list
  | tuple _ => .tuple
  | object _ => .object

theorem size?_eq_some {v : Value} {z : Double.Size} (h : v.size? = some z) :
    (∃ x, v = bool x) ∨ (∃ n, v = int n ∧ z = .rational n) ∨ ∃ d, v = double d ∧ d.size? = some z := by
  cases v with
  | bool x => exact Or.inl ⟨x, rfl⟩
  | int n =>
    rw [size?_int] at h
    exact Or.inr (Or.inl ⟨n, rfl, (Option.some.inj h).symm⟩)
  | double d => exact Or.inr (Or.inr ⟨d, rfl, h⟩)
  | _ => cases h

theorem strictEqual_int_double {n : Int} {d : Double} :
    strictEqual (int n) (double d) = true ↔ d.size? = some (.rational n) := by
  rw [strictEqual_iff, same_iff_equal]
  constructor
  · rintro ⟨-, h⟩
    cases h with
    | number hv hw =>
      rw [size?_int] at hv
      rw [hv]
      exact hw
  · intro h
    exact ⟨rfl, .number (size?_int n) h⟩

theorem form_of_strictEqual (h : strictEqual a b = true) :
    a.form = b.form ∨ ∃ n d, (a = int n ∧ b = double d ∨ a = double d ∧ b = int n) ∧
      d.size? = some (.rational n) := by
  obtain ⟨hbool, hsame⟩ := strictEqual_iff.1 h
  cases same_iff_equal.1 hsame with
  | number hv hw =>
    rcases size?_eq_some hv with ⟨x, rfl⟩ | ⟨n, rfl, rfl⟩ | ⟨d, rfl, hd⟩
    · rcases size?_eq_some hw with ⟨y, rfl⟩ | ⟨m, rfl, -⟩ | ⟨d, rfl, -⟩
      · exact Or.inl rfl
      · cases hbool
      · cases hbool
    · rcases size?_eq_some hw with ⟨y, rfl⟩ | ⟨m, rfl, -⟩ | ⟨d, rfl, hd⟩
      · cases hbool
      · exact Or.inl rfl
      · exact Or.inr ⟨n, d, Or.inl ⟨rfl, rfl⟩, hd⟩
    · rcases size?_eq_some hw with ⟨y, rfl⟩ | ⟨n, rfl, rfl⟩ | ⟨d', rfl, -⟩
      · cases hbool
      · exact Or.inr ⟨n, d, Or.inr ⟨rfl, rfl⟩, hd⟩
      · exact Or.inl rfl
  | _ => exact Or.inl rfl

/-- On values in which no object has a key twice, strict equality is symmetric and transitive, and a value
    is equal to itself if it holds nothing that is not a number. Values that are equal are of one type, but
    for an integer and a double; these are equal exactly if the double denotes the integer. -/
theorem strictEqual_equivalence (ha : a.DistinctKeys) (hb : b.DistinctKeys) :
    (strictEqual a b = true → strictEqual b a = true) ∧
      (strictEqual a b = true → strictEqual b c = true → strictEqual a c = true) ∧
      ((∀ path, a.follow? path ≠ some (.double .nan)) → strictEqual a a = true) ∧
      (strictEqual a b = true → a.form = b.form ∨
        ∃ n d, (a = .int n ∧ b = .double d ∨ a = .double d ∧ b = .int n) ∧
          d.size? = some (.rational n)) ∧
      ∀ n d, strictEqual (.int n) (.double d) = true ↔ d.size? = some (.rational n) :=
  ⟨strictEqual_symm ha hb, strictEqual_trans ha, strictEqual_refl ha, form_of_strictEqual,
    fun _ _ => strictEqual_int_double⟩

/-- A list with an integer of more than 53 bits in it and an object. -/
def ticket : Value := .list [.int 18014398509481984, .object [("paid", .bool true), ("note", .null)]]

/-- The list with the double of that size, and with the keys of the object in another order. -/
def ticket' : Value :=
  .list [.double (.finite false (2 ^ 52) 2), .object [("note", .null), ("paid", .int 1)]]

/-- The list with a double in place of the truth value. -/
def ticket'' : Value :=
  .list [.int 18014398509481984, .object [("note", .null), ("paid", .double (.finite false 1 0))]]

theorem distinctKeys_pair {k l : String} {v w : Value} (hkl : k ≠ l) (hv : v.DistinctKeys)
    (hw : w.DistinctKeys) : (object [(k, v), (l, w)]).DistinctKeys := by
  refine .object (by simpa using hkl) ?_
  simpa using ⟨hv, hw⟩

theorem strictEqual_equivalence_ticket :
    ticket.DistinctKeys ∧ ticket'.DistinctKeys ∧
      (∀ path, ticket.follow? path ≠ some (.double .nan)) ∧
      strictEqual ticket ticket' = true ∧ strictEqual ticket' ticket'' = true ∧
      strictEqual ticket' ticket = true ∧ strictEqual ticket ticket'' = true ∧
      strictEqual ticket ticket = true ∧ ticket.form = ticket'.form := by
  have hticket : ticket.DistinctKeys := by
    have hobject : (object [("paid", .bool true), ("note", .null)]).DistinctKeys :=
      distinctKeys_pair (by decide) (.plain rfl rfl) (.plain rfl rfl)
    exact .list rfl (by simpa using ⟨.plain rfl rfl, hobject⟩)
  have hticket' : ticket'.DistinctKeys := by
    have hobject : (object [("note", .null), ("paid", .int 1)]).DistinctKeys :=
      distinctKeys_pair (by decide) (.plain rfl rfl) (.plain rfl rfl)
    exact .list rfl (by simpa using ⟨.plain rfl rfl, hobject⟩)
  have hnumbers : ∀ path, ticket.follow? path ≠ some (.double .nan) := by
    rintro (_ | ⟨_ | _ | _ | i, path⟩) h
    · cases h
    · cases h
    · cases eq_of_follow? (v := .int 18014398509481984) rfl rfl h
    · rcases path with _ | ⟨k | i, path⟩
      · cases h
      · have hpath : (List.lookup k [("paid", bool true), ("note", null)]).bind (·.follow? path) =
            some (double .nan) := h
        obtain ⟨v, hv, hv'⟩ := Option.bind_eq_some_iff.1 hpath
        have hmem := Entries.mem_of_lookup hv
        simp only [List.mem_cons, Prod.mk.injEq, List.not_mem_nil, or_false] at hmem
        rcases hmem with ⟨-, rfl⟩ | ⟨-, rfl⟩
        · cases eq_of_follow? rfl rfl hv'
        · cases eq_of_follow? rfl rfl hv'
      · cases h
    · cases h
  have h : strictEqual ticket ticket' = true := by decide
  have h' : strictEqual ticket' ticket'' = true := by decide
  obtain ⟨hsymm, htrans, hrefl, hform, -⟩ := strictEqual_equivalence (c := ticket'') hticket hticket'
  refine ⟨hticket, hticket', hnumbers, h, h', hsymm h, htrans h h', hrefl hnumbers, ?_⟩
  rcases hform h with heq | ⟨n, d, ⟨hn, -⟩ | ⟨hd, -⟩, -⟩
  · exact heq
  · cases hn
  · cases hd

end Conform.Value
