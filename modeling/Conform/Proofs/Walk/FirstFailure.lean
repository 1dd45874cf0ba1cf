import Conform.Proofs.Walk.Origin

/-!
# The first failure

The checks of the items of a list, of the entries of an object and of the members of an intersection
are made one after the other, and the first that is not passed decides the outcome. Before any entry of
an object is looked at, the first property that the object has to have and lacks does. So what stands
after the item, the property, the entry or the member that decides may be anything
(`first_failure_decides`).
-/

namespace Conform.Walk

open Schema Outcome

variable {ι : Type} {g : Graph ι} {c : Context} {p : Bool}

/-! ## Lists and intersections -/

/-- The check of an item, given its position. -/
def itemAt (g : Graph ι) (ms : List (Member ι)) (c : Context) (p : Bool) (i : Nat) (x : Value) :
    Outcome :=
  item g (node g) ms x (c.into (.index i)) p

theorem array_of_items {ms : List (Member ι)} {value : Value} {xs : List Value} (hms : ms ≠ [])
    (hv : value.items? = some xs) :
    array g (node g) ms value c p = xs.zipIdx.allM fun e => itemAt g ms c p e.2 e.1 := by
  have hne : ms.isEmpty = false := List.isEmpty_eq_false_iff.2 hms
  unfold array
  rw [hv]
  simp only [hne, Bool.false_eq_true, if_false]
  rfl

theorem array_decided {ms : List (Member ι)} {value : Value} {xs : List Value} (hms : ms ≠ [])
    (hv : value.items? = some xs) :
    Decided (itemAt g ms c p) xs (array g (node g) ms value c p) := by
  rw [array_of_items hms hv]
  exact decided_zipIdx _ xs

/-- The items after one that is not accepted play no part. -/
theorem array_eq_of_stop {ms : List (Member ι)} {value value' : Value}
    {before after after' : List Value} {x : Value} (hms : ms ≠ [])
    (hv : value.items? = some (before ++ x :: after))
    (hv' : value'.items? = some (before ++ x :: after'))
    (hx : itemAt g ms c p before.length x ≠ .ok true) :
    array g (node g) ms value c p = array g (node g) ms value' c p := by
  have hposition : ∀ l : List Value, (before ++ x :: l).zipIdx =
      before.zipIdx ++ (x, before.length) :: l.zipIdx (before.length + 1) := by
    intro l
    rw [List.zipIdx_append, List.zipIdx_cons, Nat.zero_add]
  rw [array_of_items hms hv, array_of_items hms hv', hposition, hposition]
  exact allM_eq_of_stop (f := fun e => itemAt g ms c p e.2 e.1) (x := (x, before.length)) hx _ _ _

theorem intersection_of_two_le {ms : List (Member ι)} (hl : 2 ≤ ms.length) (value : Value) :
    intersection (node g) ms value c p = ms.allM fun m => member (node g) m value c p := by
  unfold intersection
  rw [if_neg (Nat.not_lt.2 hl)]

theorem intersection_decided {ms : List (Member ι)} (hl : 2 ≤ ms.length) (value : Value) :
    Decided (fun _ m => member (node g) m value c p) ms (intersection (node g) ms value c p) := by
  rw [intersection_of_two_le hl]
  exact decided_allM _ ms

theorem intersection_eq_of_stop {before after after' : List (Member ι)} {m : Member ι}
    {value : Value} (hl : 2 ≤ (before ++ m :: after).length)
    (hl' : 2 ≤ (before ++ m :: after').length) (hm : member (node g) m value c p ≠ .ok true) :
    intersection (node g) (before ++ m :: after) value c p =
      intersection (node g) (before ++ m :: after') value c p := by
  rw [intersection_of_two_le hl, intersection_of_two_le hl']
  exact allM_eq_of_stop (f := fun m => member (node g) m value c p) hm before after after'

/-! ## Objects -/

/-- The entries lack a property that has to be there. -/
def Lacks (g : Graph ι) (es : List (String × Value)) (q : String × ι) : Prop :=
  (g q.2).flags.optional = false ∧ q.1 ∉ es.map Prod.fst

theorem lacks_iff {es : List (String × Value)} {q : String × ι} :
    (!(g q.2).flags.optional && (es.lookup q.1).isNone) = true ↔ Lacks g es q := by
  rw [Bool.and_eq_true, Bool.not_eq_true', Option.isNone_iff_eq_none, Entries.lookup_eq_none]
  rfl

theorem missing?_eq_none_iff {ps : List (String × ι)} {es : List (String × Value)} :
    missing? g ps es = none ↔ ∀ q ∈ ps, ¬Lacks g es q := by
  unfold missing?
  rw [Option.map_eq_none_iff, List.find?_eq_none]
  exact forall₂_congr fun q _ => not_congr lacks_iff

theorem missing?_append_cons {before after : List (String × ι)} {q : String × ι}
    {es : List (String × Value)} (hq : Lacks g es q) (hbefore : ∀ b ∈ before, ¬Lacks g es b) :
    missing? g (before ++ q :: after) es = some q.1 := by
  unfold missing?
  have hnone : before.find? (fun b => !(g b.2).flags.optional && (es.lookup b.1).isNone) = none :=
    List.find?_eq_none.2 fun b hb => mt lacks_iff.1 (hbefore b hb)
  have hfirst : (q :: after).find? (fun b => !(g b.2).flags.optional && (es.lookup b.1).isNone) =
      some q := List.find?_cons_of_pos (lacks_iff.2 hq)
  rw [List.find?_append, hnone, Option.none_or, hfirst]
  rfl

theorem object_of_lacks {before after : List (String × ι)} {q : String × ι} {value : Value}
    {es : List (String × Value)} (ht : c.throwing = true) (hv : value.entries? = some es)
    (hq : Lacks g es q) (hbefore : ∀ b ∈ before, ¬Lacks g es b) :
    object g (node g) (before ++ q :: after) value c p =
      .error (.failure ⟨.missingProperty q.1, Report.missingProperty q.1, value,
        c.path ++ [.key q.1]⟩) := by
  unfold object
  rw [hv]
  simp only [missing?_append_cons hq hbefore]
  exact fail_eq_error.2 ⟨ht, rfl⟩

theorem object_of_entries {ps : List (String × ι)} {value : Value} {es : List (String × Value)}
    (hv : value.entries? = some es) (hall : ∀ q ∈ ps, ¬Lacks g es q) :
    object g (node g) ps value c p = es.allM (entry (node g) ps c p) := by
  unfold object
  rw [hv]
  simp only [missing?_eq_none_iff.2 hall]

theorem object_decided {ps : List (String × ι)} {value : Value} {es : List (String × Value)}
    (hv : value.entries? = some es) (hall : ∀ q ∈ ps, ¬Lacks g es q) :
    Decided (fun _ e => entry (node g) ps c p e) es (object g (node g) ps value c p) := by
  rw [object_of_entries hv hall]
  exact decided_allM _ es

/-- The entries after one that is not accepted play no part, nor do the properties of their keys. -/
theorem object_eq_of_stop {ps ps' : List (String × ι)} {value value' : Value}
    {before after after' : List (String × Value)} {e : String × Value}
    (hv : value.entries? = some (before ++ e :: after))
    (hv' : value'.entries? = some (before ++ e :: after'))
    (hall : ∀ q ∈ ps, ¬Lacks g (before ++ e :: after) q)
    (hall' : ∀ q ∈ ps', ¬Lacks g (before ++ e :: after') q)
    (hps : ∀ d ∈ before ++ [e], ps'.lookup d.1 = ps.lookup d.1)
    (he : entry (node g) ps c p e ≠ .ok true) :
    object g (node g) ps value c p = object g (node g) ps' value' c p := by
  have hentry : ∀ d ∈ before ++ [e], entry (node g) ps' c p d = entry (node g) ps c p d := by
    intro d hd
    unfold entry
    rw [hps d hd]
  -- nothing stands after the entry that decides; then both objects have the same entries
  rw [object_of_entries hv hall, object_of_entries hv' hall', allM_eq_of_stop he before after []]
  calc (before ++ [e]).allM (entry (node g) ps c p)
    _ = (before ++ [e]).allM (entry (node g) ps' c p) := (allM_congr hentry).symm
    _ = (before ++ e :: after').allM (entry (node g) ps' c p) :=
      allM_eq_of_stop (hentry e (by simp) ▸ he) before [] after'

/-! ## Every shape -/

/-- In a walk that reports failures, a list and an intersection come to what the first of their checks
    comes to that is not passed, in the order of the items and of the members. An object that lacks
    properties reports the first of them, whatever else is wrong; one that lacks none comes to what the
    first entry comes to that is not accepted, in the order of its entries. What stands after the check
    that decides plays no part. -/
theorem first_failure_decides (g : Graph ι) (c : Context) (p : Bool) (ht : c.throwing = true) :
    (∀ ms value xs, ms ≠ [] → value.items? = some xs →
      Decided (fun i x => item g (node g) ms x (c.into (.index i)) p) xs
        (array g (node g) ms value c p) ∧
      ∀ before x after, xs = before ++ x :: after →
        item g (node g) ms x (c.into (.index before.length)) p ≠ .ok true →
        ∀ value' after', value'.items? = some (before ++ x :: after') →
          array g (node g) ms value' c p = array g (node g) ms value c p) ∧
    (∀ ps value es, value.entries? = some es →
      (∀ before q after, ps = before ++ q :: after → Lacks g es q → (∀ b ∈ before, ¬Lacks g es b) →
        ∀ after', object g (node g) (before ++ q :: after') value c p =
          .error (.failure ⟨.missingProperty q.1, Report.missingProperty q.1, value,
            c.path ++ [.key q.1]⟩)) ∧
      ((∀ q ∈ ps, ¬Lacks g es q) →
        Decided (fun _ e => entry (node g) ps c p e) es (object g (node g) ps value c p) ∧
        ∀ before e after, es = before ++ e :: after → entry (node g) ps c p e ≠ .ok true →
          ∀ ps' value' after', value'.entries? = some (before ++ e :: after') →
            (∀ q ∈ ps', ¬Lacks g (before ++ e :: after') q) →
            (∀ d ∈ before ++ [e], ps'.lookup d.1 = ps.lookup d.1) →
            object g (node g) ps' value' c p = object g (node g) ps value c p)) ∧
    ∀ ms value, 2 ≤ ms.length →
      Decided (fun _ m => member (node g) m value c p) ms (intersection (node g) ms value c p) ∧
      ∀ before m after, ms = before ++ m :: after → member (node g) m value c p ≠ .ok true →
        ∀ after', 2 ≤ (before ++ m :: after').length →
          intersection (node g) (before ++ m :: after') value c p =
            intersection (node g) ms value c p := by
  refine ⟨fun ms value xs hms hv => ⟨array_decided hms hv, ?_⟩, fun ps value es hv => ⟨?_, ?_⟩,
    fun ms value hl => ⟨intersection_decided hl value, ?_⟩⟩
  · rintro before x after rfl hx value' after' hv'
    exact array_eq_of_stop hms hv' hv hx
  · rintro before q after - hq hbefore after'
    exact object_of_lacks ht hv hq hbefore
  · refine fun hall => ⟨object_decided hv hall, ?_⟩
    rintro before e after rfl he ps' value' after' hv' hall' hps
    exact (object_eq_of_stop hv hv' hall hall' hps he).symm
  · rintro before m after rfl hm after' hl'
    exact intersection_eq_of_stop hl' hl hm

/-- A text, and a number of at most nine. -/
def textAndDigit : Graph Nat
  | 0 => ⟨"string", { primitive := true }, [], .single .null, []⟩
  | _ => ⟨"number", { primitive := true }, [⟨"max", "9"⟩], .single .null, []⟩

/-- A walk through eight levels that reports failures, at the root of the value. -/
def reportingRoot : Context := ⟨⟨Primitive.builtIn⟩, true, 8, 0, []⟩

/-- A list with a number too large before one that is none; an object without a text whose number is too
    large, and one whose number is too large before a text that is none; a number too large for the first
    of two demands. -/
theorem first_failure_decides_textAndDigit :
    reportingRoot.throwing = true ∧
    array textAndDigit (node textAndDigit) [.node 1] (.list [.int 5, .int 12, .null]) reportingRoot false =
      array textAndDigit (node textAndDigit) [.node 1] (.tuple [.int 5, .int 12]) reportingRoot false ∧
    object textAndDigit (node textAndDigit) [("digit", 1), ("text", 0)] (.object [("digit", .int 12)])
        reportingRoot false =
      .error (.failure ⟨.missingProperty "text", "Missing required property \"text\"",
        .object [("digit", .int 12)], [.key "text"]⟩) ∧
    object textAndDigit (node textAndDigit) [("text", 0), ("digit", 1)]
        (.object [("digit", .int 12), ("text", .null)]) reportingRoot false =
      object textAndDigit (node textAndDigit) [("digit", 1)] (.object [("digit", .int 12)])
        reportingRoot false ∧
    intersection (node textAndDigit) [.node 1, .node 0] (.int 12) reportingRoot false =
      intersection (node textAndDigit) [.node 1, .bare (.int 12)] (.int 12) reportingRoot false := by
  obtain ⟨hlist, hobject, hintersection⟩ := first_failure_decides textAndDigit reportingRoot false rfl
  refine ⟨rfl, ?_, ?_, ?_, ?_⟩
  · obtain ⟨-, hstop⟩ := hlist [.node 1] (.tuple [.int 5, .int 12]) _ (by simp) rfl
    exact hstop [.int 5] (.int 12) [] rfl nofun _ [.null] rfl
  · obtain ⟨hlacks, -⟩ := hobject [("digit", 1), ("text", 0)] (.object [("digit", .int 12)]) _ rfl
    exact hlacks [("digit", 1)] ("text", 0) [] rfl ⟨rfl, by simp⟩ (by simp [Lacks]) []
  · obtain ⟨-, hentries⟩ := hobject [("digit", 1)] (.object [("digit", .int 12)]) _ rfl
    obtain ⟨-, hstop⟩ := hentries (by simp [Lacks])
    have hsame : ∀ d ∈ [("digit", Value.int 12)],
        [("text", 0), ("digit", 1)].lookup d.1 = [("digit", 1)].lookup d.1 := by
      intro d hd
      rw [List.mem_singleton.1 hd]
      rfl
    exact hstop [] ("digit", .int 12) [] rfl nofun [("text", 0), ("digit", 1)] _
      [("text", .null)] rfl (by simp [Lacks]) hsame
  · obtain ⟨-, hstop⟩ := hintersection [.node 1, .bare (.int 12)] (.int 12) (by simp)
    exact hstop [] (.node 1) [.bare (.int 12)] rfl nofun [.node 0] (by simp)

end Conform.Walk
