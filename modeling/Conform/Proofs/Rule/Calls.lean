import Conform.Proofs.Report.Words
import Conform.Proofs.Rule.Judgement

/-!
# The rules that are called

A combinator goes through three stages, and each may end the call: the value is not of the type, the
tags cannot all be read, a rule does not accept. The rules that are called are those of the tags that
have one, up to the first that does not accept. So tags without a rule may stand anywhere among the
others: only the words of a failure may show them.
-/

namespace Conform

/-! ## Readings in a row -/

section Reading

variable {ε α β : Type} {read : α → Except ε β} {xs : List α} {ys : List β}

theorem mapM_eq_ok_of_map (h : xs.map read = ys.map Except.ok) : xs.mapM read = .ok ys := by
  induction xs generalizing ys with
  | nil =>
    obtain rfl : ys = [] := List.map_eq_nil_iff.1 h.symm
    rfl
  | cons x xs ih =>
    obtain ⟨y, zs, rfl, hx, hxs⟩ := List.map_eq_cons_iff.1 h.symm
    have hrest : xs.mapM read = .ok zs := ih hxs.symm
    rw [List.mapM_cons, ← hx, hrest]
    rfl

/-- A list is not read if one of its items is not, and the first such item tells why. -/
theorem mapM_eq_error {x : α} {e : ε} (hxs : xs.map read = ys.map Except.ok)
    (hx : read x = .error e) (after : List α) : (xs ++ x :: after).mapM read = .error e := by
  have hbefore : xs.mapM read = .ok ys := mapM_eq_ok_of_map hxs
  rw [List.mapM_append, hbefore, List.mapM_cons, hx]
  rfl

end Reading

/-! ## Calls -/

namespace RuleTable

variable {table : RuleTable} {value : Value} {t : Tag} {ts called : List Tag} {verdict : Verdict}

/-- What the rule of a tag says of a value, for a tag that has one. -/
def says? (table : RuleTable) (value : Value) (t : Tag) : Option Outcome :=
  (table.find? t.name).map fun rule => rule value t.argument

/-- What calling the rules of tags comes to, all of which have one: the tags called, and the verdict. -/
inductive Called (table : RuleTable) (value : Value) (ts : List Tag) : List Tag → Verdict → Prop where
  /-- Every rule accepts the value, and every one is called. -/
  | accepted (h : ∀ t ∈ ts, table.says? value t = some (.ok true)) : Called table value ts ts .accepted
  /-- A rule refuses the value, and those before it accept; it is the last that is called. -/
  | refused {before after : List Tag} {t : Tag} (hts : ts = before ++ t :: after)
      (hbefore : ∀ s ∈ before, table.says? value s = some (.ok true))
      (ht : table.says? value t = some (.ok false)) : Called table value ts (before ++ [t]) (.refused t)
  /-- A rule ends in an error, and those before it accept; it is the last that is called. -/
  | raised {before after : List Tag} {t : Tag} {e : Error} (hts : ts = before ++ t :: after)
      (hbefore : ∀ s ∈ before, table.says? value s = some (.ok true))
      (ht : table.says? value t = some (.error e)) : Called table value ts (before ++ [t]) (.raised e)

theorem Called.cons (ht : table.says? value t = some (.ok true))
    (h : table.Called value ts called verdict) :
    table.Called value (t :: ts) (t :: called) verdict := by
  cases h with
  | accepted h => exact .accepted (List.forall_mem_cons.2 ⟨ht, h⟩)
  | refused hts hbefore hs =>
    rw [hts]
    exact .refused (List.cons_append ..).symm (List.forall_mem_cons.2 ⟨ht, hbefore⟩) hs
  | raised hts hbefore hs =>
    rw [hts]
    exact .raised (List.cons_append ..).symm (List.forall_mem_cons.2 ⟨ht, hbefore⟩) hs

theorem called_of_covers (h : ∀ t ∈ ts, table.covers t = true) :
    table.Called value ts (table.judge value ts).1 (table.judge value ts).2 := by
  induction ts with
  | nil => exact .accepted nofun
  | cons t ts ih =>
    rw [List.forall_mem_cons] at h
    obtain ⟨rule, hrule⟩ := Option.isSome_iff_exists.1 h.1
    have hsays : table.says? value t = some (rule value t.argument) := by rw [says?, hrule]; rfl
    have hnone : ∀ s ∈ ([] : List Tag), table.says? value s = some (.ok true) := nofun
    rcases ho : rule value t.argument with e | _ | _
    · rw [ho] at hsays
      simp only [judge, hrule, ho]
      exact .raised (List.nil_append _).symm hnone hsays
    · rw [ho] at hsays
      simp only [judge, hrule, ho]
      exact .refused (List.nil_append _).symm hnone hsays
    · rw [ho] at hsays
      simp only [judge, hrule, ho]
      exact (ih h.2).cons hsays

/-- The rules of the tags that have one are called in order, up to the first that does not accept. -/
theorem called_judge (table : RuleTable) (value : Value) (ts : List Tag) :
    table.Called value (ts.filter table.covers) (table.judge value ts).1 (table.judge value ts).2 := by
  rw [← judge_filter]
  exact called_of_covers fun t ht => (List.mem_filter.1 ht).2

/-- Does a piece of data count where tags are read? It does not if it is a tag without a rule. -/
def counts (table : RuleTable) (data : Value) : Bool :=
  match Tag.ofValue data with
  | .ok t => table.covers t
  | .error _ => true

end RuleTable

/-! ## Combinators -/

/-- The same outcome or, where failures are reported, failures that only their messages tell apart. -/
inductive Reworded (throwing : Bool) : Outcome → Outcome → Prop where
  /-- The outcome is the same. -/
  | same (o : Outcome) : Reworded throwing o o
  /-- The failures are told in other words. -/
  | failure {f f' : Failure} (hthrowing : throwing = true) (hcause : f'.cause = f.cause)
      (hvalue : f'.value = f.value) (hpath : f'.path = f.path) :
      Reworded throwing (.error (.failure f)) (.error (.failure f'))

/-- Outcomes that have been reworded from one are rewordings of each other. -/
theorem Reworded.join {throwing : Bool} {o o₁ o₂ : Outcome} (h₁ : Reworded throwing o o₁)
    (h₂ : Reworded throwing o o₂) : Reworded throwing o₁ o₂ := by
  cases h₁ with
  | same => exact h₂
  | failure hthrowing hcause hvalue hpath =>
    cases h₂ with
    | same => exact .failure hthrowing hcause.symm hvalue.symm hpath.symm
    | failure _ hcause' hvalue' hpath' =>
      exact .failure hthrowing (hcause'.trans hcause.symm) (hvalue'.trans hvalue.symm)
        (hpath'.trans hpath.symm)

namespace Combinator

variable {k : Combinator} {value : Value} {throwing : Bool} {path : Path}

/-- Leaving out data that stands for tags without a rule leaves out just these tags. -/
theorem readTags_filter (table : RuleTable) (data : List Value) :
    readTags (data.filter table.counts) = (readTags data).map (·.filter table.covers) := by
  have hread : ∀ data : List Value, (data.filter table.counts).mapM Tag.ofValue =
      (data.mapM Tag.ofValue).map (·.filter table.covers) := by
    intro data
    induction data with
    | nil => rfl
    | cons x data ih =>
      cases hx : Tag.ofValue x with
      | error e =>
        have hcounts : table.counts x = true := by rw [RuleTable.counts, hx]
        rw [List.filter_cons_of_pos hcounts, List.mapM_cons, List.mapM_cons, hx]
        rfl
      | ok t =>
        have hcounts : table.counts x = table.covers t := by rw [RuleTable.counts, hx]
        -- whether or not the tag stays, data behind it may still be no tag
        by_cases ht : table.covers t = true
        · rw [List.filter_cons_of_pos (hcounts.trans ht), List.mapM_cons, List.mapM_cons, hx, ih]
          cases data.mapM Tag.ofValue with
          | error e => rfl
          | ok ts => exact congrArg Except.ok (List.filter_cons_of_pos ht).symm
        · rw [List.filter_cons_of_neg (hcounts ▸ ht), List.mapM_cons, hx, ih]
          cases data.mapM Tag.ofValue with
          | error e => rfl
          | ok ts => exact congrArg Except.ok (List.filter_cons_of_neg ht).symm
  rw [readTags, readTags, hread]
  cases data.mapM Tag.ofValue with
  | error e => rfl
  | ok ts => rfl

theorem run_of_not_admits (ha : k.admits value = false) (tags : Except Error (List Tag)) :
    k.run value tags throwing path =
      ([], report throwing (.typeMismatch k.name value) value path) := by
  unfold run
  rw [ha]
  rfl

theorem run_error (ha : k.admits value = true) (e : Error) :
    k.run value (.error e) throwing path = ([], .error e) := by
  unfold run
  rw [ha]
  rfl

theorem run_ok (ha : k.admits value = true) (ts : List Tag) :
    k.run value (.ok ts) throwing path =
      ((k.rules.judge value ts).1,
        match (k.rules.judge value ts).2 with
        | .accepted => .ok true
        | .refused t => report throwing (.tagViolation ts t value) value path
        | .raised e => .error e) := by
  unfold run
  rw [ha]
  simp only [Bool.not_true, Bool.false_eq_true, if_false]
  rcases k.rules.judge value ts with ⟨called, _ | t | e⟩
  · rfl
  · rfl
  · rfl

/-- The words of a failure are all that another list of tags changes in it. Whether there are words
    is up to the value alone. -/
theorem reworded_tagViolation (throwing : Bool) (ts ts' : List Tag) (t : Tag) (value : Value)
    (path : Path) :
    Reworded throwing (report throwing (.tagViolation ts t value) value path)
      (report throwing (.tagViolation ts' t value) value path) := by
  cases throwing with
  | false => exact .same _
  | true =>
    have hwords := Report.worded_tagViolation ts t value
    have hwords' := Report.worded_tagViolation ts' t value
    unfold report Told.tagViolation
    generalize Report.tagViolation ts t value = message,
      Report.tagViolation ts' t value = message' at hwords hwords' ⊢
    cases hwords with
    | given m h =>
      cases hwords' with
      | given m' _ => exact .failure rfl rfl rfl rfl
      | lacking hno => exact absurd h hno
    | lacking h =>
      cases hwords' with
      | given m' hyes => exact absurd hyes h
      | lacking _ => exact .same _

/-- Tags without a rule have no part in the calls, and in the outcome only in the words of a failure. -/
theorem run_filter (k : Combinator) (value : Value) (tags : Except Error (List Tag)) (throwing : Bool)
    (path : Path) :
    (k.run value (tags.map (·.filter k.rules.covers)) throwing path).1 =
        (k.run value tags throwing path).1 ∧
      Reworded throwing (k.run value (tags.map (·.filter k.rules.covers)) throwing path).2
        (k.run value tags throwing path).2 := by
  cases ha : k.admits value with
  | false =>
    rw [run_of_not_admits ha, run_of_not_admits ha]
    exact ⟨rfl, .same _⟩
  | true =>
    cases tags with
    | error e => exact ⟨rfl, .same _⟩
    | ok ts =>
      have hread : (Except.ok ts : Except Error (List Tag)).map (·.filter k.rules.covers) =
          .ok (ts.filter k.rules.covers) := rfl
      rw [hread, run_ok ha, run_ok ha, RuleTable.judge_filter]
      refine ⟨rfl, ?_⟩
      cases (k.rules.judge value ts).2 with
      | accepted => exact .same _
      | refused t => exact reworded_tagViolation throwing _ ts t value path
      | raised e => exact .same _

/-- What the refusal of a value comes to. -/
inductive Refusal (throwing : Bool) (cause : Failure.Cause) (message : Except Fault String)
    (value : Value) (path : Path) : Outcome → Prop where
  /-- Where failures are not reported, no. -/
  | silent (ht : throwing = false) : Refusal throwing cause message value path (.ok false)
  /-- Where they are, the failure, if all integers in the value can be written. -/
  | told {words : String} (ht : throwing = true) (hv : value.isLegible = true)
      (hwords : message = .ok words) :
      Refusal throwing cause message value path (.error (.failure ⟨cause, words, value, path⟩))
  /-- Else an integer that is too long. -/
  | lacking (ht : throwing = true) (hv : value.isLegible = false) :
      Refusal throwing cause message value path (.error (.fault .tooLong))

theorem Refusal.eq_false {cause : Failure.Cause} {message : Except Fault String} {o : Outcome}
    (h : Refusal false cause message value path o) : o = .ok false := by
  cases h with
  | silent _ => rfl
  | told ht => cases ht
  | lacking ht => cases ht

theorem refusal_report {message : Except Fault String} (h : Worded message (value.isLegible = true))
    (cause : Failure.Cause) :
    Refusal throwing cause message value path
      (report throwing (message >>= fun words => pure (cause, words)) value path) := by
  cases throwing with
  | false => exact .silent rfl
  | true =>
    cases h with
    | given words hv => exact .told rfl hv rfl
    | lacking hv => exact .lacking rfl (by simpa using hv)

/-- What a check of a value against tags that are given as data comes to, in both modes. A value that is
    not of the type is refused whatever the data is, no rule being called. Else the data is read in full:
    the first piece that is no tag ends the check, again with no rule called. Then the rules of the tags
    that have one are called in order, up to the first that does not accept, and this one decides: its
    error is passed on, and its refusal is a failure that names the tag, its argument, the value and the
    path. A failure that is reported has a message, so in its place there is a fault if an integer in the
    value is too long to be written. Data that stands for tags without a rule, put in or left out at any
    place, leaves the calls and the outcome as they are, but for the message of a failure. -/
theorem run_decided (k : Combinator) (value : Value) (throwing : Bool) (path : Path) :
    (k.admits value = false → ∀ tags, (k.run value tags throwing path).1 = [] ∧
      Refusal throwing (.typeMismatch k.name) (Report.typeMismatch k.name value) value path
        (k.run value tags throwing path).2) ∧
    (k.admits value = true → ∀ (before : List Value) x after (ts : List Tag) complaint,
      before.map Tag.ofValue = ts.map Except.ok → Tag.ofValue x = .error complaint →
        k.run value (readTags (before ++ x :: after)) throwing path =
          ([], .error (.fault (.ofComplaint complaint)))) ∧
    (k.admits value = true → ∀ (data : List Value) (ts : List Tag),
      data.map Tag.ofValue = ts.map Except.ok →
        ∃ called verdict, k.rules.Called value (ts.filter k.rules.covers) called verdict ∧
        (k.run value (readTags data) throwing path).1 = called ∧
        match verdict with
        | .accepted => (k.run value (readTags data) throwing path).2 = .ok true
        | .refused t =>
          Refusal throwing (.tagViolation t.name t.argument) (Report.tagViolation ts t value) value
            path (k.run value (readTags data) throwing path).2
        | .raised e => (k.run value (readTags data) throwing path).2 = .error e) ∧
    ∀ data data' : List Value, data'.filter k.rules.counts = data.filter k.rules.counts →
      (k.run value (readTags data') throwing path).1 = (k.run value (readTags data) throwing path).1 ∧
        Reworded throwing (k.run value (readTags data) throwing path).2
          (k.run value (readTags data') throwing path).2 := by
  refine ⟨fun ha tags => ?_, ?_, ?_, ?_⟩
  · rw [run_of_not_admits ha]
    exact ⟨rfl, refusal_report (Report.worded_typeMismatch k.name value) _⟩
  · intro ha before x after ts complaint hbefore hx
    have hread : readTags (before ++ x :: after) = .error (.fault (.ofComplaint complaint)) := by
      rw [readTags, mapM_eq_error hbefore hx]
      rfl
    rw [hread, run_error ha]
  · intro ha data ts hdata
    have hread : readTags data = .ok ts := by
      rw [readTags, mapM_eq_ok_of_map hdata]
      rfl
    rw [hread, run_ok ha]
    refine ⟨_, _, RuleTable.called_judge k.rules value ts, rfl, ?_⟩
    cases (k.rules.judge value ts).2 with
    | accepted => rfl
    | refused t => exact refusal_report (Report.worded_tagViolation ts t value) _
    | raised e => rfl
  · intro data data' hdata
    obtain ⟨hcalls, hwords⟩ := run_filter k value (readTags data) throwing path
    obtain ⟨hcalls', hwords'⟩ := run_filter k value (readTags data') throwing path
    rw [← readTags_filter] at hcalls hwords
    rw [← readTags_filter, hdata] at hcalls' hwords'
    exact ⟨hcalls'.symm.trans hcalls, hwords.join hwords'⟩

/-- A refusal that is to be reported comes to grief on an integer that is too long, whatever the tags. -/
theorem run_tooLong :
    (ofPrimitive ⟨Primitive.builtIn⟩ .string).admits .tooLong = false ∧
      (ofPrimitive ⟨Primitive.builtIn⟩ .string).run .tooLong (.ok []) true [] =
        ([], .error (.fault .tooLong)) := by
  have ha : (ofPrimitive ⟨Primitive.builtIn⟩ .string).admits .tooLong = false := rfl
  refine ⟨ha, ?_⟩
  rw [run_of_not_admits ha, report, if_pos rfl,
    (Told.worded_typeMismatch _ _).eq_error Value.isLegible_tooLong]
  rfl

/-- The checker for numbers, with the rules that are built in. -/
def numbers : Combinator := ofPrimitive ⟨Primitive.builtIn⟩ .number

/-- Bounds as data, with a note between them. -/
def boundsData : List Value :=
  [.list [.string "min", .int 1], .list [.string "note"], .tuple [.string "@max", .string "3 "],
    .list [.string "min", .string "6"]]

/-- The tags that the bounds stand for. -/
def boundsTags : List Tag := [⟨"min", "1"⟩, ⟨"note", ""⟩, ⟨"max", "3"⟩, ⟨"min", "6"⟩]

theorem run_decided_bounds :
    numbers.admits (.string "5") = false ∧ numbers.admits (.int 5) = true ∧
    boundsData.map Tag.ofValue = boundsTags.map Except.ok ∧
    numbers.run (.string "5") (readTags boundsData) false [] = ([], .ok false) ∧
    numbers.run (.int 5) (readTags (boundsData ++ [.int 3])) false [] =
      ([], .error (.fault (.ofComplaint (.here .notTag)))) ∧
    (∃ called verdict,
      numbers.rules.Called (.int 5) (boundsTags.filter numbers.rules.covers) called verdict ∧
      (numbers.run (.int 5) (readTags boundsData) false []).1 = called) ∧
    (numbers.run (.int 5) (readTags (boundsData.filter numbers.rules.counts)) false []).1 =
      (numbers.run (.int 5) (readTags boundsData) false []).1 := by
  have htext : numbers.admits (.string "5") = false := rfl
  have hnumber : numbers.admits (.int 5) = true := rfl
  have hdata : boundsData.map Tag.ofValue = boundsTags.map Except.ok := rfl
  obtain ⟨hrefuses, -, -, -⟩ := run_decided numbers (.string "5") false []
  obtain ⟨-, hstops, hcalls, hskips⟩ := run_decided numbers (.int 5) false []
  refine ⟨htext, hnumber, hdata, ?_, hstops hnumber boundsData _ [] _ _ hdata rfl, ?_, ?_⟩
  · obtain ⟨hcalled, hrefusal⟩ := hrefuses htext (readTags boundsData)
    exact Prod.ext hcalled hrefusal.eq_false
  · obtain ⟨called, verdict, hcalled, hrun, -⟩ := hcalls hnumber boundsData boundsTags hdata
    exact ⟨called, verdict, hcalled, hrun⟩
  · exact (hskips boundsData (boundsData.filter numbers.rules.counts) (by simp)).1

/-- A tag without a rule is passed over, and no rule is called after one that refuses the value. -/
example : numbers.run (.int 5) (readTags boundsData) false [] =
    ([⟨"min", "1"⟩, ⟨"max", "3"⟩], .ok false) := by rfl

end Combinator

end Conform
