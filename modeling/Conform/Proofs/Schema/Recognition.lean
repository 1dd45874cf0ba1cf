import Conform.Proofs.Entries
import Conform.Proofs.Schema.Form
import Conform.Proofs.Value.Legible

/-!
# Recognizing the form of schema nodes

A reading recognizes a form if it succeeds exactly on data of that form. Readings that are made one
after the other recognize what each of them does, so a node is recognized as soon as its fields are.
Data without marks of absence is read as a node exactly if it has the form of one
(`recognizes_ofValue`). A mark of absence in the argument of a tag would be met by a complaint of its
own; in other data no reading ends in that complaint.
-/

namespace Conform

namespace Complaint

@[simp]
theorem here_cause (cause : Cause) : (here cause).cause = cause := rfl

@[simp]
theorem within_cause (step : String) (c : Complaint) : (c.within step).cause = c.cause := rfl

end Complaint

namespace Schema

open Outcome

/-! ## Recognition -/

/-- A reading that succeeds exactly if something holds, and that never ends in the complaint that a
    mark of absence cannot be written. -/
structure Recognizes {α : Type} (o : Except Complaint α) (P : Prop) : Prop where
  /-- It succeeds exactly if the property holds. -/
  succeeds : (∃ a, o = .ok a) ↔ P
  /-- Its complaints have other causes. -/
  cause_ne : ∀ c, o = .error c → c.cause ≠ .unwritable

namespace Recognizes

variable {α β : Type} {o : Except Complaint α} {P Q : Prop}

theorem ok (a : α) (h : P) : Recognizes (.ok a) P := ⟨iff_of_true ⟨a, rfl⟩ h, by simp⟩

theorem error {c : Complaint} (hc : c.cause ≠ .unwritable) (h : ¬P) :
    Recognizes (.error c : Except Complaint α) P := by
  refine ⟨iff_of_false (by simp) h, fun c' hc' => ?_⟩
  cases hc'
  exact hc

theorem congr (h : Recognizes o P) (hpq : P ↔ Q) : Recognizes o Q :=
  ⟨h.succeeds.trans hpq, h.cause_ne⟩

/-- Where a complaint is seen from makes no difference. -/
theorem within (h : Recognizes o P) (step : String) :
    Recognizes (o.mapError (·.within step)) P := by
  refine ⟨by simpa only [mapError_eq_ok] using h.succeeds, fun c hc => ?_⟩
  obtain ⟨c', hc', rfl⟩ := mapError_eq_error hc
  exact h.cause_ne c' hc'

/-- Two readings one after the other recognize what each of them does. -/
theorem bind {next : α → Except Complaint β} (h : Recognizes o P)
    (hnext : ∀ a, Recognizes (next a) Q) : Recognizes (o >>= next) (P ∧ Q) := by
  constructor
  · rw [← h.succeeds]
    constructor
    · rintro ⟨b, hb⟩
      obtain ⟨a, ha, hb⟩ := bind_eq_ok.1 hb
      exact ⟨⟨a, ha⟩, (hnext a).succeeds.1 ⟨b, hb⟩⟩
    · rintro ⟨⟨a, ha⟩, hq⟩
      obtain ⟨b, hb⟩ := (hnext a).succeeds.2 hq
      exact ⟨b, bind_eq_ok.2 ⟨a, ha, hb⟩⟩
  · intro c hc
    cases ho : o with
    | error e =>
      rw [ho] at hc
      cases hc
      exact h.cause_ne c ho
    | ok a =>
      rw [ho] at hc
      exact (hnext a).cause_ne c hc

/-- A last step that only puts together what was read. -/
theorem map {f : α → β} (h : Recognizes o P) :
    Recognizes (o >>= fun a => Except.ok (f a)) P :=
  (h.bind fun _ => ok _ trivial).congr (and_iff_left trivial)

end Recognizes

/-- A list is recognized if each of its items is. -/
theorem recognizes_readEach {α : Type} {read : Value → Except Complaint α} {P : Value → Prop}
    {vs : List Value} (h : ∀ x ∈ vs, Recognizes (read x) (P x)) (i : Nat) :
    Recognizes (readEach read i vs) (∀ x ∈ vs, P x) := by
  induction vs generalizing i with
  | nil => exact .ok _ (by simp)
  | cons v vs ih =>
    rw [List.forall_mem_cons] at h
    have hhead := h.1.within (toString i)
    exact (hhead.bind fun a => (ih h.2 (i + 1)).map).congr List.forall_mem_cons.symm

/-! ## Fields without nodes -/

theorem readTypeName_eq_ok {es : List (String × Value)} {s : String} :
    readTypeName es = .ok s ↔ typeNameEntry? es = some (.string s) := by
  have hentry : (typeKeys.findSome? fun k => (es.lookup k).map fun v => (k, v)).map Prod.snd =
      typeNameEntry? es := by
    unfold typeNameEntry?
    simp only [typeKeys, List.findSome?_cons, List.findSome?_nil]
    cases es.lookup "type" with
    | some v => rfl
    | none =>
      cases es.lookup "typeName" with
      | some v => rfl
      | none => cases es.lookup "type_name" <;> rfl
  rw [← hentry]
  unfold readTypeName
  cases typeKeys.findSome? fun k => (es.lookup k).map fun v => (k, v) with
  | none => simp
  | some e =>
    obtain ⟨k, v⟩ := e
    cases v <;> simp

theorem recognizes_readTypeName (es : List (String × Value)) :
    Recognizes (readTypeName es) (∃ s, typeNameEntry? es = some (.string s)) := by
  refine ⟨exists_congr fun s => readTypeName_eq_ok, fun c hc => ?_⟩
  unfold readTypeName at hc
  split at hc
  · cases hc
    simp
  · cases hc
  · cases hc
    simp

theorem recognizes_boolOfValue (v : Value) :
    Recognizes (boolOfValue v) (∃ b, SpellsBool b v) := by
  refine ⟨exists_congr fun b => boolOfValue_eq_ok, fun c hc => ?_⟩
  have hint : ∀ n, boolOfInt n = .error c → c.cause ≠ .unwritable := by
    intro n h
    unfold boolOfInt at h
    split_ifs at h
    cases h
    simp
  cases v with
  | bool b => cases hc
  | int n =>
    simp only [boolOfValue] at hc
    split at hc
    · exact hint n hc
    · cases hc
      simp
  | double d =>
    simp only [boolOfValue] at hc
    split at hc
    · split at hc
      · exact hint _ hc
      · cases hc
        simp
    · cases hc
      simp
  | string s =>
    simp only [boolOfValue] at hc
    split_ifs at hc
    cases hc
    simp
  | _ =>
    cases hc
    simp

theorem recognizes_readFlag (es : List (String × Value)) (key : String) :
    Recognizes (readFlag es key) (∃ b, SpellsBool b (field es key (.bool false))) := by
  rw [readFlag_eq]
  exact (recognizes_boolOfValue _).within key

theorem recognizes_readFlags (es : List (String × Value)) :
    Recognizes (readFlags es) (∀ k ∈ flagKeys, ∃ b, SpellsBool b (field es k (.bool false))) := by
  have hflag := recognizes_readFlag es
  simp only [flagKeys, List.forall_mem_cons, List.not_mem_nil, false_implies, implies_true, and_true]
  exact (hflag _).bind fun optional => (hflag _).bind fun union => (hflag _).bind
    fun intersection => (hflag _).bind fun literal => (hflag _).bind fun array => (hflag _).map

/-! ## Data without marks of absence -/

theorem areWritable_iff {vs : List Value} :
    Json.areWritable vs = true ↔ ∀ x ∈ vs, Json.isWritable x = true := by
  induction vs with
  | nil => simp [Json.areWritable]
  | cons v vs ih => rw [Json.areWritable, Bool.and_eq_true, ih, List.forall_mem_cons]

theorem entriesWritable_iff {es : List (String × Value)} :
    Json.entriesWritable es = true ↔ ∀ e ∈ es, Json.isWritable e.2 = true := by
  induction es with
  | nil => simp [Json.entriesWritable]
  | cons e es ih => rw [Json.entriesWritable, Bool.and_eq_true, ih, List.forall_mem_cons]

theorem isWritable_item {v x : Value} {vs : List Value} (h : Json.isWritable v = true)
    (hv : v.items? = some vs) (hx : x ∈ vs) : Json.isWritable x = true := by
  cases v with
  | list xs =>
    cases hv
    exact areWritable_iff.1 (by simpa only [Json.isWritable] using h) x hx
  | tuple xs =>
    cases hv
    exact areWritable_iff.1 (by simpa only [Json.isWritable] using h) x hx
  | _ => cases hv

theorem isWritable_entry {es : List (String × Value)} {e : String × Value}
    (h : Json.isWritable (.object es) = true) (he : e ∈ es) : Json.isWritable e.2 = true := by
  rw [Json.isWritable] at h
  exact entriesWritable_iff.1 h e he

theorem isWritable_lookup {es : List (String × Value)} {k : String} {v : Value}
    (h : Json.isWritable (.object es) = true) (hv : es.lookup k = some v) :
    Json.isWritable v = true :=
  isWritable_entry h (Entries.mem_of_lookup hv)

theorem isWritable_field {es : List (String × Value)} (k : String) (default : Value)
    (h : Json.isWritable (.object es) = true) (hd : Json.isWritable default = true) :
    Json.isWritable (field es k default) = true := by
  unfold field
  cases hv : es.lookup k with
  | none => exact hd
  | some v => exact isWritable_lookup h hv

mutual

/-- There is no mark of absence among the parts of data that can be written without it. -/
theorem missing_not_mem_atoms :
    ∀ v, Json.isWritable v = true → Value.missing ∉ v.atoms
  | .list xs, h => missing_not_mem_itemAtoms xs h
  | .tuple xs, h => missing_not_mem_itemAtoms xs h
  | .object es, h => missing_not_mem_entryAtoms es h
  | .missing, h => absurd h (by simp [Json.isWritable])
  | .null, _ | .bool _, _ | .int _, _ | .double _, _ | .string _, _ => by simp [Value.atoms]

theorem missing_not_mem_itemAtoms :
    ∀ xs, Json.areWritable xs = true → Value.missing ∉ Value.itemAtoms xs
  | [], _ => List.not_mem_nil
  | x :: xs, h => by
    obtain ⟨hx, hxs⟩ := Bool.and_eq_true_iff.1 h
    rw [Value.itemAtoms, List.mem_append, not_or]
    exact ⟨missing_not_mem_atoms x hx, missing_not_mem_itemAtoms xs hxs⟩

theorem missing_not_mem_entryAtoms :
    ∀ es, Json.entriesWritable es = true → Value.missing ∉ Value.entryAtoms es
  | [], _ => List.not_mem_nil
  | (k, x) :: es, h => by
    obtain ⟨hx, hes⟩ := Bool.and_eq_true_iff.1 h
    rw [Value.entryAtoms, List.mem_append, not_or]
    exact ⟨missing_not_mem_atoms x hx, missing_not_mem_entryAtoms es hes⟩

end

/-! ## Tags -/

theorem partObstacle?_of_ne {v : Value} (h : v ≠ .missing) :
    Tag.partObstacle? v = if v.isShort then none else some .integerTooLongToWrite := by
  cases v with
  | missing => exact absurd rfl h
  | _ => rfl

/-- Without marks of absence nothing but an integer that is too long keeps an argument from being
    written. -/
theorem obstacle?_cases {v : Value} (h : Json.isWritable v = true) :
    Tag.obstacle? v = none ∧ v.isLegible = true ∨
      Tag.obstacle? v = some .integerTooLongToWrite ∧ v.isLegible = false := by
  have hpart : ∀ a ∈ v.atoms,
      Tag.partObstacle? a = if a.isShort then none else some .integerTooLongToWrite := by
    intro a ha
    refine partObstacle?_of_ne fun hmissing => ?_
    exact missing_not_mem_atoms v h (hmissing ▸ ha)
  cases ho : Tag.obstacle? v with
  | none =>
    refine Or.inl ⟨rfl, Value.isLegible_iff.2 fun a ha => ?_⟩
    have hnone := List.findSome?_eq_none_iff.1 ho a ha
    rw [hpart a ha] at hnone
    simpa using hnone
  | some cause =>
    obtain ⟨a, ha, hsome⟩ := List.exists_of_findSome?_eq_some ho
    rw [hpart a ha] at hsome
    split at hsome
    · cases hsome
    · rename_i hlong
      refine Or.inr ⟨hsome.symm, ?_⟩
      rw [Value.isLegible, List.all_eq_false]
      exact ⟨a, ha, hlong⟩

theorem recognizes_argumentText {argument : Option Value}
    (h : ∀ v, argument = some v → Json.isWritable v = true) :
    Recognizes (Tag.argumentText argument) (∀ v, argument = some v → v.isLegible = true) := by
  unfold Tag.argumentText
  split
  · exact .ok _ nofun
  · refine .ok _ fun v hv => ?_
    cases hv
    rfl
  · refine .ok _ fun v hv => ?_
    cases hv
    rfl
  · rename_i v _ _
    rcases obstacle?_cases (h v rfl) with ⟨ho, hv⟩ | ⟨ho, hv⟩
    · rw [ho]
      exact .ok _ (by simpa using hv)
    · rw [ho]
      exact .error (by simp) (by simp [hv])

theorem recognizes_make (name argument : String) :
    Recognizes (Tag.make name argument) (Tag.normalName name.toList ≠ []) := by
  unfold Tag.make
  simp only [List.isEmpty_iff]
  split_ifs with h
  · exact .error (by simp) (not_not_intro h)
  · exact .ok _ h

theorem recognizes_ofFields {name argument : Option Value}
    (h : ∀ v, argument = some v → Json.isWritable v = true) :
    Recognizes (Tag.ofFields name argument) ((∃ v, name = some v ∧ NameForm v) ∧
      ∀ v, argument = some v → v.isLegible = true) := by
  refine ((recognizes_argumentText h).bind fun text => ?_).congr and_comm
  split
  · exact .error (by simp) (by simp)
  · refine (recognizes_make _ text).congr ?_
    simp [NameForm]
  · rename_i v hv
    refine .error (by simp) ?_
    rintro ⟨_, heq, s, rfl, -⟩
    cases heq
    exact hv s rfl

theorem recognizes_ofItems {items : List Value} (h : ∀ v ∈ items, Json.isWritable v = true) :
    Recognizes (Tag.ofItems items) ((∃ name, items = [name] ∧ NameForm name) ∨
      ∃ name argument, items = [name, argument] ∧ NameForm name ∧ argument.isLegible = true) := by
  unfold Tag.ofItems
  split
  · refine (recognizes_ofFields fun v hv => ?_).congr (by simp)
    cases hv
  · refine (recognizes_ofFields fun v hv => ?_).congr (by simp)
    cases hv
    exact h _ (by simp)
  · rename_i hone htwo
    refine .error (by simp) ?_
    rintro (⟨name, rfl, -⟩ | ⟨name, argument, rfl, -⟩)
    · exact hone name rfl
    · exact htwo name argument rfl

theorem recognizes_tag {v : Value} (h : Json.isWritable v = true) :
    Recognizes (Tag.ofValue v) (TagForm v) := by
  have hitems : ∀ items, v.items? = some items → Recognizes (Tag.ofItems items) (TagForm v) := by
    intro items hv
    have hwritable : ∀ x ∈ items, Json.isWritable x = true := fun x hx => isWritable_item h hv hx
    exact (recognizes_ofItems hwritable).congr (tagForm_of_items hv).symm
  cases v with
  | list items => exact hitems items rfl
  | tuple items => exact hitems items rfl
  | object es =>
    exact (recognizes_ofFields fun x hx => isWritable_lookup h hx).congr tagForm_object.symm
  | _ =>
    refine .error (by simp) fun h => ?_
    cases h with
    | name hv h => cases hv
    | pair hv h => cases hv

theorem recognizes_readTags {es : List (String × Value)} (h : Json.isWritable (.object es) = true) :
    Recognizes (readTags es) (TagsForm (field es "tags" (.list []))) := by
  have hfield := isWritable_field "tags" (.list []) h rfl
  rw [readTags_eq]
  unfold TagsForm
  cases hv : (field es "tags" (.list [])).items? with
  | none => exact .error (by simp) (by simp)
  | some vs =>
    have htags : ∀ x ∈ vs, Recognizes (Tag.ofValue x) (TagForm x) := fun x hx =>
      recognizes_tag (isWritable_item hfield hv hx)
    simp only [readTagItems_eq]
    exact ((recognizes_readEach htags 0).within "tags").congr (by simp)

/-! ## Payloads and fallbacks -/

theorem recognizes_readProperties {es : List (String × Value)}
    (h : ∀ e ∈ es, Recognizes (Tree.ofValue e.2) (NodeForm e.2)) :
    Recognizes (readProperties es) (∀ e ∈ es, NodeForm e.2) := by
  induction es with
  | nil => exact .ok _ (by simp)
  | cons e es ih =>
    rw [List.forall_mem_cons] at h ⊢
    have hhead := h.1.within e.1
    exact hhead.bind fun t => (ih h.2).map

theorem memberForm_iff {v : Value} (h : Recognizes (Tree.ofValue v) (NodeForm v)) :
    MemberForm v ↔ ∃ m, ReadsMember v m := by
  constructor
  · intro hm
    cases hm with
    | scalar hs => exact ⟨_, .bare hs⟩
    | node hn =>
      obtain ⟨t, ht⟩ := h.succeeds.2 hn
      exact ⟨_, .node ht⟩
  · rintro ⟨m, hm⟩
    cases hm with
    | node ht => exact .node (h.succeeds.1 ⟨_, ht⟩)
    | bare hs => exact .scalar hs

theorem exists_readMembers {vs : List Value}
    (h : ∀ x ∈ vs, Recognizes (Tree.ofValue x) (NodeForm x)) :
    (∃ ms, readMembers vs = some ms) ↔ ∀ x ∈ vs, MemberForm x := by
  simp only [readMembers_eq_some]
  induction vs with
  | nil => simp
  | cons v vs ih =>
    rw [List.forall_mem_cons] at h ⊢
    rw [memberForm_iff h.1, ← ih h.2]
    simp only [List.forall₂_cons_left_iff]
    constructor
    · rintro ⟨_, m, ms, hm, hms, rfl⟩
      exact ⟨⟨m, hm⟩, ms, hms⟩
    · rintro ⟨⟨m, hm⟩, ms, hms⟩
      exact ⟨_, m, ms, hm, hms, rfl⟩

section Parts

/- The parts of data are recognized, given that whatever is smaller than the data is. -/
variable {v : Value} (ih : ∀ x, sizeOf x < sizeOf v → Json.isWritable x = true →
  Recognizes (Tree.ofValue x) (NodeForm x)) (h : Json.isWritable v = true)

include ih h

theorem recognizes_item {vs : List Value} (hv : v.items? = some vs) :
    ∀ x ∈ vs, Recognizes (Tree.ofValue x) (NodeForm x) := by
  intro x hx
  exact ih x (Value.sizeOf_lt_of_items hv hx) (isWritable_item h hv hx)

theorem recognizes_entry {es : List (String × Value)} (hv : v = .object es) :
    ∀ e ∈ es, Recognizes (Tree.ofValue e.2) (NodeForm e.2) := by
  subst hv
  intro e he
  exact ih e.2 (Value.sizeOf_lt_of_entries rfl he) (isWritable_entry h he)

theorem recognizes_readPayload : Recognizes (readPayload v) (ChildrenForm v) := by
  have hitems : ∀ vs, v.items? = some vs → Recognizes (readPayload v) (ChildrenForm v) := by
    intro vs hv
    have hmembers := exists_readMembers (recognizes_item ih h hv)
    rw [readPayload_of_items hv, childrenForm_of_items hv, ← hmembers]
    cases readMembers vs with
    | none => exact .error (by simp [notAPayload]) (by simp)
    | some ms => exact .ok _ ⟨ms, rfl⟩
  cases v with
  | missing => cases h
  | list vs => exact hitems vs rfl
  | tuple vs => exact hitems vs rfl
  | object es =>
    have hproperties := recognizes_readProperties (recognizes_entry ih h rfl)
    rw [readPayload, childrenForm_object]
    exact (hproperties.within propertiesStep).map
  | _ => exact .ok _ (.scalar rfl)

theorem recognizes_readFallback : Recognizes (readFallback v) (NodesForm v) := by
  have hitems : ∀ vs, v.items? = some vs → readFallback v = readTrees 0 vs →
      Recognizes (readFallback v) (NodesForm v) := by
    intro vs hv hread
    have htrees := recognizes_readEach (recognizes_item ih h hv) 0
    rw [hread, readTrees_eq, nodesForm_iff]
    exact htrees.congr (by simp [hv])
  cases v with
  | list vs => exact hitems vs rfl (by rw [readFallback])
  | tuple vs => exact hitems vs rfl (by rw [readFallback])
  | _ => exact .error (by simp) (by simp [nodesForm_iff, Value.items?])

end Parts

/-! ## Nodes -/

theorem sizeOf_field_le (es : List (String × Value)) (k : String) (default : Value)
    (hd : sizeOf default ≤ 2) : sizeOf (field es k default) ≤ sizeOf (Value.object es) := by
  rw [Value.object.sizeOf_spec]
  unfold field
  cases hv : es.lookup k with
  | none =>
    have hpos : 0 < sizeOf es := by
      cases es with
      | nil => simp
      | cons e es =>
        rw [List.cons.sizeOf_spec]
        omega
    exact Nat.le_trans hd (by omega)
  | some v =>
    have hlt := List.sizeOf_lt_of_mem (Entries.mem_of_lookup hv)
    rw [Prod.mk.sizeOf_spec] at hlt
    exact show sizeOf v ≤ _ by omega

/-- Data without marks of absence is read as a node exactly if it has the form of one. -/
theorem recognizes_ofValue {v : Value} (h : Json.isWritable v = true) :
    Recognizes (Tree.ofValue v) (NodeForm v) := by
  -- on the size of the data: the nodes below a node are parts of its fields, not of the node
  induction hk : sizeOf v using Nat.strongRecOn generalizing v with
  | _ k ih =>
    have hsmaller : ∀ x, sizeOf x < sizeOf v → Json.isWritable x = true →
        Recognizes (Tree.ofValue x) (NodeForm x) := fun x hx hw => ih _ (hk ▸ hx) hw rfl
    cases v with
    | object es =>
      have hpayload : Recognizes (findPayload es) (ChildrenForm (field es "children" .null)) := by
        have hle := sizeOf_field_le es "children" .null (by simp)
        rw [findPayload_eq]
        exact (recognizes_readPayload (fun x hx => hsmaller x (by omega))
          (isWritable_field _ _ h rfl)).within _
      have hfallback : Recognizes (findFallback es) (NodesForm (field es "fallback" (.list []))) := by
        have hle := sizeOf_field_le es "fallback" (.list []) (by simp)
        rw [findFallback_eq]
        exact (recognizes_readFallback (fun x hx => hsmaller x (by omega))
          (isWritable_field _ _ h rfl)).within _
      rw [Tree.ofValue, nodeForm_object]
      exact (recognizes_readTypeName es).bind fun typeName => (recognizes_readFlags es).bind
        fun flags => (recognizes_readTags h).bind fun tags => hpayload.bind
        fun payload => hfallback.map
    | _ =>
      refine .error (by simp) fun hform => ?_
      obtain ⟨es, hes⟩ := hform.exists_entries
      cases hes

end Schema

end Conform
