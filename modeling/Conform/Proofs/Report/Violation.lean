import Conform.Proofs.Json.Decoded
import Conform.Proofs.Report.Template
import Conform.Proofs.Report.Words
import Conform.Proofs.Tag.Stability

/-!
# Messages for refused values

The first tag named `error` holds the message for a value that a tag refuses. What it says depends on its
argument: a document of an object has templates under the names of tags, any other text is the template
itself, and nothing is said by an empty text or by an object without the name; then the message names the
value and the tag. Tags are kept with their arguments trimmed, so an argument that is a document of an
object starts with the brace.
-/

namespace Conform.Json

open Text

theorem isBlank_of_isSpace {c : Char} (h : isSpace c = true) : isBlank c = true := by
  simp only [isSpace, Bool.or_eq_true, decide_eq_true_eq] at h
  rcases h with ((rfl | rfl) | rfl) | rfl
  · decide
  · decide
  · decide
  · decide

/-- A document of an object, without white space in front, starts with the brace. -/
theorem head?_of_read {s : List Char} {es : List (String × Value)} (hs : Trimmed s)
    (h : read s = .ok (.object es)) : s.head? = some '\x7b' := by
  have hskip : skip s = s := by
    refine dropWhile_eq_self_of_head fun c hc => ?_
    by_contra hspace
    have hblank := isBlank_of_isSpace (by simpa using hspace)
    rw [hs.head c hc] at hblank
    cases hblank
  have hvalue : ∃ r, value (2 * s.length + 2) s = .ok (.object es, r) := by
    unfold read at h
    split at h
    · cases h
    · unfold document at h
      rw [hskip] at h
      split at h
      · cases h
      · rename_i v r hread
        split at h
        · cases h
          exact ⟨r, hread⟩
        · cases h
  obtain ⟨r, hvalue⟩ := hvalue
  unfold value at hvalue
  split at hvalue
  · obtain ⟨p, -, hp⟩ := map_eq_ok hvalue
    cases hp
  · split at hvalue
    · cases hvalue
    · obtain ⟨p, -, hp⟩ := map_eq_ok hvalue
      cases hp
  · rfl
  · have hplain : Plain (.object es) := atom_plain hvalue
    cases hplain.2

end Conform.Json

namespace Conform.Report

open Text

variable {tags : List Tag} {tag e : Tag} {value : Value}

/-! ## The template -/

/-- The first tag of a list that is named `error`. -/
def FirstError (tags : List Tag) (e : Tag) : Prop :=
  ∃ before after, tags = before ++ e :: after ∧ e.name = "error" ∧ ∀ t ∈ before, t.name ≠ "error"

theorem template?_of_firstError (h : FirstError tags e) :
    template? tags = some (.ofArgument e.argument) := by
  obtain ⟨before, after, rfl, hname, hbefore⟩ := h
  have hfind : (before ++ e :: after).find? (·.name = Tag.errorName) = some e := by
    refine List.find?_eq_some_iff_append.2 ⟨decide_eq_true hname, before, after, rfl, fun t ht => ?_⟩
    have hne : t.name ≠ Tag.errorName := hbefore t ht
    simpa using hne
  rw [template?, hfind]
  rfl

theorem template?_eq_none (h : ∀ t ∈ tags, t.name ≠ "error") : template? tags = none := by
  have hfind : tags.find? (·.name = Tag.errorName) = none := by
    refine List.find?_eq_none.2 fun t ht => ?_
    have hne : t.name ≠ Tag.errorName := h t ht
    simpa using hne
  rw [template?, hfind]
  rfl

theorem firstError_or_none (tags : List Tag) :
    (∃ e, FirstError tags e) ∨ ∀ t ∈ tags, t.name ≠ "error" := by
  cases hfind : tags.find? (·.name = "error") with
  | none => exact Or.inr fun t ht => by simpa using List.find?_eq_none.1 hfind t ht
  | some e =>
    obtain ⟨hname, before, after, htags, hbefore⟩ := List.find?_eq_some_iff_append.1 hfind
    exact Or.inl ⟨e, before, after, htags, of_decide_eq_true hname, fun t ht => by
      simpa using hbefore t ht⟩

/-- The argument of a tag, as it is kept, is trimmed. -/
theorem trimmed_of_make {name argument : String} {t : Tag} (h : Tag.make name argument = .ok t) :
    Trimmed t.argument.toList := by
  rw [(Tag.make_eq_ok.1 h).2.2]
  exact trimmed_trim _

theorem read_of_parse {argument : String} {v : Value} (h : Json.parse argument = .ok v) :
    Json.read argument.toList = .ok v := by
  unfold Json.parse at h
  split at h
  · rename_i hread
    cases h
    exact hread
  · cases h

theorem ofArgument_object {argument : String} {es : List (String × Value)}
    (htrimmed : Trimmed argument.toList) (h : Json.parse argument = .ok (.object es)) :
    Template.ofArgument argument = .byTag (es.map fun e => (e.1, e.2.plainText)) := by
  have hbrace := Json.head?_of_read htrimmed (read_of_parse h)
  rw [Template.ofArgument, if_pos hbrace, h]

theorem ofArgument_text {argument : String}
    (h : ∀ es, Json.parse argument ≠ .ok (.object es)) :
    Template.ofArgument argument = .text argument := by
  unfold Template.ofArgument
  split
  · split
    · rename_i es hparse
      exact absurd hparse (h es)
    · rfl
  · rfl

/-! ## The message -/

/-- The message where no other is given: the value and the tag that refuses it. -/
def refusal (tag : Tag) (value : Value) : String :=
  "Value " ++ quoted value ++ " failed tag @" ++ tag.name ++
    if tag.argument = "" then "" else " " ++ tag.argument

/-- The message for a value that a tag refuses, by what the first tag named `error` has to say. -/
inductive Says (tags : List Tag) (tag : Tag) (value : Value) : String → Prop where
  /-- There is no such tag. -/
  | unset (h : ∀ t ∈ tags, t.name ≠ "error") : Says tags tag value (refusal tag value)
  /-- Its argument is empty. -/
  | empty {e : Tag} (he : FirstError tags e) (h : e.argument = "") :
      Says tags tag value (refusal tag value)
  /-- Its argument is a document of an object that does not have the name of the tag as a key. -/
  | unlisted {e : Tag} {es : List (String × Value)} (he : FirstError tags e)
      (h : Json.parse e.argument = .ok (.object es)) (hkey : tag.name ∉ es.map Prod.fst) :
      Says tags tag value (refusal tag value)
  /-- Its argument is a document of an object with the template under the name of the tag. -/
  | listed {e : Tag} {es : List (String × Value)} {template : Value} {message : String}
      (he : FirstError tags e) (h : Json.parse e.argument = .ok (.object es))
      (hentry : (tag.name, template) ∈ es) (hfills : Fills value template.plainText message) :
      Says tags tag value message
  /-- Its argument is the template. -/
  | whole {e : Tag} {message : String} (he : FirstError tags e) (hne : e.argument ≠ "")
      (h : ∀ es, Json.parse e.argument ≠ .ok (.object es)) (hfills : Fills value e.argument message) :
      Says tags tag value message

/-- The words for a value that a tag refuses, where the value can be shown. -/
def refusalWords (tags : List Tag) (tag : Tag) (value : Value) : String :=
  (((template? tags).bind (·.select? tag.name)).map (fill · (shown value))).getD (refusal tag value)

theorem tagViolation_of_legible (hv : value.isLegible = true) :
    tagViolation tags tag value = .ok (refusalWords tags tag value) := by
  have hwords : " failed tag @" = " failed tag " ++ "@" := by decide
  have hrefusal : s!"Value {quoted value} failed tag {directiveText tag}" = refusal tag value := by
    unfold directiveText refusal
    rw [hwords]
    split
    · simp only [toString, String.append_assoc, String.append_empty]
    · simp only [toString, String.append_assoc]
  unfold tagViolation refusalWords
  cases ht : (template? tags).bind (·.select? tag.name) with
  | none =>
    rw [customMessage?_of_none ht, quoteValue_eq_ok hv, ← hrefusal]
    rfl
  | some template =>
    rw [customMessage?_of_some ht, if_pos hv]
    rfl

theorem refusalWords_of_none (h : template? tags = none) :
    refusalWords tags tag value = refusal tag value := by
  rw [refusalWords, h]
  rfl

theorem refusalWords_of_firstError (he : FirstError tags e) :
    refusalWords tags tag value = (((Template.ofArgument e.argument).select? tag.name).map
      (fill · (shown value))).getD (refusal tag value) := by
  rw [refusalWords, template?_of_firstError he]
  rfl

/-- An object of templates has one under the name of the tag, as text, or none. -/
theorem lookup_texts (es : List (String × Value)) (k : String) :
    (es.map fun e => (e.1, e.2.plainText)).lookup k = (es.lookup k).map Value.plainText := by
  induction es with
  | nil => rfl
  | cons e es ih =>
    rw [List.map_cons, List.lookup_cons, List.lookup_cons, ih]
    split <;> rfl

theorem Says.eq_words {message : String} (htags : ∀ t ∈ tags, Trimmed t.argument.toList)
    (h : Says tags tag value message) : message = refusalWords tags tag value := by
  have htrimmed : ∀ {e}, FirstError tags e → Trimmed e.argument.toList := by
    rintro e ⟨before, after, rfl, -⟩
    exact htags e (List.mem_append_right before List.mem_cons_self)
  cases h with
  | unset h => exact (refusalWords_of_none (template?_eq_none h)).symm
  | @empty e he h =>
    rw [refusalWords_of_firstError he, h]
    rfl
  | @unlisted e es he h hkey =>
    rw [refusalWords_of_firstError he, ofArgument_object (htrimmed he) h, Template.select?, lookup_texts,
      Entries.lookup_eq_none.2 hkey]
    rfl
  | @listed e es template message he h hentry hfills =>
    have hn : (es.map Prod.fst).Nodup := (Json.distinctKeys_of_read (read_of_parse h)).nodup rfl
    rw [refusalWords_of_firstError he, ofArgument_object (htrimmed he) h, Template.select?, lookup_texts,
      Entries.lookup_of_mem hn hentry]
    exact fills_iff.1 hfills
  | @whole e message he hne h hfills =>
    rw [refusalWords_of_firstError he, ofArgument_text h, Template.select?, if_neg hne]
    exact fills_iff.1 hfills

theorem exists_says (tags : List Tag) (tag : Tag) (value : Value) :
    ∃ message, Says tags tag value message := by
  rcases firstError_or_none tags with ⟨e, he⟩ | hnone
  · by_cases hobject : ∃ es, Json.parse e.argument = .ok (.object es)
    · obtain ⟨es, hes⟩ := hobject
      by_cases hkey : tag.name ∈ es.map Prod.fst
      · obtain ⟨⟨k, template⟩, hentry, rfl⟩ := List.mem_map.1 hkey
        exact ⟨_, .listed he hes hentry (fills_iff.2 rfl)⟩
      · exact ⟨_, .unlisted he hes hkey⟩
    · rw [not_exists] at hobject
      by_cases hempty : e.argument = ""
      · exact ⟨_, .empty he hempty⟩
      · exact ⟨_, .whole he hempty hobject (fills_iff.2 rfl)⟩
  · exact ⟨_, .unset hnone⟩

theorem template?_congr {tags' : List Tag} (h : ∀ e, FirstError tags' e ↔ FirstError tags e) :
    template? tags' = template? tags := by
  rcases firstError_or_none tags with ⟨e, he⟩ | hnone
  · rw [template?_of_firstError he, template?_of_firstError ((h e).2 he)]
  · rcases firstError_or_none tags' with ⟨e, he⟩ | hnone'
    · obtain ⟨before, after, htags, hname, -⟩ := (h e).1 he
      exact absurd hname (hnone e (htags ▸ List.mem_append_right before List.mem_cons_self))
    · rw [template?_eq_none hnone, template?_eq_none hnone']

/-- For tags that are kept as tags are made, the message for a refused value is the one that the first
    tag named `error` says, whatever the other tags are. There is one exactly for the values in which no
    integer is too long to be written, even where the value has no place in the message. -/
theorem tagViolation_iff (tag : Tag) (value : Value)
    (htags : ∀ t ∈ tags, ∃ name argument, Tag.make name argument = .ok t) :
    (∀ message, tagViolation tags tag value = .ok message ↔
      value.isLegible = true ∧ Says tags tag value message) ∧
    (∀ e, tagViolation tags tag value = .error e ↔ value.isLegible = false ∧ e = .tooLong) ∧
    ∀ tags', (∀ e, FirstError tags' e ↔ FirstError tags e) →
      tagViolation tags' tag value = tagViolation tags tag value := by
  have htrimmed : ∀ t ∈ tags, Trimmed t.argument.toList := by
    intro t ht
    obtain ⟨name, argument, hmake⟩ := htags t ht
    exact trimmed_of_make hmake
  have hsays : ∀ message, message = refusalWords tags tag value ↔ Says tags tag value message := by
    refine fun message => ⟨?_, fun h => h.eq_words htrimmed⟩
    rintro rfl
    obtain ⟨message, hsays⟩ := exists_says tags tag value
    rw [← hsays.eq_words htrimmed]
    exact hsays
  refine ⟨fun message => ?_, fun e => ?_, fun tags' h => ?_⟩
  · cases hv : value.isLegible with
    | true => rw [tagViolation_of_legible hv, Except.ok.injEq, eq_comm, hsays, and_iff_right rfl]
    | false =>
      rw [(worded_tagViolation tags tag value).eq_error (by simp [hv])]
      simp
  · cases hv : value.isLegible with
    | true =>
      rw [tagViolation_of_legible hv]
      simp
    | false =>
      rw [(worded_tagViolation tags tag value).eq_error (by simp [hv])]
      simp [eq_comm]
  · unfold tagViolation customMessage?
    rw [template?_congr h]

/-- Templates under the names of two tags, the first of which is an integer. -/
def numberedTemplates (n : Nat) : Value := .object [("min", .int n), ("max", .string "too big")]

/-- A tag that holds these templates. -/
def numberedTag (n : Nat) : Tag := ⟨"error", String.ofList (Json.write Json.spaced (numberedTemplates n))⟩

theorem head?_numberedTag (n : Nat) : (numberedTag n).argument.toList.head? = some '\x7b' := by
  rw [numberedTag, String.toList_ofList]
  rfl

theorem numberedTag_free (n : Nat) : ¬"[value]".toList <:+: (numberedTag n).argument.toList := by
  have hdigits : '[' ∉ natText n := fun h => by cases isDigit_of_mem_natText h
  have hwrite : Json.write Json.spaced (numberedTemplates n) =
      "\x7b\"min\": ".toList ++ (natText n ++ ", \"max\": \"too big\"\x7d".toList) := by
    rw [numberedTemplates, Json.write, Json.writeEntries_cons_cons, Json.write_natCast]
    simp only [List.append_assoc, List.cons_append]
    rfl
  have hbracket : '[' ∉ (numberedTag n).argument.toList := by
    rw [numberedTag, String.toList_ofList, hwrite]
    simp [hdigits]
  rintro ⟨s, t, h⟩
  exact hbracket (by simp [← h])

/-- With an integer too long to be read, the templates are no document, but one template. -/
theorem tagViolation_numbered {n : Nat} (hn : 10 ^ Double.maxDigits ≤ n) {tag : Tag}
    (htag : tag.name ≠ "error") {value : Value} (hv : value.isLegible = true) :
    tagViolation [tag, numberedTag n] tag value = .ok (numberedTag n).argument := by
  have hparse : ∀ es, Json.parse (numberedTag n).argument ≠ .ok (.object es) := by
    intro es h
    have hread := read_of_parse h
    rw [numberedTag, String.toList_ofList, numberedTemplates,
      Json.read_object_tooLong (Value.lt_length_natText hn) Json.isSpace_spaced] at hread
    cases hread
  have hne : (numberedTag n).argument ≠ "" := fun h => by
    have hhead := head?_numberedTag n
    rw [h] at hhead
    cases hhead
  have hfirst : FirstError [tag, numberedTag n] (numberedTag n) :=
    ⟨[tag], [], rfl, rfl, List.forall_mem_singleton.2 htag⟩
  have hfills : Fills value (numberedTag n).argument (numberedTag n).argument :=
    ⟨[(numberedTag n).argument], ⟨by simp, List.forall_mem_singleton.2 (numberedTag_free n)⟩,
      String.intercalate_singleton.symm, String.intercalate_singleton.symm⟩
  have hwords : refusalWords [tag, numberedTag n] tag value = (numberedTag n).argument := by
    rw [refusalWords_of_firstError hfirst, ofArgument_text hparse, Template.select?, if_neg hne,
      Option.map_some, Option.getD_some, ← fills_iff.1 hfills]
  rw [tagViolation_of_legible hv, hwords]

/-- A template in which the value has no place still comes to grief on an integer that is too long, and
    a document with such an integer is taken for a template itself. -/
theorem tagViolation_tooLong :
    (∀ t ∈ [(⟨"max", "3"⟩ : Tag), ⟨"error", "too big"⟩], Tag.make t.name t.argument = .ok t) ∧
      Fills .tooLong "too big" "too big" ∧
      tagViolation [⟨"max", "3"⟩, ⟨"error", "too big"⟩] ⟨"max", "3"⟩ .tooLong = .error .tooLong ∧
    (∀ t ∈ [(⟨"max", "3"⟩ : Tag), numberedTag (10 ^ Double.maxDigits)],
        Tag.make t.name t.argument = .ok t) ∧
      Fills (.int 4) "too big" "too big" ∧ (numberedTag (10 ^ Double.maxDigits)).argument ≠ "too big" ∧
      tagViolation [⟨"max", "3"⟩, numberedTag (10 ^ Double.maxDigits)] ⟨"max", "3"⟩ (.int 4) =
        .ok (numberedTag (10 ^ Double.maxDigits)).argument := by
  have hnumbered (n : Nat) :
      (∀ t ∈ [(⟨"max", "3"⟩ : Tag), numberedTag n], Tag.make t.name t.argument = .ok t) ∧
      (numberedTag n).argument ≠ "too big" := by
    have hnormal : (numberedTag n).Normal := Tag.nameText_error.normal (trimmed_writeObject _ _)
    refine ⟨List.forall_mem_cons.2 ⟨by decide, List.forall_mem_singleton.2 hnormal.make_eq⟩, fun h => ?_⟩
    have hhead := head?_numberedTag n
    rw [h] at hhead
    revert hhead
    decide
  obtain ⟨hmade, hne⟩ := hnumbered (10 ^ Double.maxDigits)
  have hfills (value : Value) : Fills value "too big" "too big" :=
    ⟨["too big"], ⟨by decide, by decide⟩, by decide, by rw [String.intercalate_singleton]⟩
  refine ⟨by decide, hfills _, (worded_tagViolation _ _ _).eq_error Value.isLegible_tooLong,
    hmade, hfills _, hne, tagViolation_numbered (Nat.le_refl _) (by decide) rfl⟩

/-- Templates for two tags, one of them no text. -/
def sizeTemplates : Value :=
  .object [("max", .string "[value]] is above [value"), ("min", .list [.int 1, .null])]

/-- A tag with these templates, and one that comes too late. -/
def sizeTags : List Tag :=
  [⟨"max", "3"⟩, ⟨"error", String.ofList (Json.write Json.spaced sizeTemplates)⟩, ⟨"error", "too large"⟩]

theorem tagViolation_iff_sizeTags :
    (∀ t ∈ sizeTags, ∃ name argument, Tag.make name argument = .ok t) ∧
      tagViolation sizeTags ⟨"max", "3"⟩ (.string "[value") = .ok "[value] is above [value" ∧
      tagViolation sizeTags ⟨"min", ""⟩ .null = .ok "[1, None]" ∧
      tagViolation sizeTags ⟨"even", ""⟩ (.string "[value") =
        .ok "Value \"[value\" failed tag @even" := by
  have htags : ∀ t ∈ sizeTags, ∃ name argument, Tag.make name argument = .ok t := by
    intro t ht
    have hmade : ∀ t ∈ sizeTags, Tag.make t.name t.argument = .ok t := by decide
    exact ⟨t.name, t.argument, hmade t ht⟩
  have hfirst : FirstError sizeTags
      ⟨"error", String.ofList (Json.write Json.spaced sizeTemplates)⟩ :=
    ⟨[⟨"max", "3"⟩], _, rfl, rfl, by decide⟩
  have hparse : Json.parse (String.ofList (Json.write Json.spaced sizeTemplates)) = .ok sizeTemplates := by
    have hexact : Json.Exact sizeTemplates := by
      have hdigit : (natText 1).length ≤ Double.maxDigits := by decide
      simp [sizeTemplates, hdigit]
    have hread := Json.read_write Json.isSpace_spaced hexact
    rw [Json.parse, String.toList_ofList, hread]
  refine ⟨htags, ?_, ?_, ?_⟩
  · have hfills : Fills (.string "[value") "[value]] is above [value" "[value] is above [value" :=
      ⟨["", "] is above [value"], ⟨by decide, by decide⟩, by decide, by decide⟩
    exact ((tagViolation_iff ⟨"max", "3"⟩ (.string "[value") htags).1 _).2
      ⟨rfl, .listed hfirst hparse (.head _) hfills⟩
  · have hfills : Fills .null (Value.list [.int 1, .null]).plainText "[1, None]" :=
      ⟨["[1, None]"], ⟨by decide, by decide⟩, by decide, by decide⟩
    exact ((tagViolation_iff ⟨"min", ""⟩ .null htags).1 _).2
      ⟨rfl, .listed hfirst hparse (.tail _ (.head _)) hfills⟩
  · have hrefusal : refusal ⟨"even", ""⟩ (.string "[value") = "Value \"[value\" failed tag @even" := by
      decide
    rw [← hrefusal]
    exact ((tagViolation_iff ⟨"even", ""⟩ (.string "[value") htags).1 _).2
      ⟨rfl, .unlisted hfirst hparse (by decide)⟩

end Conform.Report
