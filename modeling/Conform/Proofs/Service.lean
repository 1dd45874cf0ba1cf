import Conform.Proofs.Json.Printable
import Conform.Proofs.Walk.Errors
import Conform.Proofs.Walk.Modes
import Conform.Service

/-!
# The service and the library

The service answers a request for a check with what the library says of the schema and the value: an
error of the schema, found when the document is read or only during the walk, is an answer of its own,
and the rest is the verdict of a validator. The service asks for the failure of a value, and the answer
to that question does not depend on the way its validators report. So of two environments that part
only in this setting, neither tells itself apart by the answers to such requests.
-/

namespace Conform

/-! ## Environments -/

namespace Settings

variable {env env' : List (String × String)} {s : Settings}

theorem one_le_of_readDepth {t : List Char} {n : Int} (h : readDepth t = .ok n) : 1 ≤ n := by
  unfold readDepth at h
  split at h
  · cases h
  · split at h
    · cases h
    · split at h
      · cases h
      · cases h
        omega

/-- The depth of settings is positive. -/
theorem one_le_depthOf {n : Int} (h : depthOf env = .ok n) : 1 ≤ n := by
  unfold depthOf at h
  split at h
  · cases h
    decide
  · split at h
    · cases h
      decide
    · exact one_le_of_readDepth h

theorem load_eq_ok :
    load env = .ok s ↔ depthOf env = .ok s.maxDepth ∧
      s.throwing = ((env.lookup throwVariable).map switchesOn).getD false := by
  unfold load
  cases depthOf env with
  | error e => simp [Except.map]
  | ok d =>
    obtain ⟨throwing, maxDepth⟩ := s
    simp only [Except.map, Except.ok.injEq, Settings.mk.injEq]
    exact ⟨fun h => ⟨h.2, h.1.symm⟩, fun h => ⟨h.2.symm, h.1⟩⟩

/-- Settings that load make a factory of the built-in rules. -/
theorem factory_of_load (h : load env = .ok s) :
    s.factory [] = .ok ⟨⟨Primitive.builtIn⟩, s.throwing, s.maxDepth⟩ :=
  Factory.build_nil (one_le_depthOf (load_eq_ok.1 h).1)

/-- An environment that parts from another only in the way of reporting sets the same depth. -/
theorem load_of_lookup (h : load env = .ok s)
    (hlookup : ∀ name, name ≠ throwVariable → env'.lookup name = env.lookup name) :
    ∃ s', load env' = .ok s' ∧ s'.maxDepth = s.maxDepth := by
  have hdepth : depthOf env' = depthOf env := by
    rw [depthOf, hlookup depthVariable (by decide)]
    rfl
  refine ⟨⟨((env'.lookup throwVariable).map switchesOn).getD false, s.maxDepth⟩, ?_, rfl⟩
  exact load_eq_ok.2 ⟨hdepth.trans (load_eq_ok.1 h).1, rfl⟩

end Settings

namespace Service

/-! ## Requests -/

/-- The body that asks about a schema document and a value. -/
def question (document value : Value) : List UInt8 :=
  Json.asciiBytes (Json.write Json.spaced (.object [("schema", document), ("value", value)]))

/-- What a body asks about is what was written in it. -/
theorem readBody_question {document value : Value} (hd : Json.Exact document)
    (hform : (∃ es, document = .object es) ∨ ∃ s, document = .string s) (hv : Json.Exact value) :
    readBody (question document value) = .ok (document, value) := by
  have hexact : Json.Exact (.object [("schema", document), ("value", value)]) := by
    simp [hd, hv]
  have hempty : (question document value).isEmpty = false := by
    obtain ⟨c, s, hs, -⟩ := Json.exists_write Json.spaced hexact
    rw [question, hs]
    rfl
  have hdecode := Json.decode_asciiBytes (Json.printable_write hexact)
  have hdocument := Json.document_write Json.isSpace_spaced hexact
  unfold readBody
  rw [hempty, question, hdecode]
  simp only [hdocument]
  rcases hform with ⟨es, rfl⟩ | ⟨s, rfl⟩ <;> rfl

/-! ## Answers -/

/-- What the answer to a request for a check says, in terms of what a validator that reports failures
    and one that does not come to. -/
structure Tells (loud quiet : Outcome) (answered : Except Fault Response) : Prop where
  /-- A schema that the value cannot be judged against is answered with the reason. -/
  unjudged : ∀ e, loud = .error (.schema e) →
    answered = .ok ⟨422, .object [("detail", .string e.message)]⟩
  /-- Of any other schema the value is valid just if the validator that does not report says so. -/
  valid_iff : (∀ e, loud ≠ .error (.schema e)) → (∀ e, loud ≠ .error (.fault e)) →
    (answered = .ok ⟨200, .object [("valid", .bool true), ("error", .null)]⟩ ↔ quiet = .ok true)
  /-- If it does not, the answer tells the failure that the validator that reports ends in. -/
  invalid : (∀ e, loud ≠ .error (.schema e)) → (∀ e, loud ≠ .error (.fault e)) →
    quiet ≠ .ok true →
    ∃ f, loud = .error (.failure f) ∧
      answered = .ok ⟨200, .object [("valid", .bool false),
        ("error", .object [("code", .string f.cause.code), ("message", .string f.message),
          ("path", .list (f.path.map fun
            | .key k => .string k
            | .index i => .int i)),
          ("details", .object f.details)])]⟩

theorem validate_of_load_error {f : Factory} {document : Value} {e : Schema.DocumentFault}
    (h : Schema.load document = .error e) (value : Value) :
    validate f document value =
      .ok ⟨422, .object [("detail", .string (SchemaError.document e).message)]⟩ := by
  rw [validate, Factory.load, h]
  rfl

/-- What the validators come to is told. -/
theorem tells_validate {f : Factory} {document : Value} {t : Schema.Tree}
    (h : Schema.load document = .ok t) {value : Value} {L : Prop} {loud quiet : Outcome}
    (hanswers : Validator.Answers L loud quiet ((f.bind (.ofTree t)).check value)) :
    Tells loud quiet (validate f document value) := by
  have hload : f.load document = .ok (f.bind (.ofTree t)) := by
    rw [Factory.load, h]
    rfl
  simp only [validate, hload]
  generalize (f.bind (.ofTree t)).check value = check at hanswers
  cases hanswers with
  | accepted =>
    refine ⟨fun e he => ?_, fun _ _ => ⟨fun _ => rfl, fun _ => rfl⟩, fun _ _ hno => absurd rfl hno⟩
    cases he
  | failed g =>
    refine ⟨fun e he => ?_, fun _ _ => ?_, fun _ _ _ => ⟨g, rfl, rfl⟩⟩
    · cases he
    · simp [verdict]
  | untold _ =>
    refine ⟨fun e' he => ?_, fun _ hno => absurd rfl (hno _), fun _ hno => absurd rfl (hno _)⟩
    cases he
  | schema e =>
    refine ⟨fun e' he => ?_, fun hno => absurd rfl (hno e), fun hno => absurd rfl (hno e)⟩
    cases he
    rfl
  | fault e =>
    refine ⟨fun e' he => ?_, fun _ hno => absurd rfl (hno e), fun _ hno => absurd rfl (hno e)⟩
    cases he

/-- The way its own validators report makes no difference to the answers of a service. -/
theorem answer_throwing {r : Registry} {maxDepth : Int} (b b' : Bool) {request : Request}
    (h : routePath request.path = "/validate") :
    answer (some ⟨r, b, maxDepth⟩) request = answer (some ⟨r, b', maxDepth⟩) request := by
  have hvalidate : ∀ document value,
      validate ⟨r, b, maxDepth⟩ document value = validate ⟨r, b', maxDepth⟩ document value := by
    intro document value
    unfold validate Factory.load
    cases Schema.load document <;> rfl
  unfold answer
  simp only [h, answerCheck, hvalidate]

/-! ## Sessions -/

/-- A service whose settings load has a factory, and what it answers to a request for a check is what
    the library tells of the schema document and the value in it, in terms of the factories of the same
    depth whose validators report failures and whose validators do not. An environment that parts from
    the one given only in the way of reporting starts a service with the same answers to every
    sequence of such requests. -/
theorem answers_of_load {env : List (String × String)} {s : Settings}
    (h : Settings.load env = .ok s) :
    ∃ f loud quiet, s.factory [] = .ok f ∧ Factory.build [] true s.maxDepth = .ok loud ∧
      Factory.build [] false s.maxDepth = .ok quiet ∧
      (∀ body document value, readBody body = .ok (document, value) →
        (∀ e, Schema.load document = .error e →
          answer (some f) ⟨"POST", "/validate", body⟩ =
            .ok ⟨422, .object [("detail", .string (SchemaError.document e).message)]⟩) ∧
        ∀ t, Schema.load document = .ok t →
          Tells ((loud.bind (.ofTree t)).call value) ((quiet.bind (.ofTree t)).call value)
            (answer (some f) ⟨"POST", "/validate", body⟩)) ∧
      ∀ env', (∀ name, name ≠ Settings.throwVariable → env'.lookup name = env.lookup name) →
        ∃ s' f', Settings.load env' = .ok s' ∧ s'.factory [] = .ok f' ∧
          ∀ requests : List Request, (∀ r ∈ requests, routePath r.path = "/validate") →
            requests.map (answer (some f')) = requests.map (answer (some f)) := by
  have hdepth : 1 ≤ s.maxDepth := Settings.one_le_depthOf (Settings.load_eq_ok.1 h).1
  refine ⟨_, _, _, Settings.factory_of_load h, Factory.build_nil hdepth, Factory.build_nil hdepth,
    ?_, ?_⟩
  · intro body document value hbody
    have hanswer : ∀ f, answer (some f) ⟨"POST", "/validate", body⟩ = validate f document value := by
      intro f
      have hroute : routePath "/validate" = "/validate" := by decide
      simp only [answer, hroute, if_true, answerCheck, hbody]
    rw [hanswer]
    exact ⟨fun e he => validate_of_load_error he value, fun t ht => tells_validate ht
      (Validator.answers (Factory.bind ⟨_, s.throwing, _⟩ (.ofTree t)) builtIn_failureFree value)⟩
  · intro env' hlookup
    obtain ⟨s', hs', hmax⟩ := Settings.load_of_lookup h hlookup
    refine ⟨s', _, hs', Settings.factory_of_load hs', ?_⟩
    intro requests hpaths
    rw [hmax]
    exact List.map_congr_left fun r hr => answer_throwing _ _ (hpaths r hr)

/-- An environment that switches reports on. -/
def reporting : List (String × String) :=
  [("SHAPE_VALIDATOR_MAX_DEPTH", " 16 "), ("SHAPE_VALIDATOR_THROW", "Yes")]

/-- A list of numbers under a key. -/
def sizes : Schema.Tree :=
  .mk ⟨"object", {}, [], .properties [("sizes", .mk ⟨"number", { array := true }, [],
    .members [.node (.mk ⟨"number", { primitive := true }, [], .single .null, []⟩)], []⟩)], []⟩

/-- The document that stands for it. -/
def sizesDocument : Value :=
  .object [("sizes", .object [("type", .string "number"), ("array", .bool true),
    ("children", .list [.object [("type", .string "number"), ("primitive", .bool true)]])])]

/-- Sizes of which one is lacking. -/
def oneLacking : Value := .object [("sizes", .list [.int 1, .null])]

theorem answers_of_load_sizes :
    Settings.load reporting = .ok ⟨true, 16⟩ ∧
      ∃ f, Settings.factory ⟨true, 16⟩ [] = .ok f ∧
        answer (some f) ⟨"POST", "/validate", question sizesDocument oneLacking⟩ =
          .ok ⟨200, .object [("valid", .bool false),
            ("error", .object [("code", .string "TYPE_MISMATCH"),
              ("message", .string "Expected number but received null"),
              ("path", .list [.string "sizes", .int 1]),
              ("details", .object [("path", .list [.string "sizes", .int 1]),
                ("expected", .string "number")])])]⟩ := by
  have hload : Settings.load reporting = .ok ⟨true, 16⟩ := rfl
  have hdigits : (Text.natText 1).length ≤ Double.maxDigits := by decide
  have hbody : readBody (question sizesDocument oneLacking) = .ok (sizesDocument, oneLacking) :=
    readBody_question (by simp [sizesDocument]) (Or.inl ⟨_, rfl⟩) (by simp [oneLacking, hdigits])
  have hdocument : Schema.load sizesDocument = .ok sizes := rfl
  obtain ⟨f, loud, quiet, hf, hloud, hquiet, hanswers, -⟩ := answers_of_load hload
  rw [Factory.build_nil (by decide)] at hloud hquiet
  cases hloud
  cases hquiet
  obtain ⟨g, hg, hanswer⟩ := ((hanswers _ _ _ hbody).2 sizes hdocument).invalid
    (fun e he => by cases he) (fun e he => by cases he) (fun hyes => by cases hyes)
  cases hg
  exact ⟨hload, f, hf, hanswer⟩

end Service

end Conform
