import Conform.Settings

/-!
# The validation service

The library as a service that answers requests one by one: `POST /validate` checks a value against
a schema document, `GET /health` tells the settings and the rules. The service always asks for the
failure of a value, so whether the factory's validators report failures makes no difference to it.
A request is answered by a status and a document; the form of the request is checked before
anything else, and a service whose factory has not been built answers that it is not available. A
rule that comes to grief leaves the request without an answer.
-/

namespace Conform.Service

/-- A request; the body is what was sent, byte for byte. -/
structure Request where
  /-- The method. -/
  method : String
  /-- The path, without a query. -/
  path : String
  /-- The body. -/
  body : List UInt8

/-- An answer. -/
structure Response where
  /-- The status. -/
  status : Nat
  /-- The document. -/
  body : Value

/-- The version that the service tells. -/
def version : String := "1.0.0"

/-- A document with one detail. -/
def detail (status : Nat) (v : Value) : Response := ⟨status, .object [("detail", v)]⟩

/-! ## Reading requests -/

/-- Why a body is refused. -/
inductive BodyFault where
  /-- There is none. -/
  | absent
  /-- It is no document; the number of characters before the fault is known. -/
  | syntaxFault (offset : Nat)
  /-- It cannot be read at all. -/
  | unreadable
  /-- It is no object. -/
  | notObject
  /-- It has no schema. -/
  | noSchema
  /-- Its schema is neither an object nor a text. -/
  | badSchema

/-- What a body asks: the schema document and the value. -/
def readBody (bytes : List UInt8) : Except BodyFault (Value × Value) :=
  if bytes.isEmpty then .error .absent
  else
    match Text.Encoding.decode bytes with
    | .error _ => .error .unreadable
    | .ok text =>
      match Json.document text with
      | .error stop =>
        match stop.fault text with
        | .grammar _ offset _ _ => .error (.syntaxFault offset)
        | .digits _ => .error .unreadable
      | .ok (.object es) =>
        match es.lookup "schema" with
        | none => .error .noSchema
        | some (.object s) => .ok (.object s, (es.lookup "value").getD .null)
        | some (.string s) => .ok (.string s, (es.lookup "value").getD .null)
        | some _ => .error .badSchema
      | .ok _ => .error .notObject

/-- One entry of the report on a request. -/
def reportEntry (type : String) (location : List Value) (message : String) : Value :=
  .object [("type", .string type), ("loc", .list (.string "body" :: location)),
    ("msg", .string message)]

/-- The answer to a body that is refused. -/
def BodyFault.response : BodyFault → Response
  | absent => detail 422 (.list [reportEntry "missing" [] "Field required"])
  | syntaxFault offset =>
    detail 422 (.list [reportEntry "json_invalid" [.int offset] "JSON decode error"])
  | unreadable => detail 400 (.string "There was an error parsing the body")
  | notObject =>
    detail 422 (.list [reportEntry "model_attributes_type" []
      "Input should be a valid dictionary or object to extract fields from"])
  | noSchema => detail 422 (.list [reportEntry "missing" [.string "schema"] "Field required"])
  | badSchema =>
    detail 422 (.list [
      reportEntry "dict_type" [.string "schema", .string "dict[str,any]"]
        "Input should be a valid dictionary",
      reportEntry "string_type" [.string "schema", .string "str"]
        "Input should be a valid string"])

/-! ## Answers -/

/-- The answer of a service that is not available. -/
def unavailable : Response := detail 503 (.string "Validator not initialised")

/-- The document that tells a failure, or that there is none. -/
def verdict : Option Failure → Value
  | none => .object [("valid", .bool true), ("error", .null)]
  | some f =>
    .object [("valid", .bool false),
      ("error", .object [("code", .string f.cause.code), ("message", .string f.message),
        ("path", Path.toValue f.path), ("details", .object f.details)])]

/-- The answer to a value that is to be checked against a schema document. -/
def validate (f : Factory) (document value : Value) : Except Fault Response :=
  match f.load document with
  | .error e => .ok (detail 422 (.string (SchemaError.document e).message))
  | .ok v =>
    match v.check value with
    | .ok r => .ok ⟨200, verdict r⟩
    | .error (.schema e) => .ok (detail 422 (.string e.message))
    | .error (.failure g) => .ok ⟨200, verdict (some g)⟩
    | .error (.fault g) => .error g

/-- The answer to a question for settings and rules. -/
def health (f : Factory) : Response :=
  ⟨200, .object [("status", .string "healthy"), ("version", .string version),
    ("throw_on_failure", .bool f.throwing), ("max_depth", .int f.maxDepth),
    ("rules", .object (f.registry.allNames.map fun e => (e.1, .list (e.2.map .string))))]⟩

/-- The path without slashes at its end. -/
def routePath (path : String) : String :=
  String.ofList ((path.toList.reverse.dropWhile (· = '/')).reverse)

/-- The answer to a request for a check; the factory is there once it has been built. -/
def answerCheck (factory : Option Factory) (body : List UInt8) : Except Fault Response :=
  match readBody body with
  | .error e => .ok e.response
  | .ok (document, value) =>
    match factory with
    | none => .ok unavailable
    | some f => validate f document value

/-- The answer to a request; the factory is there once it has been built. -/
def answer (factory : Option Factory) (r : Request) : Except Fault Response :=
  match routePath r.path with
  | "/validate" =>
    if r.method = "POST" then answerCheck factory r.body
    else .ok (detail 405 (.string "Method Not Allowed"))
  | "/health" =>
    if r.method = "GET" then .ok ((factory.map health).getD unavailable)
    else .ok (detail 405 (.string "Method Not Allowed"))
  | _ => .ok (detail 404 (.string "Not Found"))

end Conform.Service
