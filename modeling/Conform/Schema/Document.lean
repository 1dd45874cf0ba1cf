import Conform.Json.Reader
import Conform.Schema.Invariant
import Conform.Schema.Reader
import Conform.Text.Encoding

/-!
# Schema documents

A schema document is an object: a single node, or a map of properties, told apart by whether a type
name in the form of a text stands under one of the first two keys for it. A map of properties is the
payload of an object node. A document may also be given as text, or as the bytes of a text; a text
that holds nothing but another text is unwrapped, which ends because the inner text is shorter.
-/

namespace Conform.Schema

/-- Why a document is refused. -/
inductive DocumentFault where
  /-- The text is no JSON. -/
  | json (fault : Json.Fault)
  /-- The bytes are no text. -/
  | encoding (fault : Text.Encoding.Fault)
  /-- The document is no object; its type is named. -/
  | root (type : String)
  /-- A part of the document does not have the form of a node. -/
  | malformed (complaint : Complaint)
  /-- A node breaks a demand of its flags. -/
  | breach (breach : Breach)
  /-- The pattern of a refinement cannot be compiled. -/
  | pattern (argument reason : String)
  deriving DecidableEq, Repr

/-- The text of a fault. -/
def DocumentFault.message : DocumentFault → String
  | json f => s!"Schema is not valid JSON: {f.message}"
  | encoding f => s!"Schema is not valid JSON: {f.message}"
  | root t => s!"Schema root must be a JSON object, got {t}"
  | malformed c => s!"Invalid schema node at '{c.place}': {c.cause.message}"
  | breach b => b.message
  | pattern a r => s!"Invalid @regex pattern {Text.quoted a}: {r}"

/-- The word for the type of a value. -/
def typeWord : Value → String
  | .null => "NoneType"
  | .missing => "_Missing"
  | .bool _ => "bool"
  | .int _ => "int"
  | .double _ => "float"
  | .string _ => "str"
  | .list _ => "list"
  | .tuple _ => "tuple"
  | .object _ => "dict"

/-- Does an object have the look of a single node? -/
def looksLikeNode (es : List (String × Value)) : Bool :=
  match es.lookup "type" with
  | some v => v.isString
  | none => ((es.lookup "typeName").map Value.isString).getD false

/-- The object that is read as the root node. -/
def rootEntries (es : List (String × Value)) : List (String × Value) :=
  if looksLikeNode es then es else [("type", .string "object"), ("children", .object es)]

/-- The schema that a decoded document stands for, unless the document is a text. -/
def ofDecoded : Value → Except DocumentFault Tree
  | .object es =>
    match Tree.ofValue (.object (rootEntries es)) with
    | .error c => .error (.malformed c)
    | .ok t =>
      match t.breach? [] with
      | some b => .error (.breach b)
      | none => .ok t
  | v => .error (.root (typeWord v))

/-- The schema that a text stands for. Each unwrapping leaves a shorter text, so a number of steps
above the length of the text is never used up. -/
def ofChars : Nat → (List Char → Except Json.Stop Value) → List Char → Except DocumentFault Tree
  | 0, _, _ => .error (.root (typeWord (.string "")))
  | steps + 1, reader, s =>
    match reader s with
    | .error stop => .error (.json (stop.fault s))
    | .ok (.string inner) => ofChars steps Json.read inner.toList
    | .ok v => ofDecoded v

/-- The schema that a text stands for. -/
def ofText (text : String) : Except DocumentFault Tree :=
  ofChars (text.length + 1) Json.read text.toList

/-- The schema that the bytes of a text stand for. -/
def ofBytes (bytes : List UInt8) : Except DocumentFault Tree :=
  match Text.Encoding.decode bytes with
  | .error f => .error (.encoding f)
  | .ok s => ofChars (s.length + 1) Json.document s

/-- The schema that a document stands for, given as text or decoded. -/
def load : Value → Except DocumentFault Tree
  | .string s => ofText s
  | v => ofDecoded v

end Conform.Schema
