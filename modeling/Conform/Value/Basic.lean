import Conform.Double.Basic

/-!
# Decoded values

A value is what a data document decodes to. Integers have any size and are kept apart from
doubles; objects keep their entries in the order in which the keys first came. Two values go beyond
documents: `missing` stands for a property that is absent from its object, and a `tuple` is a list
that only strict equality tells from one.
-/

namespace Conform

/-- A decoded value. -/
inductive Value where
  /-- The explicit absence of a value. -/
  | null
  /-- A property that its object lacks. -/
  | missing
  /-- A truth value. -/
  | bool (b : Bool)
  /-- An integer. -/
  | int (n : Int)
  /-- A double precision number. -/
  | double (d : Double)
  /-- A text. -/
  | string (s : String)
  /-- A list. -/
  | list (items : List Value)
  /-- A list of fixed length. -/
  | tuple (items : List Value)
  /-- An object: its keys, each with a value, in order of arrival. -/
  | object (entries : List (String × Value))
  deriving Repr, Inhabited

namespace Value

/-- Is the value one of the two marks of absence? -/
def isAbsent : Value → Bool
  | null | missing => true
  | _ => false

/-- A value without parts that can stand in a document. -/
def isScalar : Value → Bool
  | null | bool _ | int _ | double _ | string _ => true
  | _ => false

/-- The items of a list or tuple. -/
def items? : Value → Option (List Value)
  | list xs | tuple xs => some xs
  | _ => none

/-- The entries of an object. -/
def entries? : Value → Option (List (String × Value))
  | object es => some es
  | _ => none

/-- A text. -/
def isString : Value → Bool
  | string _ => true
  | _ => false

/-- An integer or a double; a truth value is no number. -/
def isNumber : Value → Bool
  | int _ | double _ => true
  | _ => false

/-- A truth value. -/
def isBool : Value → Bool
  | bool _ => true
  | _ => false

/-- The number that a value counts as where values are compared by size: truth values count as
zero and one. -/
def number? : Value → Option Double
  | bool b => some (Double.exactInt (if b then 1 else 0))
  | int n => some (Double.exactInt n)
  | double d => some d
  | _ => none

/-- The entries with `value` under `key`: a key that is there keeps its place, a new one goes to
the end. -/
def putEntry (key : String) (value : Value) : List (String × Value) → List (String × Value)
  | [] => [(key, value)]
  | (k, v) :: es => if k = key then (k, value) :: es else (k, v) :: putEntry key value es

/-- The object that a list of entries builds, one after the other. -/
def ofEntries (es : List (String × Value)) : Value :=
  object (es.foldl (fun acc e => putEntry e.1 e.2 acc) [])

end Value

end Conform
