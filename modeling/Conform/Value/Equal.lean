import Conform.Value.Basic

/-!
# Equality of values

`same` compares values in depth: numbers by size, so that truth values count as zero and one and an
integer equals the double of the same size; lists and tuples item by item and only with their own
kind; objects by their keys, whatever the order. `strictEqual`, which literals are held to, never
crosses the kinds of scalars at the top: a truth value equals only a truth value.
-/

namespace Conform.Value

/-- Are two numbers of the same size? -/
def sameNumber (a b : Option Double) : Bool :=
  match a, b with
  | some x, some y => Double.compare? x y == some .eq
  | _, _ => false

mutual

/-- Equality in depth. -/
def same : Value → Value → Bool
  | null, null => true
  | missing, missing => true
  | string s, string t => s == t
  | list xs, list ys => sameItems xs ys
  | tuple xs, tuple ys => sameItems xs ys
  | object es, object fs => es.length == fs.length && sameEntries es fs
  | a, b => sameNumber a.number? b.number?

/-- Equality in depth, item by item. -/
def sameItems : List Value → List Value → Bool
  | [], [] => true
  | x :: xs, y :: ys => same x y && sameItems xs ys
  | _, _ => false

/-- Has the second list an equal value under each key of the first? -/
def sameEntries : List (String × Value) → List (String × Value) → Bool
  | [], _ => true
  | (k, v) :: es, fs =>
    (match fs.lookup k with
      | some w => same v w
      | none => false) && sameEntries es fs

end

/-- Equality that keeps truth values, numbers, texts and the absent value apart. -/
def strictEqual : Value → Value → Bool
  | bool a, bool b => a == b
  | bool _, _ => false
  | _, bool _ => false
  | a, b => same a b

end Conform.Value
