import Conform.Report.Rendering
import Conform.Value.Notation

/-!
# Values that contain themselves

A list may hold itself among its items. Such a value has no document, as writing it would never
end, so a message shows it in bracket notation, with `[...]` in the place of the list inside itself.
-/

namespace Conform.Report

/-- A value in which a list may hold itself as its last item. -/
inductive Knotted where
  /-- A value without any such list. -/
  | plain (value : Value)
  /-- A list. -/
  | list (items : List Knotted)
  /-- A list of fixed length. -/
  | tuple (items : List Knotted)
  /-- An object. -/
  | object (entries : List (String × Knotted))
  /-- A list of items and, after these, the list itself. -/
  | loop (items : List Knotted)

namespace Knotted

/-- What stands for a list inside itself. -/
def selfMark : List Char := "[...]".toList

mutual

/-- The value without knots, if there are none. -/
def untied? : Knotted → Option Value
  | plain v => some v
  | list xs => (itemsUntied? xs).map .list
  | tuple xs => (itemsUntied? xs).map .tuple
  | object es => (entriesUntied? es).map .object
  | loop _ => none

/-- The items without knots, if there are none in any of them. -/
def itemsUntied? : List Knotted → Option (List Value)
  | [] => some []
  | x :: xs => do
    let v ← untied? x
    let vs ← itemsUntied? xs
    pure (v :: vs)

/-- The entries without knots, if there are none in any of them. -/
def entriesUntied? : List (String × Knotted) → Option (List (String × Value))
  | [] => some []
  | (k, x) :: es => do
    let v ← untied? x
    let vs ← entriesUntied? es
    pure ((k, v) :: vs)

end

/-- Parts separated by a comma and a space. -/
def separated : List (List Char) → List Char
  | [] => []
  | [p] => p
  | p :: ps => p ++ ',' :: ' ' :: separated ps

mutual

/-- A value in bracket notation. -/
def brackets : Knotted → List Char
  | plain v => v.brackets
  | list xs => '[' :: (separated (itemBrackets xs) ++ [']'])
  | tuple [x] => '(' :: (brackets x ++ [',', ')'])
  | tuple xs => '(' :: (separated (itemBrackets xs) ++ [')'])
  | object es => '\x7b' :: (separated (entryBrackets es) ++ ['\x7d'])
  | loop xs => '[' :: (separated (itemBrackets xs ++ [selfMark]) ++ [']'])

/-- Items in bracket notation. -/
def itemBrackets : List Knotted → List (List Char)
  | [] => []
  | x :: xs => brackets x :: itemBrackets xs

/-- Entries in bracket notation. -/
def entryBrackets : List (String × Knotted) → List (List Char)
  | [] => []
  | (k, x) :: es => (Text.Quoted.write k.toList ++ ':' :: ' ' :: brackets x) :: entryBrackets es

end

mutual

/-- Can all integers in the value be written? -/
def isLegible : Knotted → Bool
  | plain v => v.isLegible
  | list xs => areLegible xs
  | tuple xs => areLegible xs
  | object es => entriesLegible es
  | loop xs => areLegible xs

/-- Can all integers in the items be written? -/
def areLegible : List Knotted → Bool
  | [] => true
  | x :: xs => isLegible x && areLegible xs

/-- Can all integers in the entries be written? -/
def entriesLegible : List (String × Knotted) → Bool
  | [] => true
  | (_, x) :: es => isLegible x && entriesLegible es

end

/-- The text that shows a value: one without knots as any value, the others in bracket notation. -/
def format (x : Knotted) : Except Fault String :=
  match x.untied? with
  | some v => formatValue v
  | none => if x.isLegible then .ok (String.ofList x.brackets) else .error .tooLong

/-- The text that shows a value, a text in quotes. -/
def quote (x : Knotted) : Except Fault String :=
  match x.untied? with
  | some v => quoteValue v
  | none => x.format

/-- Is the value one of the two marks of absence? -/
def isAbsent (x : Knotted) : Bool := (x.untied?.map Value.isAbsent).getD false

end Knotted

end Conform.Report
