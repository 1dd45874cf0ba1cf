import Conform.Double.Reader
import Conform.Value.Basic

/-!
# Values that can be written

Integers have any size, but only one with no more digits than are allowed is ever written. Whatever
puts a value into words, as a document or in a message, comes to grief on an integer that is longer,
wherever in the value it stands.
-/

namespace Conform.Value

mutual

/-- The parts of a value that have no parts themselves, in order. -/
def atoms : Value → List Value
  | list xs => itemAtoms xs
  | tuple xs => itemAtoms xs
  | object es => entryAtoms es
  | v => [v]

/-- Those of items. -/
def itemAtoms : List Value → List Value
  | [] => []
  | x :: xs => atoms x ++ itemAtoms xs

/-- Those of the values of entries. -/
def entryAtoms : List (String × Value) → List Value
  | [] => []
  | (_, v) :: es => atoms v ++ entryAtoms es

end

/-- Is the value no integer that is too long to be written? -/
def isShort : Value → Bool
  | int n => decide ((Text.natText n.natAbs).length ≤ Double.maxDigits)
  | _ => true

/-- Can all integers in the value be written? -/
def isLegible (v : Value) : Bool := v.atoms.all isShort

end Conform.Value
