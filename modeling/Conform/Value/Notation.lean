import Conform.Double.Shortest
import Conform.Text.Quoted
import Conform.Value.Basic

/-!
# The bracket notation of values

Inside messages a value that is not a text is shown in brackets: lists in square ones, tuples in
round ones, objects in braces with a colon between key and value, texts quoted, truth values and
null as capitalised words.
-/

namespace Conform.Value

open Text

mutual

/-- A value in bracket notation. -/
def brackets : Value → List Char
  | null => "None".toList
  | missing => "undefined".toList
  | bool b => if b then "True".toList else "False".toList
  | int n => intText n
  | double d => d.text
  | string s => Quoted.write s.toList
  | list xs => '[' :: (bracketItems xs ++ [']'])
  | tuple [x] => '(' :: (brackets x ++ [',', ')'])
  | tuple xs => '(' :: (bracketItems xs ++ [')'])
  | object es => '\x7b' :: (bracketEntries es ++ ['\x7d'])

/-- Items in bracket notation, separated by a comma and a space. -/
def bracketItems : List Value → List Char
  | [] => []
  | [x] => brackets x
  | x :: xs => brackets x ++ ',' :: ' ' :: bracketItems xs

/-- Entries in bracket notation, separated by a comma and a space. -/
def bracketEntries : List (String × Value) → List Char
  | [] => []
  | [(k, v)] => Quoted.write k.toList ++ ':' :: ' ' :: brackets v
  | (k, v) :: es => Quoted.write k.toList ++ ':' :: ' ' :: (brackets v ++ ',' :: ' ' :: bracketEntries es)

end

/-- A value as a text: a text stands for itself, everything else is shown in bracket notation. -/
def plainText : Value → String
  | string s => s
  | v => String.ofList v.brackets

end Conform.Value
