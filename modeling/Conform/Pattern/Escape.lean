import Conform.Pattern.Cursor
import Conform.Text.CharacterName
import Conform.Text.Numeral

/-!
# Escapes

A backslash and the character behind it make an escape, which may take further characters along:
hexadecimal or octal digits, or the name of a character in braces. An escape stands for a code point
or a class; outside sets also for an anchor or for what a group has matched.
-/

namespace Conform.Pattern.Reading

open Text

/-- The class that an escape stands for. -/
def category? (c : Char) : Option SetItem :=
  match c with
  | 'd' => some (.category .digit false)
  | 'D' => some (.category .digit true)
  | 's' => some (.category .space false)
  | 'S' => some (.category .space true)
  | 'w' => some (.category .word false)
  | 'W' => some (.category .word true)
  | _ => none

/-- The place that an escape stands for outside sets. -/
def anchor? (c : Char) : Option Anchor :=
  match c with
  | 'A' => some .textStart
  | 'b' => some .boundary
  | 'B' => some .notBoundary
  | 'Z' => some .textEnd
  | _ => none

/-- The control character that an escape stands for. -/
def control? (c : Char) : Option Nat :=
  match c with
  | 'a' => some 7
  | 'b' => some 8
  | 'f' => some 12
  | 'n' => some 10
  | 'r' => some 13
  | 't' => some 9
  | 'v' => some 11
  | '\\' => some 0x5C
  | _ => none

/-- An octal digit. -/
def isOctalDigit (c : Char) : Bool := '0' ≤ c && c ≤ '7'

/-- A hexadecimal digit. -/
def isHexDigit (c : Char) : Bool := (hexValue? c).isSome

/-- The number that octal digits denote. -/
def octalNumeral (ds : List Char) : Nat := (digitValues ds).foldl (fun n d => 8 * n + d) 0

/-- An escape as it is written. -/
def escapeText (c : Char) (digits : List Char) : String := String.ofList ('\\' :: c :: digits)

/-- Refuse an escape that has just been read. -/
def refuse {α : Type} (cause : String → Cause) (c : Char) (digits : List Char) : Reading α :=
  fail (cause (escapeText c digits)) (digits.length + 2)

/-- The code point of an escape with a fixed number of hexadecimal digits. -/
def hexEscape (c : Char) (count : Nat) : Reading Nat := do
  let ds ← takeWhile isHexDigit count
  if ds.length < count then refuse .incompleteEscape c ds
  else if 0x10FFFF < hexNumeral ds then refuse .badEscape c ds
  else return hexNumeral ds

/-- The code point of the character of a name. -/
def namedEscape : Reading Nat := do
  if ← accept '\x7b' then
    let cs ← name '\x7d' "character name"
    match characterNamed? (String.ofList cs) with
    | some n => return n
    | none => fail (.undefinedCharacter (String.ofList cs)) (cs.length + 4)
  else fail .missingBrace 0

/-- The code point of an octal escape. -/
def octalEscape (ds : List Char) : Reading Nat :=
  match ds with
  | [] => return 0
  | c :: r => if 0o377 < octalNumeral ds then refuse .octalRange c r else return octalNumeral ds

/-- The code point of an escape that is no digit and has no meaning of its own. -/
def plainEscape (c : Char) : Reading Nat :=
  if isAsciiLetter c then refuse .badEscape c [] else return c.toNat

/-- The entry that an escape in a set stands for. -/
def setEscape (c : Char) : Reading SetItem := do
  match control? c, category? c with
  | some n, _ => return .single n
  | _, some k => return k
  | none, none =>
    let code ←
      if c = 'x' then hexEscape c 2
      else if c = 'u' then hexEscape c 4
      else if c = 'U' then hexEscape c 8
      else if c = 'N' then namedEscape
      else if isOctalDigit c then
        let ds ← takeWhile isOctalDigit 2
        octalEscape (c :: ds)
      else if isAsciiDigit c then refuse .badEscape c []
      else plainEscape c
    return .single code

/-- A reference to a group by the digits of its number. -/
def reference (ds : List Char) : Reading Expr := do
  let number := ofDigits (digitValues ds)
  let p ← get
  if p.nextGroup ≤ number then fail (.unknownGroup number) ds.length
  else
    if (p.widths.lookup number).isNone then fail .openGroup (ds.length + 1)
    checkLookBehind number
    return .same number

/-- The meaning of an escape that starts with a digit other than zero: three octal digits are a code
point, one or two digits the number of a group. -/
def digitEscape (c : Char) : Reading Expr := do
  match ← takeWhile isAsciiDigit 1 with
  | [d] =>
    if isOctalDigit c && isOctalDigit d then
      match ← takeWhile isOctalDigit 1 with
      | [e] => return .literal (← octalEscape [c, d, e])
      | _ => reference [c, d]
    else reference [c, d]
  | _ => reference [c]

/-- The expression that an escape outside sets stands for. -/
def escape (c : Char) : Reading Expr := do
  match anchor? c, category? c, control? c with
  | some a, _, _ => return .anchor a
  | _, some k, _ => return .oneOf ⟨false, [k]⟩
  | _, _, some n => return .literal n
  | none, none, none =>
    if c = 'x' then return .literal (← hexEscape c 2)
    else if c = 'u' then return .literal (← hexEscape c 4)
    else if c = 'U' then return .literal (← hexEscape c 8)
    else if c = 'N' then return .literal (← namedEscape)
    else if c = '0' then
      let ds ← takeWhile isOctalDigit 2
      return .literal (← octalEscape (c :: ds))
    else if isAsciiDigit c then digitEscape c
    else return .literal (← plainEscape c)

end Conform.Pattern.Reading
