import Conform.Double.Reader
import Conform.Text.Ranges
import Conform.Value.Basic

/-!
# Reading JSON

A document is read from left to right, and the first place where it breaks the grammar is reported
with a cause of its own. Beyond the standard's grammar three words for doubles that are not finite
are accepted. A numeral without point and exponent is an integer of any size up to a limit on its
digits, every other numeral a double. Where a key comes twice in an object, the later value takes
the earlier place.

A fault inside the text is carried as the part of the text that starts at the place it names; its
position is counted only when it is reported.
-/

namespace Conform.Json

open Text

/-- Why a text is no document. -/
inductive Cause where
  /-- A value has to start here. -/
  | expectingValue
  /-- A quoted key has to start here. -/
  | expectingKey
  /-- A key is not followed by a colon. -/
  | expectingColon
  /-- An item is followed neither by a comma nor by the closing bracket. -/
  | expectingComma
  /-- The document is complete, and text follows. -/
  | extraData
  /-- The string that starts here is never closed. -/
  | unterminatedString
  /-- A control character stands in a string. -/
  | controlCharacter
  /-- A backslash is followed by a letter without meaning. -/
  | badEscape
  /-- The escape of a code point lacks its four hexadecimal digits. -/
  | badUnicodeEscape
  /-- The text starts with a byte order mark. -/
  | byteOrderMark
  deriving DecidableEq, Repr

/-- The words for a cause. -/
def Cause.message : Cause → String
  | expectingValue => "Expecting value"
  | expectingKey => "Expecting property name enclosed in double quotes"
  | expectingColon => "Expecting ':' delimiter"
  | expectingComma => "Expecting ',' delimiter"
  | extraData => "Extra data"
  | unterminatedString => "Unterminated string starting at"
  | controlCharacter => "Invalid control character at"
  | badEscape => "Invalid \\escape"
  | badUnicodeEscape => "Invalid \\uXXXX escape"
  | byteOrderMark => "Unexpected UTF-8 BOM (decode using utf-8-sig)"

/-- Where reading stopped. -/
inductive Stop where
  /-- At the first character of `rest`. -/
  | grammar (cause : Cause) (rest : List Char)
  /-- At an integer with too many digits. -/
  | digits (count : Nat)

/-- A white space character of the grammar. -/
def isSpace (c : Char) : Bool := c = ' ' || c = '\n' || c = '\r' || c = '\t'

/-- The text after the white space in front. -/
def skip (s : List Char) : List Char := s.dropWhile isSpace

/-! ## Strings -/

/-- The number that four hexadecimal digits denote. -/
def hexUnit? (a b c d : Char) : Option Nat := do
  let a ← hexValue? a
  let b ← hexValue? b
  let c ← hexValue? c
  let d ← hexValue? d
  pure (((a * 16 + b) * 16 + c) * 16 + d)

/-- A unit that opens a surrogate pair. -/
def isHigh (n : Nat) : Bool := 0xD800 ≤ n && n ≤ 0xDBFF

/-- A unit that closes a surrogate pair. -/
def isLow (n : Nat) : Bool := 0xDC00 ≤ n && n ≤ 0xDFFF

/-- The character of a unit; a surrogate on its own becomes the replacement character. -/
def unitChar (n : Nat) : Char := if isHigh n || isLow n then '\ufffd' else Char.ofNat n

/-- The character of a surrogate pair. -/
def pairChar (high low : Nat) : Char :=
  Char.ofNat (0x10000 + (high - 0xD800) * 0x400 + (low - 0xDC00))

/-- The character that a letter stands for behind a backslash. -/
def letterChar? (c : Char) : Option Char :=
  if c = '"' then some '"'
  else if c = '\\' then some '\\'
  else if c = '/' then some '/'
  else if c = 'b' then some '\x08'
  else if c = 'f' then some '\x0c'
  else if c = 'n' then some '\n'
  else if c = 'r' then some '\r'
  else if c = 't' then some '\t'
  else none

/-- A text and what follows it, with one more character in front. -/
def onto (c : Char) (r : Except Stop (List Char × List Char)) :
    Except Stop (List Char × List Char) :=
  r.map fun p => (c :: p.1, p.2)

/-- The character that an escape denotes, and how many characters the escape has behind its
backslash; `s` is the text from there on. An escape of four digits has to be followed by something,
as the string still has to be closed, and it takes the second half of a surrogate pair along only
where this holds of that half as well. -/
def escape (opening s : List Char) : Except Stop (Char × Nat) :=
  match s with
  | [] => .error (.grammar .unterminatedString opening)
  | 'u' :: a :: b :: c :: d :: e :: r =>
    match hexUnit? a b c d with
    | none => .error (.grammar .badUnicodeEscape s)
    | some n =>
      match e, r with
      | '\\', 'u' :: a' :: b' :: c' :: d' :: _ :: _ =>
        if isHigh n then
          match hexUnit? a' b' c' d' with
          | none => .error (.grammar .badUnicodeEscape r)
          | some m => .ok (if isLow m then (pairChar n m, 11) else (unitChar n, 5))
        else .ok (unitChar n, 5)
      | _, _ => .ok (unitChar n, 5)
  | c :: _ =>
    if c = 'u' then .error (.grammar .badUnicodeEscape s)
    else
      match letterChar? c with
      | some x => .ok (x, 1)
      | none => .error (.grammar .badEscape ('\\' :: s))

/-- The characters of a string up to its closing quote, and the text behind it, after passing over
the first characters of the text as the first argument counts them. `opening` is the text from the
opening quote on. -/
def chars (opening : List Char) : Nat → List Char → Except Stop (List Char × List Char)
  | _, [] => .error (.grammar .unterminatedString opening)
  | passed + 1, _ :: r => chars opening passed r
  | 0, c :: r =>
    if c = '"' then .ok ([], r)
    else if c = '\\' then
      match escape opening r with
      | .error e => .error e
      | .ok (x, k) => onto x (chars opening k r)
    else if c.toNat < 0x20 then .error (.grammar .controlCharacter (c :: r))
    else onto c (chars opening 0 r)

/-! ## Numbers and words -/

/-- The digits before the point: a zero alone, or digits that do not start with one. -/
def wholePart : List Char → List Char × List Char
  | '0' :: r => (['0'], r)
  | s => (s.takeWhile isAsciiDigit, s.dropWhile isAsciiDigit)

/-- The digits behind a point, if the text goes on with a point and a digit. -/
def fractionPart? : List Char → Option (List Char × List Char)
  | '.' :: r =>
    if (r.takeWhile isAsciiDigit).isEmpty then none
    else some (r.takeWhile isAsciiDigit, r.dropWhile isAsciiDigit)
  | _ => none

/-- The exponent, if the text goes on with one that has a digit. -/
def exponentPart? : List Char → Option (Int × List Char)
  | c :: r =>
    if c = 'e' || c = 'E' then
      let (negative, t) := splitSign r
      let ds := t.takeWhile isAsciiDigit
      if ds.isEmpty then none
      else
        let n : Int := ofDigits (digitValues ds)
        some (if negative then -n else n, t.dropWhile isAsciiDigit)
    else none
  | [] => none

/-- A number, from behind its sign. `start` is the text from the number on. -/
def number (start : List Char) (negative : Bool) (s : List Char) :
    Except Stop (Value × List Char) :=
  let (whole, r) := wholePart s
  if whole.isEmpty then .error (.grammar .expectingValue start)
  else
    let fraction := fractionPart? r
    let r := (fraction.map (·.2)).getD r
    let exponent := exponentPart? r
    let r := (exponent.map (·.2)).getD r
    if fraction.isNone && exponent.isNone then
      if Double.maxDigits < whole.length then .error (.digits whole.length)
      else .ok (.int (Double.signed negative (ofDigits (digitValues whole))), r)
    else
      let d := Double.assemble negative whole ((fraction.map (·.1)).getD [])
        ((exponent.map (·.1)).getD 0)
      .ok (.double d, r)

/-- The words of the grammar, with the values they denote. -/
def wordValues : List (String × Value) :=
  [("null", .null), ("true", .bool true), ("false", .bool false), ("NaN", .double .nan),
    ("Infinity", .double (.infinite false)), ("-Infinity", .double (.infinite true))]

/-- A word or a number. -/
def atom (s : List Char) : Except Stop (Value × List Char) :=
  match wordValues.findSome? fun w => (after? w.1.toList s).map fun r => (w.2, r) with
  | some p => .ok p
  | none =>
    match s with
    | '-' :: r => number s true r
    | _ => number s false s

/-! ## Values -/

mutual

/-- A value and the text behind it. The first argument bounds the depth of the calls; twice the
length of the text is always enough. -/
def value : Nat → List Char → Except Stop (Value × List Char)
  | 0, s => .error (.grammar .expectingValue s)
  | fuel + 1, s =>
    match s with
    | '"' :: r => (chars s 0 r).map fun p => (.string (String.ofList p.1), p.2)
    | '[' :: r =>
      match skip r with
      | ']' :: r => .ok (.list [], r)
      | r => (items fuel r).map fun p => (.list p.1, p.2)
    | '\x7b' :: r =>
      match skip r with
      | '\x7d' :: r => .ok (.object [], r)
      | r => (members fuel r).map fun p => (Value.ofEntries p.1, p.2)
    | s => atom s

/-- The items of a list up to its closing bracket, and the text behind that. -/
def items : Nat → List Char → Except Stop (List Value × List Char)
  | 0, s => .error (.grammar .expectingValue s)
  | fuel + 1, s =>
    match value fuel s with
    | .error e => .error e
    | .ok (v, r) =>
      match skip r with
      | ']' :: r => .ok ([v], r)
      | ',' :: r => (items fuel (skip r)).map fun p => (v :: p.1, p.2)
      | r => .error (.grammar .expectingComma r)

/-- The entries of an object up to its closing brace, and the text behind that. -/
def members : Nat → List Char → Except Stop (List (String × Value) × List Char)
  | 0, s => .error (.grammar .expectingValue s)
  | fuel + 1, s =>
    match s with
    | '"' :: r =>
      match chars s 0 r with
      | .error e => .error e
      | .ok (k, r) =>
        match skip r with
        | ':' :: r =>
          match value fuel (skip r) with
          | .error e => .error e
          | .ok (v, r) =>
            match skip r with
            | '\x7d' :: r => .ok ([(String.ofList k, v)], r)
            | ',' :: r =>
              (members fuel (skip r)).map fun p => ((String.ofList k, v) :: p.1, p.2)
            | r => .error (.grammar .expectingComma r)
        | r => .error (.grammar .expectingColon r)
    | s => .error (.grammar .expectingKey s)

end

/-- The document that a text holds, white space around it allowed. -/
def document (s : List Char) : Except Stop Value :=
  match value (2 * s.length + 2) (skip s) with
  | .error e => .error e
  | .ok (v, r) =>
    match skip r with
    | [] => .ok v
    | r => .error (.grammar .extraData r)

/-- The document that a text holds; a text may not start with a byte order mark. -/
def read (s : List Char) : Except Stop Value :=
  match s with
  | '\ufeff' :: _ => .error (.grammar .byteOrderMark s)
  | s => document s

/-! ## Reports -/

/-- Why a text is no document, with the place. -/
inductive Fault where
  /-- A breach of the grammar: its cause, and how many characters stand before it in all, how many
  line feeds, and how many characters since the last of these. -/
  | grammar (cause : Cause) (offset line column : Nat)
  /-- An integer with too many digits. -/
  | digits (count : Nat)
  deriving DecidableEq, Repr

/-- The report on a stop in a text. -/
def Stop.fault (text : List Char) : Stop → Fault
  | .grammar cause rest =>
    let before := text.take (text.length - rest.length)
    .grammar cause before.length (before.count '\n')
      (before.reverse.takeWhile (· ≠ '\n')).length
  | .digits count => .digits count

/-- The text of a report. Lines and columns are counted from one, characters from zero. -/
def Fault.message : Fault → String
  | grammar cause offset line column =>
    s!"{cause.message}: line {line + 1} column {column + 1} (char {offset})"
  | digits count =>
    s!"Exceeds the limit ({Double.maxDigits} digits) for integer string conversion: " ++
      s!"value has {count} digits; use sys.set_int_max_str_digits() to increase the limit"

/-- The document that a text holds, or the report on the fault in it. -/
def parse (text : String) : Except Fault Value :=
  match read text.toList with
  | .ok v => .ok v
  | .error e => .error (e.fault text.toList)

end Conform.Json
