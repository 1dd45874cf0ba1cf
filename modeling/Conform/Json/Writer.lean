import Conform.Double.Shortest
import Conform.Text.Quoted
import Conform.Value.Basic

/-!
# Writing JSON

A document is written in one of two layouts. The *spaced* one sets a space after each separator and
escapes every character outside printable ASCII; the *compact* one sets no spaces and escapes only
what a JSON string cannot hold. In both, doubles that are not finite are written as the words that
the reader accepts, and the mark of a missing property as the text `undefined`.
-/

namespace Conform.Json

open Text

/-- The choices that the two layouts differ in. -/
structure Layout where
  /-- What follows the comma between items and the colon behind a key. -/
  gap : List Char
  /-- Are the characters outside printable ASCII escaped? -/
  ascii : Bool

/-- A space after each separator, all characters in ASCII. -/
def spaced : Layout := ⟨[' '], true⟩

/-- No spaces, characters as they are. -/
def compact : Layout := ⟨[], false⟩

/-- The escape of a 16-bit unit. -/
def unitEscape (n : Nat) : List Char := '\\' :: 'u' :: hexDigits 4 n

/-- The escape of a character: one unit, or the two surrogates of a character beyond 16 bits. -/
def unicodeEscape (c : Char) : List Char :=
  let n := c.toNat
  if n < 0x10000 then unitEscape n
  else
    unitEscape (0xD800 + (n - 0x10000) / 0x400) ++ unitEscape (0xDC00 + (n - 0x10000) % 0x400)

/-- The letter that stands for a character behind a backslash, for those that have one. -/
def escapeLetter? (c : Char) : Option Char :=
  if c = '"' then some '"'
  else if c = '\\' then some '\\'
  else if c = '\n' then some 'n'
  else if c = '\r' then some 'r'
  else if c = '\t' then some 't'
  else if c = '\x0c' then some 'f'
  else if c = '\x08' then some 'b'
  else none

/-- A character inside a string. -/
def writeChar (ascii : Bool) (c : Char) : List Char :=
  match escapeLetter? c with
  | some l => ['\\', l]
  | none =>
    if c.toNat < 0x20 then unicodeEscape c
    else if ascii && 0x7F ≤ c.toNat then unicodeEscape c
    else [c]

/-- A string with its quotes. -/
def writeString (ascii : Bool) (s : List Char) : List Char :=
  '"' :: (s.flatMap (writeChar ascii) ++ ['"'])

/-- A double, with words for what is not finite. -/
def writeDouble : Double → List Char
  | .nan => "NaN".toList
  | .infinite s => if s then "-Infinity".toList else "Infinity".toList
  | d => d.text

mutual

/-- A value as a document. -/
def write (l : Layout) : Value → List Char
  | .null => "null".toList
  | .missing => writeString l.ascii "undefined".toList
  | .bool b => if b then "true".toList else "false".toList
  | .int n => intText n
  | .double d => writeDouble d
  | .string s => writeString l.ascii s.toList
  | .list xs => '[' :: (writeItems l xs ++ [']'])
  | .tuple xs => '[' :: (writeItems l xs ++ [']'])
  | .object es => '\x7b' :: (writeEntries l es ++ ['\x7d'])

/-- Items with their separators. -/
def writeItems (l : Layout) : List Value → List Char
  | [] => []
  | [x] => write l x
  | x :: xs => write l x ++ ',' :: (l.gap ++ writeItems l xs)

/-- Entries with their separators. -/
def writeEntries (l : Layout) : List (String × Value) → List Char
  | [] => []
  | [(k, v)] => writeString l.ascii k.toList ++ ':' :: (l.gap ++ write l v)
  | (k, v) :: es =>
    writeString l.ascii k.toList ++ ':' :: (l.gap ++ (write l v ++ ',' :: (l.gap ++ writeEntries l es)))

end

mutual

/-- Can a value be written without the mark of a missing property? -/
def isWritable : Value → Bool
  | .missing => false
  | .list xs => areWritable xs
  | .tuple xs => areWritable xs
  | .object es => entriesWritable es
  | _ => true

/-- Can all items be written without that mark? -/
def areWritable : List Value → Bool
  | [] => true
  | x :: xs => isWritable x && areWritable xs

/-- Can the values of all entries be written without that mark? -/
def entriesWritable : List (String × Value) → Bool
  | [] => true
  | (_, v) :: es => isWritable v && entriesWritable es

end

end Conform.Json
