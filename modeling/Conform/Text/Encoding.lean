import Conform.Text.Quoted

/-!
# Text from bytes

Bytes are read as UTF-8, UTF-16 or UTF-32. Which of them, and in which byte order, is told by a
mark at the start or, failing that, by which of the first four bytes are zero, since a document
starts with two ASCII characters. A surrogate without its partner is replaced, every other breach
of the encoding is a fault with the place and the bytes it concerns.
-/

namespace Conform.Text.Encoding

/-- An encoding, with the order of bytes where units have more than one. -/
inductive Form where
  /-- Units of one byte. -/
  | utf8
  /-- Units of two bytes. -/
  | utf16 (bigEndian : Bool)
  /-- Units of four bytes. -/
  | utf32 (bigEndian : Bool)
  deriving DecidableEq, Repr

/-- The name of an encoding. -/
def Form.name : Form → String
  | utf8 => "utf-8"
  | utf16 big => if big then "utf-16-be" else "utf-16-le"
  | utf32 big => if big then "utf-32-be" else "utf-32-le"

/-- What is wrong with some bytes. -/
inductive Breach where
  /-- No character starts with this byte. -/
  | startByte
  /-- The character is not continued as it has to be. -/
  | continuationByte
  /-- The bytes end inside a character. -/
  | endOfData
  /-- The bytes end inside a unit. -/
  | truncated
  /-- The number is no code point. -/
  | codePoint
  deriving DecidableEq, Repr

/-- The words for a breach. -/
def Breach.message : Breach → String
  | startByte => "invalid start byte"
  | continuationByte => "invalid continuation byte"
  | endOfData => "unexpected end of data"
  | truncated => "truncated data"
  | codePoint => "code point not in range(0x110000)"

/-- A breach of an encoding: the bytes it concerns, and how many bytes stand before them. -/
structure Fault where
  /-- The encoding. -/
  form : Form
  /-- What is wrong. -/
  breach : Breach
  /-- The bytes it concerns. -/
  bytes : List UInt8
  /-- How many bytes stand before them. -/
  offset : Nat
  deriving DecidableEq, Repr

/-- The text of a fault; a single byte is shown, several are located by their first and last. -/
def Fault.message (f : Fault) : String :=
  let place := match f.bytes with
    | [b] => s!"byte 0x{String.ofList (hexDigits 2 b.toNat)} in position {f.offset}"
    | bs => s!"bytes in position {f.offset}-{f.offset + bs.length - 1}"
  s!"'{f.form.name}' codec can't decode {place}: {f.breach.message}"

/-- The stand-in for a surrogate without its partner. -/
def replacement : Char := '\ufffd'

/-- A character in front of a text that may have failed. -/
def onto (c : Char) (r : Except Fault (List Char)) : Except Fault (List Char) := r.map (c :: ·)

/-! ## UTF-8 -/

/-- A byte that continues a character. -/
def isTail (b : Nat) : Bool := 0x80 ≤ b && b ≤ 0xBF

/-- The least and the greatest second byte after a first one of a longer character; the bounds rule
out overlong forms and what lies beyond the last code point. -/
def secondBounds (a : Nat) : Nat × Nat :=
  if a = 0xE0 then (0xA0, 0xBF)
  else if a = 0xF0 then (0x90, 0xBF)
  else if a = 0xF4 then (0x80, 0x8F)
  else (0x80, 0xBF)

/-- The character that starts with a byte from 0x80 on, and how many bytes it has behind that;
failing that the breach and the number of bytes it concerns. -/
def utf8Char (a : Nat) (r : List Nat) : Except (Breach × Nat) (Char × Nat) :=
  let fits (b : Nat) : Bool := (secondBounds a).1 ≤ b && b ≤ (secondBounds a).2
  if a < 0xC2 || 0xF5 ≤ a then .error (.startByte, 1)
  else if a < 0xE0 then
    match r with
    | [] => .error (.endOfData, 1)
    | b :: _ =>
      if isTail b then .ok (Char.ofNat ((a - 0xC0) * 0x40 + (b - 0x80)), 1)
      else .error (.continuationByte, 1)
  else if a < 0xF0 then
    match r with
    | [] => .error (.endOfData, 1)
    | [b] => if fits b && !(a = 0xED && 0xA0 ≤ b) then .error (.endOfData, 2)
      else .error (.continuationByte, 1)
    | b :: c :: _ =>
      if !fits b then .error (.continuationByte, 1)
      else if a = 0xED && 0xA0 ≤ b then
        if isTail c then .ok (replacement, 2) else .error (.continuationByte, 1)
      else if !isTail c then .error (.continuationByte, 2)
      else .ok (Char.ofNat ((a - 0xE0) * 0x1000 + (b - 0x80) * 0x40 + (c - 0x80)), 2)
  else
    match r with
    | [] => .error (.endOfData, 1)
    | [b] => if fits b then .error (.endOfData, 2) else .error (.continuationByte, 1)
    | [b, c] =>
      if !fits b then .error (.continuationByte, 1)
      else if isTail c then .error (.endOfData, 3)
      else .error (.continuationByte, 2)
    | b :: c :: d :: _ =>
      if !fits b then .error (.continuationByte, 1)
      else if !isTail c then .error (.continuationByte, 2)
      else if !isTail d then .error (.continuationByte, 3)
      else
        .ok (Char.ofNat
          ((a - 0xF0) * 0x40000 + (b - 0x80) * 0x1000 + (c - 0x80) * 0x40 + (d - 0x80)), 3)

/-- The text of UTF-8 bytes, after passing over the first bytes as the second argument counts
them. -/
def utf8 : Nat → Nat → List UInt8 → Except Fault (List Char)
  | _, _, [] => .ok []
  | offset, passed + 1, _ :: r => utf8 (offset + 1) passed r
  | offset, 0, a :: r =>
    if a.toNat < 0x80 then onto (Char.ofNat a.toNat) (utf8 (offset + 1) 0 r)
    else
      match utf8Char a.toNat ((r.take 3).map UInt8.toNat) with
      | .ok (c, k) => onto c (utf8 (offset + 1) k r)
      | .error (breach, n) => .error ⟨.utf8, breach, (a :: r).take n, offset⟩

/-! ## UTF-16 and UTF-32 -/

/-- The number that two bytes denote. -/
def unit16 (big : Bool) (a b : UInt8) : Nat :=
  if big then a.toNat * 0x100 + b.toNat else b.toNat * 0x100 + a.toNat

/-- The 16-bit units of bytes. -/
def units16 (big : Bool) : Nat → List UInt8 → Except Fault (List Nat)
  | _, [] => .ok []
  | offset, [a] => .error ⟨.utf16 big, .truncated, [a], offset⟩
  | offset, a :: b :: r => (units16 big (offset + 2) r).map (unit16 big a b :: ·)

/-- The text of 16-bit units. -/
def ofUnits16 : List Nat → List Char
  | [] => []
  | [n] => [if 0xD800 ≤ n && n ≤ 0xDFFF then replacement else Char.ofNat n]
  | n :: m :: r =>
    if 0xD800 ≤ n && n ≤ 0xDBFF && 0xDC00 ≤ m && m ≤ 0xDFFF then
      Char.ofNat (0x10000 + (n - 0xD800) * 0x400 + (m - 0xDC00)) :: ofUnits16 r
    else
      (if 0xD800 ≤ n && n ≤ 0xDFFF then replacement else Char.ofNat n) :: ofUnits16 (m :: r)

/-- The text of UTF-32 bytes. -/
def utf32 (big : Bool) : Nat → List UInt8 → Except Fault (List Char)
  | _, [] => .ok []
  | offset, a :: b :: c :: d :: r =>
    let n := if big then unit16 true a b * 0x10000 + unit16 true c d
      else unit16 false c d * 0x10000 + unit16 false a b
    if 0x110000 ≤ n then .error ⟨.utf32 big, .codePoint, [a, b, c, d], offset⟩
    else
      onto (if 0xD800 ≤ n && n ≤ 0xDFFF then replacement else Char.ofNat n)
        (utf32 big (offset + 4) r)
  | offset, bytes => .error ⟨.utf32 big, .truncated, bytes, offset⟩

/-! ## Detection -/

/-- The text of bytes in an encoding, `offset` bytes after their start. -/
def decodeAs (form : Form) (offset : Nat) (bytes : List UInt8) : Except Fault (List Char) :=
  match form with
  | .utf8 => utf8 offset 0 bytes
  | .utf16 big => (units16 big offset bytes).map ofUnits16
  | .utf32 big => utf32 big offset bytes

/-- The encoding of bytes without a mark, told by the zeros among the first of them. -/
def formOf : List UInt8 → Form
  | a :: b :: c :: d :: _ =>
    if a = 0 then if b = 0 then .utf32 true else .utf16 true
    else if b = 0 then if c = 0 && d = 0 then .utf32 false else .utf16 false
    else .utf8
  | [a, b] => if a = 0 then .utf16 true else if b = 0 then .utf16 false else .utf8
  | _ => .utf8

/-- The text of bytes. A mark is no part of it; in UTF-8 places are counted from behind the mark,
in the other encodings from the mark on. -/
def decode (bytes : List UInt8) : Except Fault (List Char) :=
  match bytes with
  | 0x00 :: 0x00 :: 0xFE :: 0xFF :: r => decodeAs (.utf32 true) 4 r
  | 0xFF :: 0xFE :: 0x00 :: 0x00 :: r => decodeAs (.utf32 false) 4 r
  | 0xFE :: 0xFF :: r => decodeAs (.utf16 true) 2 r
  | 0xFF :: 0xFE :: r => decodeAs (.utf16 false) 2 r
  | 0xEF :: 0xBB :: 0xBF :: r => decodeAs .utf8 0 r
  | _ => decodeAs (formOf bytes) 0 bytes

end Conform.Text.Encoding
