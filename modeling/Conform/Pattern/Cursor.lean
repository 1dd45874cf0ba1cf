import Conform.Pattern.Expr
import Conform.Pattern.Fault

/-!
# Reading a pattern's text

The text of a pattern is read token by token, where a backslash makes one token with the character
behind it. A backslash that ends the text is found when the token in front of it is passed, before
anything is made of that token. Along with the place the reader keeps what it has learnt: the groups
opened so far with their names, the widths of those that are closed, and the flags that have been
set.
-/

namespace Conform.Pattern

/-- A unit of a pattern's text. -/
inductive Token where
  /-- A character. -/
  | plain (c : Char)
  /-- A backslash and a character. -/
  | escaped (c : Char)
  deriving DecidableEq, Repr

/-- The characters of a token. -/
def Token.chars : Token → List Char
  | plain c => [c]
  | escaped c => ['\\', c]

/-- The text of a token. -/
def Token.text (t : Token) : String := String.ofList t.chars

/-- What a reader of a pattern knows. -/
structure Progress where
  /-- The number of characters that have been read. -/
  position : Nat
  /-- The text that has not been read. -/
  rest : List Char
  /-- The number that the next group gets. -/
  nextGroup : Nat := 1
  /-- The groups that have names. -/
  names : List (String × Nat) := []
  /-- The widths of the groups that are closed. -/
  widths : List (Nat × Width) := []
  /-- In a look-behind, the number that the first group in it gets. -/
  lookBehind : Option Nat := none
  /-- The groups that conditions refer to by number, with the places, the first at the end. -/
  conditions : List (Nat × Nat) := []
  /-- The flags of the whole pattern. -/
  flags : Flags

/-- A step of reading. -/
abbrev Reading := StateT Progress (Except Fault)

namespace Reading

/-- Give up because of a fault at a place. -/
def failAt {α : Type} (cause : Cause) (position : Nat) : Reading α := throw (.at cause position)

/-- Give up because of a fault a number of characters before the place reached. -/
def fail {α : Type} (cause : Cause) (back : Nat) : Reading α := do
  failAt cause ((← get).position - back)

/-- The number of characters that have been read. -/
def position : Reading Nat := do return (← get).position

/-- The next token. -/
def peek : Reading (Option Token) := do
  match (← get).rest with
  | [] => return none
  | '\\' :: c :: _ => return some (.escaped c)
  | c :: _ => return some (.plain c)

/-- Is the next token a character? -/
def atChar (c : Char) : Reading Bool := do return (← peek) == some (.plain c)

/-- Refuse a text of which nothing but a backslash is left. -/
def checkBackslash : Reading Unit := do
  if (← get).rest = ['\\'] then fail .danglingBackslash 0

/-- Pass the next token. -/
def skip : Reading Unit := do
  match ← peek with
  | none => return
  | some t =>
    modify fun p => { p with
      position := p.position + t.chars.length, rest := p.rest.drop t.chars.length }
    checkBackslash

/-- Take the next token. -/
def take : Reading (Option Token) := do
  let t ← peek
  skip
  return t

/-- Pass a character if it is next. -/
def accept (c : Char) : Reading Bool := do
  if ← atChar c then
    skip
    return true
  else return false

/-- Take characters of a kind, up to a number of them. -/
def takeWhile (p : Char → Bool) : Nat → Reading (List Char)
  | 0 => return []
  | n + 1 => do
    match ← peek with
    | some (.plain c) =>
      if p c then
        skip
        let cs ← takeWhile p n
        return c :: cs
      else return []
    | _ => return []

/-- Take the characters up to a terminator, which is passed; `taken` is what has been taken, and
the number bounds how many tokens there are. -/
def takeName (terminator : Char) (what : String) (taken : List Char) : Nat → Reading (List Char)
  | 0 => fail (.unterminatedName terminator) taken.length
  | n + 1 => do
    match ← take with
    | none =>
      if taken.isEmpty then fail (.missingName what) 0
      else fail (.unterminatedName terminator) taken.length
    | some t =>
      if t = .plain terminator then
        if taken.isEmpty then fail (.missingName what) 1 else return taken
      else takeName terminator what (taken ++ t.chars) n

/-- Take a name up to its terminator. -/
def name (terminator : Char) (what : String) : Reading (List Char) := do
  takeName terminator what [] ((← get).rest.length + 1)

/-- Pass a comment up to the character that ends it; the number bounds how many tokens there
are. Tells whether the end was found. -/
def skipThrough (c : Char) : Nat → Reading Bool
  | 0 => return false
  | n + 1 => do
    match ← take with
    | none => return false
    | some t => if t = .plain c then return true else skipThrough c n

/-! ## Groups -/

/-- Refuse a reference to a group that is not closed, or not before the look-behind at hand. -/
def checkLookBehind (number : Nat) : Reading Unit := do
  let p ← get
  match p.lookBehind with
  | none => return
  | some first =>
    if (p.widths.lookup number).isNone then fail .openGroup 0
    if first ≤ number then fail .lookBehindGroup 0

/-- The number of a new group, which may have a name; the name has just been read. -/
def openGroup (name : Option (List Char)) : Reading Nat := do
  let p ← get
  let number := p.nextGroup
  match name with
  | none => set { p with nextGroup := number + 1 }
  | some cs =>
    let s := String.ofList cs
    match p.names.lookup s with
    | some previous => fail (.redefinedGroup s number previous) (cs.length + 1)
    | none => set { p with nextGroup := number + 1, names := (s, number) :: p.names }
  return number

/-- Note that a group is closed. -/
def closeGroup (number : Nat) (body : Expr) : Reading Unit :=
  modify fun p => { p with widths := (number, body.width p.widths) :: p.widths }

end Reading

end Conform.Pattern
