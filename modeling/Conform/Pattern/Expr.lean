import Conform.Pattern.CharSet

/-!
# Expressions

An expression is what a pattern means: characters and sets, anchors, sequences and alternatives,
repetitions, groups that remember what they matched, and tests of what stands ahead or behind. Its
*width* bounds the lengths of the texts that it matches.
-/

namespace Conform.Pattern

/-- A place in a text. -/
inductive Anchor where
  /-- The start of the text, or of a line. -/
  | lineStart
  /-- The end of the text or in front of a line feed that ends it; or the end of a line. -/
  | lineEnd
  /-- The start of the text. -/
  | textStart
  /-- The end of the text. -/
  | textEnd
  /-- Between a word character and another. -/
  | boundary
  /-- Not between a word character and another. -/
  | notBoundary
  deriving DecidableEq, Repr

/-- How a repetition chooses its count. -/
inductive Mode where
  /-- As often as possible, and fewer times if what follows needs it. -/
  | greedy
  /-- As few times as possible, and more often if what follows needs it. -/
  | lazy
  /-- As often as possible, whatever follows. -/
  | possessive
  deriving DecidableEq, Repr

/-- The least and the greatest length of the texts matched; there may be no greatest one. -/
structure Width where
  /-- The least length. -/
  least : Nat
  /-- The greatest length. -/
  most : Option Nat
  deriving DecidableEq, Repr

namespace Width

/-- The width of all texts of one length. -/
def exactly (n : Nat) : Width := ⟨n, some n⟩

/-- The width of one text after the other. -/
def add (a b : Width) : Width :=
  ⟨a.least + b.least, match a.most, b.most with
    | some m, some n => some (m + n)
    | _, _ => none⟩

/-- The width of one text or another. -/
def or (a b : Width) : Width :=
  ⟨min a.least b.least, match a.most, b.most with
    | some m, some n => some (max m n)
    | _, _ => none⟩

/-- The width of texts of one width, repeated. -/
def times (least : Nat) (most : Option Nat) (w : Width) : Width :=
  ⟨w.least * least, match w.most, most with
    | some 0, _ => some 0
    | _, some 0 => some 0
    | some m, some n => some (m * n)
    | _, _ => none⟩

end Width

/-- An expression. -/
inductive Expr where
  /-- The empty text. -/
  | empty
  /-- One code point. -/
  | literal (code : Nat)
  /-- A character of a set. -/
  | oneOf (set : CharSet)
  /-- Any character; a line feed only with a flag. -/
  | any
  /-- A place. -/
  | anchor (a : Anchor)
  /-- One expression after the other. -/
  | seq (first second : Expr)
  /-- One expression or, if that does not lead to a match, the other. -/
  | either (first second : Expr)
  /-- A group that remembers what it matched. -/
  | group (number : Nat) (body : Expr)
  /-- An expression with flags switched on and off. -/
  | withFlags (on off : Flags) (body : Expr)
  /-- A repetition. -/
  | repeated (mode : Mode) (least : Nat) (most : Option Nat) (body : Expr)
  /-- An expression that is not tried again once it has matched. -/
  | atomic (body : Expr)
  /-- A test whether the expression matches, or does not match, what stands ahead. -/
  | ahead (negated : Bool) (body : Expr)
  /-- A test whether the expression matches, or does not match, what stands behind; the width of
  the expression is known. -/
  | behind (width : Width) (negated : Bool) (body : Expr)
  /-- What a group matched. -/
  | same (number : Nat)
  /-- One of two expressions, depending on whether a group has matched. -/
  | ifGroup (number : Nat) (yes no : Expr)
  deriving DecidableEq, Repr

namespace Expr

/-- A sequence of expressions. -/
def sequence : List Expr → Expr
  | [] => empty
  | [e] => e
  | e :: es => seq e (sequence es)

/-- The width of an expression, given the widths of the groups referred to. -/
def width (groups : List (Nat × Width)) : Expr → Width
  | empty => .exactly 0
  | literal _ => .exactly 1
  | oneOf _ => .exactly 1
  | any => .exactly 1
  | anchor _ => .exactly 0
  | seq a b => (a.width groups).add (b.width groups)
  | either a b => (a.width groups).or (b.width groups)
  | group _ e => e.width groups
  | withFlags _ _ e => e.width groups
  | repeated _ least most e => (e.width groups).times least most
  | atomic e => e.width groups
  | ahead .. => .exactly 0
  | behind .. => .exactly 0
  | same n => (groups.lookup n).getD (.exactly 0)
  | ifGroup _ yes no => (yes.width groups).or (no.width groups)

end Expr

end Conform.Pattern
