import Conform.Pattern.Expr

/-!
# Searching

An expression is run against a text at a place and hands each way of matching, in its order of
preference, to what follows, until something that follows accepts. So what follows decides which way
is taken, and a way that leads nowhere leaves no trace: the groups that it has marked are forgotten
with it. A repetition whose last round matched the empty text does not start another round beyond
its least count, which bounds the number of rounds by the length of the text.
-/

namespace Conform.Pattern

/-- How far a match has come. -/
structure Spot where
  /-- The number of characters in front of the place reached. -/
  position : Nat
  /-- Where groups were entered, the latest first. -/
  starts : List (Nat × Nat)
  /-- Where groups were left, the latest first. -/
  ends : List (Nat × Nat)

namespace Spot

/-- One character further. -/
def next (s : Spot) : Spot := { s with position := s.position + 1 }

/-- Enter a group. -/
def enter (s : Spot) (group : Nat) : Spot := { s with starts := (group, s.position) :: s.starts }

/-- Leave a group. -/
def leave (s : Spot) (group : Nat) : Spot := { s with ends := (group, s.position) :: s.ends }

/-- From where to where a group has matched, if it has. -/
def group? (s : Spot) (group : Nat) : Option (Nat × Nat) :=
  match s.starts.lookup group, s.ends.lookup group with
  | some i, some j => if i ≤ j then some (i, j) else none
  | _, _ => none

end Spot

/-- What follows an expression: it accepts a spot or not. -/
abbrev Sequel := Spot → Option Spot

/-- A way of matching: from a spot on, each way of matching is handed to the sequel. -/
abbrev Matcher := Spot → Sequel → Option Spot

namespace Matcher

/-- A matcher a number of times. -/
def times (m : Matcher) : Nat → Matcher
  | 0 => fun s k => k s
  | n + 1 => fun s k => m s fun t => times m n t k

/-- A matcher up to a number of times, more rounds first; `last` is where the last round
started. -/
def greedy (m : Matcher) : Nat → Option Nat → Matcher
  | 0, _ => fun s k => k s
  | n + 1, last => fun s k =>
    if last = some s.position then k s
    else
      match m s fun t => greedy m n (some s.position) t k with
      | some r => some r
      | none => k s

/-- A matcher up to a number of times, fewer rounds first. -/
def lazy (m : Matcher) : Nat → Option Nat → Matcher
  | 0, _ => fun s k => k s
  | n + 1, last => fun s k =>
    match k s with
    | some r => some r
    | none =>
      if last = some s.position then none
      else m s fun t => lazy m n (some s.position) t k

/-- As many rounds of a matcher as there can be, each in the way that it prefers, up to a number. -/
def exhaust (m : Matcher) : Nat → Spot → Spot
  | 0, s => s
  | n + 1, s =>
    match m s some with
    | none => s
    | some t => if t.position = s.position then t else exhaust m n t

/-- A number of rounds of a matcher, each in the way that it prefers. -/
def insist (m : Matcher) : Nat → Spot → Option Spot
  | 0, s => some s
  | n + 1, s => (m s some).bind (insist m n)

/-- A repetition of a matcher. The rounds beyond the least count are bounded by the greatest one and
by the length of the text. -/
def repeated (m : Matcher) (length : Nat) (mode : Mode) (least : Nat) (most : Option Nat) :
    Matcher := fun s k =>
  let further := match most with
    | some n => min (n - least) (length + 1)
    | none => length + 1
  match mode with
  | .greedy => times m least s fun t => greedy m further none t k
  | .lazy => times m least s fun t => lazy m further none t k
  | .possessive => (insist m least s).bind fun t => k (exhaust m further t)

end Matcher

/-! ## Places and characters -/

/-- Is there a word character at a position? -/
def isWordAt (text : Array Char) (ascii : Bool) (i : Nat) : Bool :=
  match text[i]? with
  | some c => Category.word.has ascii c
  | none => false

/-- Does the character in front of a position count as a word character? -/
def isWordBefore (text : Array Char) (ascii : Bool) (i : Nat) : Bool :=
  i != 0 && isWordAt text ascii (i - 1)

/-- Is a position the place of an anchor? In an empty text there are no word boundaries, and no
places between them either. -/
def Anchor.holds (text : Array Char) (flags : Flags) (i : Nat) : Anchor → Bool
  | lineStart => i == 0 || (flags.contains .multiline && text[i - 1]? == some '\n')
  | lineEnd =>
    i == text.size || (text[i]? == some '\n' && (flags.contains .multiline || i + 1 == text.size))
  | textStart => i == 0
  | textEnd => i == text.size
  | boundary =>
    text.size != 0 && isWordBefore text flags.ascii i != isWordAt text flags.ascii i
  | notBoundary =>
    text.size != 0 && isWordBefore text flags.ascii i == isWordAt text flags.ascii i

/-- A character that a test accepts. -/
def character (text : Array Char) (accepts : Char → Bool) : Matcher := fun s k =>
  match text[s.position]? with
  | some c => if accepts c then k s.next else none
  | none => none

/-- Do the characters from one position on match as many from another position on? -/
def sameText (text : Array Char) (flags : Flags) : Nat → Nat → Nat → Bool
  | 0, _, _ => true
  | n + 1, i, j =>
    match text[i]?, text[j]? with
    | some a, some b => flags.fold a.toNat == flags.fold b.toNat &&
      sameText text flags n (i + 1) (j + 1)
    | _, _ => false

/-- A place from which a number of characters can be stepped back. -/
def stepBack (s : Spot) (n : Nat) : Option Spot :=
  if n ≤ s.position then some { s with position := s.position - n } else none

/-- Run an expression against a text. -/
def Expr.run (text : Array Char) : Expr → Flags → Matcher
  | empty, _ => fun s k => k s
  | literal n, flags => character text (isCode flags n)
  | oneOf set, flags => character text (set.has flags ·)
  | any, flags => character text fun c => flags.contains .dotAll || c != '\n'
  | anchor a, flags => fun s k => if a.holds text flags s.position then k s else none
  | seq a b, flags => fun s k => a.run text flags s fun t => b.run text flags t k
  | either a b, flags => fun s k =>
    match a.run text flags s k with
    | some r => some r
    | none => b.run text flags s k
  | group n e, flags => fun s k => e.run text flags (s.enter n) fun t => k (t.leave n)
  | withFlags on off e, flags => e.run text (flags.switched on off)
  | repeated mode least most e, flags =>
    Matcher.repeated (e.run text flags) text.size mode least most
  | atomic e, flags => fun s k => (e.run text flags s some).bind k
  | ahead negated e, flags => fun s k =>
    match e.run text flags s some with
    | some t => if negated then none else k { t with position := s.position }
    | none => if negated then k s else none
  | behind w negated e, flags => fun s k =>
    match (stepBack s w.least).bind fun t => e.run text flags t some with
    | some t => if negated then none else k { t with position := s.position }
    | none => if negated then k s else none
  | same n, flags => fun s k =>
    match s.group? n with
    | some (i, j) =>
      if sameText text flags (j - i) i s.position then
        k { s with position := s.position + (j - i) }
      else none
    | none => none
  | ifGroup n yes no, flags => fun s k =>
    match s.group? n with
    | some _ => yes.run text flags s k
    | none => no.run text flags s k

/-- Does an expression match somewhere in a text? -/
def Expr.occursIn (e : Expr) (flags : Flags) (text : Array Char) : Bool :=
  (List.range (text.size + 1)).any fun i => (e.run text flags ⟨i, [], []⟩ some).isSome

end Conform.Pattern
