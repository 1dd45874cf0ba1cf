import Conform.Pattern.Literal
import Conform.Pattern.Parser
import Conform.Pattern.Search

/-!
# Patterns

A pattern is compiled from its text and the flags that are set from outside: the text is read, then
the flags of the whole pattern are checked, then whether the text has been read to its end, then the
groups that conditions refer to by number, and last the widths of the look-behinds.
-/

namespace Conform

/-- A compiled pattern. -/
structure Pattern where
  /-- Its text. -/
  text : List Char
  /-- The flags of the whole pattern. -/
  flags : Pattern.Flags
  /-- What it means. -/
  expr : Pattern.Expr

namespace Pattern

/-- The greatest width of a look-behind. -/
def widthLimit : Nat := 4294967295

/-- Why a look-behind of a width is refused. -/
def Width.fault? (w : Width) : Option Cause :=
  if widthLimit < w.least then some .wideLookBehind
  else if w.most = some w.least then none
  else some .variableLookBehind

/-- The name of a way of repeating. -/
def Mode.name : Mode → String
  | greedy => "MAX_REPEAT"
  | lazy => "MIN_REPEAT"
  | possessive => "POSSESSIVE_REPEAT"

/-- The first part of an expression that is refused: a look-behind whose width is not fixed, or, in
a template, a repetition. -/
def Expr.fault? (template : Bool) : Expr → Option Cause
  | seq a b => (a.fault? template).or (b.fault? template)
  | either a b => (a.fault? template).or (b.fault? template)
  | group _ e => e.fault? template
  | withFlags _ _ e => e.fault? template
  | repeated m _ _ e => if template then some (.templateRepeat m.name) else e.fault? template
  | atomic e => e.fault? template
  | ahead _ e => e.fault? template
  | behind w _ e => w.fault?.or (e.fault? template)
  | ifGroup _ yes no => (yes.fault? template).or (no.fault? template)
  | _ => none

/-- Read a whole text. -/
def Reading.whole : Reading Expr := do
  checkBackslash
  let verbose ← isVerbose
  let e ← alternatives verbose false true (6 * (← get).rest.length + 6)
  let p ← get
  if p.flags.contains .ascii && p.flags.contains .unicode then throw .contradiction
  if !p.rest.isEmpty then fail .unbalanced 0
  match p.conditions.find? fun c => p.nextGroup ≤ c.1 with
  | some (number, position) => failAt (.unknownGroup number) position
  | none => return e

/-- The pattern that a text spells, with flags set from outside. -/
def ofText (text : List Char) (flags : Flags) : Except Fault Pattern :=
  match Reading.whole.run ⟨0, text, 1, [], [], none, [], flags⟩ with
  | .error f => .error f
  | .ok (e, p) =>
    match e.fault? (p.flags.contains .template) with
    | some cause => .error (.overall cause)
    | none => .ok ⟨text, p.flags, e⟩

/-- The pattern that an argument spells, with or without delimiters. -/
def compile (argument : List Char) : Except Fault Pattern :=
  ofText (ofArgument argument).1 ((ofArgument argument).2.filterMap Flag.ofLetter?)

/-- The letters of the flags that an argument can set, as far as they are set. -/
def flagLetters (p : Pattern) : List Char :=
  "ims".toList.filter fun c => ((Flag.ofLetter? c).map (p.flags.contains ·)).getD false

/-- Does the pattern occur in a text? -/
def occursIn (p : Pattern) (s : List Char) : Bool := p.expr.occursIn p.flags s.toArray

end Pattern

end Conform
