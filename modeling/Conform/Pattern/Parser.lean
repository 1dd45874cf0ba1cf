import Conform.Double.Reader
import Conform.Pattern.Escape
import Conform.Text.Identifier
import Conform.Text.Letter

/-!
# From a pattern's text to its expression

The grammar is read by recursive descent: alternatives are sequences separated by bars, a sequence
is made of pieces, each of which a quantifier may repeat, and a parenthesis opens a group, a test, a
condition, a comment or a set of flags. The first fault in the order of reading is reported. The
number that the mutual functions take bounds the depth of their calls; there are at most six
calls to a token, so six times the length of the text is always enough.
-/

namespace Conform.Pattern.Reading

open Text

/-! ## Sets -/

/-- The entry that a token in a set stands for. -/
def setItem : Token → Reading SetItem
  | .plain c => return .single c.toNat
  | .escaped c => setEscape c

/-- The range from one entry to another, which are written as two tokens. -/
def setRange (this that : Token) (a b : SetItem) : Reading SetItem :=
  let refuse : Reading SetItem :=
    fail (.badRange this.text that.text) (this.chars.length + 1 + that.chars.length)
  match a, b with
  | .single first, .single last => if last < first then refuse else return .range first last
  | _, _ => refuse

/-- The entries of a set that starts at a place, up to the closing bracket; `items` have been
read. A bracket that comes first stands for itself, and so does a hyphen at either end. -/
def setItems (start : Nat) (items : List SetItem) : Nat → Reading (List SetItem)
  | 0 => failAt .unterminatedSet start
  | n + 1 => do
    match ← take with
    | none => failAt .unterminatedSet start
    | some this =>
      if this = .plain ']' && !items.isEmpty then return items
      else
        let a ← setItem this
        if ← accept '-' then
          match ← take with
          | none => failAt .unterminatedSet start
          | some that =>
            if that = .plain ']' then return items ++ [a, .single '-'.toNat]
            else
              let b ← setItem that
              let r ← setRange this that a b
              setItems start (items ++ [r]) n
        else setItems start (items ++ [a]) n

/-- A set from behind its opening bracket. -/
def charSet : Reading CharSet := do
  let start := (← position) - 1
  let negated ← accept '^'
  let items ← setItems start [] ((← get).rest.length + 1)
  return ⟨negated, items⟩

/-! ## Quantifiers -/

/-- The least number that is too large for a count. -/
def countLimit : Nat := 4294967295

/-- The count that digits denote, if there are any. -/
def count (ds : List Char) : Reading (Option Nat) :=
  if ds.isEmpty then return none
  else if Double.maxDigits < ds.length then throw (.digits ds.length)
  else
    let n := ofDigits (digitValues ds)
    if countLimit ≤ n then throw .repetition else return some n

/-- The least and the greatest count in braces, from behind the opening one; none if the braces hold
no counts, and then nothing is read. -/
def braces : Reading (Option (Nat × Option Nat)) := do
  let before ← get
  if ← atChar '\x7d' then return none
  else
    let low ← takeWhile isAsciiDigit before.rest.length
    let high ← if ← accept ',' then takeWhile isAsciiDigit before.rest.length else pure low
    if ← accept '\x7d' then
      let least ← count low
      let most ← count high
      match most with
      | some m => if m < least.getD 0 then failAt .repeatOrder before.position
      | none => pure ()
      return some (least.getD 0, most)
    else
      set before
      return none

/-- The counts of a quantifier, from behind its first character. -/
def counts (c : Char) : Reading (Option (Nat × Option Nat)) :=
  match c with
  | '?' => return some (0, some 1)
  | '*' => return some (0, none)
  | '+' => return some (1, none)
  | _ => braces

/-- How a quantifier chooses its count. -/
def mode : Reading Mode := do
  if ← accept '?' then return .lazy
  else if ← accept '+' then return .possessive
  else return .greedy

/-- May an expression be repeated? A place may not, and a repetition only as a group. -/
def repeatFault? : Expr → Option Cause
  | .anchor _ => some .nothingToRepeat
  | .repeated .. => some .multipleRepeat
  | _ => none

/-- The pieces of a sequence, the last first, once the quantifier has been read whose first character
has just been passed. Braces that hold no counts stand for themselves. -/
def quantified (c : Char) (pieces : List Expr) : Reading (List Expr) := do
  let start := (← position) - 1
  match ← counts c with
  | none => return .literal c.toNat :: pieces
  | some (least, most) =>
    match pieces with
    | [] => failAt .nothingToRepeat start
    | e :: es =>
      match repeatFault? e with
      | some cause => failAt cause start
      | none =>
        let m ← mode
        return .repeated m least most e :: es

/-! ## Flags -/

/-- A character that can start or continue flags. -/
def isFlag (t : Token) : Bool :=
  match t with
  | .plain c => (Flag.ofLetter? c).isSome
  | .escaped _ => false

/-- The cause for a token among flags that is none. -/
def flagCause (otherwise : Cause) : Token → Cause
  | .plain c => if isLetter c then .unknownFlag else otherwise
  | .escaped _ => otherwise

/-- The flags that are switched on, from behind the first of them, and the token that ends
them. -/
def flagsOn (flags : Flags) (t : Token) : Nat → Reading (Flags × Token)
  | 0 => fail .unterminatedFlags 0
  | n + 1 => do
    match t with
    | .escaped _ => fail .unterminatedFlags 0
    | .plain c =>
      match Flag.ofLetter? c with
      | none => fail .unterminatedFlags 0
      | some .locale => fail .localeFlag 0
      | some f =>
        let flags := f :: flags
        if f.isCharacterType && flags.any fun g => g.isCharacterType && g != f then
          fail .incompatibleFlags 0
        else
          match ← take with
          | none => fail .unterminatedFlags 0
          | some t =>
            if t = .plain ')' || t = .plain ':' || t = .plain '-' then return (flags, t)
            else if isFlag t then flagsOn flags t n
            else fail (flagCause .unterminatedFlags t) t.chars.length

/-- The flags that are switched off, up to the colon, from behind the first of them. -/
def flagsOff (flags : Flags) (t : Token) : Nat → Reading Flags
  | 0 => fail .missingColon 0
  | n + 1 => do
    match t with
    | .escaped _ => fail .missingColon 0
    | .plain c =>
      match Flag.ofLetter? c with
      | none => fail .missingColon 0
      | some f =>
        if f.isCharacterType then fail .characterTypeOff 0
        else
          let flags := f :: flags
          match ← take with
          | none => fail .missingColon 0
          | some t =>
            if t = .plain ':' then return flags
            else if isFlag t then flagsOff flags t n
            else fail (flagCause .missingColon t) t.chars.length

/-- What flags in parentheses are for. -/
inductive FlagUse where
  /-- For the whole pattern. -/
  | whole (flags : Flags)
  /-- For what follows the colon: these are switched on, those off. -/
  | part (on off : Flags)

/-- The flags that are switched off, if the token in front of them is a hyphen. -/
def flagsBehind (t : Token) (bound : Nat) : Reading Flags := do
  if t = .plain '-' then
    match ← take with
    | none => fail .missingFlag 0
    | some t =>
      if isFlag t then flagsOff [] t bound else fail (flagCause .missingFlag t) t.chars.length
  else return []

/-- The flags that start with a token. -/
def flagUse (t : Token) : Reading FlagUse := do
  let bound := (← get).rest.length + 1
  let (on, t) ← if t = .plain '-' then pure ([], t) else flagsOn [] t bound
  if t = .plain ')' then return .whole on
  else if on.contains .template then fail .globalFlagOn 1
  else
    let off ← flagsBehind t bound
    if off.contains .template then fail .globalFlagOff 1
    else if on.any (off.contains ·) then fail .flagOnAndOff 1
    else return .part on off

/-- Set flags for the whole pattern. -/
def setFlags (flags : Flags) : Reading Unit :=
  modify fun p => { p with flags := p.flags ++ flags }

/-- Have blanks and comments to be passed over, as far as the flags of the whole pattern go? -/
def isVerbose : Reading Bool := do return (← get).flags.contains .verbose

/-! ## Names -/

/-- The largest number of groups. -/
def groupLimit : Nat := 1073741823

/-- Take a group's name up to its terminator. -/
def groupName (terminator : Char) : Reading (List Char) := do
  let cs ← name terminator "group name"
  if isIdentifier cs then return cs
  else fail (.badGroupName (String.ofList cs)) (cs.length + 1)

/-- The number of the group of a name that has just been read. -/
def numberOf (cs : List Char) : Reading Nat := do
  match (← get).names.lookup (String.ofList cs) with
  | some n => return n
  | none => fail (.unknownGroupName (String.ofList cs)) (cs.length + 1)

/-- What the group of a name has matched. -/
def namedReference : Reading Expr := do
  let cs ← groupName ')'
  let n ← numberOf cs
  if ((← get).widths.lookup n).isNone then fail .openGroup (cs.length + 1)
  checkLookBehind n
  return .same n

/-- The group of a number that has just been read as the condition of a test. -/
def conditionNumber (cs : List Char) : Reading Nat := do
  match Double.intOfText? cs with
  | some (.ofNat n) =>
    if n = 0 then fail .badGroupNumber (cs.length + 1)
    else if groupLimit ≤ n then fail (.unknownGroup n) (cs.length + 1)
    else
      modify fun p =>
        if (p.conditions.lookup n).isSome then p
        else { p with conditions := p.conditions ++ [(n, p.position - cs.length - 1)] }
      return n
  | _ => fail (.badGroupName (String.ofList cs)) (cs.length + 1)

/-- The group that a condition is about. -/
def condition : Reading Nat := do
  let cs ← name ')' "group name"
  let n ← if isIdentifier cs then numberOf cs else conditionNumber cs
  checkLookBehind n
  return n

/-- Pass the parenthesis that closes a group, which was opened at a place. -/
def close (start : Nat) : Reading Unit := do
  if !(← accept ')') then failAt .unterminatedGroup start

/-! ## The grammar -/

/-- What a parenthesis makes of the sequence. -/
inductive Piece where
  /-- One more expression. -/
  | expr (e : Expr)
  /-- Nothing. -/
  | nothing
  /-- Flags that have been set for the whole pattern. -/
  | flags

mutual

/-- Alternatives. `nested` is set inside parentheses, `first` for the first alternative. -/
def alternatives (verbose nested first : Bool) : Nat → Reading Expr
  | 0 => fail .unexpectedEnd 0
  | n + 1 => do
    let e ← pieces verbose (first && !nested) [] n
    if ← accept '|' then
      let verbose ← if nested then pure verbose else isVerbose
      let f ← alternatives verbose nested false n
      return .either e f
    else return e
termination_by structural n => n

/-- A sequence; `done` are its pieces so far, the last first. `opening` is set where flags for the
whole pattern may still come. -/
def pieces (verbose opening : Bool) (done : List Expr) : Nat → Reading Expr
  | 0 => fail .unexpectedEnd 0
  | n + 1 => do
    match ← peek with
    | none => return .sequence done.reverse
    | some (.escaped c) =>
      skip
      let e ← escape c
      pieces verbose opening (e :: done) n
    | some (.plain c) =>
      if c = '|' || c = ')' then return .sequence done.reverse
      else
        skip
        if verbose && isAsciiBlank c then pieces verbose opening done n
        else if verbose && c = '#' then
          let _ ← skipThrough '\n' ((← get).rest.length + 1)
          pieces verbose opening done n
        else
          match c with
          | '[' =>
            let s ← charSet
            pieces verbose opening (.oneOf s :: done) n
          | '.' => pieces verbose opening (.any :: done) n
          | '^' => pieces verbose opening (.anchor .lineStart :: done) n
          | '$' => pieces verbose opening (.anchor .lineEnd :: done) n
          | '(' =>
            match ← parenthesis verbose (opening && done.isEmpty) n with
            | .expr e => pieces verbose opening (e :: done) n
            | .nothing => pieces verbose opening done n
            | .flags =>
              let v ← isVerbose
              pieces v opening done n
          | _ =>
            if c = '*' || c = '+' || c = '?' || c = '\x7b' then
              let done ← quantified c done
              pieces verbose opening done n
            else pieces verbose opening (.literal c.toNat :: done) n
termination_by structural n => n

/-- What a parenthesis opens, from behind it. -/
def parenthesis (verbose opening : Bool) : Nat → Reading Piece
  | 0 => fail .unexpectedEnd 0
  | n + 1 => do
    let start := (← position) - 1
    if ← accept '?' then
      match ← take with
      | none => fail .unexpectedEnd 0
      | some t =>
        match t with
        | .plain 'P' => extension verbose start n
        | .plain ':' => return .expr (.withFlags [] [] (← body verbose start n))
        | .plain '#' =>
          if ← skipThrough ')' ((← get).rest.length + 1) then return .nothing
          else failAt .unterminatedComment start
        | .plain '=' => return .expr (.ahead false (← body verbose start n))
        | .plain '!' => return .expr (.ahead true (← body verbose start n))
        | .plain '<' =>
          match ← take with
          | none => fail .unexpectedEnd 0
          | some (.plain '=') => lookBehind verbose false start n
          | some (.plain '!') => lookBehind verbose true start n
          | some t => fail (.unknownExtension ("<" ++ t.text)) (t.chars.length + 2)
        | .plain '(' => conditional verbose start n
        | .plain '>' => return .expr (.atomic (← body verbose start n))
        | t =>
          if isFlag t || t = .plain '-' then
            match ← flagUse t with
            | .whole flags =>
              setFlags flags
              if opening then return .flags else failAt .misplacedFlags start
            | .part on off =>
              let v := (verbose || on.contains .verbose) && !off.contains .verbose
              return .expr (.withFlags on off (← body v start n))
          else fail (.unknownExtension t.text) (t.chars.length + 1)
    else capture none verbose start n
termination_by structural n => n

/-- Alternatives up to the parenthesis that closes them. -/
def body (verbose : Bool) (start : Nat) : Nat → Reading Expr
  | 0 => fail .unexpectedEnd 0
  | n + 1 => do
    let e ← alternatives verbose true true n
    close start
    return e
termination_by structural n => n

/-- A group that remembers what it matched. -/
def capture (name : Option (List Char)) (verbose : Bool) (start : Nat) : Nat → Reading Piece
  | 0 => fail .unexpectedEnd 0
  | n + 1 => do
    let number ← openGroup name
    let e ← body verbose start n
    closeGroup number e
    return .expr (.group number e)
termination_by structural n => n

/-- A named group, or what one has matched. -/
def extension (verbose : Bool) (start : Nat) : Nat → Reading Piece
  | 0 => fail .unexpectedEnd 0
  | n + 1 => do
    if ← accept '<' then
      let cs ← groupName '>'
      capture (some cs) verbose start n
    else if ← accept '=' then return .expr (← namedReference)
    else
      match ← take with
      | none => fail .unexpectedEnd 0
      | some t => fail (.unknownExtension ("P" ++ t.text)) (t.chars.length + 2)
termination_by structural n => n

/-- A test of what stands behind. -/
def lookBehind (verbose negated : Bool) (start : Nat) : Nat → Reading Piece
  | 0 => fail .unexpectedEnd 0
  | n + 1 => do
    let outer := (← get).lookBehind
    modify fun p => { p with lookBehind := p.lookBehind.or (some p.nextGroup) }
    let e ← alternatives verbose true true n
    modify fun p => { p with lookBehind := outer }
    close start
    return .expr (.behind (e.width (← get).widths) negated e)
termination_by structural n => n

/-- A choice that depends on whether a group has matched. -/
def conditional (verbose : Bool) (start : Nat) : Nat → Reading Piece
  | 0 => fail .unexpectedEnd 0
  | n + 1 => do
    let number ← condition
    let yes ← pieces verbose false [] n
    let no ← if ← accept '|' then pieces verbose false [] n else pure .empty
    if ← atChar '|' then fail .tooManyBranches 0
    close start
    return .expr (.ifGroup number yes no)
termination_by structural n => n

end

end Conform.Pattern.Reading
