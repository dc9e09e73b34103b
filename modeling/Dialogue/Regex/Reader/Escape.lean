import Dialogue.Decimal
import Dialogue.Hex
import Dialogue.Regex.Expr
import Dialogue.Regex.Reader

/-!
# Escapes

What a backslash makes of the characters behind it, between brackets as well as outside of
them.
-/

namespace Dialogue.Regex.Reader

/-! ## Characters by code -/

def isHexDigit (c : Char) : Bool := (Hex.digit? c).isSome

/-- The character with the number that digits give, which stand in a stretch. -/
def characterOf (digits : List Char) (span : Span) : Reader Char :=
  match Decimal.natural? 16 digits with
  | some n => if n.isValidChar then return Char.ofNat n else fail .hexNoCharacter span none
  | none => fail .hexNoCharacter span none

def hexDigits : (count : Nat) → Reader (List Char)
  | 0 => return []
  | count + 1 => do
    match ← peek? with
    | none => failHere .escapeUnfinished
    | some c =>
      if !isHexDigit c then failNext .hexDigit
      discard nextPart?
      return c :: (← hexDigits count)

/-- Read the code of a character in braces, at the opening one. -/
def bracedCode : Reader Char := do
  let brace ← index
  discard nextPart?
  let digits ← whilePart isHexDigit
  match ← peek? with
  | none => failFrom .escapeUnfinished brace
  | some c =>
    if c ≠ '\x7d' then failNext .hexDigit
    let stop ← index
    discard nextPart?
    if digits.isEmpty then failFrom .hexMissing brace
    characterOf digits ⟨brace + 1, stop⟩

/-- Read the code of a character behind the letter for its width. -/
def code (width : Nat) : Reader Atom := do
  match ← nextPart? with
  | none => failHere .escapeUnfinished
  | some c =>
    if c = '\x7b' then return .char (← bracedCode)
    let start ← index
    let digits ← hexDigits width
    let c ← characterOf digits ⟨start, ← index⟩
    return if width = 2 then .code c else .char c

/-! ## Properties -/

/-- Cut a text in two around the first place where a word occurs in it. -/
def cutAt (word : List Char) : List Char → Option (List Char × List Char)
  | [] => none
  | c :: cs =>
    if word.isPrefixOf (c :: cs) then some ([], (c :: cs).drop word.length)
    else (cutAt word cs).map fun r => (c :: r.1, r.2)

/-- What a text in braces asks for: a name, or a name with a value. The result says, too,
whether the value is denied. -/
def propertyQuery (cs : List Char) : PropertyQuery × Bool :=
  let valued (r : List Char × List Char) := .valued (String.ofList r.1) (String.ofList r.2)
  match cutAt ['!', '='] cs with
  | some r => (valued r, true)
  | none =>
    match (cutAt [':'] cs).or (cutAt ['='] cs) with
    | some r => (valued r, false)
    | none => (.named (String.ofList cs), false)

/-- Read the name of a property behind its letter. -/
def property (negated : Bool) : Reader Atom := do
  match ← nextPart? with
  | none => failHere .escapeUnfinished
  | some c =>
    if c = '\x7b' then
      discard nextPart?
      let name ← whilePart (· ≠ '\x7d')
      if (← peek?).isNone then failHere .escapeUnfinished
      skip 1
      let (query, denied) := propertyQuery name
      return .property query (negated != denied)
    if c = '\\' then failNext .propertySpelling
    discard nextPart?
    return .property (.named (String.ofList [c])) negated

/-! ## Edges of words -/

def edgeNamed? (cs : List Char) : Option Edge :=
  [("start", Edge.start), ("end", .stop), ("start-half", .startHalf),
    ("end-half", .stopHalf)].lookup (String.ofList cs)

def isEdgeLetter (c : Char) : Bool := c.isAlpha || c = '-'

/-- Read the name of an edge in braces, if it is one and not a count, behind an escape that
starts at a place. -/
def bracedEdge (escape : Nat) : Reader Edge := do
  let before ← get
  let brace ← index
  match ← nextPart? with
  | none => failFrom .edgeUnfinished escape
  | some c =>
    if !isEdgeLetter c then
      set before
      return .either
    let start ← index
    let name ← whilePart isEdgeLetter
    if (← peek?) ≠ some '\x7d' then failFrom .edgeUnclosed brace
    let stop ← index
    skip 1
    match edgeNamed? name with
    | some e => return e
    | none => fail .edgeUnknown ⟨start, stop⟩ none

/-! ## Escapes -/

/-- Whether a character behind a backslash stands for itself: those with a meaning of their
own, and the others of ASCII that are neither letters, digits nor angles. -/
def isPlainEscape (c : Char) : Bool :=
  c.toNat < 0x80 && !c.isAlphanum && c ≠ '<' && c ≠ '>'

/-- What a letter stands for that takes nothing behind it. -/
def simpleEscape? : Char → Option Atom
  | 'a' => some (.char '\x07')
  | 'f' => some (.char '\x0c')
  | 't' => some (.char '\t')
  | 'n' => some (.char '\n')
  | 'r' => some (.char '\r')
  | 'v' => some (.char '\x0b')
  | 'A' => some (.anchor .textStart)
  | 'z' => some (.anchor .textEnd)
  | 'B' => some (.anchor (.word .neither))
  | '<' => some (.anchor (.word .start))
  | '>' => some (.anchor (.word .stop))
  | _ => none

def shorthand? : Char → Option Atom
  | 'd' => some (.shorthand .digit false)
  | 'D' => some (.shorthand .digit true)
  | 's' => some (.shorthand .space false)
  | 'S' => some (.shorthand .space true)
  | 'w' => some (.shorthand .word false)
  | 'W' => some (.shorthand .word true)
  | _ => none

/-- How many digits the code of a character has behind a letter. -/
def codeWidth? : Char → Option Nat
  | 'x' => some 2
  | 'u' => some 4
  | 'U' => some 8
  | _ => none

/-- Read what follows a backslash, which stands at a place. -/
def escaped (start : Nat) (c : Char) : Reader Atom := do
  if c.isDigit then fail .backreference ⟨start, (← index) + 1⟩ none
  else if let some width := codeWidth? c then code width
  else if c = 'p' then property false
  else if c = 'P' then property true
  else
    skip 1
    if let some a := (shorthand? c).or (simpleEscape? c) then return a
    else if c = 'b' then
      let e ← if (← peek?) = some '\x7b' then bracedEdge start else pure .either
      return .anchor (.word e)
    else if isPlainEscape c then return .char c
    else failFrom .escapeUnknown start

/-- Read an escape at its backslash. -/
def escape : Reader (Span × Atom) := do
  let start ← index
  skip 1
  match ← peek? with
  | none => failFrom .escapeUnfinished start
  | some c =>
    let a ← escaped start c
    return (⟨start, ← index⟩, a)

end Dialogue.Regex.Reader
