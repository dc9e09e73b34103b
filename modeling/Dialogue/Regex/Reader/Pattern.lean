import Dialogue.Regex.Reader.Bracket
import Dialogue.Regex.Reader.Group

/-!
# Patterns

Choices of rows of repeated parts. `Expr.ofPattern` reads a whole pattern and refuses one
that is nested too deep.
-/

namespace Dialogue.Regex.Reader

/-! ## Repetition -/

/-- The largest number of repetitions that can be written. -/
def largestCount : Nat := 4294967295

/-- Read a number with blanks around it; a missing one is reported later. -/
def count : Reader (Except Malformed Nat) := do
  let skipBlanks : Reader Unit := do skip ((← get).rest.takeWhile Text.isBlank).length
  skipBlanks
  let start ← index
  let digits ← whilePart Char.isDigit
  let span : Span := ⟨start, ← index⟩
  skipBlanks
  match Decimal.natural? 10 digits with
  | none => return .error ⟨.countMissing, span, none⟩
  | some n =>
    return if n ≤ largestCount then .ok n else .error ⟨.numberTooLarge, span, none⟩

def insist {α : Type} : Except Malformed α → Reader α
  | .ok a => return a
  | .error e => throw e

/-- Read a count in braces at the opening one: the fewest repetitions, and the most. -/
def counted : Reader (Nat × Option Nat) := do
  let start ← index
  if (← nextPart?).isNone then failFrom .countUnclosed start
  let first ← count
  let range ← match ← peek? with
    | none => failFrom .countUnclosed start
    | some c =>
      if c = ',' then
        match ← nextPart? with
        | none => failFrom .countUnclosed start
        | some c =>
          let least ← insist first
          if c = '\x7d' then pure (least, none) else pure (least, some (← insist (← count)))
      else
        let n ← insist first
        pure (n, some n)
  if (← peek?) ≠ some '\x7d' then failFrom .countUnclosed start
  discard nextPart?
  discard (accept "?")
  if range.2.any (· < range.1) then failFrom .countRange start
  return range

/-- Read an operator without a count. -/
def uncounted (least : Nat) (most : Option Nat) : Reader (Nat × Option Nat) := do
  skip 1
  discard (accept "?")
  return (least, most)

def repetitionOf (c : Char) : Reader (Nat × Option Nat) :=
  if c = '?' then uncounted 0 (some 1)
  else if c = '*' then uncounted 0 none
  else if c = '+' then uncounted 1 none
  else counted

def isRepetition (c : Char) : Bool := c = '?' || c = '*' || c = '+' || c = '\x7b'

/-- Repeat the last part of a row. -/
def repeatLast (row : List Expr) (c : Char) : Reader (List Expr) := do
  match row.getLast? with
  | none => failHere .repetitionOfNothing
  | some e =>
    if !e.isRepeatable then failHere .repetitionOfNothing
    let (least, most) ← repetitionOf c
    return row.dropLast ++ [.repeated ⟨e.span.start, ← index⟩ e least most]

/-! ## Rows and choices -/

/-- Read a part that is neither a group nor a set. -/
def plainPart (c : Char) : Reader Expr := do
  if c = '\\' then
    let (span, a) ← escape
    return .atom span a
  let i ← index
  skip 1
  let a := match c with
    | '.' => Atom.any
    | '^' => .anchor .lineStart
    | '$' => .anchor .lineEnd
    | c => .char c
  return .atom ⟨i, i + 1⟩ a

def setVerbose (fs : Flags) : Reader Unit :=
  modify fun c => { c with verbose := (fs.state? .verbose).getD c.verbose }

mutual

/-- Read the rest of a row behind its first parts, which began at a place. -/
def row : (fuel : Nat) → (start : Nat) → (parts : List Expr) → Reader Expr
  | 0, start, parts => return .ofRow ⟨start, ← index⟩ parts
  | fuel + 1, start, parts => do
    toPart
    match ← peek? with
    | none => return .ofRow ⟨start, ← index⟩ parts
    | some c =>
      if c = '|' || c = ')' then return .ofRow ⟨start, ← index⟩ parts
      else if c = '(' then row fuel start (parts ++ [← group fuel])
      else if c = '[' then
        let (span, negated, inner) ← bracket (2 * (← left) + 2)
        row fuel start (parts ++ [.set span negated inner])
      else if isRepetition c then row fuel start (← repeatLast parts c)
      else row fuel start (parts ++ [← plainPart c])

/-- Read rows with bars between them, the first of which began at a place. -/
def choice : (fuel : Nat) → (start : Nat) → (rows : List Expr) → Reader Expr
  | 0, start, rows => return .choice ⟨start, ← index⟩ rows
  | fuel + 1, start, rows => do
    let e ← row fuel (← index) []
    if (← peek?) = some '|' then
      skip 1
      choice fuel start (rows ++ [e])
    else if rows.isEmpty then return e
    else return .choice ⟨start, ← index⟩ (rows ++ [e])

/-- Read a group, or flags, at the opening parenthesis. Verbose mode ends with the group that
switched it on. -/
def group : (fuel : Nat) → Reader Expr
  | 0 => failHere .groupUnclosed
  | fuel + 1 => do
    let start ← index
    match ← opening with
    | .flags fs =>
      setVerbose fs
      return .flags ⟨start, ← index⟩ fs
    | .group fs =>
      let before := (← get).verbose
      setVerbose fs
      let e ← choice fuel (← index) []
      if (← peek?).isNone then fail .groupUnclosed ⟨start, start + 1⟩ none
      modify fun c => { c with verbose := before }
      skip 1
      return .group ⟨start, ← index⟩ fs e

end

/-- Read a pattern to its end. -/
def pattern : Reader Expr := do
  let e ← choice (3 * (← left) + 3) 0 []
  if (← peek?).isSome then failNext .groupUnopened
  if let some span := e.tooDeep nestLimit then fail (.nestedTooDeep nestLimit) span none
  return e

end Reader

/-- The expression that a pattern writes. -/
def Expr.ofPattern (cs : List Char) : Except Malformed Expr :=
  (Reader.pattern.run (Cursor.ofPattern cs)).map (·.1)

end Dialogue.Regex
