import Dialogue.Regex.Reader.Escape

/-!
# Bracketed sets

Items, ranges, named ASCII classes, nested sets, and the operators `&&`, `--` and `~~`, which
bind weaker than standing side by side and group to the left.
-/

namespace Dialogue.Regex.Reader

/-- The character that comes after the next one, in verbose mode without regard to blanks and
to the mark of a comment. -/
def peekBehind? : Reader (Option Char) := do
  let c ← get
  let behind := c.rest.drop 1
  if !c.verbose then return behind.head?
  let solid := behind.dropWhile Text.isBlank
  let solid := if solid.head? = some '#' then (solid.drop 1).dropWhile Text.isBlank else solid
  return (solid.head?).or behind.head?

/-- One character or escape. -/
def setAtom : Reader (Span × Atom) := do
  let i ← index
  match ← peek? with
  | some '\\' => escape
  | some c =>
    skip 1
    return (⟨i, i + 1⟩, .char c)
  | none => failHere .classUnclosed

/-- An item by itself: anything but an assertion or the dot. -/
def setItem (a : Span × Atom) : Reader SetExpr :=
  match a.2 with
  | .anchor _ | .any => fail .classEscape a.1 none
  | _ => return .atom a.1 a.2

/-- The end of a range, which must be a character. -/
def boundary (a : Span × Atom) : Reader Char :=
  match a.2.literal? with
  | some c => return c
  | none => fail .classBoundary a.1 none

/-- An item or a range, in a set that was opened in a stretch. -/
def itemOrRange (opening : Span) : Reader SetExpr := do
  let first ← setAtom
  toPart
  match ← peek? with
  | none => fail .classUnclosed opening none
  | some c =>
    let behind ← peekBehind?
    if c ≠ '-' || behind = some ']' || behind = some '-' then setItem first
    else
      if (← nextPart?).isNone then fail .classUnclosed opening none
      let last ← setAtom
      let lo ← boundary first
      let hi ← boundary last
      if hi < lo then fail .classRange ⟨first.1.start, last.1.stop⟩ none
      return .range first last

/-- A named class such as `[:alpha:]`, if one comes next. -/
def asciiClass? : Reader (Option SetExpr) := do
  let start ← index
  match (← get).rest with
  | '[' :: ':' :: cs =>
    let negated := cs.head? = some '^'
    let cs := if negated then cs.drop 1 else cs
    let word := cs.takeWhile (· ≠ ':')
    match cs.drop word.length, AsciiName.named? word with
    | ':' :: ']' :: _, some name =>
      skip (word.length + (if negated then 5 else 4))
      return some (.ascii ⟨start, ← index⟩ name negated)
    | _, _ => return none
  | _ => return none

/-- What an opening bracket begins: whether the set is negated, and the hyphens or the closing
bracket that stand for themselves because they come first. -/
def openBracket : Reader (Span × Bool × List SetExpr) := do
  let start ← index
  if (← nextPart?).isNone then failFrom .classUnclosed start
  let negated := (← peek?) = some '^'
  if negated then
    if (← nextPart?).isNone then failFrom .classUnclosed start
  let hyphens ← hyphensFrom start (← left)
  let first ←
    if hyphens.isEmpty && (← peek?) = some ']' then
      let i ← index
      if (← nextPart?).isNone then failFrom .classUnclosed start
      pure [.atom ⟨i, i + 1⟩ (.char ']')]
    else pure hyphens
  return (⟨start, ← index⟩, negated, first)
where
  hyphensFrom (start : Nat) : (fuel : Nat) → Reader (List SetExpr)
    | 0 => return []
    | fuel + 1 => do
      if (← peek?) ≠ some '-' then return []
      let i ← index
      if (← nextPart?).isNone then fail .classUnclosed ⟨start, start⟩ none
      return .atom ⟨i, i + 1⟩ (.char '-') :: (← hyphensFrom start fuel)

/-- An operator, if one comes next. -/
def setOperator? : Reader (Option SetOperator) := do
  if ← accept "&&" then return some .inter
  if ← accept "--" then return some .diff
  if ← accept "~~" then return some .symmDiff
  return none

/-- The set before an operator with the items behind it. -/
def combine (left : Option (SetExpr × SetOperator)) (right : SetExpr) : SetExpr :=
  match left with
  | none => right
  | some (l, op) => .combined op l right

mutual

/-- Read a set at its opening bracket. -/
def bracket : (fuel : Nat) → Reader (Span × Bool × SetExpr)
  | 0 => failHere .classUnclosed
  | fuel + 1 => do
    let (opening, negated, first) ← openBracket
    let inner ← setItems fuel opening none first
    return (⟨opening.start, ← index⟩, negated, inner)

/-- Read the rest of a set behind some items. -/
def setItems : (fuel : Nat) → (opening : Span) → (left : Option (SetExpr × SetOperator)) →
    (items : List SetExpr) → Reader SetExpr
  | 0, opening, _, _ => fail .classUnclosed opening none
  | fuel + 1, opening, left, items => do
    toPart
    match ← peek? with
    | none => fail .classUnclosed opening none
    | some c =>
      let here ← index
      if c = ']' then
        skip 1
        return combine left (.ofItems here items)
      else if c = '[' then
        match ← asciiClass? with
        | some e => setItems fuel opening left (items ++ [e])
        | none =>
          let (span, negated, inner) ← bracket fuel
          setItems fuel opening left (items ++ [.bracketed span negated inner])
      else
        match ← setOperator? with
        | some op => setItems fuel opening (some (combine left (.ofItems here items), op)) []
        | none => setItems fuel opening left (items ++ [← itemOrRange opening])

end

end Dialogue.Regex.Reader
