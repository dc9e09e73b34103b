import Dialogue.Regex.Reader.Escape
import Dialogue.Text.Property

/-!
# Openings of groups

What stands behind an opening parenthesis: the name of the group, flags, or nothing special.
-/

namespace Dialogue.Regex.Reader

/-! ## Flags -/

def flagItem (c : Char) : Reader FlagItem :=
  if c = '-' then return .negation
  else
    match Flag.ofChar? c with
    | some f => return .flag f
    | none => failNext .flagUnknown

/-- Flags up to a colon or a closing parenthesis, behind those seen already. -/
def flagItems : (fuel : Nat) → (seen : List (FlagItem × Span)) →
    Reader (List (FlagItem × Span))
  | 0, _ => failHere .flagMissing
  | fuel + 1, seen => do
    match ← peek? with
    | none => failHere .flagMissing
    | some c =>
      if c = ':' || c = ')' then return seen
      let item ← flagItem c
      let i ← index
      if let some earlier := seen.find? (·.1 = item) then
        let fault := if item = .negation then Fault.flagNegationTwice else .flagTwice
        fail fault ⟨i, i + 1⟩ (some earlier.2)
      skip 1
      flagItems fuel (seen ++ [(item, ⟨i, i + 1⟩)])

def flagList : Reader Flags := do
  let items ← flagItems ((← left) + 1) []
  if let some last := items.getLast? then
    if last.1 = .negation then fail .flagNegationLast last.2 none
  return items.map (·.1)

/-! ## Names -/

def isNameStart (c : Char) : Bool := c = '_' || Text.alphabetic.contains c

def isNameChar (c : Char) : Bool :=
  c = '_' || c = '.' || c = '[' || c = ']' || Text.alphanumeric.contains c

/-- The name at the front of some characters. -/
def nameOf : List Char → List Char
  | [] => []
  | c :: cs => if isNameStart c then c :: cs.takeWhile isNameChar else []

/-- Read the name of a group and the angle behind it. -/
def groupName : Reader Unit := do
  let start ← index
  let name := nameOf (← get).rest
  skip name.length
  match ← peek? with
  | none => failHere .nameUnclosed
  | some c =>
    if c ≠ '>' then failNext .nameCharacter
    let span : Span := ⟨start, ← index⟩
    skip 1
    if name.isEmpty then fail .nameMissing span none
    if let some earlier := (← get).names.find? (·.1 = name) then
      fail .nameTwice span (some earlier.2)
    modify fun c => { c with names := c.names ++ [(name, span)] }

/-! ## Openings -/

inductive Opening where
  /-- Flags for what follows in the group around. -/
  | flags (fs : Flags)
  /-- A group with flags of its own. -/
  | group (fs : Flags)
  deriving DecidableEq, Repr

def acceptAny (words : List String) : Reader Bool :=
  match words with
  | [] => return false
  | w :: ws => do if ← accept w then return true else acceptAny ws

/-- Read an opening parenthesis and what belongs to it. -/
def opening : Reader Opening := do
  let start ← index
  skip 1
  toPart
  if ← acceptAny ["?=", "?!", "?<=", "?<!"] then failFrom .lookAround start
  let inside ← index
  if ← acceptAny ["?P<", "?<"] then
    groupName
    return .group []
  if ← accept "?" then
    if (← peek?).isNone then fail .groupUnclosed ⟨start, start + 1⟩ none
    let fs ← flagList
    let isOver := (← peek?) = some ')'
    skip 1
    if !isOver then return .group fs
    if fs.isEmpty then fail .repetitionOfNothing ⟨inside, inside⟩ none
    return .flags fs
  return .group []

end Dialogue.Regex.Reader
