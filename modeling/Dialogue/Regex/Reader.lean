import Dialogue.Regex.Fault
import Dialogue.Text.Blank

/-!
# Reading a pattern

A `Reader` moves a `Cursor` over the characters of a pattern and stops at the first fault.
In verbose mode, blanks and comments between the parts of a pattern mean nothing; readers
whose names end in `Part` move over them.
-/

namespace Dialogue.Regex

structure Cursor where
  rest : List Char
  /-- The number of characters read. -/
  index : Nat
  verbose : Bool
  /-- The names of the groups so far, and where they stand. -/
  names : List (List Char × Span)
  deriving DecidableEq, Repr

namespace Cursor

def ofPattern (cs : List Char) : Cursor := ⟨cs, 0, false, []⟩

def drop (c : Cursor) (n : Nat) : Cursor :=
  let rest := c.rest.drop n
  { c with rest := rest, index := c.index + (c.rest.length - rest.length) }

/-- What is left behind blanks and comments, which end with their line. -/
def skipComments (inComment : Bool) : List Char → List Char
  | [] => []
  | c :: cs =>
    if inComment then skipComments (c ≠ '\n') cs
    else if Text.isBlank c then skipComments false cs
    else if c = '#' then skipComments true cs
    else c :: cs

def toPart (c : Cursor) : Cursor :=
  if c.verbose then c.drop (c.rest.length - (skipComments false c.rest).length) else c

end Cursor

abbrev Reader := StateT Cursor (Except Malformed)

namespace Reader

variable {α : Type}

def fail (fault : Fault) (span : Span) (other : Option Span) : Reader α :=
  throw ⟨fault, span, other⟩

def index : Reader Nat := return (← get).index

def peek? : Reader (Option Char) := return (← get).rest.head?

/-- How many characters are left. -/
def left : Reader Nat := return (← get).rest.length

def skip (n : Nat) : Reader Unit := modify (·.drop n)

def toPart : Reader Unit := modify Cursor.toPart

/-- Move over one character and see what comes next. -/
def nextPart? : Reader (Option Char) := do
  skip 1
  toPart
  peek?

/-- Fail at the place between two characters. -/
def failHere (fault : Fault) : Reader α := do
  let i ← index
  fail fault ⟨i, i⟩ none

/-- Fail at the next character. -/
def failNext (fault : Fault) : Reader α := do
  let i ← index
  fail fault ⟨i, i + 1⟩ none

/-- Fail at what was read from a place on. -/
def failFrom (fault : Fault) (start : Nat) : Reader α := do
  fail fault ⟨start, ← index⟩ none

/-- Move over a word if it comes next. -/
def accept (word : String) : Reader Bool := do
  if word.toList.isPrefixOf (← get).rest then
    skip word.length
    return true
  return false

/-- The characters up to the first that fails a test, of at most `fuel`. -/
def collectPart (test : Char → Bool) : (fuel : Nat) → Reader (List Char)
  | 0 => return []
  | fuel + 1 => do
    match ← peek? with
    | none => return []
    | some c =>
      if test c then
        discard nextPart?
        return c :: (← collectPart test fuel)
      return []

/-- The characters up to the first that fails a test. -/
def whilePart (test : Char → Bool) : Reader (List Char) := do collectPart test (← left)

end Reader

end Dialogue.Regex
