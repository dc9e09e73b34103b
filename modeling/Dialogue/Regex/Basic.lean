import Dialogue.Regex.Expr
import Dialogue.Text.Property

/-!
# Regular expressions

What a pattern means, free of how it is written: sets of characters and conditions on places,
joined by sequence, choice and repetition. `size` estimates the memory that a matcher takes
for an expression.
-/

namespace Dialogue

namespace Regex

/-- How the lines of a text end. -/
inductive LineEnd where
  | lf
  /-- `\r`, `\n`, or both in this order. -/
  | crlf
  deriving DecidableEq, Repr

/-- Which characters are parts of words. -/
inductive WordKind where
  | ascii
  | unicode
  deriving DecidableEq, Repr

/-- A condition on a place in a text. -/
inductive Look where
  | textStart
  | textEnd
  | lineStart (e : LineEnd)
  | lineEnd (e : LineEnd)
  | edge (k : WordKind) (e : Edge)
  deriving DecidableEq, Repr

end Regex

inductive Regex where
  | empty
  | set (s : Text.CharSet)
  | look (l : Regex.Look)
  | seq (a b : Regex)
  | alt (a b : Regex)
  /-- At least and, if there is a limit, at most so many times. -/
  | times (r : Regex) (least : Nat) (most : Option Nat)
  deriving DecidableEq, Repr

namespace Regex

/-- Whether an expression consumes nothing. -/
def isNarrow : Regex → Bool
  | empty | look _ => true
  | set _ => false
  | seq a b | alt a b => a.isNarrow && b.isNarrow
  | times r _ most => r.isNarrow || most = some 0

/-! ## Size -/

/-- The largest size that is accepted. -/
def sizeLimit : Nat := 10485760

/-- The size of a state without transitions. -/
def stateSize : Nat := 32

/-- A single character takes a state for each byte of its code, an ASCII set two states, and
any other set a web of states about as large as its list of ranges. -/
def setSize (s : Text.CharSet) : Nat :=
  match s.ranges with
  | [] => stateSize
  | [(lo, hi)] =>
    if lo = hi then stateSize * (Char.ofNat lo).utf8Size
    else if s.isAscii then 2 * stateSize
    else 11 * stateSize + 60
  | rs => if s.isAscii then 2 * stateSize + 8 * rs.length else 9 * stateSize + 60 * rs.length

/-- The size of the states for what is matched, of which a repetition has as many copies as
its counts ask for. -/
def size : Regex → Nat
  | empty | look _ => stateSize
  | set s => setSize s
  | seq a b => a.size + b.size
  | alt a b => a.size + b.size + 2 * stateSize
  | times r least most =>
    let least := if r.isNarrow then min least 1 else least
    let most := if r.isNarrow then (most.map (min · 1)).or (some 1) else most
    match most with
    | none => max least 1 * r.size + stateSize + 8
    | some most =>
      if most = 0 then stateSize
      else least * r.size + (most - least) * (r.size + stateSize + 8) +
        (if least < most then stateSize else 0)

end Regex

end Dialogue
