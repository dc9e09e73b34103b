import Dialogue.Regex.Basic

/-!
# Matching

`ends r ps` are the places where a match of `r` that begins at one of the places `ps` can
end. Places of one text are kept in ascending order without repetition, so that a repetition
has gone through all there is to reach after as many rounds as the text has places.
-/

namespace Dialogue.Regex

/-- A place between the characters of a text. -/
structure Place where
  index : Nat
  before : Option Char
  after : List Char
  deriving DecidableEq, Repr

namespace Place

/-- The places of a text, from one on to the end. -/
def placesFrom (index : Nat) (before : Option Char) : List Char → List Place
  | [] => [⟨index, before, []⟩]
  | c :: cs => ⟨index, before, c :: cs⟩ :: placesFrom (index + 1) (some c) cs

def allOf (cs : List Char) : List Place := placesFrom 0 none cs

/-- The place behind the next character, if that is in a set. -/
def behind? (p : Place) (s : Text.CharSet) : Option Place :=
  match p.after with
  | [] => none
  | c :: cs => if s.contains c then some ⟨p.index + 1, some c, cs⟩ else none

/-- Places of either list. -/
def merge : List Place → List Place → List Place
  | [], qs => qs
  | p :: ps, [] => p :: ps
  | p :: ps, q :: qs =>
    if p.index < q.index then p :: merge ps (q :: qs)
    else if q.index < p.index then q :: merge (p :: ps) qs
    else p :: merge ps qs

/-- Places of the first list that are not in the second. -/
def without : List Place → List Place → List Place
  | [], _ => []
  | p :: ps, [] => p :: ps
  | p :: ps, q :: qs =>
    if p.index < q.index then p :: without ps (q :: qs)
    else if q.index < p.index then without (p :: ps) qs
    else without ps qs

end Place

/-! ## Conditions -/

def isAsciiWord (c : Char) : Bool := c.isAlphanum || c = '_'

def WordKind.has : WordKind → Char → Bool
  | ascii, c => isAsciiWord c
  | unicode, c => isAsciiWord c || (0x80 ≤ c.toNat && Text.wordChars.contains c)

/-- Whether an edge lies between two places in a word or out of it. -/
def Edge.holds (before after : Bool) : Edge → Bool
  | either => before != after
  | neither => before == after
  | start => !before && after
  | stop => before && !after
  | startHalf => !before
  | stopHalf => !after

/-- Whether a condition holds at a place. A line end of two characters has no line start or
end inside it. -/
def Look.holds (p : Place) : Look → Bool
  | textStart => p.before.isNone
  | textEnd => p.after.isEmpty
  | lineStart .lf => p.before.isNone || p.before = some '\n'
  | lineEnd .lf => p.after.isEmpty || p.after.head? = some '\n'
  | lineStart .crlf =>
    p.before.isNone || p.before = some '\n' ||
      (p.before = some '\r' && p.after.head? ≠ some '\n')
  | lineEnd .crlf =>
    p.after.isEmpty || p.after.head? = some '\r' ||
      (p.after.head? = some '\n' && p.before ≠ some '\r')
  | edge k e => e.holds (p.before.any k.has) (p.after.head?.any k.has)

/-! ## Repetition -/

/-- Go through a step `n` times, or until it changes nothing. -/
def repeated (step : List Place → List Place) : (n : Nat) → List Place → List Place
  | 0, ps => ps
  | n + 1, ps =>
    let qs := step ps
    if qs.map Place.index = ps.map Place.index then ps else repeated step n qs

/-- What `n` more steps reach, from the places of a front that is new among those seen. -/
def reached (step : List Place → List Place) : (n : Nat) → (seen front : List Place) → List Place
  | 0, seen, _ => seen
  | n + 1, seen, front =>
    let fresh := Place.without (step front) seen
    if fresh.isEmpty then seen else reached step n (Place.merge seen fresh) fresh

/-! ## Matches -/

def ends : Regex → List Place → List Place
  | .empty, ps => ps
  | .set s, ps => ps.filterMap (·.behind? s)
  | .look l, ps => ps.filter (l.holds ·)
  | .seq a b, ps => b.ends (a.ends ps)
  | .alt a b, ps => Place.merge (a.ends ps) (b.ends ps)
  | .times r least most, ps =>
    let rounds := ((ps.head?.map fun p => p.after.length).getD 0) + 1
    let first := repeated r.ends least ps
    let more := match most with
      | none => rounds
      | some most => min (most - least) rounds
    reached r.ends more first first

/-- Whether a text has a match anywhere. -/
def isMatch (r : Regex) (cs : List Char) : Bool := !(r.ends (Place.allOf cs)).isEmpty

end Dialogue.Regex
