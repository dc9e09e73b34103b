import Dialogue.Decimal

/-!
# Sets of characters

A `CharSet` is a list of closed ranges of code points, in ascending order and with a gap
between any two. `ofRanges` brings any list of ranges into this form, and `ofRows` reads one from
texts such as `30-39 41-46 61-66`.
-/

namespace Dialogue.Text

structure CharSet where
  ranges : List (Nat × Nat)
  deriving DecidableEq, Repr

namespace CharSet

/-- The largest code point. -/
def top : Nat := 0x10FFFF

/-- Join ranges, in the order of their starts, that meet or overlap. -/
def join (r : Nat × Nat) : List (Nat × Nat) → List (Nat × Nat)
  | [] => [r]
  | q :: qs => if q.1 ≤ r.2 + 1 then join (r.1, max r.2 q.2) qs else r :: join q qs

def ofRanges (rs : List (Nat × Nat)) : CharSet :=
  match (rs.filter fun r => r.1 ≤ r.2).mergeSort fun a b => a.1 ≤ b.1 with
  | [] => ⟨[]⟩
  | r :: rs => ⟨join r rs⟩

/-- The range that a text gives by its ends, or by the only code point in it. -/
def range? (cs : List Char) : Option (Nat × Nat) :=
  match cs.splitOn '-' with
  | [a] => (Decimal.natural? 16 a).map fun n => (n, n)
  | [a, b] =>
    match Decimal.natural? 16 a, Decimal.natural? 16 b with
    | some lo, some hi => some (lo, hi)
    | _, _ => none
  | _ => none

def ofRows (rows : List String) : CharSet :=
  ofRanges (rows.flatMap fun row => (row.toList.splitOn ' ').filterMap range?)

def has (s : CharSet) (n : Nat) : Bool := s.ranges.any fun r => r.1 ≤ n && n ≤ r.2

def contains (s : CharSet) (c : Char) : Bool := s.has c.toNat

def isAscii (s : CharSet) : Bool := s.ranges.all fun r => r.2 < 0x80

/-! ## Operations -/

def empty : CharSet := ⟨[]⟩

def all : CharSet := ⟨[(0, top)]⟩

def single (c : Char) : CharSet := ⟨[(c.toNat, c.toNat)]⟩

def ofChars (cs : List Char) : CharSet := ofRanges (cs.map fun c => (c.toNat, c.toNat))

def union (a b : CharSet) : CharSet := ofRanges (a.ranges ++ b.ranges)

def unions (ss : List CharSet) : CharSet := ofRanges (ss.flatMap ranges)

/-- What ascending ranges leave out from `start` on. -/
def gaps (start : Nat) : List (Nat × Nat) → List (Nat × Nat)
  | [] => if start ≤ top then [(start, top)] else []
  | r :: rs =>
    if start < r.1 then (start, r.1 - 1) :: gaps (r.2 + 1) rs else gaps (r.2 + 1) rs

def compl (s : CharSet) : CharSet := ⟨gaps 0 s.ranges⟩

def inter (a b : CharSet) : CharSet := (a.compl.union b.compl).compl

def diff (a b : CharSet) : CharSet := a.inter b.compl

def symmDiff (a b : CharSet) : CharSet := (a.diff b).union (b.diff a)

end CharSet

end Dialogue.Text
