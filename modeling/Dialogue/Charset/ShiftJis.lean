import Dialogue.Charset.Index
import Dialogue.Charset.JisTable
import Dialogue.Charset.Scheme

/-!
# Shift_JIS

Single bytes hold ASCII and the half-width katakana; a lead byte and a trail byte give a
pointer into the table of JIS X 0208. Pointers 8836 to 10715 are for private use: they are
read as the characters from U+E000 on, and never written. Of the doubled vendor rows, the
first (pointers 8272 to 8835) is read but never written.
-/

namespace Dialogue.Charset.ShiftJis

def index : Index := Index.ofRows jisRows

def isLead (b : Nat) : Bool :=
  (0x81 ≤ b && b ≤ 0x9F) || (0xE0 ≤ b && b ≤ 0xFC)

def isTrail (b : Nat) : Bool :=
  (0x40 ≤ b && b ≤ 0x7E) || (0x80 ≤ b && b ≤ 0xFC)

def pointer (lead trail : Nat) : Nat :=
  (lead - if lead < 0xA0 then 0x81 else 0xC1) * 188 + (trail - if trail < 0x7F then 0x40 else 0x41)

/-- The lead and trail byte of a pointer. -/
def code (p : Nat) : Bytes :=
  let lead := p / 188
  let trail := p % 188
  [UInt8.ofNat (lead + if lead < 0x1F then 0x81 else 0xC1),
    UInt8.ofNat (trail + if trail < 0x3F then 0x40 else 0x41)]

def char? (p : Nat) : Option Char :=
  if 8836 ≤ p ∧ p ≤ 10715 then some (Char.ofNat (0xE000 + (p - 8836))) else index.char? p

def read (b : UInt8) (rest : Bytes) : Option (Char × Nat) :=
  let n := b.toNat
  if n ≤ 0x80 then some (Char.ofNat n, 0)
  else if 0xA1 ≤ n ∧ n ≤ 0xDF then some (Char.ofNat (0xFF61 + (n - 0xA1)), 0)
  else match rest with
    | [] => none
    | t :: _ =>
      if isLead n && isTrail t.toNat then (char? (pointer n t.toNat)).map (·, 1) else none

/-- The pointer a character is written by. -/
def pointer? (c : Char) : Option Nat :=
  (index.pointer? c 0 8272).or (index.pointer? c 10716 564)

def write (c : Char) : Option Bytes :=
  let n := c.toNat
  if n ≤ 0x80 then some [UInt8.ofNat n]
  else if n = 0xA5 then some [0x5C]
  else if n = 0x203E then some [0x7E]
  else if 0xFF61 ≤ n ∧ n ≤ 0xFF9F then some [UInt8.ofNat (0xA1 + (n - 0xFF61))]
  else (pointer? (if n = 0x2212 then '－' else c)).map code

def scheme : Scheme := ⟨read, write⟩

end Dialogue.Charset.ShiftJis
