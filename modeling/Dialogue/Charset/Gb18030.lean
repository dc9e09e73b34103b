import Dialogue.Charset.GbRanges
import Dialogue.Charset.GbTable
import Dialogue.Charset.Index
import Dialogue.Charset.Scheme

/-!
# GB 18030

One byte for ASCII, two bytes for the characters of the table, four bytes for the rest of
Unicode. `0x80` alone is read as the euro sign. U+E5E5 has no code, and eighteen
private-use characters keep the two-byte codes they had before the edition of 2022 gave
those codes to other characters.
-/

namespace Dialogue.Charset.Gb18030

def index : Index := Index.ofRows gbRows

/-! ## Two bytes -/

def pointer (lead trail : Nat) : Nat :=
  (lead - 0x81) * 190 + (trail - if trail < 0x7F then 0x40 else 0x41)

def code (p : Nat) : Bytes :=
  let trail := p % 190
  [UInt8.ofNat (p / 190 + 0x81), UInt8.ofNat (trail + if trail < 0x3F then 0x40 else 0x41)]

/-- The private-use characters with a two-byte code of their own. -/
def privateCodes : List (Nat × Bytes) := [
  (0xE78D, [0xA6, 0xD9]), (0xE78E, [0xA6, 0xDA]), (0xE78F, [0xA6, 0xDB]),
  (0xE790, [0xA6, 0xDC]), (0xE791, [0xA6, 0xDD]), (0xE792, [0xA6, 0xDE]),
  (0xE793, [0xA6, 0xDF]), (0xE794, [0xA6, 0xEC]), (0xE795, [0xA6, 0xED]),
  (0xE796, [0xA6, 0xF3]), (0xE81E, [0xFE, 0x59]), (0xE826, [0xFE, 0x61]),
  (0xE82B, [0xFE, 0x66]), (0xE82C, [0xFE, 0x67]), (0xE832, [0xFE, 0x6D]),
  (0xE843, [0xFE, 0x7E]), (0xE854, [0xFE, 0x90]), (0xE864, [0xFE, 0xA0])]

/-! ## Four bytes -/

def longNumber (b₀ b₁ b₂ b₃ : Nat) : Nat :=
  ((b₀ - 0x81) * 10 + (b₁ - 0x30)) * 1260 + (b₂ - 0x81) * 10 + (b₃ - 0x30)

def longCode (n : Nat) : Bytes :=
  [UInt8.ofNat (n / 12600 + 0x81), UInt8.ofNat (n / 1260 % 10 + 0x30),
    UInt8.ofNat (n / 10 % 126 + 0x81), UInt8.ofNat (n % 10 + 0x30)]

def longChar? (n : Nat) : Option Char :=
  (gbRuns.find? fun r => r.1 ≤ n && n < r.1 + r.2.2).map fun r => Char.ofNat (r.2.1 + (n - r.1))

def longNumber? (c : Nat) : Option Nat :=
  (gbRuns.find? fun r => r.2.1 ≤ c && c < r.2.1 + r.2.2).map fun r => r.1 + (c - r.2.1)

/-! ## The scheme -/

def isDigit (b : Nat) : Bool := 0x30 ≤ b && b ≤ 0x39

def isLead (b : Nat) : Bool := 0x81 ≤ b && b ≤ 0xFE

def isTrail (b : Nat) : Bool := (0x40 ≤ b && b ≤ 0x7E) || (0x80 ≤ b && b ≤ 0xFE)

/-- The character of a lead byte and what follows it. -/
def readLong (b₀ : Nat) (rest : Bytes) : Option (Char × Nat) :=
  match rest with
  | [] => none
  | t :: ts =>
    let b₁ := t.toNat
    if isTrail b₁ then (index.char? (pointer b₀ b₁)).map (·, 1)
    else match ts with
      | u :: v :: _ =>
        if isDigit b₁ && isLead u.toNat && isDigit v.toNat then
          (longChar? (longNumber b₀ b₁ u.toNat v.toNat)).map (·, 3)
        else none
      | _ => none

def read (b : UInt8) (rest : Bytes) : Option (Char × Nat) :=
  let n := b.toNat
  if n < 0x80 then some (Char.ofNat n, 0)
  else if n = 0x80 then some ('€', 0)
  else if isLead n then readLong n rest
  else none

def write (c : Char) : Option Bytes :=
  let n := c.toNat
  if n < 0x80 then some [UInt8.ofNat n]
  else if n = 0xE5E5 then none
  else match privateCodes.lookup n with
    | some bs => some bs
    | none =>
      match index.pointer? c 0 23940 with
      | some p => some (code p)
      | none => (longNumber? n).map longCode

def scheme : Scheme := ⟨read, write⟩

end Dialogue.Charset.Gb18030
