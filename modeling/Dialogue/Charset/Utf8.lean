import Dialogue.Charset.Scheme

/-!
# UTF-8

`read` accepts exactly the well-formed sequences: no overlong form, no surrogate, nothing
above U+10FFFF. `readLossy` never fails: the longest start of a well-formed sequence that
does not complete one becomes a single U+FFFD.
-/

namespace Dialogue.Charset.Utf8

/-- How many bytes follow a first byte, and the least and greatest that may come next. -/
def shape (b : Nat) : Option (Nat × Nat × Nat) :=
  if b ≤ 0x7F then some (0, 0x80, 0xBF)
  else if 0xC2 ≤ b ∧ b ≤ 0xDF then some (1, 0x80, 0xBF)
  else if b = 0xE0 then some (2, 0xA0, 0xBF)
  else if b = 0xED then some (2, 0x80, 0x9F)
  else if 0xE1 ≤ b ∧ b ≤ 0xEF then some (2, 0x80, 0xBF)
  else if b = 0xF0 then some (3, 0x90, 0xBF)
  else if 0xF1 ≤ b ∧ b ≤ 0xF3 then some (3, 0x80, 0xBF)
  else if b = 0xF4 then some (3, 0x80, 0x8F)
  else none

/-- The payloads of up to `n` continuation bytes, the first of them between `lo` and `hi`. -/
def tails : (n lo hi : Nat) → Bytes → List Nat
  | n + 1, lo, hi, t :: ts =>
    if lo ≤ t.toNat ∧ t.toNat ≤ hi then t.toNat % 64 :: tails n 0x80 0xBF ts else []
  | _, _, _, _ => []

/-- The payload of a first byte that `n` bytes follow. -/
def headBits : (n b : Nat) → Nat
  | 0, b => b
  | 1, b => b % 32
  | 2, b => b % 16
  | _, b => b % 8

/-- The sequence at the front: its character, if it is whole, and the bytes after the first
that it takes. -/
def scan (b : UInt8) (rest : Bytes) : Option Char × Nat :=
  match shape b.toNat with
  | none => (none, 0)
  | some (n, lo, hi) =>
    let ts := tails n lo hi rest
    if ts.length = n then
      (some (Char.ofNat (ts.foldl (fun acc t => 64 * acc + t) (headBits n b.toNat))), n)
    else (none, ts.length)

def read (b : UInt8) (rest : Bytes) : Option (Char × Nat) :=
  match scan b rest with
  | (some c, n) => some (c, n)
  | (none, _) => none

/-- The code of a character, from one to four bytes. -/
def code (c : Char) : Bytes :=
  let n := c.toNat
  let tail (m : Nat) : UInt8 := UInt8.ofNat (0x80 + m % 64)
  if n < 0x80 then [UInt8.ofNat n]
  else if n < 0x800 then [UInt8.ofNat (0xC0 + n / 64), tail n]
  else if n < 0x10000 then [UInt8.ofNat (0xE0 + n / 4096), tail (n / 64), tail n]
  else [UInt8.ofNat (0xF0 + n / 262144), tail (n / 4096), tail (n / 64), tail n]

def scheme : Scheme := ⟨read, fun c => some (code c)⟩

def readLossy : Bytes → List Char
  | [] => []
  | b :: rest =>
    match scan b rest with
    | (c, n) => c.getD '\uFFFD' :: readLossy (rest.drop n)
  termination_by bs => bs.length
  decreasing_by simp only [List.length_drop, List.length_cons]; omega

end Dialogue.Charset.Utf8

namespace Dialogue

/-- The text that bytes hold in UTF-8. -/
def Bytes.toText? (bs : Bytes) : Option String :=
  (Charset.Utf8.scheme.decode bs).map String.ofList

/-- The bytes of a text in UTF-8. -/
def Bytes.ofText (s : String) : Bytes :=
  s.toList.flatMap Charset.Utf8.code

/-- The text that bytes hold in UTF-8, with U+FFFD for what is malformed. -/
def Bytes.toTextLossy (bs : Bytes) : String :=
  String.ofList (Charset.Utf8.readLossy bs)

end Dialogue
