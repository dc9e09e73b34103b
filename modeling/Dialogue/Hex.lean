/-!
# Hexadecimal numerals

`padded` writes a fixed number of upper-case digits, `minimal` as few as needed;
`digit?` reads a digit of either case.
-/

namespace Dialogue.Hex

/-- The upper-case digit of a number below sixteen. -/
def digit (n : Nat) : Char :=
  if n < 10 then Char.ofNat (48 + n) else Char.ofNat (55 + n)

def digit? (c : Char) : Option Nat :=
  if '0' ≤ c ∧ c ≤ '9' then some (c.toNat - 48)
  else if 'A' ≤ c ∧ c ≤ 'F' then some (c.toNat - 55)
  else if 'a' ≤ c ∧ c ≤ 'f' then some (c.toNat - 87)
  else none

/-- The last `width` digits. -/
def padded : Nat → Nat → List Char
  | 0, _ => []
  | width + 1, n => digit (n >>> (4 * width) % 16) :: padded width n

/-- The digits without leading zeros, `0` for zero. -/
def minimal (n : Nat) : List Char :=
  (Nat.toDigits 16 n).map Char.toUpper

/-- The number that a list of digits stands for, read after `acc`. -/
def value? : Nat → List Char → Option Nat
  | acc, [] => some acc
  | acc, c :: cs =>
    match digit? c with
    | some d => value? (16 * acc + d) cs
    | none => none

def word (n : Nat) : String := String.ofList (padded 8 n)

def half (n : Nat) : String := String.ofList (padded 4 n)

def byte (n : Nat) : String := String.ofList (padded 2 n)

end Dialogue.Hex
