/-!
# Numerals

Reading digits in a base up to sixteen, and whether a decimal number fits a float of double
precision.
-/

namespace Dialogue.Decimal

/-- The value of a digit in a base up to sixteen. -/
def digitIn? (base : Nat) (c : Char) : Option Nat :=
  let v :=
    if '0' ≤ c ∧ c ≤ '9' then c.toNat - 48
    else if 'a' ≤ c ∧ c ≤ 'f' then c.toNat - 87
    else if 'A' ≤ c ∧ c ≤ 'F' then c.toNat - 55
    else base
  if v < base then some v else none

/-- The number that digits stand for, read after `acc`. -/
def naturalFrom? (base acc : Nat) : List Char → Option Nat
  | [] => some acc
  | c :: cs =>
    match digitIn? base c with
    | some d => naturalFrom? base (base * acc + d) cs
    | none => none

/-- The number that one or more digits stand for. -/
def natural? (base : Nat) (cs : List Char) : Option Nat :=
  if cs.isEmpty then none else naturalFrom? base 0 cs

/-- The number behind an optional sign. -/
def signed? (cs : List Char) : Option Int :=
  match cs with
  | '-' :: ds => (natural? 10 ds).map fun n => -(n : Int)
  | '+' :: ds => (natural? 10 ds).map Int.ofNat
  | ds => (natural? 10 ds).map Int.ofNat

/-- Half a step above the largest number of double precision. -/
def doubleLimit : Nat := (1 <<< 1024) - (1 <<< 970)

/-- Whether `m * 10 ^ e` rounds to a finite number of double precision. With fewer than 308
digits before the point it does, with more than 310 it does not. -/
def isFinite (m : Nat) (e : Int) : Bool :=
  let width : Int := (Nat.toDigits 10 m).length + e
  let scale (e : Int) : Nat := Nat.pow 10 e.toNat
  m = 0 || width < 308 || (width ≤ 310 && m * scale e < doubleLimit * scale (-e))

end Dialogue.Decimal
