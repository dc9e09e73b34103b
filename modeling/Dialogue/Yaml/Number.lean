import Dialogue.Decimal

/-!
# Texts that read as something else

A plain YAML scalar may read as null, a boolean, an integer or a float instead of a string.
Digits after a leading zero read as a string, but older readers take them for an octal
number.
-/

namespace Dialogue.Yaml

open Decimal

def isNull (cs : List Char) : Bool :=
  String.ofList cs ∈ ["null", "Null", "NULL", "~"]

def isBool (cs : List Char) : Bool :=
  String.ofList cs ∈ ["true", "True", "TRUE", "false", "False", "FALSE"]

def dropSign : List Char → List Char
  | '-' :: cs => cs
  | '+' :: cs => cs
  | cs => cs

/-- A zero with further digits after it, perhaps signed. -/
def hasLeadingZero (cs : List Char) : Bool :=
  match dropSign cs with
  | '0' :: c :: cs => (c :: cs).all Char.isDigit
  | _ => false

/-- The number behind a sign: hexadecimal, octal, binary or decimal. -/
def magnitude? : List Char → Option Nat
  | '0' :: 'x' :: cs => natural? 16 cs
  | '0' :: 'o' :: cs => natural? 8 cs
  | '0' :: 'b' :: cs => natural? 2 cs
  | cs => if hasLeadingZero cs then none else natural? 10 cs

/-- Integers of 128 bits, signed or unsigned. -/
def isInteger (cs : List Char) : Bool :=
  match cs with
  | '-' :: body => (magnitude? body).any (· ≤ 1 <<< 127)
  | '+' :: body => (magnitude? body).any (· < 1 <<< 128)
  | body => (magnitude? body).any (· < 1 <<< 128)

/-- The decimal exponent at the end of a number. -/
def exponent? : List Char → Option Int
  | [] => some 0
  | e :: cs => if e = 'e' ∨ e = 'E' then signed? cs else none

/-- The digits of a number and the power of ten they are multiplied by. -/
def decimal? (cs : List Char) : Option (List Char × Int) :=
  let whole := cs.takeWhile Char.isDigit
  let rest := cs.dropWhile Char.isDigit
  let fraction := match rest with
    | '.' :: r => r.takeWhile Char.isDigit
    | _ => []
  let rest := match rest with
    | '.' :: r => r.dropWhile Char.isDigit
    | r => r
  if whole.isEmpty && fraction.isEmpty then none
  else (exponent? rest).map fun e => (whole ++ fraction, e - fraction.length)

def isFloat (cs : List Char) : Bool :=
  if hasLeadingZero cs then false
  else
    let body := match cs with
      | '+' :: r => r
      | r => r
    String.ofList body ∈ [".inf", ".Inf", ".INF"] ||
    String.ofList cs ∈ ["-.inf", "-.Inf", "-.INF", ".nan", ".NaN", ".NAN"] ||
    match decimal? (match cs with
      | '-' :: r => r
      | _ => body) with
    | some (ds, e) => (natural? 10 ds).any (isFinite · e)
    | none => false

/-- Whether a plain scalar with this text would not be read as the text. -/
def needsQuotes (cs : List Char) : Bool :=
  cs.isEmpty || isNull cs || isBool cs || isInteger cs || isFloat cs || hasLeadingZero cs

end Dialogue.Yaml
