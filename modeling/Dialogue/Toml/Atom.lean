import Dialogue.Toml.Value
import Dialogue.Decimal

/-!
# TOML numbers, booleans and times

An atom is a run of characters without a delimiter; `atom` tells what it stands for.
-/

namespace Dialogue.Toml

open Decimal

/-! ## Times -/

/-- Two digits up to `most`, and what follows. -/
def twoDigits (most : Nat) : List Char → Option (Nat × List Char)
  | a :: b :: cs =>
    match natural? 10 [a, b] with
    | some n => if n ≤ most then some (n, cs) else none
    | none => none
  | _ => none

def expect (c : Char) : List Char → Option (List Char)
  | d :: cs => if c = d then some cs else none
  | [] => none

/-- What follows hours and minutes. -/
def hourMinute (cs : List Char) : Option (List Char) := do
  let (_, cs) ← twoDigits 23 cs
  let cs ← expect ':' cs
  let (_, cs) ← twoDigits 59 cs
  pure cs

/-- What follows a time of day. The sixtieth second is a leap second. -/
def timeOfDay (cs : List Char) : Option (List Char) := do
  let cs ← expect ':' (← hourMinute cs)
  let (_, cs) ← twoDigits 60 cs
  match cs with
  | '.' :: fraction =>
    if (fraction.takeWhile Char.isDigit).isEmpty then none
    else pure (fraction.dropWhile Char.isDigit)
  | cs => pure cs

def isLeap (year : Nat) : Bool := year % 4 = 0 && (year % 100 ≠ 0 || year % 400 = 0)

def daysIn (year month : Nat) : Nat :=
  if month = 2 then if isLeap year then 29 else 28
  else if month ∈ [4, 6, 9, 11] then 30
  else 31

/-- What follows a date. -/
def date (cs : List Char) : Option (List Char) := do
  let year ← if (cs.take 4).length = 4 then natural? 10 (cs.take 4) else none
  let cs ← expect '-' (cs.drop 4)
  let (month, cs) ← twoDigits 12 cs
  let cs ← expect '-' cs
  let (day, cs) ← twoDigits (daysIn year month) cs
  if month = 0 ∨ day = 0 then none else pure cs

def isOffset (cs : List Char) : Bool :=
  match cs with
  | [] => true
  | ['Z'] => true
  | ['z'] => true
  | c :: cs => (c = '+' || c = '-') && hourMinute cs = some []

def isDatetime (cs : List Char) : Bool :=
  match date cs with
  | some [] => true
  | some (c :: rest) => c ∈ ['T', 't', ' '] && (timeOfDay rest).any isOffset
  | none => timeOfDay cs = some []

/-! ## Numbers -/

/-- The number of digits in which single underscores may stand between two digits. -/
def grouped? (base : Nat) (cs : List Char) : Option Nat :=
  let groups := cs.splitOn '_'
  if groups.any List.isEmpty then none else natural? base groups.flatten

/-- Decimal digits without a superfluous zero in front. -/
def whole? (cs : List Char) : Option Nat :=
  match cs with
  | '0' :: _ :: _ => none
  | cs => grouped? 10 cs

def splitSign : List Char → Bool × List Char
  | '-' :: cs => (true, cs)
  | '+' :: cs => (false, cs)
  | cs => (false, cs)

/-- Integers of 64 bits. -/
def integer? (cs : List Char) : Option Int :=
  match cs with
  | '0' :: 'x' :: ds => bounded (grouped? 16 ds)
  | '0' :: 'o' :: ds => bounded (grouped? 8 ds)
  | '0' :: 'b' :: ds => bounded (grouped? 2 ds)
  | _ =>
    match splitSign cs with
    | (true, ds) => ((whole? ds).filter (· ≤ 0x8000000000000000)).map fun n => -(n : Int)
    | (false, ds) => bounded (whole? ds)
where
  bounded (n : Option Nat) : Option Int := (n.filter (· < 0x8000000000000000)).map Int.ofNat

def isDigitOrUnderscore (c : Char) : Bool := c.isDigit || c = '_'

/-- Whether the end of a number is an exponent, and which. -/
def floatExponent? (cs : List Char) : Option Int :=
  match cs with
  | [] => some 0
  | e :: cs =>
    if e = 'e' ∨ e = 'E' then
      let (negative, ds) := splitSign cs
      (grouped? 10 ds).map fun n => if negative then -(n : Int) else n
    else none

/-- A number with a fraction or an exponent. One too large for double precision is only
accepted with a minus sign. -/
def isFloat (cs : List Char) : Bool :=
  let (negative, body) := splitSign cs
  let whole := body.takeWhile isDigitOrUnderscore
  let rest := body.dropWhile isDigitOrUnderscore
  let (fraction, rest) := match rest with
    | '.' :: r => (some (r.takeWhile isDigitOrUnderscore), r.dropWhile isDigitOrUnderscore)
    | r => (none, r)
  if fraction.isNone && rest.isEmpty then false
  else if (whole? whole).isNone || fraction.any fun f => (grouped? 10 f).isNone then false
  else
    match floatExponent? rest with
    | none => false
    | some e =>
      let places := (fraction.getD []).filter (· ≠ '_')
      let digits := whole.filter (· ≠ '_') ++ places
      negative || (natural? 10 digits).any (isFinite · (e - places.length))

/-- Infinity or not a number, perhaps signed. -/
def isSpecialFloat (cs : List Char) : Bool :=
  String.ofList (splitSign cs).2 ∈ ["inf", "nan"]

/-! ## Atoms -/

def isAtomChar (c : Char) : Bool := c.isAlphanum || c ∈ ['+', '-', '_', '.', ':']

def classify (cs : List Char) : Option Value :=
  if cs = "true".toList then some (.boolean true)
  else if cs = "false".toList then some (.boolean false)
  else if isDatetime cs then some (.datetime (String.ofList cs))
  else if isFloat cs || isSpecialFloat cs then some (.float (String.ofList cs))
  else (integer? cs).map .integer

/-- The atom at the front. A blank belongs to it where it separates a date from a time. -/
def atom (cs : List Char) : Option (Value × List Char) :=
  let run := cs.takeWhile isAtomChar
  let rest := cs.dropWhile isAtomChar
  match rest with
  | ' ' :: d :: more =>
    if date run = some [] && d.isDigit then
      (classify (run ++ ' ' :: (d :: more).takeWhile isAtomChar)).map
        (·, (d :: more).dropWhile isAtomChar)
    else (classify run).map (·, rest)
  | _ => (classify run).map (·, rest)

end Dialogue.Toml
