import Dialogue.Decimal

/-!
# TOML strings and keys

Readers over a list of characters. Each returns what it read with what is left, and fails on
malformed input.
-/

namespace Dialogue.Toml

open Decimal

/-- A character that comments and strings may hold as it is. -/
def isText (c : Char) : Bool :=
  c = '\t' || (0x20 ≤ c.toNat && c.toNat ≠ 0x7F)

def isSpace (c : Char) : Bool := c = ' ' || c = '\t'

def skipSpace (cs : List Char) : List Char := cs.dropWhile isSpace

/-- What follows a line end, if there is one at the front. -/
def lineEnd? : List Char → Option (List Char)
  | '\n' :: cs => some cs
  | '\r' :: '\n' :: cs => some cs
  | _ => none

/-- The character with a code point. -/
def scalar? (n : Nat) : Option Char :=
  if n < 0xD800 ∨ (0xE000 ≤ n ∧ n < 0x110000) then some (Char.ofNat n) else none

/-- A character given by `width` hexadecimal digits. -/
def codePoint (width : Nat) (cs : List Char) : Option (Char × List Char) :=
  if (cs.take width).length = width then
    match natural? 16 (cs.take width) with
    | some n => (scalar? n).map (·, cs.drop width)
    | none => none
  else none

/-- The character that an escape stands for, after its backslash. -/
def escaped : List Char → Option (Char × List Char)
  | 'b' :: cs => some ('\x08', cs)
  | 't' :: cs => some ('\t', cs)
  | 'n' :: cs => some ('\n', cs)
  | 'f' :: cs => some ('\x0c', cs)
  | 'r' :: cs => some ('\r', cs)
  | '"' :: cs => some ('"', cs)
  | '\\' :: cs => some ('\\', cs)
  | 'u' :: cs => codePoint 4 cs
  | 'U' :: cs => codePoint 8 cs
  | _ => none

/-- The rest of a basic string, after its opening quote. -/
def basic : (fuel : Nat) → List Char → Option (List Char × List Char)
  | fuel + 1, c :: cs =>
    if c = '"' then some ([], cs)
    else if c = '\\' then
      match escaped cs with
      | some (e, rest) => (basic fuel rest).map fun r => (e :: r.1, r.2)
      | none => none
    else if isText c then (basic fuel cs).map fun r => (c :: r.1, r.2)
    else none
  | _, _ => none

/-- The rest of a literal string, after its opening quote. -/
def literal : List Char → Option (List Char × List Char)
  | [] => none
  | c :: cs =>
    if c = '\'' then some ([], cs)
    else if isText c then (literal cs).map fun r => (c :: r.1, r.2)
    else none

/-- What follows a backslash at the end of a line and all blanks after it. -/
def lineContinuation? (cs : List Char) : Option (List Char) :=
  (lineEnd? (skipSpace cs)).map (skipBlanks cs.length)
where
  skipBlanks : Nat → List Char → List Char
    | 0, cs => cs
    | fuel + 1, cs =>
      match lineEnd? (skipSpace cs) with
      | some rest => skipBlanks fuel rest
      | none => skipSpace cs

/-- The rest of a multi-line string with the quote `q`, of which three close it; up to two
more in front of them belong to the text. Only a basic string has escapes. -/
def multiLine (q : Char) : (fuel : Nat) → List Char → Option (List Char × List Char)
  | fuel + 1, c :: cs =>
    if c = q then
      let quotes := (c :: cs).takeWhile (· = q)
      let rest := (c :: cs).dropWhile (· = q)
      if quotes.length < 3 then (multiLine q fuel rest).map fun r => (quotes ++ r.1, r.2)
      else if quotes.length ≤ 5 then some (quotes.drop 3, rest)
      else none
    else if c = '\\' ∧ q = '"' then
      match lineContinuation? cs with
      | some rest => multiLine q fuel rest
      | none =>
        match escaped cs with
        | some (e, rest) => (multiLine q fuel rest).map fun r => (e :: r.1, r.2)
        | none => none
    else
      match lineEnd? (c :: cs) with
      | some rest => (multiLine q fuel rest).map fun r => ('\n' :: r.1, r.2)
      | none =>
        if isText c then (multiLine q fuel cs).map fun r => (c :: r.1, r.2) else none
  | _, _ => none

/-- A string of any of the four kinds. A line end right after the opening of a multi-line
string is not part of it. -/
def text (cs : List Char) : Option (String × List Char) :=
  let opened (q : Char) (rest : List Char) := multiLine q cs.length ((lineEnd? rest).getD rest)
  let read := match cs with
    | '"' :: '"' :: '"' :: rest => opened '"' rest
    | '"' :: rest => basic cs.length rest
    | '\'' :: '\'' :: '\'' :: rest => opened '\'' rest
    | '\'' :: rest => literal rest
    | _ => none
  read.map fun r => (String.ofList r.1, r.2)

/-! ## Keys -/

def isBare (c : Char) : Bool := c.isAlphanum || c = '-' || c = '_'

def simpleKey (cs : List Char) : Option (String × List Char) :=
  match cs with
  | '"' :: rest => (basic cs.length rest).map fun r => (String.ofList r.1, r.2)
  | '\'' :: rest => (literal rest).map fun r => (String.ofList r.1, r.2)
  | _ =>
    let bare := cs.takeWhile isBare
    if bare.isEmpty then none else some (String.ofList bare, cs.dropWhile isBare)

/-- Keys joined by dots, with blanks around each. -/
def dottedKey : (fuel : Nat) → List Char → Option (List String × List Char)
  | 0, _ => none
  | fuel + 1, cs =>
    match simpleKey (skipSpace cs) with
    | none => none
    | some (k, rest) =>
      match skipSpace rest with
      | '.' :: rest => (dottedKey fuel rest).map fun r => (k :: r.1, r.2)
      | rest => some ([k], rest)

/-- A dotted key of fewer than eighty parts, as a path and the last key. -/
def key (cs : List Char) : Option ((List String × String) × List Char) :=
  match dottedKey 79 cs with
  | none => none
  | some (ks, rest) => ks.getLast?.map fun k => ((ks.dropLast, k), rest)

end Dialogue.Toml
