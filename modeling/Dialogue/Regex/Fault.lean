/-!
# Faults in patterns

Why the text of a regular expression makes no sense, and how that is reported: the pattern
is shown with marks under the characters in question. `Span` counts the characters of the
pattern; `positionAt` turns such a count into a line and a column.
-/

namespace Dialogue.Regex

/-- A stretch of a pattern, as the numbers of characters in front of its two ends. -/
structure Span where
  start : Nat
  stop : Nat
  deriving DecidableEq, Repr

inductive Fault where
  | classEscape
  | classRange
  | classBoundary
  | classUnclosed
  | numberTooLarge
  | hexMissing
  | hexNoCharacter
  | hexDigit
  | escapeUnfinished
  | escapeUnknown
  | flagNegationLast
  | flagTwice
  | flagNegationTwice
  | flagMissing
  | flagUnknown
  | nameTwice
  | nameMissing
  | nameCharacter
  | nameUnclosed
  | groupUnclosed
  | groupUnopened
  | nestedTooDeep (limit : Nat)
  | countRange
  | countMissing
  | countUnclosed
  | repetitionOfNothing
  | edgeUnclosed
  | edgeUnknown
  | edgeUnfinished
  | propertySpelling
  | backreference
  | lookAround
  /-- A construct about characters stands where only bytes count. -/
  | unicodeOff
  /-- Something matches a part of a character. -/
  | partOfCharacter
  | propertyUnknown
  | propertyValueUnknown
  deriving DecidableEq, Repr

def Fault.message : Fault → String
  | classEscape => "invalid escape sequence found in character class"
  | classRange => "invalid character class range, the start must be <= the end"
  | classBoundary => "invalid range boundary, must be a literal"
  | classUnclosed => "unclosed character class"
  | numberTooLarge => "decimal literal invalid"
  | hexMissing => "hexadecimal literal empty"
  | hexNoCharacter => "hexadecimal literal is not a Unicode scalar value"
  | hexDigit => "invalid hexadecimal digit"
  | escapeUnfinished => "incomplete escape sequence, reached end of pattern prematurely"
  | escapeUnknown => "unrecognized escape sequence"
  | flagNegationLast => "dangling flag negation operator"
  | flagTwice => "duplicate flag"
  | flagNegationTwice => "flag negation operator repeated"
  | flagMissing => "expected flag but got end of regex"
  | flagUnknown => "unrecognized flag"
  | nameTwice => "duplicate capture group name"
  | nameMissing => "empty capture group name"
  | nameCharacter => "invalid capture group character"
  | nameUnclosed => "unclosed capture group name"
  | groupUnclosed => "unclosed group"
  | groupUnopened => "unopened group"
  | nestedTooDeep limit =>
    s!"exceed the maximum number of nested parentheses/brackets ({limit})"
  | countRange => "invalid repetition count range, the start must be <= the end"
  | countMissing => "repetition quantifier expects a valid decimal"
  | countUnclosed => "unclosed counted repetition"
  | repetitionOfNothing => "repetition operator missing expression"
  | edgeUnclosed =>
    "special word boundary assertion is either unclosed or contains an invalid character"
  | edgeUnknown =>
    "unrecognized special word boundary assertion, valid choices are: " ++
      "start, end, start-half or end-half"
  | edgeUnfinished =>
    "found either the beginning of a special word boundary or a bounded repetition on a " ++
      "\\b with an opening brace, but no closing brace"
  | propertySpelling => "invalid Unicode character class"
  | backreference => "backreferences are not supported"
  | lookAround => "look-around, including look-ahead and look-behind, is not supported"
  | unicodeOff => "Unicode not allowed here"
  | partOfCharacter => "pattern can match invalid UTF-8"
  | propertyUnknown => "Unicode property not found"
  | propertyValueUnknown => "Unicode property value not found"

structure Malformed where
  fault : Fault
  span : Span
  /-- An earlier place that has to do with the fault. -/
  other : Option Span
  deriving DecidableEq, Repr

/-! ## Places by line and column -/

/-- Both are counted from one. -/
structure Position where
  line : Nat
  column : Nat
  deriving DecidableEq, Repr

def positionAt (cs : List Char) (i : Nat) : Position :=
  let before := cs.take i
  ⟨1 + before.count '\n', 1 + (before.reverse.takeWhile (· ≠ '\n')).length⟩

/-- The lines of a text, without their ends. A line end at the end begins no line. -/
def linesOf (cs : List Char) : List (List Char) :=
  let parts := cs.splitOn '\n'
  let parts := if parts.getLast? = some [] then parts.dropLast else parts
  let ended := if cs.getLast? = some '\n' then parts.length else parts.length - 1
  parts.mapIdx fun i l => if i < ended ∧ l.getLast? = some '\r' then l.dropLast else l

/-! ## Reports -/

def blanks (n : Nat) : List Char := List.replicate n ' '

/-- Marks under the columns of some stretches of one line. -/
def marks (margin : Nat) (spans : List (Position × Position)) : List Char :=
  let put (line : List Char) (s : Position × Position) : List Char :=
    line ++ blanks (s.1.column - 1 - line.length) ++
      List.replicate (max 1 (s.2.column - s.1.column)) '^'
  blanks margin ++ spans.foldl put []

/-- The lines of a pattern, numbered if there are several, with marks under the stretches
that lie within one line. -/
def annotated (cs : List Char) (spans : List (Position × Position)) : String :=
  let lines := linesOf cs
  let count := lines.length + (if cs.getLast? = some '\n' then 1 else 0)
  let width := if count ≤ 1 then 0 else (toString count).length
  let margin := if width = 0 then 4 else width + 2
  let rows := lines.mapIdx fun i line =>
    let number := (toString (i + 1)).toList
    let head := if width = 0 then blanks 4
      else blanks (width - number.length) ++ number ++ [':', ' ']
    let here := spans.filter fun s => s.1.line = i + 1 && s.2.line = i + 1
    let under := if here.isEmpty then [] else marks margin here ++ ['\n']
    String.ofList (head ++ line ++ ['\n'] ++ under)
  String.join rows

/-- A stretch of several lines, in words. -/
def described (s : Position × Position) : String :=
  s!"on line {s.1.line} (column {s.1.column}) through " ++
    s!"line {s.2.line} (column {s.2.column - 1})"

def Malformed.report (m : Malformed) (pattern : String) : String :=
  let cs := pattern.toList
  let spans := (m.span :: m.other.toList).mergeSort fun a b =>
    a.start < b.start || (a.start = b.start && a.stop ≤ b.stop)
  let spans := spans.map fun s => (positionAt cs s.start, positionAt cs s.stop)
  let notated := annotated cs spans
  let body :=
    if cs.contains '\n' then
      let divider := String.ofList (List.replicate 79 '~') ++ "\n"
      let long := spans.filter fun s => s.1.line ≠ s.2.line
      let notes := if long.isEmpty then "" else "\n".intercalate (long.map described) ++ "\n"
      divider ++ notated ++ divider ++ notes
    else notated
  s!"regex parse error:\n{body}error: {m.fault.message}"

end Dialogue.Regex
