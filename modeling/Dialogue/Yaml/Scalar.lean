import Dialogue.Hex
import Dialogue.Yaml.Number

/-!
# YAML scalars

A text with a line feed is written as a literal block, any other text plain if it reads
back as itself, else in single quotes. Where the preferred form cannot hold the text, it is
written in double quotes with escapes. Lines are never folded.
-/

namespace Dialogue.Yaml

def isBreak (c : Char) : Bool :=
  c ∈ ['\n', '\r', '\x85', '\u2028', '\u2029']

/-- A blank, a line break, or NUL. -/
def isGap (c : Char) : Bool :=
  c ∈ [' ', '\t', '\x00'] || isBreak c

def isPrintable (c : Char) : Bool :=
  let n := c.toNat
  n = 0x0A || (0x20 ≤ n && n ≤ 0x7E) ||
    (0xA0 ≤ n && n ≠ 0xFEFF && n ≠ 0xFFFE && n ≠ 0xFFFF)

/-! ## What a text allows -/

/-- Whether a character that is followed by a gap or not starts an indicator at the front of
a text. -/
def startsIndicator (c : Char) (gapAfter : Bool) : Bool :=
  c ∈ ['#', ',', '[', ']', '\x7b', '\x7d', '&', '*', '!', '|', '>', '\'', '"', '%', '@', '\x60'] ||
    (c ∈ ['?', ':', '-'] && gapAfter)

/-- Whether an indicator occurs behind the character `before`. -/
def indicatorAfter (before : Char) : List Char → Bool
  | [] => false
  | c :: cs =>
    (c = ':' && cs.head?.all isGap) || (c = '#' && isGap before) || indicatorAfter c cs

/-- Whether a text would be mistaken for structure if it were written plain. -/
def hasIndicator (cs : List Char) : Bool :=
  match cs with
  | [] => false
  | c :: rest =>
    ['-', '-', '-'].isPrefixOf cs || ['.', '.', '.'].isPrefixOf cs ||
      startsIndicator c (rest.head?.all isGap) || indicatorAfter c rest

/-- Whether a character of the first kind is directly followed by one of the second. -/
def adjacent (p q : Char → Bool) : List Char → Bool
  | a :: b :: cs => (p a && q b) || adjacent p q (b :: cs)
  | _ => false

def isSpace (c : Char) : Bool := c = ' '

/-- Only double quotes can hold such a text. -/
def isSpecial (cs : List Char) : Bool :=
  cs.any (!isPrintable ·) || adjacent isSpace isBreak cs

def allowsPlain (cs : List Char) : Bool :=
  !isSpecial cs && !cs.any isBreak && !cs.head?.any isSpace && !cs.getLast?.any isSpace &&
    !hasIndicator cs

def allowsSingle (cs : List Char) : Bool :=
  !isSpecial cs && !adjacent isBreak isSpace cs

def allowsLiteral (cs : List Char) : Bool :=
  !isSpecial cs && !cs.getLast?.any isSpace

/-! ## Styles -/

inductive Style where
  | plain
  | single
  | double
  | literal
  deriving DecidableEq, Repr

def style (cs : List Char) : Style :=
  if '\n' ∈ cs then if allowsLiteral cs then .literal else .double
  else if !needsQuotes cs && allowsPlain cs then .plain
  else if allowsSingle cs then .single
  else .double

/-! ## Writing -/

def indentation : Nat := 4

def margin : List Char := List.replicate indentation ' '

/-- The inside of single quotes. A character that follows a line break starts at the
margin. -/
def singleQuoted (afterBreak : Bool) : List Char → List Char
  | [] => if afterBreak then margin else []
  | c :: cs =>
    if isBreak c then c :: singleQuoted true cs
    else
      (if afterBreak then margin else []) ++ (if c = '\'' then ['\'', '\''] else [c]) ++
        singleQuoted false cs

def escape (c : Char) : List Char :=
  let n := c.toNat
  '\\' ::
    (if n = 0x00 then ['0']
    else if n = 0x07 then ['a']
    else if n = 0x08 then ['b']
    else if n = 0x09 then ['t']
    else if n = 0x0A then ['n']
    else if n = 0x0B then ['v']
    else if n = 0x0C then ['f']
    else if n = 0x0D then ['r']
    else if n = 0x1B then ['e']
    else if n = 0x22 then ['"']
    else if n = 0x5C then ['\\']
    else if n = 0x85 then ['N']
    else if n = 0xA0 then ['_']
    else if n = 0x2028 then ['L']
    else if n = 0x2029 then ['P']
    else if n ≤ 0xFF then 'x' :: Hex.padded 2 n
    else if n ≤ 0xFFFF then 'u' :: Hex.padded 4 n
    else 'U' :: Hex.padded 8 n)

def doubleQuoted (cs : List Char) : List Char :=
  cs.flatMap fun c =>
    if !isPrintable c || isBreak c || c = '"' || c = '\\' then escape c else [c]

/-- The header of a literal block: an explicit indentation if the text begins with a space or
a break, `-` if it does not end with a break, `+` if it ends with more than one. -/
def literalHeader (cs : List Char) : List Char :=
  let hint := if cs.head?.any fun c => isSpace c || isBreak c then ['2'] else []
  let chomp := match cs.reverse with
    | [] => ['-']
    | [c] => if isBreak c then ['+'] else ['-']
    | c :: b :: _ => if !isBreak c then ['-'] else if isBreak b then ['+'] else []
  '|' :: hint ++ chomp

def literalLines (afterBreak : Bool) : List Char → List Char
  | [] => if afterBreak then [] else ['\n']
  | c :: cs =>
    if isBreak c then c :: literalLines true cs
    else (if afterBreak then margin else []) ++ c :: literalLines false cs

/-- A scalar as the value of a key in a list of mappings, with the end of its last line. -/
def scalar (text : String) : String :=
  let cs := text.toList
  String.ofList <|
    match style cs with
    | .plain => cs ++ ['\n']
    | .single => '\'' :: singleQuoted false cs ++ ['\'', '\n']
    | .double => '"' :: doubleQuoted cs ++ ['"', '\n']
    | .literal => literalHeader cs ++ '\n' :: literalLines true cs

end Dialogue.Yaml
