import Dialogue.Hex
import Dialogue.Log.Notice
import Dialogue.ScriptError
import Dialogue.Text.Blank
import Dialogue.Replacements

/-!
# Text artifacts

The exported text of a script. Each string takes a reference line `◇XXXXXXXX◇text`, an
editable line `◆XXXXXXXX◆text` with the same address and text, and an empty line. Line
breaks in a text are escaped. Reading an artifact back collects its editable lines; the
last one of an address counts.
-/

namespace Dialogue

structure TextUnit where
  address : Nat
  text : String
  deriving DecidableEq, Repr

abbrev Artifact := List TextUnit

namespace Artifact

def referenceMarker : Char := '◇'

def editableMarker : Char := '◆'

def byteOrderMark : Char := '\uFEFF'

/-! ## Escaping -/

def escapeChar : Char → List Char
  | '\r' => ['\\', 'r']
  | '\n' => ['\\', 'n']
  | c => [c]

def escapeChars (cs : List Char) : List Char := cs.flatMap escapeChar

def unescapeChars : List Char → List Char
  | '\\' :: 'r' :: cs => '\r' :: unescapeChars cs
  | '\\' :: 'n' :: cs => '\n' :: unescapeChars cs
  | c :: cs => c :: unescapeChars cs
  | [] => []

def escape (text : String) : String := String.ofList (escapeChars text.toList)

def unescape (text : String) : String := String.ofList (unescapeChars text.toList)

/-! ## Writing -/

def line (marker : Char) (u : TextUnit) : List Char :=
  marker :: Hex.padded 8 u.address ++ marker :: escapeChars u.text.toList ++ ['\n']

def renderUnit (u : TextUnit) : List Char :=
  line referenceMarker u ++ line editableMarker u ++ ['\n']

def render (units : Artifact) : String := String.ofList (units.flatMap renderUnit)

/-! ## Reading -/

/-- The lines of a text, where `cur` is what the current line begins with, in reverse. A line
ends at a line feed, a carriage return right before which belongs to the line end; after the
last line feed there is a line only if characters are left. -/
def linesFrom (cur : List Char) : List Char → List (List Char)
  | [] => if cur.isEmpty then [] else [cur.reverse]
  | c :: cs =>
    if c = '\n' then
      (match cur with
        | '\r' :: cur => cur.reverse
        | cur => cur.reverse) :: linesFrom [] cs
    else linesFrom (c :: cur) cs

/-- The lines of an artifact, after at most one byte order mark. -/
def lines (text : String) : List (List Char) :=
  match text.toList with
  | [] => []
  | c :: cs => if c = byteOrderMark then linesFrom [] cs else linesFrom [] (c :: cs)

inductive Line where
  /-- A blank line or a reference line. -/
  | skipped
  | editable (address : Nat) (text : String)
  | faulty (fault : LineFault)
  deriving DecidableEq, Repr

/-- The eight-digit address before an editable marker, and what follows the marker. -/
def readAddress (cs : List Char) : Option (Nat × List Char) :=
  match Hex.value? 0 (cs.take 8), cs.drop 8 with
  | some address, c :: text => if c = editableMarker then some (address, text) else none
  | _, _ => none

def Line.ofChars (cs : List Char) : Line :=
  if cs.all Text.isBlank then .skipped
  else match cs with
    | [] => .skipped
    | c :: rest =>
      if c = referenceMarker then .skipped
      else if c = editableMarker then
        match readAddress rest with
        | some (address, text) => .editable address (String.ofList (unescapeChars text))
        | none => .faulty .noAddress
      else .faulty .unmarked

/-- Collect the editable lines, the first of which has the number `n`. -/
def collect (n : Nat) (found : Replacements) : List (List Char) → Except ScriptError Replacements
  | [] => .ok found
  | l :: ls =>
    match Line.ofChars l with
    | .skipped => collect (n + 1) found ls
    | .editable address text => collect (n + 1) (found.insert address text) ls
    | .faulty fault => .error (.format n fault)

def parse (text : String) : Except ScriptError Replacements :=
  collect 0 .empty (lines text)

/-! ## Notices -/

/-- The numbers and addresses of the lines that repeat an address, up to the first faulty
line. -/
def repeats (n : Nat) (seen : List Nat) : List (List Char) → List (Nat × Nat)
  | [] => []
  | l :: ls =>
    match Line.ofChars l with
    | .skipped => repeats (n + 1) seen ls
    | .editable address _ =>
      (if address ∈ seen then [(n, address)] else []) ++ repeats (n + 1) (address :: seen) ls
    | .faulty _ => []

/-- What parsing `text` reports. -/
def notices (text : String) : List Notice :=
  (repeats 0 [] (lines text)).map fun r =>
    ⟨.debug, .text, s!"line {r.1}: address {Hex.word r.2} given again"⟩

end Artifact

end Dialogue
