import Dialogue.Charset.Name
import Dialogue.Hex

/-!
# Script errors

A script file can be damaged at an offset, a text artifact can be malformed at a line, and
a text can fail to pass through its encoding.
-/

namespace Dialogue

/-- What a reader wanted when the data ended. -/
inductive Item where
  | byte
  | word16
  | word32
  | operand (size : Nat)
  deriving DecidableEq, Repr

namespace Item

def name : Item → String
  | byte => "u8"
  | word16 => "u16"
  | word32 => "u32"
  | operand _ => "operand"

def size : Item → Nat
  | byte => 1
  | word16 => 2
  | word32 => 4
  | operand n => n

end Item

inductive Damage where
  | endOfData (item : Item) (left : Nat)
  | unterminatedText
  | tableTooLong (count left : Nat)
  | tablesDiffer (jumps aux : Nat)
  | codeTooLong (size : Nat)
  /-- The instructions do not add up to the code they were read from. -/
  | lengthMismatch (decoded expected : Nat)
  /-- Relocation would move code past the addresses that jumps can hold. -/
  | addressOverflow
  deriving DecidableEq, Repr

def Damage.message : Damage → String
  | endOfData item left =>
    s!"unexpected end of data reading {item.name} ({item.size} bytes needed, {left} left)"
  | unterminatedText => "unterminated string operand"
  | tableTooLong count left =>
    s!"declared {count} table entries do not fit in the remaining {left} bytes"
  | tablesDiffer jumps aux =>
    s!"jump table has {jumps} entries but auxiliary table has {aux}"
  | codeTooLong size => s!"code section too large: {size} bytes"
  | lengthMismatch decoded expected =>
    s!"parse length mismatch: decoded {decoded} bytes, expected {expected}"
  | addressOverflow => "rebuilt code section exceeds the 31-bit jump address range"

inductive LineFault where
  /-- The line does not begin with the editable marker. -/
  | unmarked
  /-- The line begins with the editable marker, but no address follows. -/
  | noAddress
  deriving DecidableEq, Repr

def LineFault.message : LineFault → String
  | unmarked => "line does not start with ◆"
  | noAddress => "expected ◆<8 hex digits>◆<text>"

inductive ScriptError where
  | structural (offset : Nat) (damage : Damage)
  /-- Lines are counted from zero. -/
  | format (line : Nat) (fault : LineFault)
  | charset (error : CharsetError)
  deriving DecidableEq, Repr

def ScriptError.message : ScriptError → String
  | structural offset damage =>
    "structural error at offset 0x" ++ String.ofList (Hex.minimal offset) ++ ": " ++ damage.message
  | format line fault => s!"bad format at line {line}: {fault.message}"
  | charset error => error.message

end Dialogue
