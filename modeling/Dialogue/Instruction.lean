import Dialogue.Bytes
import Dialogue.Opcode

/-!
# Instructions

An instruction occupies `length` bytes of a code section from `address` on: its opcode, the
operand, and an extra block if `hasExtra`. A string load has the layout opcode, payload,
zero byte, trailer.
-/

namespace Dialogue

structure Instruction where
  address : Nat
  length : Nat
  opcode : Opcode
  hasExtra : Bool
  deriving DecidableEq, Repr

namespace Instruction

def kind (i : Instruction) : Kind := i.opcode.kind

def isStringLoad (i : Instruction) : Bool := i.kind = .stringLoad

/-- The offset behind the last byte. -/
def stop (i : Instruction) : Nat := i.address + i.length

/-- The size of the extra block with its tag. -/
def extraLength (i : Instruction) : Nat :=
  if i.hasExtra then 1 + Opcode.extraSize else 0

/-- Where the extra block starts, or would start. -/
def trailerStart (i : Instruction) : Nat := i.stop - i.extraLength

/-- Where the payload of a string load starts and ends, unless it is empty. -/
def payloadRange (i : Instruction) : Option (Nat × Nat) :=
  if i.isStringLoad ∧ i.address + 1 < i.trailerStart - 1 then
    some (i.address + 1, i.trailerStart - 1)
  else none

/-- The bytes of `code` from `start` up to `stop`. -/
def slice (code : Bytes) (start stop : Nat) : Bytes :=
  (code.drop start).take (stop - start)

def bytes (i : Instruction) (code : Bytes) : Bytes :=
  slice code i.address i.stop

def payload? (i : Instruction) (code : Bytes) : Option Bytes :=
  i.payloadRange.map fun r => slice code r.1 r.2

/-- The extra block of the instruction, empty if it has none. -/
def trailer (i : Instruction) (code : Bytes) : Bytes :=
  slice code i.trailerStart i.stop

end Instruction

end Dialogue
