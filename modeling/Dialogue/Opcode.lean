/-!
# Opcodes

Only the shape of an instruction's operand is known, and it depends on the range its
opcode falls in. Opcodes `0x69` to `0x6D` load an encrypted dialogue string.
-/

namespace Dialogue

/-- The operand that follows an opcode. -/
inductive Operand where
  /-- Two bytes. -/
  | pair
  /-- One byte, then a text ended by a zero byte. -/
  | byteText
  /-- A text ended by a zero byte. -/
  | text
  /-- Four 16-bit fields. -/
  | quad
  deriving DecidableEq, Repr

inductive Kind where
  | unknown
  | stringLoad
  deriving DecidableEq, Repr

abbrev Opcode := UInt8

namespace Opcode

def operand (op : Opcode) : Operand :=
  if op < 0x3B then .pair
  else if op < 0x48 then .byteText
  else if op < 0x6E then .text
  else .quad

def kind (op : Opcode) : Kind :=
  if 0x69 ≤ op ∧ op < 0x6E then .stringLoad else .unknown

/-- The byte that announces an extra block behind an operand. -/
def extraTag : UInt8 := 0x77

/-- An extra block holds four 16-bit fields after its tag. -/
def extraSize : Nat := 8

/-- An opcode that may not fit the ranges. -/
def doubtful : Opcode := 0x87

theorem operand_of_stringLoad {op : Opcode} (h : op.kind = .stringLoad) :
    op.operand = .text := by
  simp only [kind] at h
  split at h
  · rename_i h'
    have h₁ := UInt8.le_iff_toNat_le.1 h'.1
    have h₂ := UInt8.lt_iff_toNat_lt.1 h'.2
    simp only [operand, UInt8.lt_iff_toNat_lt]
    simp only [UInt8.reduceToNat] at h₁ h₂ ⊢
    rw [if_neg (by omega), if_neg (by omega), if_pos (by omega)]
  · simp at h

end Opcode

end Dialogue
