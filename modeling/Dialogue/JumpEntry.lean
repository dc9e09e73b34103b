import Dialogue.Hex

/-!
# Jump entries

An entry of the jump table is a 32-bit word: a flag in bit 31, which is carried through
untouched, and below it the offset in the code section that the entry refers to.
-/

namespace Dialogue

structure JumpEntry where
  flag : Bool
  target : Nat
  target_lt : target < 0x80000000
  deriving DecidableEq, Repr

namespace JumpEntry

def ofRaw (raw : UInt32) : JumpEntry :=
  ⟨0x80000000 ≤ raw.toNat, raw.toNat % 0x80000000, Nat.mod_lt _ (by decide)⟩

def raw (e : JumpEntry) : UInt32 :=
  UInt32.ofNat (e.target + if e.flag then 0x80000000 else 0)

/-- The same flag with a new target, of which only the low 31 bits count. -/
def withTarget (e : JumpEntry) (target : Nat) : JumpEntry :=
  ⟨e.flag, target % 0x80000000, Nat.mod_lt _ (by decide)⟩

theorem ofRaw_raw (e : JumpEntry) : ofRaw e.raw = e := by
  obtain ⟨flag, target, h⟩ := e
  cases flag <;> simp [raw, ofRaw] <;> omega

theorem raw_ofRaw (w : UInt32) : (ofRaw w).raw = w := by
  apply UInt32.toNat_inj.1
  have := w.toNat_lt
  simp only [raw, ofRaw, decide_eq_true_eq, UInt32.toNat_ofNat']
  split <;> omega

/-- How an entry shows itself in diagnostics. -/
def describe (e : JumpEntry) : String :=
  s!"JumpEntry(0x{Hex.word e.raw.toNat})"

end JumpEntry

end Dialogue
