import Dialogue.Instruction
import Dialogue.ScriptError

/-!
# Reading instructions

`Instruction.read` takes one instruction off the front of a byte sequence, `readAll` reads
up to its end. Behind an operand, the tag `0x77` always belongs to an extra block, so no
instruction without an extra block is followed by the opcode `0x77`.
-/

namespace Dialogue

namespace Operand

/-- Step over `n` bytes at the offset `pos`. -/
def skip (n pos : Nat) (bs : Bytes) : Except ScriptError (Nat × Bytes) :=
  match bs.advance n with
  | some rest => .ok (n, rest)
  | none => .error (.structural pos (.endOfData (.operand n) bs.length))

/-- Step over a text at the offset `pos` and its closing zero. -/
def skipText (pos : Nat) (bs : Bytes) : Except ScriptError (Nat × Bytes) :=
  match bs.afterNul with
  | some r => .ok r
  | none => .error (.structural pos .unterminatedText)

/-- The length of the operand at the offset `pos`, and what follows it. -/
def read (shape : Operand) (pos : Nat) (bs : Bytes) : Except ScriptError (Nat × Bytes) :=
  match shape with
  | pair => skip 2 pos bs
  | byteText =>
    match skip 1 pos bs with
    | .error e => .error e
    | .ok (_, bs) =>
      match skipText (pos + 1) bs with
      | .error e => .error e
      | .ok (n, bs) => .ok (1 + n, bs)
  | text => skipText pos bs
  | quad => skip 8 pos bs

/-- The length of the extra block at the offset `pos`, if there is one, and what follows. -/
def readExtra (pos : Nat) (bs : Bytes) : Except ScriptError (Option Nat × Bytes) :=
  match bs with
  | [] => .ok (none, [])
  | tag :: rest =>
    if tag = Opcode.extraTag then
      match skip Opcode.extraSize (pos + 1) rest with
      | .error e => .error e
      | .ok (n, rest) => .ok (some (1 + n), rest)
    else .ok (none, bs)

theorem length_of_skip {n m pos : Nat} {bs rest : Bytes}
    (h : skip n pos bs = .ok (m, rest)) : m = n ∧ m + rest.length = bs.length := by
  unfold skip at h
  split at h
  · rename_i r hr
    simp only [Except.ok.injEq, Prod.mk.injEq] at h
    obtain ⟨rfl, rfl⟩ := h
    obtain ⟨hle, rfl⟩ := Bytes.advance_eq_some_iff.1 hr
    exact ⟨rfl, by rw [List.length_drop]; omega⟩
  · simp at h

theorem length_of_skipText {m pos : Nat} {bs rest : Bytes}
    (h : skipText pos bs = .ok (m, rest)) : m + rest.length = bs.length := by
  unfold skipText at h
  split at h
  · rename_i r hr
    simp only [Except.ok.injEq] at h
    subst h
    exact Bytes.length_of_afterNul hr
  · simp at h

theorem length_of_read {shape : Operand} {m pos : Nat} {bs rest : Bytes}
    (h : shape.read pos bs = .ok (m, rest)) : m + rest.length = bs.length := by
  cases shape with
  | pair => exact (length_of_skip h).2
  | text => exact length_of_skipText h
  | quad => exact (length_of_skip h).2
  | byteText =>
    simp only [read] at h
    split at h
    · simp at h
    · rename_i h₁
      split at h
      · simp at h
      · rename_i h₂
        simp only [Except.ok.injEq, Prod.mk.injEq] at h
        obtain ⟨rfl, rfl⟩ := h
        have l₁ := length_of_skip h₁
        have l₂ := length_of_skipText h₂
        omega

theorem length_of_readExtra {found : Option Nat} {pos : Nat} {bs rest : Bytes}
    (h : readExtra pos bs = .ok (found, rest)) : found.getD 0 + rest.length = bs.length := by
  unfold readExtra at h
  split at h
  · simp only [Except.ok.injEq, Prod.mk.injEq] at h
    obtain ⟨rfl, rfl⟩ := h
    rfl
  · split at h
    · split at h
      · simp at h
      · rename_i hs
        simp only [Except.ok.injEq, Prod.mk.injEq] at h
        obtain ⟨rfl, rfl⟩ := h
        have l := (length_of_skip hs).2
        simp only [Option.getD_some, List.length_cons]
        omega
    · simp only [Except.ok.injEq, Prod.mk.injEq] at h
      obtain ⟨rfl, rfl⟩ := h
      simp

end Operand

namespace Instruction

/-- The instruction at the offset `pos` whose opcode `op` precedes `bs`, and what follows
it. -/
def read (pos : Nat) (op : Opcode) (bs : Bytes) : Except ScriptError (Instruction × Bytes) :=
  match op.operand.read (pos + 1) bs with
  | .error e => .error e
  | .ok (n, bs) =>
    match Operand.readExtra (pos + 1 + n) bs with
    | .error e => .error e
    | .ok (extra, bs) => .ok (⟨pos, 1 + n + extra.getD 0, op, extra.isSome⟩, bs)

theorem length_of_read {pos : Nat} {op : Opcode} {bs rest : Bytes} {i : Instruction}
    (h : read pos op bs = .ok (i, rest)) :
    1 ≤ i.length ∧ i.length + rest.length = bs.length + 1 := by
  simp only [read] at h
  split at h
  · simp at h
  · rename_i h₁
    split at h
    · simp at h
    · rename_i h₂
      simp only [Except.ok.injEq, Prod.mk.injEq] at h
      obtain ⟨rfl, rfl⟩ := h
      have l₁ := Operand.length_of_read h₁
      have l₂ := Operand.length_of_readExtra h₂
      constructor <;> dsimp only <;> omega

/-- The instructions from the offset `pos` to the end. -/
def readAll (pos : Nat) : Bytes → Except ScriptError (List Instruction)
  | [] => .ok []
  | op :: bs =>
    match h : read pos op bs with
    | .error e => .error e
    | .ok (i, rest) =>
      have : rest.length < bs.length + 1 := by have := length_of_read h; omega
      match readAll i.stop rest with
      | .error e => .error e
      | .ok is => .ok (i :: is)
  termination_by bs => bs.length

/-- The offsets of the doubtful opcodes met from `pos` on, up to the end or to the first
instruction that cannot be read. -/
def doubtfulOffsets (pos : Nat) : Bytes → List Nat
  | [] => []
  | op :: bs =>
    let here := if op = Opcode.doubtful then [pos] else []
    match h : read pos op bs with
    | .error _ => here
    | .ok (i, rest) =>
      have : rest.length < bs.length + 1 := by have := length_of_read h; omega
      here ++ doubtfulOffsets i.stop rest
  termination_by bs => bs.length

end Instruction

end Dialogue
