import Dialogue.Proofs.Assembly

/-!
# Where decoding fails

Every reader fails with damage at an offset of its input (`DamageIn`): an operand at its first
byte or behind it, an instruction behind its opcode. So `Assembly.decode` reports damage at an
offset inside the code section or at its end (`damageIn_of_decode`).
-/

namespace Dialogue

/-- The error is damage at an offset from `lo` up to `hi`. -/
def ScriptError.DamageIn (lo hi : Nat) (e : ScriptError) : Prop :=
  ∃ offset damage, e = .structural offset damage ∧ lo ≤ offset ∧ offset ≤ hi

theorem ScriptError.DamageIn.mono {lo hi lo' hi' : Nat} {e : ScriptError} (h : e.DamageIn lo hi)
    (hlo : lo' ≤ lo) (hhi : hi ≤ hi') : e.DamageIn lo' hi' := by
  obtain ⟨offset, damage, rfl, h₁, h₂⟩ := h
  exact ⟨offset, damage, rfl, Nat.le_trans hlo h₁, Nat.le_trans h₂ hhi⟩

namespace Operand

theorem damageIn_of_skip {n pos : Nat} {bs : Bytes} {e : ScriptError}
    (h : skip n pos bs = .error e) : e.DamageIn pos pos := by
  unfold skip at h
  split at h
  · cases h
  · cases h
    exact ⟨pos, _, rfl, Nat.le_refl pos, Nat.le_refl pos⟩

theorem damageIn_of_skipText {pos : Nat} {bs : Bytes} {e : ScriptError}
    (h : skipText pos bs = .error e) : e.DamageIn pos pos := by
  unfold skipText at h
  split at h
  · cases h
  · cases h
    exact ⟨pos, _, rfl, Nat.le_refl pos, Nat.le_refl pos⟩

theorem damageIn_of_read {shape : Operand} {pos : Nat} {bs : Bytes} {e : ScriptError}
    (h : shape.read pos bs = .error e) : e.DamageIn pos (pos + bs.length) := by
  cases shape with
  | pair => exact (damageIn_of_skip h).mono (Nat.le_refl pos) (Nat.le_add_right ..)
  | quad => exact (damageIn_of_skip h).mono (Nat.le_refl pos) (Nat.le_add_right ..)
  | text => exact (damageIn_of_skipText h).mono (Nat.le_refl pos) (Nat.le_add_right ..)
  | byteText =>
    simp only [read] at h
    split at h
    · next hs =>
      cases h
      exact (damageIn_of_skip hs).mono (Nat.le_refl pos) (Nat.le_add_right ..)
    · next m rest hs =>
      split at h
      · next ht =>
        cases h
        obtain ⟨hm, hl⟩ := length_of_skip hs
        exact (damageIn_of_skipText ht).mono (by omega) (by omega)
      · cases h

theorem damageIn_of_readExtra {pos : Nat} {bs : Bytes} {e : ScriptError}
    (h : readExtra pos bs = .error e) : e.DamageIn pos (pos + bs.length) := by
  cases bs with
  | nil => cases h
  | cons tag rest =>
    simp only [readExtra] at h
    split at h
    · split at h
      · next hs =>
        cases h
        rw [List.length_cons]
        exact (damageIn_of_skip hs).mono (by omega) (by omega)
      · cases h
    · cases h

end Operand

namespace Instruction

/-- An instruction fails behind its opcode. -/
theorem damageIn_of_read {pos : Nat} {op : Opcode} {bs : Bytes} {e : ScriptError}
    (h : read pos op bs = .error e) : e.DamageIn (pos + 1) (pos + (op :: bs).length) := by
  rw [List.length_cons]
  simp only [read] at h
  split at h
  · next ho =>
    cases h
    exact (Operand.damageIn_of_read ho).mono (Nat.le_refl _) (by omega)
  · next n rest ho =>
    split at h
    · next hx =>
      cases h
      have hl := Operand.length_of_read ho
      exact (Operand.damageIn_of_readExtra hx).mono (by omega) (by omega)
    · cases h

theorem damageIn_of_readAll {pos : Nat} {bs : Bytes} {e : ScriptError}
    (h : readAll pos bs = .error e) : e.DamageIn (pos + 1) (pos + bs.length) := by
  fun_induction readAll pos bs generalizing e with
  | case1 => cases h
  | case2 pos op bs e' hr =>
    cases h
    exact damageIn_of_read hr
  | case3 pos op bs i rest hr hlt e' hj ih =>
    -- a later instruction fails, and it lies behind this one
    cases h
    obtain ⟨b, hb, rfl, -⟩ := read_ok_iff.1 hr
    have hl := congrArg List.length hb
    rw [List.length_append] at hl
    exact (ih hj).mono (by simp only [stop, Block.instruction]; omega)
      (by simp only [stop, Block.instruction]; omega)
  | case4 => cases h

end Instruction

namespace Assembly

theorem damageIn_of_decode {code : Bytes} {e : ScriptError} (h : decode code = .error e) :
    e.DamageIn 0 code.length := by
  unfold decode at h
  split at h
  · cases h
    exact ⟨0, _, rfl, Nat.le_refl 0, Nat.zero_le _⟩
  · split at h
    · cases h
      exact ⟨0, _, rfl, Nat.le_refl 0, Nat.le_refl 0⟩
    · next version low high body =>
      split at h
      · next hr =>
        cases h
        exact (Instruction.damageIn_of_readAll hr).mono (Nat.zero_le _)
          (by simp only [headerSize, List.length_cons]; omega)
      · next is hr =>
        rw [if_pos (byteLength_of_readAll hr ..)] at h
        cases h
    · next b rest _ =>
      cases h
      exact ⟨1, _, rfl, Nat.zero_le 1, by rw [List.length_cons]; omega⟩

end Assembly

end Dialogue
