import Dialogue.Instruction.Read

/-!
# Operands as bytes

`Operand.Fits shape bs`: an operand of this shape can be `bs`. The lemmas here say when the
readers of operands and extra blocks succeed (`Operand.read_ok_iff`,
`Operand.readExtra_ok_iff`): exactly when the input begins with such bytes, which are then
what is stepped over.
-/

namespace Dialogue

namespace Bytes

theorem afterNul_append {text : Bytes} (h : (0 : UInt8) ∉ text) (rest : Bytes) :
    afterNul (text ++ 0 :: rest) = some (text.length + 1, rest) := by
  induction text with
  | nil => rfl
  | cons b text ih =>
    simp only [List.mem_cons, not_or] at h
    rw [List.cons_append, afterNul, if_neg (Ne.symm h.1), ih h.2]
    rfl

theorem afterNul_eq_some_iff {bs rest : Bytes} {n : Nat} :
    afterNul bs = some (n, rest) ↔
      ∃ text : Bytes, 0 ∉ text ∧ n = text.length + 1 ∧ bs = text ++ 0 :: rest := by
  constructor
  · intro h
    induction bs generalizing n with
    | nil => simp [afterNul] at h
    | cons b bs ih =>
      rw [afterNul] at h
      split at h
      · next hb =>
        simp only [Option.some.injEq, Prod.mk.injEq] at h
        obtain ⟨rfl, rfl⟩ := h
        exact ⟨[], by simp, rfl, by rw [hb]; rfl⟩
      · next hb =>
        simp only [Option.map_eq_some_iff, Prod.mk.injEq] at h
        obtain ⟨⟨m, r⟩, hm, rfl, rfl⟩ := h
        obtain ⟨text, hz, rfl, rfl⟩ := ih hm
        refine ⟨b :: text, ?_, rfl, rfl⟩
        simp only [List.mem_cons, not_or]
        exact ⟨Ne.symm hb, hz⟩
  · rintro ⟨text, hz, rfl, rfl⟩
    exact afterNul_append hz rest

/-- The first zero byte ends a text, whatever follows. -/
theorem eq_of_append_zero {s t x y : Bytes} (hs : (0 : UInt8) ∉ s) (ht : (0 : UInt8) ∉ t)
    (h : s ++ 0 :: x = t ++ 0 :: y) : s = t ∧ x = y := by
  have hx := afterNul_append hs x
  rw [h, afterNul_append ht y, Option.some.injEq, Prod.mk.injEq] at hx
  obtain ⟨hn, rfl⟩ := hx
  exact ⟨(List.append_inj h (by omega)).1, rfl⟩

end Bytes

namespace Operand

/-- Whether `bs` can be an operand of this shape. -/
def Fits : Operand → Bytes → Prop
  | pair, bs => bs.length = 2
  | byteText, bs => ∃ (b : UInt8) (text : Bytes), 0 ∉ text ∧ bs = b :: text ++ [0]
  | text, bs => ∃ text : Bytes, 0 ∉ text ∧ bs = text ++ [0]
  | quad, bs => bs.length = 8

theorem skip_ok_iff {n m pos : Nat} {bs rest : Bytes} :
    skip n pos bs = .ok (m, rest) ↔
      ∃ taken : Bytes, taken.length = n ∧ m = taken.length ∧ bs = taken ++ rest := by
  unfold skip
  constructor
  · intro h
    split at h
    · next r hr =>
      simp only [Except.ok.injEq, Prod.mk.injEq] at h
      obtain ⟨rfl, rfl⟩ := h
      obtain ⟨hle, rfl⟩ := Bytes.advance_eq_some_iff.1 hr
      have hl : (bs.take n).length = n := by rw [List.length_take]; omega
      exact ⟨bs.take n, hl, hl.symm, (List.take_append_drop n bs).symm⟩
    · cases h
  · rintro ⟨taken, rfl, rfl, rfl⟩
    have h : Bytes.advance taken.length (taken ++ rest) = some rest :=
      Bytes.advance_eq_some_iff.2 ⟨by simp, by simp⟩
    rw [h]

theorem skipText_ok_iff {n pos : Nat} {bs rest : Bytes} :
    skipText pos bs = .ok (n, rest) ↔
      ∃ text : Bytes, 0 ∉ text ∧ n = text.length + 1 ∧ bs = text ++ 0 :: rest := by
  rw [← Bytes.afterNul_eq_some_iff]
  unfold skipText
  split
  · next r hr => simp [hr]
  · next hr => simp [hr]

theorem read_ok_iff {shape : Operand} {n pos : Nat} {bs rest : Bytes} :
    shape.read pos bs = .ok (n, rest) ↔
      ∃ operand, shape.Fits operand ∧ n = operand.length ∧ bs = operand ++ rest := by
  cases shape with
  | pair => exact skip_ok_iff
  | quad => exact skip_ok_iff
  | text =>
    simp only [read, skipText_ok_iff, Fits]
    constructor
    · rintro ⟨text, hz, rfl, rfl⟩
      exact ⟨text ++ [0], ⟨text, hz, rfl⟩, by simp, by simp⟩
    · rintro ⟨_, ⟨text, hz, rfl⟩, rfl, rfl⟩
      exact ⟨text, hz, by simp, by simp⟩
  | byteText =>
    simp only [read, Fits]
    constructor
    · intro h
      split at h
      · cases h
      · next m bs₁ h₁ =>
        split at h
        · cases h
        · next k bs₂ h₂ =>
          simp only [Except.ok.injEq, Prod.mk.injEq] at h
          obtain ⟨rfl, rfl⟩ := h
          obtain ⟨taken, hl, rfl, rfl⟩ := skip_ok_iff.1 h₁
          obtain ⟨text, hz, rfl, rfl⟩ := skipText_ok_iff.1 h₂
          obtain ⟨b, rfl⟩ := List.length_eq_one_iff.1 hl
          exact ⟨b :: text ++ [0], ⟨b, text, hz, rfl⟩, by simp; omega, by simp⟩
    · rintro ⟨_, ⟨b, text, hz, rfl⟩, rfl, rfl⟩
      have h₁ : skip 1 pos (b :: text ++ [0] ++ rest) = .ok (1, text ++ 0 :: rest) :=
        skip_ok_iff.2 ⟨[b], rfl, rfl, by simp⟩
      have h₂ : skipText (pos + 1) (text ++ 0 :: rest) = .ok (text.length + 1, rest) :=
        skipText_ok_iff.2 ⟨text, hz, rfl, rfl⟩
      rw [h₁]
      simp only [h₂, List.length_append, List.length_cons, List.length_nil]
      rw [Nat.add_comm 1]

/-- Operands of one shape are prefix-free: the bytes tell where an operand ends. -/
theorem Fits.eq_of_append_eq {shape : Operand} {a b x y : Bytes} (ha : shape.Fits a)
    (hb : shape.Fits b) (h : a ++ x = b ++ y) : a = b ∧ x = y := by
  have hax : shape.read 0 (a ++ x) = .ok (a.length, x) := read_ok_iff.2 ⟨a, ha, rfl, rfl⟩
  have hby : shape.read 0 (a ++ x) = .ok (b.length, y) := read_ok_iff.2 ⟨b, hb, rfl, h⟩
  rw [hax, Except.ok.injEq, Prod.mk.injEq] at hby
  exact ⟨(List.append_inj h hby.1).1, hby.2⟩

/-- An extra block is read exactly when the input begins with its tag. -/
theorem readExtra_ok_iff {pos : Nat} {bs rest : Bytes} {found : Option Nat} :
    readExtra pos bs = .ok (found, rest) ↔
      (found = none ∧ bs = rest ∧ rest.head? ≠ some Opcode.extraTag) ∨
      (found = some (1 + Opcode.extraSize) ∧ ∃ fields : Bytes,
        fields.length = Opcode.extraSize ∧ bs = Opcode.extraTag :: fields ++ rest) := by
  cases bs with
  | nil =>
    simp only [readExtra, Except.ok.injEq, Prod.mk.injEq]
    constructor
    · rintro ⟨rfl, rfl⟩
      exact .inl ⟨rfl, rfl, by simp⟩
    · rintro (⟨rfl, rfl, -⟩ | ⟨-, fields, -, h⟩)
      · exact ⟨rfl, rfl⟩
      · simp at h
  | cons tag bs =>
    simp only [readExtra]
    by_cases ht : tag = Opcode.extraTag
    · subst ht
      rw [if_pos rfl]
      constructor
      · intro h
        split at h
        · cases h
        · next n r hs =>
          simp only [Except.ok.injEq, Prod.mk.injEq] at h
          obtain ⟨rfl, rfl⟩ := h
          obtain ⟨fields, hl, rfl, rfl⟩ := skip_ok_iff.1 hs
          exact .inr ⟨by rw [hl], fields, hl, rfl⟩
      · rintro (⟨-, rfl, h⟩ | ⟨rfl, fields, hl, h⟩)
        · simp at h
        · simp only [List.cons_append, List.cons.injEq, true_and] at h
          rw [skip_ok_iff.2 ⟨fields, hl, hl.symm, h⟩]
    · rw [if_neg ht]
      simp only [Except.ok.injEq, Prod.mk.injEq]
      constructor
      · rintro ⟨rfl, rfl⟩
        exact .inl ⟨rfl, rfl, by simpa using ht⟩
      · rintro (⟨rfl, rfl, -⟩ | ⟨-, fields, -, h⟩)
        · exact ⟨rfl, rfl⟩
        · simp only [List.cons_append, List.cons.injEq] at h
          exact absurd h.1 ht

end Operand

end Dialogue
