/-!
# Bytes

A file is a list of bytes. `advance` steps over a fixed number of bytes and
`afterNul` over a text ended by a zero byte; both fail on input that is too short.
Words are little-endian.
-/

namespace Dialogue

abbrev Bytes := List UInt8

namespace Bytes

/-- A property of every number below 256 is a property of every byte. -/
theorem forall_byte {p : UInt8 → Prop} (h : ∀ n : Fin 256, p (UInt8.ofFin n)) (b : UInt8) :
    p b :=
  h b.toFin

/-- What follows the first `n` bytes. -/
def advance : Nat → Bytes → Option Bytes
  | 0, bs => some bs
  | _ + 1, [] => none
  | n + 1, _ :: bs => advance n bs

theorem advance_eq_some_iff {n : Nat} {bs rest : Bytes} :
    advance n bs = some rest ↔ n ≤ bs.length ∧ rest = bs.drop n := by
  induction n generalizing bs with
  | zero => simp [advance, eq_comm]
  | succ n ih => cases bs with
    | nil => simp [advance]
    | cons b bs => simp [advance, ih]

/-- The length of the text up to and with its closing zero, and what follows it. -/
def afterNul : Bytes → Option (Nat × Bytes)
  | [] => none
  | b :: bs => if b = 0 then some (1, bs) else (afterNul bs).map fun r => (r.1 + 1, r.2)

theorem length_of_afterNul {bs rest : Bytes} {n : Nat} (h : afterNul bs = some (n, rest)) :
    n + rest.length = bs.length := by
  induction bs generalizing n with
  | nil => simp [afterNul] at h
  | cons b bs ih =>
    by_cases hb : b = 0
    · simp only [afterNul, hb, ↓reduceIte, Option.some.injEq, Prod.mk.injEq] at h
      obtain ⟨rfl, rfl⟩ := h
      simp [Nat.add_comm]
    · simp only [afterNul, hb, ↓reduceIte, Option.map_eq_some_iff, Prod.mk.injEq] at h
      obtain ⟨⟨m, r⟩, hm, rfl, rfl⟩ := h
      have h := ih hm
      simp only [List.length_cons] at h ⊢
      omega

/-! ## Little-endian words -/

def ofWord16 (w : UInt16) : Bytes :=
  [UInt8.ofNat (w.toNat % 256), UInt8.ofNat (w.toNat / 256)]

def word16 (b₀ b₁ : UInt8) : UInt16 :=
  UInt16.ofNat (b₀.toNat + 256 * b₁.toNat)

def ofWord32 (w : UInt32) : Bytes :=
  [UInt8.ofNat (w.toNat % 256), UInt8.ofNat (w.toNat / 256 % 256),
    UInt8.ofNat (w.toNat / 65536 % 256), UInt8.ofNat (w.toNat / 16777216)]

def word32 (b₀ b₁ b₂ b₃ : UInt8) : UInt32 :=
  UInt32.ofNat (b₀.toNat + 256 * b₁.toNat + 65536 * b₂.toNat + 16777216 * b₃.toNat)

end Bytes

end Dialogue
