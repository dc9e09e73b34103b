/-!
# Character tables

An `Index` lists characters by pointer. Entries below U+0080 stand for unassigned
pointers, so no table ever yields an ASCII character.
-/

namespace Dialogue.Charset

structure Index where
  chars : Array Char

namespace Index

/-- The table whose rows are given as texts. -/
def ofRows (rows : List String) : Index :=
  ⟨(rows.flatMap String.toList).toArray⟩

def char? (ix : Index) (pointer : Nat) : Option Char :=
  ix.chars[pointer]?.filter fun c => 0x80 ≤ c.toNat

/-- The first of the `count` pointers from `start` on that holds `c`. -/
def pointer? (ix : Index) (c : Char) : (start count : Nat) → Option Nat
  | _, 0 => none
  | start, count + 1 =>
    if ix.char? start = some c then some start else pointer? ix c (start + 1) count

theorem char?_of_pointer? {ix : Index} {c : Char} {start count p : Nat}
    (h : ix.pointer? c start count = some p) :
    ix.char? p = some c ∧ start ≤ p ∧ p < start + count := by
  induction count generalizing start with
  | zero => simp [pointer?] at h
  | succ n ih =>
    by_cases hc : ix.char? start = some c
    · simp only [pointer?, hc, ↓reduceIte, Option.some.injEq] at h
      subst h
      exact ⟨hc, by omega, by omega⟩
    · simp only [pointer?, hc, ↓reduceIte] at h
      have := ih h
      exact ⟨this.1, by omega, by omega⟩

theorem le_of_char? {ix : Index} {c : Char} {p : Nat} (h : ix.char? p = some c) :
    0x80 ≤ c.toNat := by
  simp only [char?, Option.filter_eq_some_iff, decide_eq_true_eq] at h
  exact h.2

end Index

end Dialogue.Charset
