/-!
# Pieces between separators

A list split at a separator comes in pieces that hold what the list holds, but for the separator
(`mem_of_mem_splitOn`, `not_mem_of_mem_splitOn`). Pieces put together again hold the separator only
between them (`mem_intercalate_iff`).
-/

namespace Dialogue

variable {α : Type} {x sep : α} {xs piece : List α} {pieces : List (List α)}

theorem mem_intercalate_iff : x ∈ [sep].intercalate pieces ↔
    (∃ piece ∈ pieces, x ∈ piece) ∨ (x = sep ∧ 1 < pieces.length) := by
  induction pieces with
  | nil => simp
  | cons piece pieces ih =>
    cases pieces with
    | nil => simp
    | cons next pieces =>
      rw [List.intercalate_cons_cons, List.append_assoc, List.mem_append, List.singleton_append,
        List.mem_cons, ih]
      grind

variable [BEq α] [LawfulBEq α]

theorem mem_of_mem_splitOn (h : piece ∈ xs.splitOn sep) (hx : x ∈ piece) : x ∈ xs := by
  have hjoin : [sep].intercalate (xs.splitOn sep) = xs := List.intercalate_splitOn sep
  rw [← hjoin]
  exact mem_intercalate_iff.2 (.inl ⟨piece, h, hx⟩)

theorem not_mem_of_mem_splitOn (h : piece ∈ xs.splitOn sep) : sep ∉ piece := by
  induction xs generalizing piece with
  | nil =>
    rw [List.splitOn_nil, List.mem_singleton] at h
    rw [h]
    exact List.not_mem_nil
  | cons x xs ih =>
    rw [List.splitOn_cons_eq_if_modifyHead] at h
    split at h
    · rcases List.mem_cons.1 h with rfl | h
      · exact List.not_mem_nil
      · exact ih h
    · next hne =>
      cases hs : xs.splitOn sep with
      | nil => exact absurd hs (List.splitOn_ne_nil _ _)
      | cons first more =>
        rw [hs] at h ih
        rcases List.mem_cons.1 h with rfl | h
        · rw [List.mem_cons, not_or]
          exact ⟨fun he => hne (by simp [he]), ih List.mem_cons_self⟩
        · exact ih (List.mem_cons_of_mem _ h)

end Dialogue
