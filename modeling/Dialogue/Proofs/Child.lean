import Dialogue.Files.Pattern
import Dialogue.Proofs.Extension

/-!
# Paths into a directory

A child of a directory moves like the directory and then to its name (`moves_child`), and all
children of a directory have the same bytes before their names (`exists_child_eq`).
-/

namespace Dialogue

namespace Path

/-! ## Components and parts -/

theorem component?_of_isMove {part : Bytes} (h : isMove part) (leading : Bool) :
    ∃ c, component? leading part = some c ∧ c ≠ .here := by
  have hne : part.isEmpty = false ∧ part ≠ [dot] := by simpa [isMove] using h
  unfold component?
  rw [hne.1, if_neg Bool.false_ne_true, if_neg hne.2]
  split
  · exact ⟨_, rfl, by simp⟩
  · exact ⟨_, rfl, by simp⟩

theorem filter_isMove_of_componentsOf (leading : Bool) {parts : List Bytes}
    (h : ∀ c, some c ∈ componentsOf leading parts → c = .here) : parts.filter isMove = [] := by
  induction parts generalizing leading with
  | nil => rfl
  | cons part parts ih =>
    rw [componentsOf] at h
    have hpart : ¬ isMove part := by
      intro hm
      obtain ⟨c, hc, hne⟩ := component?_of_isMove hm leading
      exact hne (h c (by simp [hc]))
    rw [List.filter_cons_of_neg hpart]
    exact ih false fun c hc => h c (List.mem_cons_of_mem _ hc)

/-- The working directory itself does not move. -/
theorem moves_of_components {p : Path} (h : p.components = [.here]) :
    p.isAbsolute = false ∧ p.moves = [] := by
  unfold components at h
  cases ha : p.isAbsolute with
  | true =>
    rw [ha] at h
    cases h
  | false =>
    rw [ha, if_neg Bool.false_ne_true, List.nil_append] at h
    refine ⟨rfl, filter_isMove_of_componentsOf (!false) fun c hc => ?_⟩
    have hmem : c ∈ (componentsOf (!false) p.parts).filterMap id :=
      List.mem_filterMap.2 ⟨some c, hc, rfl⟩
    rw [h] at hmem
    exact List.mem_singleton.1 hmem

/-! ## Paths of some parts -/

theorem ofParts_append {absolute : Bool} {before : List Bytes} (h : before ≠ []) (n : Bytes) :
    (ofParts absolute (before ++ [n])).bytes = (ofParts absolute before).bytes ++ slash :: n := by
  have hjoin : ((before ++ [n]).intersperse [slash]).flatten =
      (before.intersperse [slash]).flatten ++ slash :: n := by
    induction before with
    | nil => exact absurd rfl h
    | cons x before ih =>
      cases before with
      | nil => simp
      | cons y before =>
        have ih := ih (by simp)
        rw [List.cons_append, List.cons_append, List.intersperse_cons_cons, List.flatten_cons,
          List.flatten_cons, ← List.cons_append, ih, List.intersperse_cons_cons, List.flatten_cons,
          List.flatten_cons, List.append_assoc, List.append_assoc]
  unfold ofParts
  dsimp only
  rw [hjoin, List.append_assoc]

theorem prefix_ofParts (absolute : Bool) (before after : List Bytes) :
    (ofParts absolute before).bytes <+: (ofParts absolute (before ++ after)).bytes := by
  induction after generalizing before with
  | nil => simp only [List.append_nil, List.prefix_refl]
  | cons n after ih =>
    rw [List.append_cons]
    refine List.IsPrefix.trans ?_ (ih (before ++ [n]))
    cases before with
    | nil =>
      unfold ofParts
      dsimp only
      rw [List.intersperse_nil, List.flatten_nil, List.append_nil]
      exact List.prefix_append _ _
    | cons x before =>
      rw [ofParts_append (by simp)]
      exact List.prefix_append _ _

end Path

namespace Files

open Dialogue.Path

variable {dir : Path} {n : Bytes}

/-! ## Children -/

theorem child_of_here (h : dir.components = [.here]) (n : Bytes) : child dir n = ⟨n⟩ := if_pos h

theorem child_of_not_here (h : dir.components ≠ [.here]) (n : Bytes) :
    child dir n = dir.join ⟨n⟩ := if_neg h

theorem moves_mk (hn : slash ∉ n) : (Path.mk n).moves = [n].filter isMove := by
  rw [moves_eq, List.splitOn_eq_singleton hn]

theorem moves_child (hn : slash ∉ n) : (child dir n).moves = dir.moves ++ [n].filter isMove := by
  by_cases h : dir.components = [.here]
  · rw [child_of_here h, moves_mk hn, (moves_of_components h).2, List.nil_append]
  · rw [child_of_not_here h, moves_join (isAbsolute_eq_false hn), moves_mk hn]

theorem isAbsolute_child (hn : slash ∉ n) : (child dir n).isAbsolute = dir.isAbsolute := by
  by_cases h : dir.components = [.here]
  · rw [child_of_here h, isAbsolute_eq_false hn, (moves_of_components h).1]
  · rw [child_of_not_here h, isAbsolute_join (isAbsolute_eq_false hn)]

theorem sublist_child (dir : Path) (hn : slash ∉ n) : (child dir n).bytes.Sublist (dir.bytes ++ slash :: n) := by
  by_cases h : dir.components = [.here]
  · rw [child_of_here h, List.append_cons]
    exact List.sublist_append_right _ _
  · rw [child_of_not_here h]
    unfold join
    rw [isAbsolute_eq_false hn, if_neg Bool.false_ne_true]
    split
    · exact (List.sublist_cons_self _ _).append_left _
    · exact List.Sublist.refl _

/-- What a directory's children have in common stands before their names. -/
theorem exists_child_eq (dir : Path) :
    ∃ front, IsFront front ∧ ∀ n, slash ∉ n → child dir n = ⟨front ++ n⟩ := by
  by_cases h : dir.components = [.here]
  · exact ⟨[], .inl rfl, fun n _ => child_of_here h n⟩
  · unfold child join
    by_cases hend : dir.bytes.isEmpty || dir.bytes.getLast? = some slash
    · refine ⟨dir.bytes, ?_, fun n hn => ?_⟩
      · rcases Bool.or_eq_true_iff.1 hend with he | he
        · exact .inl (List.isEmpty_iff.1 he)
        · exact .inr (List.getLast?_eq_some_iff.1 (of_decide_eq_true he))
      · rw [if_neg h, isAbsolute_eq_false hn, if_neg Bool.false_ne_true, if_pos hend]
    · refine ⟨dir.bytes ++ [slash], .inr ⟨_, rfl⟩, fun n hn => ?_⟩
      rw [if_neg h, isAbsolute_eq_false hn, if_neg Bool.false_ne_true, if_neg hend,
        ← List.append_cons]

theorem child_ne_nil (hdir : dir.bytes ≠ []) (hn : dir.components = [.here] → n ≠ []) :
    (child dir n).bytes ≠ [] := by
  by_cases h : dir.components = [.here]
  · rw [child_of_here h]
    exact hn h
  · rw [child_of_not_here h]
    unfold join
    split
    · next ha =>
      intro he
      have hnil : n = [] := he
      rw [hnil] at ha
      cases ha
    · split
      · simp [hdir]
      · simp

end Files

end Dialogue
