import Dialogue.Proofs.Extension

/-!
# Paths in order

Paths that differ behind the last slash only are in the order of the names there (`lt_append`), so
sorting the files of one folder sorts their names (`mergeSort_map_append`).
-/

namespace Dialogue

namespace Path

/-- A part that is a component of its own, wherever it stands. -/
def IsProper (n : Bytes) : Prop := slash ∉ n ∧ n ≠ [] ∧ n ≠ [dot] ∧ n ≠ [dot, dot]

variable {front n a b : Bytes} {ns : List Bytes}

theorem Component.lt_self (c : Component) : c.lt c = false := by
  cases c with
  | root => rfl
  | here => rfl
  | up => rfl
  | name bytes => exact decide_eq_false (List.lt_irrefl bytes)

theorem component?_of_isProper (h : IsProper n) (leading : Bool) :
    component? leading n = some (.name n) := by
  obtain ⟨-, hne, hdot, hup⟩ := h
  unfold component?
  rw [if_neg (by simpa using hne), if_neg hdot, if_neg hup]

theorem componentsOf_append (h : IsProper n) (leading : Bool) (init : List Bytes) :
    componentsOf leading (init ++ [n]) = componentsOf leading init ++ [some (.name n)] := by
  induction init generalizing leading with
  | nil =>
    rw [List.nil_append, componentsOf, componentsOf, componentsOf, component?_of_isProper h]
    rfl
  | cons x init ih => rw [List.cons_append, componentsOf, ih, componentsOf, List.cons_append]

theorem components_append (hf : IsFront front) : ∃ cs, ∀ n, IsProper n →
    (Path.mk (front ++ n)).components = cs ++ [.name n] := by
  obtain ⟨absolute, init, h⟩ := exists_parts_append hf
  refine ⟨(if absolute then [.root] else []) ++ (componentsOf (!absolute) init).filterMap id,
    fun n hn => ?_⟩
  obtain ⟨habs, hparts⟩ := h n hn.1
  unfold components
  rw [habs, hparts, componentsOf_append hn, List.filterMap_append, List.append_assoc]
  rfl

theorem lt_go_append (cs : List Component) :
    lt.go (cs ++ [.name a]) (cs ++ [.name b]) = decide (a < b) := by
  induction cs with
  | nil => simp [lt.go, Component.lt]
  | cons c cs ih =>
    rw [List.cons_append, List.cons_append, lt.go, Component.lt_self, ih]
    simp

/-- Behind one front, names decide. -/
theorem lt_append (hf : IsFront front) (ha : IsProper a) (hb : IsProper b) :
    (Path.mk (front ++ a)).lt (Path.mk (front ++ b)) = decide (a < b) := by
  obtain ⟨cs, h⟩ := components_append hf
  unfold lt
  rw [h a ha, h b hb, lt_go_append]

/-! ## Sorting -/

theorem mergeSort_map_append (hf : IsFront front) (hns : ∀ n ∈ ns, IsProper n) :
    (ns.map fun n => Path.mk (front ++ n)).mergeSort (fun p q => !q.lt p) =
      (ns.mergeSort fun a b => !decide (b < a)).map fun n => Path.mk (front ++ n) := by
  refine (List.map_mergeSort fun a ha b hb => ?_).symm
  rw [lt_append hf (hns b hb) (hns a ha)]

theorem pairwise_mergeSort (h : ns.Nodup) :
    (ns.mergeSort fun a b => !decide (b < a)).Pairwise (· < ·) := by
  have hle (a b : Bytes) : (!decide (b < a)) = true ↔ a ≤ b := by
    rw [Bool.not_eq_true', decide_eq_false_iff_not, List.not_lt]
  have hsorted : (ns.mergeSort fun a b => !decide (b < a)).Pairwise
      fun a b => (!decide (b < a)) = true := by
    refine List.pairwise_mergeSort (fun a b c hab hbc => ?_) (fun a b => ?_) ns
    · rw [hle] at hab hbc ⊢
      exact List.le_trans hab hbc
    · rw [Bool.or_eq_true, hle, hle]
      exact List.le_total a b
  have hnodup : (ns.mergeSort fun a b => !decide (b < a)).Nodup :=
    (List.mergeSort_perm ns _).nodup_iff.2 h
  refine hsorted.imp₂ (fun a b hab hne => ?_) hnodup
  have htri : a < b ∨ a = b ∨ b < a := Std.Trichotomous.rel_or_eq_or_rel_swap
  rcases htri with h | h | h
  · exact h
  · exact absurd h hne
  · simp [h] at hab

end Path

end Dialogue
