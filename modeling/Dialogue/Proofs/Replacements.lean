import Dialogue.Replacements

/-!
# Keys and texts of a map

An address is a key exactly if a text is found there (`mem_keys_iff`), and the keys ascend.
After texts are put in one after the other (`insertAll`), the last one given for an address is
found there (`get?_insertAll_last`).
-/

namespace Dialogue.Replacements

theorem exists_get?_of_mem_keys {m : Replacements} {address : Nat} (h : address ∈ m.keys) :
    ∃ text, m.get? address = some text := by
  obtain ⟨es, hes⟩ := m
  simp only [keys, get?] at h ⊢
  clear hes
  induction es with
  | nil => simp at h
  | cons e es ih =>
    rw [lookup_cons_eq_ite]
    by_cases he : address = e.1
    · exact ⟨e.2, if_pos he⟩
    · rw [if_neg he]
      rw [List.map_cons, List.mem_cons] at h
      exact ih (h.resolve_left he)

theorem get?_of_isEmpty {m : Replacements} (h : m.isEmpty = true) (address : Nat) :
    m.get? address = none := by
  obtain ⟨es, hes⟩ := m
  cases es with
  | nil => rfl
  | cons e es => cases h

theorem isEmpty_eq_false_of_get? {m : Replacements} {address : Nat} {text : String}
    (h : m.get? address = some text) : m.isEmpty = false := by
  obtain ⟨es, hes⟩ := m
  cases es with
  | nil => cases h
  | cons e es => rfl

theorem lookup_eq_none {es : List (Nat × String)} {address : Nat}
    (h : ∀ e ∈ es, e.1 ≠ address) : es.lookup address = none :=
  List.lookup_eq_none_iff.2 fun e he => bne_iff_ne.2 (h e he).symm

theorem mem_keys_of_get? {m : Replacements} {address : Nat} {text : String}
    (h : m.get? address = some text) : address ∈ m.keys := by
  refine Classical.byContradiction fun hn => ?_
  have hnone : m.get? address = none :=
    lookup_eq_none fun e he ha => hn (ha ▸ List.mem_map_of_mem he)
  rw [hnone] at h
  cases h

theorem mem_keys_iff {m : Replacements} {address : Nat} :
    address ∈ m.keys ↔ ∃ text, m.get? address = some text := by
  constructor
  · exact exists_get?_of_mem_keys
  · rintro ⟨text, h⟩
    exact mem_keys_of_get? h

theorem pairwise_keys (m : Replacements) : m.keys.Pairwise (· < ·) :=
  List.pairwise_map.2 m.ascending

/-! ## Texts put in one after the other -/

/-- Put some texts into the map, one after the other. -/
def insertAll (m : Replacements) (es : List (Nat × String)) : Replacements :=
  es.foldl (fun m e => m.insert e.1 e.2) m

/-- What is found is the last text given for the address, or what was there before. -/
theorem get?_insertAll_last (m : Replacements) (es : List (Nat × String)) (address : Nat) :
    (m.insertAll es).get? address = (es.reverse.lookup address).or (m.get? address) := by
  induction es generalizing m with
  | nil => rfl
  | cons e es ih =>
    have hi : (m.insertAll (e :: es)).get? address = _ := ih (m.insert e.1 e.2)
    rw [hi, get?_insert, List.reverse_cons, List.lookup_append, lookup_cons_eq_ite]
    cases es.reverse.lookup address with
    | some t => rfl
    | none =>
      by_cases ha : address = e.1
      · rw [if_pos ha, if_pos ha]
        rfl
      · rw [if_neg ha, if_neg ha]
        rfl

end Dialogue.Replacements
