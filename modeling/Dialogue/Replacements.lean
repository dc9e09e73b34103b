/-!
# Replacements

Replacement texts keyed by the address of a string load, in ascending order of address.
`get?_insert` says what inserting does.
-/

namespace Dialogue

structure Replacements where
  entries : List (Nat × String)
  ascending : entries.Pairwise (·.1 < ·.1)
  deriving DecidableEq

namespace Replacements

def empty : Replacements := ⟨[], .nil⟩

instance : Inhabited Replacements := ⟨empty⟩

def isEmpty (m : Replacements) : Bool := m.entries.isEmpty

def keys (m : Replacements) : List Nat := m.entries.map (·.1)

def get? (m : Replacements) (address : Nat) : Option String :=
  m.entries.lookup address

/-- Put a text at an address in an ascending list, in the place of a text already there. -/
def insertEntry (address : Nat) (text : String) : List (Nat × String) → List (Nat × String)
  | [] => [(address, text)]
  | e :: es =>
    if address < e.1 then (address, text) :: e :: es
    else if address = e.1 then (address, text) :: es
    else e :: insertEntry address text es

theorem mem_insertEntry {address : Nat} {text : String} {es : List (Nat × String)}
    {e : Nat × String} (h : e ∈ insertEntry address text es) : e = (address, text) ∨ e ∈ es := by
  induction es with
  | nil => simpa [insertEntry] using h
  | cons x es ih =>
    simp only [insertEntry] at h
    split at h
    · simpa using h
    · split at h
      · rcases List.mem_cons.1 h with h | h
        · exact .inl h
        · exact .inr (List.mem_cons_of_mem _ h)
      · rcases List.mem_cons.1 h with h | h
        · exact .inr (h ▸ List.mem_cons_self)
        · exact (ih h).imp_right (List.mem_cons_of_mem _)

theorem pairwise_insertEntry {address : Nat} {text : String} {es : List (Nat × String)}
    (h : es.Pairwise (·.1 < ·.1)) : (insertEntry address text es).Pairwise (·.1 < ·.1) := by
  induction es with
  | nil => simp [insertEntry]
  | cons x es ih =>
    obtain ⟨hx, hes⟩ := List.pairwise_cons.1 h
    simp only [insertEntry]
    split
    · rename_i hlt
      refine List.pairwise_cons.2 ⟨fun e he => ?_, h⟩
      rcases List.mem_cons.1 he with rfl | he
      · exact hlt
      · exact Nat.lt_trans hlt (hx e he)
    · split
      · rename_i heq
        exact List.pairwise_cons.2 ⟨fun e he => heq ▸ hx e he, hes⟩
      · refine List.pairwise_cons.2 ⟨fun e he => ?_, ih hes⟩
        rcases mem_insertEntry he with rfl | he
        · dsimp only; omega
        · exact hx e he

def insert (m : Replacements) (address : Nat) (text : String) : Replacements :=
  ⟨insertEntry address text m.entries, pairwise_insertEntry m.ascending⟩

/-- The map of a list of pairs. Later pairs replace earlier ones of the same address. -/
def ofList (es : List (Nat × String)) : Replacements :=
  es.foldl (fun m e => m.insert e.1 e.2) empty

theorem lookup_cons_eq_ite (e : Nat × String) (es : List (Nat × String)) (a : Nat) :
    List.lookup a (e :: es) = if a = e.1 then some e.2 else List.lookup a es := by
  obtain ⟨k, t⟩ := e
  rw [List.lookup_cons]
  by_cases h : a = k
  · simp [h]
  · simp [beq_eq_false_iff_ne.2 h, h]

theorem get?_insert (m : Replacements) (address a : Nat) (text : String) :
    (m.insert address text).get? a = if a = address then some text else m.get? a := by
  obtain ⟨es, hes⟩ := m
  simp only [insert, get?]
  clear hes
  induction es with
  | nil => simp [insertEntry, lookup_cons_eq_ite]
  | cons x es ih =>
    simp only [insertEntry]
    split
    · simp only [lookup_cons_eq_ite]
    · split
      · simp only [lookup_cons_eq_ite]
        split <;> simp_all
      · rename_i hne
        simp only [lookup_cons_eq_ite, ih]
        by_cases ha : a = address
        · simp [ha, hne]
        · simp [ha]

end Replacements

end Dialogue
