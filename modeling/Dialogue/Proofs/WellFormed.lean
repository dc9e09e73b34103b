import Dialogue.Proofs.Walk

/-!
# Well-formed file systems

In a file system that some host could have, the entries ascend, every name could be given, and every
entry lies in a directory. Operations keep that (`WellFormed.of_write`, `WellFormed.of_makeDir`).
The names in a directory are then those of the nodes in it, each once (`mem_namesAt_iff`,
`nodup_namesAt`).
-/

namespace Dialogue

namespace FileSystem

/-- A name that an entry of a directory can have. -/
structure IsName (n : Name) : Prop where
  ne_nil : n ≠ []
  ne_here : n ≠ here
  ne_up : n ≠ up
  not_slash : Path.slash ∉ n
  not_zero : 0 ∉ n
  length_le : n.length ≤ maxName

theorem IsName.isMove {n : Name} (h : IsName n) : Path.isMove n := by
  simpa [Path.isMove, here] using And.intro h.ne_nil h.ne_here

instance (n : Name) : Decidable (IsName n) :=
  decidable_of_iff (n ≠ [] ∧ n ≠ here ∧ n ≠ up ∧ Path.slash ∉ n ∧ 0 ∉ n ∧ n.length ≤ maxName)
    ⟨fun ⟨h₁, h₂, h₃, h₄, h₅, h₆⟩ => ⟨h₁, h₂, h₃, h₄, h₅, h₆⟩,
      fun ⟨h₁, h₂, h₃, h₄, h₅, h₆⟩ => ⟨h₁, h₂, h₃, h₄, h₅, h₆⟩⟩

structure WellFormed (fs : FileSystem) : Prop where
  ascending : fs.entries.Pairwise fun e e' => e.1 < e'.1
  ne_root : ∀ e ∈ fs.entries, e.1 ≠ []
  isName : ∀ e ∈ fs.entries, ∀ n ∈ e.1, IsName n
  parent : ∀ e ∈ fs.entries, fs.node? e.1.dropLast = some .dir
  workDir : fs.node? fs.workDir = some .dir

instance (fs : FileSystem) : Decidable fs.WellFormed :=
  decidable_of_iff (fs.entries.Pairwise (fun e e' => e.1 < e'.1) ∧ (∀ e ∈ fs.entries, e.1 ≠ []) ∧
      (∀ e ∈ fs.entries, ∀ n ∈ e.1, IsName n) ∧
      (∀ e ∈ fs.entries, fs.node? e.1.dropLast = some .dir) ∧ fs.node? fs.workDir = some .dir)
    ⟨fun ⟨h₁, h₂, h₃, h₄, h₅⟩ => ⟨h₁, h₂, h₃, h₄, h₅⟩,
      fun ⟨h₁, h₂, h₃, h₄, h₅⟩ => ⟨h₁, h₂, h₃, h₄, h₅⟩⟩

section
variable {fs fs' : FileSystem} {l : Location} {n : Node} {p : Path} {name : Name} {c : Bytes}

/-! ## Entries -/

theorem mem_putEntry {es : List (Location × Node)} {e : Location × Node}
    (h : e ∈ putEntry l n es) : e = (l, n) ∨ e ∈ es := by
  induction es with
  | nil => exact .inl (List.mem_singleton.1 h)
  | cons e' es ih =>
    unfold putEntry at h
    split at h
    · rcases List.mem_cons.1 h with rfl | h
      · exact .inl rfl
      · exact .inr (List.mem_cons_of_mem _ h)
    · split at h
      · rcases List.mem_cons.1 h with rfl | h
        · exact .inl rfl
        · exact .inr h
      · rcases List.mem_cons.1 h with rfl | h
        · exact .inr List.mem_cons_self
        · rcases ih h with rfl | h
          · exact .inl rfl
          · exact .inr (List.mem_cons_of_mem _ h)

theorem pairwise_putEntry {es : List (Location × Node)}
    (h : es.Pairwise fun e e' => e.1 < e'.1) :
    (putEntry l n es).Pairwise fun e e' => e.1 < e'.1 := by
  induction es with
  | nil => exact List.pairwise_singleton _ _
  | cons e es ih =>
    obtain ⟨hfirst, hrest⟩ := List.pairwise_cons.1 h
    unfold putEntry
    split
    · next he =>
      subst he
      exact List.pairwise_cons.2 ⟨hfirst, hrest⟩
    · next hne =>
      split
      · next hlt =>
        refine List.pairwise_cons.2 ⟨fun e' he' => ?_, h⟩
        rcases List.mem_cons.1 he' with rfl | he'
        · exact hlt
        · exact List.lt_trans hlt (hfirst e' he')
      · next hge =>
        have hlt : e.1 < l := by
          have htri : l < e.1 ∨ l = e.1 ∨ e.1 < l :=
            Std.Trichotomous.rel_or_eq_or_rel_swap
          rcases htri with h | h | h
          · exact absurd h hge
          · exact absurd h hne
          · exact h
        refine List.pairwise_cons.2 ⟨fun e' he' => ?_, ih hrest⟩
        rcases mem_putEntry he' with rfl | he'
        · exact hlt
        · exact hfirst e' he'

theorem lookup_of_mem {es : List (Location × Node)} (h : es.Pairwise fun e e' => e.1 < e'.1)
    (hm : (l, n) ∈ es) : es.lookup l = some n := by
  induction es with
  | nil => cases hm
  | cons e es ih =>
    obtain ⟨hfirst, hrest⟩ := List.pairwise_cons.1 h
    rcases List.mem_cons.1 hm with rfl | hm
    · simp
    · have hne : l ≠ e.1 := by
        rintro rfl
        have hlt := hfirst _ hm
        exact List.lt_irrefl _ hlt
      rw [List.lookup_cons, beq_false_of_ne hne]
      exact ih hrest hm

theorem mem_of_lookup {es : List (Location × Node)} (h : es.lookup l = some n) :
    (l, n) ∈ es := by
  induction es with
  | nil => cases h
  | cons e es ih =>
    rw [List.lookup_cons] at h
    split at h
    · next he =>
      cases h
      rw [eq_of_beq he]
      exact List.mem_cons_self
    · exact List.mem_cons_of_mem _ (ih h)

theorem WellFormed.mem_iff (h : fs.WellFormed) (hl : l ≠ []) :
    (l, n) ∈ fs.entries ↔ fs.node? l = some n := by
  unfold node?
  rw [if_neg (by simpa using hl)]
  exact ⟨lookup_of_mem h.ascending, mem_of_lookup⟩

/-! ## Names in a directory -/

/-- The names in a directory, in the order of the entries. -/
def namesAt (fs : FileSystem) (l : Location) : List Name :=
  fs.entries.filterMap fun e => nameIn? l e.1

theorem names_eq (h : fs.resolve p = .ok (l, .dir)) : fs.names p = .ok (fs.namesAt l) := by
  unfold names namesAt
  rw [h]

theorem nameIn?_eq_some_iff {l' : Location} : nameIn? l l' = some name ↔ l' = l ++ [name] := by
  unfold nameIn?
  constructor
  · intro h
    split at h
    · split at h
      · next he =>
        cases h
        exact he
      · cases h
    · cases h
  · rintro rfl
    simp

theorem WellFormed.mem_namesAt_iff (h : fs.WellFormed) :
    name ∈ fs.namesAt l ↔ ∃ n, fs.node? (l ++ [name]) = some n := by
  unfold namesAt
  rw [List.mem_filterMap]
  constructor
  · rintro ⟨⟨l', n⟩, hm, hn⟩
    obtain rfl : l' = l ++ [name] := nameIn?_eq_some_iff.1 hn
    exact ⟨n, (h.mem_iff (by simp)).1 hm⟩
  · rintro ⟨n, hn⟩
    exact ⟨(l ++ [name], n), (h.mem_iff (by simp)).2 hn, nameIn?_eq_some_iff.2 rfl⟩

theorem WellFormed.nodup_namesAt (h : fs.WellFormed) (l : Location) : (fs.namesAt l).Nodup := by
  refine List.Pairwise.filterMap _ (fun e e' hlt b hb b' hb' => ?_) h.ascending
  rw [nameIn?_eq_some_iff] at hb hb'
  rintro rfl
  rw [hb, hb'] at hlt
  exact List.lt_irrefl _ hlt

theorem WellFormed.isName_of_node (h : fs.WellFormed) (hn : fs.node? (l ++ [name]) = some n) :
    IsName name :=
  h.isName _ ((h.mem_iff (by simp)).2 hn) name (by simp)

/-! ## Operations -/

/-- A node is put into a directory, and not in the place of another directory unless it is one. -/
theorem WellFormed.put (h : fs.WellFormed) (hname : IsName name) (hl : fs.node? l = some .dir)
    (hdir : fs.node? (l ++ [name]) = some .dir → n = .dir) (hloc : ∀ x ∈ l, IsName x) :
    (fs.put (l ++ [name]) n).WellFormed where
  ascending := pairwise_putEntry h.ascending
  ne_root e he := by
    rcases mem_putEntry he with rfl | he
    · simp
    · exact h.ne_root e he
  isName e he x hx := by
    rcases mem_putEntry he with rfl | he
    · rcases List.mem_append.1 hx with hx | hx
      · exact hloc x hx
      · rw [List.mem_singleton.1 hx]
        exact hname
    · exact h.isName e he x hx
  parent e he := by
    have hstays {l' : Location} (hl' : fs.node? l' = some .dir) :
        (fs.put (l ++ [name]) n).node? l' = some .dir := by
      rw [node?_put (by simp)]
      split
      · next heq =>
        rw [hdir (heq ▸ hl')]
      · exact hl'
    rcases mem_putEntry he with rfl | he
    · rw [List.dropLast_concat]
      exact hstays hl
    · exact hstays (h.parent e he)
  workDir := by
    have hw : fs.node? (fs.put (l ++ [name]) n).workDir = some .dir := h.workDir
    rw [node?_put (by simp)]
    split
    · next heq =>
      rw [hdir (heq ▸ hw)]
    · exact hw

/-- A directory has names that could be given. -/
theorem WellFormed.isName_of_dir (h : fs.WellFormed) (hl : fs.node? l = some n) :
    ∀ x ∈ l, IsName x := by
  intro x hx
  have hne : l ≠ [] := List.ne_nil_of_mem hx
  exact h.isName _ ((h.mem_iff hne).2 hl) x hx

theorem mem_of_mem_steps {b : UInt8} (hn : name ∈ steps p) (hb : b ∈ name) : b ∈ p.bytes := by
  have hparts : name ∈ p.parts := (List.mem_filter.1 hn).1
  unfold Path.parts at hparts
  split at hparts
  · exact List.mem_of_mem_drop (mem_of_mem_splitOn hparts hb)
  · exact mem_of_mem_splitOn hparts hb

/-- A path names something new with a name that could be given. -/
theorem isName_of_place (h : fs.place p = .ok (l, some name)) : IsName name := by
  obtain ⟨hf, ⟨init, hs, -⟩, -, hh, hu, hm⟩ := place_ok_iff.1 h
  have hmem : name ∈ steps p := by simp [hs]
  obtain ⟨hparts, hne⟩ := List.mem_filter.1 hmem
  have hzero : 0 ∉ name := fun hz => (fault?_eq_none_iff.1 hf).1 (mem_of_mem_steps hmem hz)
  exact ⟨by simpa using hne, hh, hu, Path.not_slash_mem_of_mem_parts hparts, hzero, hm⟩

theorem WellFormed.of_write (h : fs.WellFormed) (hw : fs.write p c = .ok fs') :
    fs'.WellFormed := by
  unfold write at hw
  split at hw
  · cases hw
  · cases hw
  · next l name hp =>
    split at hw
    · cases hw
    · next hno =>
      cases hw
      have hd := (place_ok_iff.1 hp).2.2.1
      rw [not_or] at hno
      exact h.put (isName_of_place hp) hd (fun hdir => absurd hdir hno.2) (h.isName_of_dir hd)

theorem WellFormed.of_makeDir (h : fs.WellFormed) (hw : fs.makeDir p = .ok fs') :
    fs'.WellFormed := by
  unfold makeDir at hw
  split at hw
  · cases hw
  · cases hw
  · next l name hp =>
    split at hw
    · cases hw
    · cases hw
      have hd := (place_ok_iff.1 hp).2.2.1
      exact h.put (isName_of_place hp) hd (fun _ => rfl) (h.isName_of_dir hd)

end

end FileSystem

end Dialogue
