import Dialogue.Proofs.Walk

/-!
# Directories that were made

`fs.Changes Q ls fs'`: files were written at the locations `ls`, and a directory that was not there
before is one that a path of `Q` leads to. Changes come one after the other (`Changes.trans`), since
a path that leads to a directory leads there afterwards (`Extends.resolve_dir`). Making a directory
with those above it that are missing tries paths above what lies in it only
(`above_of_mem_ancestors`).
-/

namespace Dialogue

/-! ## Paths above a path -/

/-- The path is the parent of the other one, or the parent of its parent, and so on. -/
def Path.Above (p q : Path) : Prop := Relation.TransGen (fun r r' => r'.parent = some r) p q

namespace Files

variable {p q dir : Path}

theorem above_of_mem_go {fuel : Nat} (hq : q.parent = some dir)
    (hp : p ∈ ancestors.go fuel dir) : p.Above q := by
  induction fuel generalizing q dir with
  | zero => exact absurd hp List.not_mem_nil
  | succ fuel ih =>
    rw [ancestors.go, List.mem_cons] at hp
    rcases hp with rfl | hp
    · exact .single hq
    · cases hd : dir.parent with
      | none =>
        rw [hd] at hp
        exact absurd hp List.not_mem_nil
      | some up =>
        rw [hd] at hp
        exact .tail (ih hd hp) hq

theorem above_of_mem_ancestors (hq : q.parent = some dir) (hp : p ∈ ancestors dir) : p.Above q :=
  above_of_mem_go hq hp

end Files

namespace FileSystem

/-- Files were written at some locations, and directories made where nothing was, at paths of
`Q`. -/
structure Changes (Q : Path → Prop) (ls : List Location) (fs fs' : FileSystem) : Prop extends
    Extends ls fs fs' where
  made : ∀ l : Location, fs.node? l = none → fs'.node? l = some .dir →
    ∃ p, Q p ∧ fs'.resolve p = .ok (l, .dir)

section
variable {Q Q' : Path → Prop} {ls ls' : List Location} {fs fs' fs'' : FileSystem} {p : Path}
  {l : Location} {c : Bytes}

theorem Extends.resolve_dir (h : Extends ls fs fs') (hr : fs.resolve p = .ok (l, .dir)) :
    fs'.resolve p = .ok (l, .dir) := by
  obtain ⟨hf, hw, hd⟩ := resolve_dir_iff.1 hr
  exact resolve_dir_iff.2 ⟨hf, h.start_eq p ▸ h.walk_ok hw, h.dir hd⟩

theorem Changes.refl (fs : FileSystem) : Changes Q [] fs fs where
  toExtends := .refl fs
  made l hn hd := by
    rw [hn] at hd
    cases hd

theorem Changes.mono (h : Changes Q ls fs fs') (hQ : ∀ p, Q p → Q' p) : Changes Q' ls fs fs' where
  toExtends := h.toExtends
  made l hn hd := by
    obtain ⟨p, hp, hr⟩ := h.made l hn hd
    exact ⟨p, hQ p hp, hr⟩

theorem Changes.trans (h : Changes Q ls fs fs') (h' : Changes Q ls' fs' fs'') :
    Changes Q (ls ++ ls') fs fs'' where
  toExtends := h.toExtends.trans h'.toExtends
  made l hn hd := by
    cases hm : fs'.node? l with
    | none => exact h'.made l hm hd
    | some n =>
      cases n with
      | dir =>
        obtain ⟨p, hp, hr⟩ := h.made l hn hm
        exact ⟨p, hp, h'.resolve_dir hr⟩
      | file c =>
        obtain ⟨c', hc', -⟩ := h'.file hm
        rw [hd] at hc'
        cases hc'

theorem Changes.of_makeDir (h : fs.makeDir p = .ok fs') : Changes (· = p) [] fs fs' := by
  have hext := Extends.of_makeDir h
  unfold makeDir at h
  split at h
  · cases h
  · cases h
  · next d name hp =>
    split at h
    · cases h
    · cases h
      refine ⟨hext, fun l hn hd => ⟨p, rfl, ?_⟩⟩
      by_cases hl : l = d ++ [name]
      · subst hl
        have hw := walk_filter (hext.walk_place hp hd)
        rw [← moves_eq_filter_steps] at hw
        exact resolve_dir_iff.2 ⟨(place_ok_iff.1 hp).1, hw, hd⟩
      · rw [node?_put (by simp), if_neg hl, hn] at hd
        cases hd

theorem exists_changes_of_write (h : fs.write p c = .ok fs') :
    ∃ l, Changes Q [l] fs fs' ∧ fs'.fileAt? p = some l ∧ fs'.read p = .ok c := by
  obtain ⟨l, hext, ha, hread⟩ := exists_extends_of_write h
  refine ⟨l, ⟨hext, fun l' hn hd => ?_⟩, ha, hread⟩
  rw [dir_of_write h hd] at hn
  cases hn

/-- Where nothing was written, what was there is there, or a directory was made. -/
theorem Changes.kept_or_made (h : Changes Q ls fs fs') (hl : l ∉ ls) :
    fs'.node? l = fs.node? l ∨
      (fs.node? l = none ∧ ∃ p, Q p ∧ fs'.resolve p = .ok (l, .dir)) := by
  rcases h.kept l hl with he | ⟨hn, hd⟩
  · exact .inl he
  · exact .inr ⟨hn, h.made l hn hd⟩

end

end FileSystem

end Dialogue
