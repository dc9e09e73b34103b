import Dialogue.Proofs.Path

/-!
# The last name of a path

What stands behind the last slash of a path is its last part, and the parts before do not depend on
it (`exists_parts_append`). A path keeps all of it but that part when its extension is replaced
(`withExtension_append`), so the text of a script is in the folder of the script.
-/

namespace Dialogue

namespace Path

/-! ## Behind the last slash -/

/-- The bytes of a path up to its last slash, or none if it has no slash. -/
def IsFront (front : Bytes) : Prop := front = [] ∨ ∃ f, front = f ++ [slash]

theorem exists_front (bs : Bytes) : ∃ front n, bs = front ++ n ∧ IsFront front ∧ slash ∉ n := by
  by_cases h : slash ∈ bs.reverse
  · obtain ⟨n, f, hbs, hn⟩ := List.eq_append_cons_of_mem h
    have hrev : bs = (n ++ slash :: f).reverse := by rw [← hbs, List.reverse_reverse]
    exact ⟨f.reverse ++ [slash], n.reverse, by simp [hrev], .inr ⟨_, rfl⟩, by simpa using hn⟩
  · exact ⟨[], bs, rfl, .inl rfl, by simpa using h⟩

section
variable {front n : Bytes}

/-- What stands behind the last slash is the last part, and the other parts do not depend on it. -/
theorem exists_parts_append (hf : IsFront front) : ∃ absolute init, ∀ n, slash ∉ n →
    (Path.mk (front ++ n)).isAbsolute = absolute ∧ (Path.mk (front ++ n)).parts = init ++ [n] := by
  rcases hf with rfl | ⟨_ | ⟨b, f⟩, rfl⟩
  · refine ⟨false, [], fun n hn => ⟨isAbsolute_eq_false hn, ?_⟩⟩
    unfold parts
    rw [List.nil_append, isAbsolute_eq_false hn, if_neg Bool.false_ne_true,
      List.splitOn_eq_singleton hn, List.nil_append]
  · refine ⟨true, [], fun n hn => ⟨rfl, ?_⟩⟩
    exact List.splitOn_eq_singleton hn
  · by_cases hb : b = slash
    · subst hb
      refine ⟨true, f.splitOn slash, fun n hn => ⟨rfl, ?_⟩⟩
      have hparts : (Path.mk (slash :: f ++ [slash] ++ n)).parts =
          (f ++ slash :: n).splitOn slash := by
        rw [← List.append_cons]
        rfl
      rw [hparts, List.splitOn_append_cons_self, List.splitOn_eq_singleton hn]
    · have habs (n : Bytes) : (Path.mk (b :: f ++ [slash] ++ n)).isAbsolute = false := by
        simp [isAbsolute, hb]
      refine ⟨false, (b :: f).splitOn slash, fun n hn => ⟨habs n, ?_⟩⟩
      unfold parts
      rw [habs, if_neg Bool.false_ne_true]
      dsimp only
      rw [← List.append_cons, List.splitOn_append_cons_self, List.splitOn_eq_singleton hn]

theorem ofParts_parts (p : Path) : ofParts p.isAbsolute p.parts = p := by
  have hjoin (bs : Bytes) : ((bs.splitOn slash).intersperse [slash]).flatten = bs :=
    List.intercalate_splitOn slash
  unfold ofParts parts
  split
  · next h =>
    obtain ⟨bs, hbs⟩ := List.head?_eq_some_iff.1 (of_decide_eq_true h)
    rw [hjoin, hbs]
    obtain ⟨_⟩ := p
    subst hbs
    rfl
  · rw [hjoin]
    rfl

theorem splitLast_append (hf : IsFront front) (hn : slash ∉ n) (hm : isMove n) : ∃ b c,
    (Path.mk (front ++ n)).splitLast = some ((Path.mk (front ++ n)).parts, c) ∧
      component? b n = some c := by
  obtain ⟨_, init, hparts⟩ := exists_parts_append hf
  have hp := (hparts n hn).2
  obtain ⟨-, hnil⟩ | ⟨init', part, trail, b, c, hs, hp', hc, htrail⟩ :=
    splitLast_cases (Path.mk (front ++ n))
  · rw [moves, hp, List.filter_append, List.filter_cons_of_pos hm] at hnil
    simp at hnil
  · rcases List.eq_nil_or_concat trail with rfl | ⟨trail', x, rfl⟩
    · obtain ⟨-, hlast⟩ := List.append_inj' (hp.symm.trans hp') rfl
      cases hlast
      exact ⟨b, c, by rw [hs, hp'], hc⟩
    · -- Then the last part is among those behind the last component, which are no moves.
      rw [hp', List.concat_eq_append, ← List.cons_append, ← List.append_assoc] at hp
      obtain ⟨-, hlast⟩ := List.append_inj' hp rfl
      cases hlast
      rw [htrail n (by simp)] at hm
      cases hm

theorem fileName_append (hf : IsFront front) (hn : slash ∉ n) (hm : isMove n) :
    (Path.mk (front ++ n)).fileName = if n = [dot, dot] then none else some n := by
  obtain ⟨b, c, hs, hc⟩ := splitLast_append hf hn hm
  have hne : n.isEmpty = false ∧ n ≠ [dot] := by simpa [isMove] using hm
  unfold fileName
  rw [hs]
  unfold component? at hc
  rw [hne.1, if_neg Bool.false_ne_true, if_neg hne.2] at hc
  split at hc
  · next h =>
    cases hc
    rw [if_pos h]
  · next h =>
    cases hc
    rw [if_neg h]

theorem upToName_append (hf : IsFront front) (hn : slash ∉ n) (hm : isMove n) :
    (Path.mk (front ++ n)).upToName = Path.mk (front ++ n) := by
  obtain ⟨b, c, hs, -⟩ := splitLast_append hf hn hm
  unfold upToName
  rw [hs]
  exact ofParts_parts _

end

/-! ## Extensions -/

theorem splitName_cases (name : Bytes) : splitName name = (name, none) ∨
    ∃ stem ext, splitName name = (stem, some ext) ∧ name = stem ++ dot :: ext ∧ stem ≠ [] := by
  unfold splitName
  dsimp only
  have hrev := List.takeWhile_append_dropWhile (p := (· ≠ dot)) (l := name.reverse)
  have hhead := List.head?_dropWhile_not (· ≠ dot) name.reverse
  generalize name.reverse.takeWhile (· ≠ dot) = after at hrev ⊢
  generalize name.reverse.dropWhile (· ≠ dot) = back at hrev hhead ⊢
  have hname : name = (after ++ back).reverse := by rw [hrev, List.reverse_reverse]
  split
  · exact .inl rfl
  · next h =>
    rw [Bool.or_eq_true_iff, not_or] at h
    cases back with
    | nil => exact absurd h.2 (by simp)
    | cons b before =>
      have hb : b = dot := by simpa using hhead
      refine .inr ⟨_, _, rfl, ?_, by simpa using h.2⟩
      rw [hname, hb]
      simp

theorem splitName_append_dot {stem : Bytes} (h : stem ≠ []) :
    splitName (stem ++ [dot]) = (stem, some []) := by
  unfold splitName
  simp [h]

theorem exists_of_extended {front n ext : Bytes} {out : Path} (hne : n ≠ []) (hn : slash ∉ n)
    (he : slash ∉ ext)
    (h : Path.mk (if ext.isEmpty then front ++ n else front ++ n ++ dot :: ext) = out) :
    ∃ m, m ≠ [] ∧ slash ∉ m ∧ out = Path.mk (front ++ m) := by
  subst h
  split
  · exact ⟨n, hne, hn, rfl⟩
  · refine ⟨n ++ dot :: ext, by simp, ?_, by rw [List.append_assoc]⟩
    rw [List.mem_append, List.mem_cons]
    rintro (hs | hs | hs)
    · exact hn hs
    · exact absurd hs (by decide)
    · exact he hs

/-- A path with another extension differs behind its last slash only. -/
theorem withExtension_append {front n ext : Bytes} {out : Path} (hf : IsFront front)
    (hn : slash ∉ n) (hm : isMove n) (h : (Path.mk (front ++ n)).withExtension ext = some out) :
    ∃ m, m ≠ [] ∧ slash ∉ m ∧ out = Path.mk (front ++ m) := by
  unfold withExtension at h
  split at h
  · cases h
  · next hext =>
    have hne : n ≠ [] := by
      rintro rfl
      cases hm
    dsimp only [extension] at h
    rw [fileName_append hf hn hm] at h
    by_cases hup : n = [dot, dot]
    · rw [if_pos hup, Option.bind_none, Option.getD_none, List.length_nil, Nat.sub_zero,
        List.take_length, fileName_append hf hn hm, if_pos hup] at h
      cases h
      exact ⟨n, hne, hn, rfl⟩
    · rw [if_neg hup, Option.bind_some] at h
      obtain hs | ⟨stem, old, hs, rfl, hstem⟩ := splitName_cases n
      · rw [hs, Option.getD_none, List.length_nil, Nat.sub_zero, List.take_length,
          fileName_append hf hn hm, if_neg hup] at h
        dsimp only at h
        rw [hs, upToName_append hf hn hm, Nat.sub_self, Nat.sub_zero, List.take_length] at h
        exact exists_of_extended hne hn hext (Option.some.inj h)
      · have hcut : (front ++ (stem ++ dot :: old)).take
            ((front ++ (stem ++ dot :: old)).length - old.length) = front ++ (stem ++ [dot]) := by
          rw [List.append_cons stem, ← List.append_assoc front, List.length_append,
            Nat.add_sub_cancel, List.take_left]
        have hns : slash ∉ stem ++ [dot] := fun hmem =>
          hn (by rw [List.append_cons]; exact List.mem_append_left _ hmem)
        have hms : isMove (stem ++ [dot]) := by simp [isMove, hstem]
        rw [hs, Option.getD_some, hcut, fileName_append hf hns hms] at h
        split at h
        · cases h
          exact ⟨stem ++ [dot], by simp, hns, rfl⟩
        · next name hname =>
          split at hname
          · cases hname
          · cases hname
            rw [splitName_append_dot hstem, upToName_append hf hns hms] at h
            have hbase : (front ++ (stem ++ [dot])).take ((front ++ (stem ++ [dot])).length -
                ((stem ++ [dot]).length - stem.length)) = front ++ stem := by
              have hlen : (front ++ (stem ++ [dot])).length - ((stem ++ [dot]).length - stem.length) =
                  (front ++ stem).length := by
                simp only [List.length_append, List.length_singleton]
                omega
              rw [hlen, ← List.append_assoc, List.take_left]
            dsimp only at h
            rw [hbase] at h
            exact exists_of_extended hstem (fun hmem => hns (List.mem_append_left _ hmem)) hext
              (Option.some.inj h)

end Path

end Dialogue
