import Dialogue.Files.Pattern
import Dialogue.Proofs.Path
import Dialogue.Proofs.Utf8

/-!
# What segments match

Segments are compared by bytes, with upper-case letters folded. On names that are text this is a
comparison of characters: a name ends like a dot and an extension exactly if it has the extension
(`ending_matches_iff`).
-/

namespace Dialogue

open Charset.Utf8

/-- The parts of a path that is text are text. -/
theorem Path.isSome_toText?_of_mem_splitOn (cs : List Char) {part : Bytes}
    (h : part ∈ (cs.flatMap code).splitOn Path.slash) : part.toText?.isSome := by
  by_cases hs : Path.slash ∈ cs.flatMap code
  · obtain ⟨x, y, hxy, hx⟩ := List.eq_append_cons_of_mem hs
    obtain ⟨xs, c, ys, hcs, -, rfl, rfl⟩ := exists_cut (by decide) hxy
    have hshorter : ys.length < cs.length := by
      rw [hcs, List.length_append, List.length_cons]
      omega
    rw [hxy, List.splitOn_append_cons_self, List.splitOn_eq_singleton hx] at h
    rcases List.mem_cons.1 h with rfl | h
    · exact Bytes.isSome_toText?_flatMap xs
    · exact isSome_toText?_of_mem_splitOn ys h
  · rw [List.splitOn_eq_singleton hs, List.mem_singleton] at h
    rw [h]
    exact Bytes.isSome_toText?_flatMap cs
  termination_by cs.length

theorem Path.isSome_toText?_of_mem_parts {p : Path} {part : Bytes} (hp : p.toText?.isSome)
    (h : part ∈ p.parts) : part.toText?.isSome := by
  obtain ⟨s, hs⟩ := Bytes.isSome_toText?_iff.1 hp
  unfold parts at h
  split at h
  · next ha =>
    -- The root is a slash, so the rest is a text, too.
    obtain ⟨bs, hbs⟩ := List.head?_eq_some_iff.1 (of_decide_eq_true ha)
    obtain ⟨xs, c, ys, -, -, -, hys⟩ :=
      exists_cut (b := slash) (x := []) (by decide) (hs.symm.trans hbs)
    rw [hbs, List.drop_succ_cons, List.drop_zero, ← hys] at h
    exact isSome_toText?_of_mem_splitOn ys h
  · rw [hs] at h
    exact isSome_toText?_of_mem_splitOn s.toList h

namespace Files

/-- The name is text that ends in a dot and the extension, up to the case of ASCII letters. -/
def HasExtension (name : Bytes) (extension : String) : Prop :=
  ∃ stem tail : String, name = Bytes.ofText (stem ++ "." ++ tail) ∧
    tail.toLower = extension.toLower

namespace Segment

/-! ## Letter case -/

theorem fold_of_le {b : UInt8} (h : 0x80 ≤ b.toNat) : fold b = b := by
  unfold fold
  rw [if_neg]
  rw [UInt8.le_iff_toNat_le, UInt8.le_iff_toNat_le]
  rintro ⟨-, hle⟩
  exact absurd (Nat.le_trans h hle) (by decide)

theorem fold_eq_dot_iff {b : UInt8} : fold b = Path.dot ↔ b = Path.dot := by
  constructor
  · intro h
    unfold fold at h
    split at h
    · next hb =>
      have hsum := congrArg UInt8.toNat h
      rw [UInt8.toNat_add] at hsum
      have hlo : 0x41 ≤ b.toNat := UInt8.le_iff_toNat_le.1 hb.1
      have hhi : b.toNat ≤ 0x5A := UInt8.le_iff_toNat_le.1 hb.2
      have hdot : Path.dot.toNat = 0x2E := rfl
      have hshift : (0x20 : UInt8).toNat = 0x20 := rfl
      omega
    · exact h
  · rintro rfl
    rfl

theorem toLower_of_le {c : Char} (h : 0x80 ≤ c.toNat) : c.toLower = c := by
  unfold Char.toLower
  rw [dif_neg]
  rintro ⟨-, hle⟩
  have hle : c.toNat ≤ 0x5A := hle
  omega

/-- Folding the code of a character gives the code of the lower-case character. -/
theorem map_fold_code (c : Char) : (code c).map fold = code c.toLower := by
  by_cases hc : c.toNat < 0x80
  · have hsmall : ∀ n : Fin 0x80,
        (code (Char.ofNat n)).map fold = code (Char.ofNat n).toLower := by decide
    have hchar := hsmall ⟨c.toNat, hc⟩
    rwa [Char.ofNat_toNat] at hchar
  · have hge : 0x80 ≤ c.toNat := by omega
    rw [toLower_of_le hge]
    have hfold : ∀ b ∈ code c, fold b = b := fun b hb => fold_of_le (le_of_mem_code hge hb)
    exact List.map_congr_left (g := id) hfold |>.trans (List.map_id _)

theorem map_fold_flatMap (cs : List Char) :
    (cs.flatMap code).map fold = (cs.map Char.toLower).flatMap code := by
  induction cs with
  | nil => rfl
  | cons c cs ih =>
    rw [List.flatMap_cons, List.map_append, map_fold_code, ih, List.map_cons, List.flatMap_cons]

theorem map_fold_ofText (s : String) : (Bytes.ofText s).map fold = Bytes.ofText s.toLower := by
  have hlower : s.toLower.toList = s.toList.map Char.toLower := String.toList_map
  unfold Bytes.ofText
  rw [map_fold_flatMap, hlower]

/-! ## Endings -/

theorem ofText_append (s t : String) :
    Bytes.ofText (s ++ t) = Bytes.ofText s ++ Bytes.ofText t := by
  unfold Bytes.ofText
  rw [String.toList_append, List.flatMap_append]

theorem ending_matches_iff {name : Bytes} {extension : String} :
    (name.toText?.isSome &&
      (ending (Path.dot :: Bytes.ofText extension)).matchesName name) = true ↔
      HasExtension name extension := by
  rw [Bool.and_eq_true, Bytes.isSome_toText?_iff, matchesName, List.isSuffixOf_iff_suffix]
  constructor
  · rintro ⟨⟨s, rfl⟩, front, hfront⟩
    obtain ⟨x, y, hxy, rfl, hy⟩ := List.map_eq_append_iff.1 hfront.symm
    cases y with
    | nil => cases hy
    | cons b y =>
      rw [List.map_cons, List.map_cons, List.cons.injEq] at hy
      obtain rfl : b = Path.dot := fold_eq_dot_iff.1 hy.1
      obtain ⟨xs, c, ys, hs, hc, rfl, rfl⟩ := exists_cut (by decide) hxy
      have hdot : c = '.' := Char.toNat_inj.1 hc
      subst hdot
      have hname : s = String.ofList xs ++ "." ++ String.ofList ys := by
        rw [← String.toList_inj, hs]
        simp
      refine ⟨String.ofList xs, String.ofList ys, by rw [hname], Bytes.ofText_injective ?_⟩
      rw [← map_fold_ofText, ← map_fold_ofText, ← hy.2, Bytes.ofText, String.toList_ofList]
  · rintro ⟨stem, tail, rfl, hlower⟩
    refine ⟨⟨_, rfl⟩, (Bytes.ofText stem).map fold, ?_⟩
    have hdot : Bytes.ofText "." = [Path.dot] := by decide
    rw [ofText_append, ofText_append, List.append_assoc, List.map_append, List.map_append,
      map_fold_ofText tail, hlower, List.map_cons, map_fold_ofText extension, hdot]
    rfl

end Segment

end Files

end Dialogue
