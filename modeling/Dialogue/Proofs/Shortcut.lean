import Dialogue.Proofs.ImportFailure
import Dialogue.Proofs.Report

/-!
# Imports that have nothing to do

Applying an empty map gives the script back without relocating it. With relocation (`applyAlways`)
it would come to the same script, because every block is copied and every jump entry stays where it
was. But relocation reports what the jump entries refer to, and the shortcut reports nothing:
`apply_shortcut` says when the two agree.
-/

namespace Dialogue

namespace Relocation

section
variable {asm : Assembly} {m : Replacements} {jumps : List JumpEntry}

/-- Without replacements nothing is replaced or ignored. -/
theorem report_of_isEmpty (hm : m.isEmpty = true) :
    (report asm m jumps).replaced = 0 ∧ (report asm m jumps).ignored = [] := by
  have hnone (i : Instruction) : replacement? m i = none := replacement?_of_isEmpty hm
  have hkeys : m.keys = [] := by
    rw [Replacements.keys, List.isEmpty_iff.1 hm]
    rfl
  simp [report, replaced, ignored, hnone, hkeys]

theorem report_eq_empty_iff (hm : m.isEmpty = true) : report asm m jumps = .empty ↔ jumps = [] := by
  constructor
  · intro h
    have hu : unmatched asm jumps = [] := congrArg RelocationReport.unmatched h
    have hsum : (report asm m jumps).patched + (unmatched asm jumps).length = jumps.length :=
      patched_add_unmatched
    rw [h, hu] at hsum
    exact List.eq_nil_of_length_eq_zero hsum.symm
  · rintro rfl
    have hnil : (report asm m []).replaced = 0 ∧ (report asm m []).ignored = [] :=
      report_of_isEmpty hm
    calc report asm m []
        = ⟨(report asm m []).replaced, (report asm m []).ignored, 0, []⟩ := rfl
      _ = .empty := by rw [hnil.1, hnil.2, RelocationReport.empty]

end

end Relocation

namespace Script

open Relocation

variable {s s' : Script} {charset : Charset} {m : Replacements} {rep : RelocationReport}
  {hd : Header} {blocks : List Block}

theorem HasBlocks.report_of_applyAlways (hb : s.HasBlocks hd blocks)
    (h : s.applyAlways charset m = .ok (s', rep)) :
    rep = Relocation.report s.assembly m s.container.jumps := by
  rw [applyAlways_eq] at h
  split at h
  · cases h
  · next r hr =>
    split at h
    · cases h
    · cases h
      exact hb.report_of_relocate hr

/-- Without the shortcut, too, an empty map gives the script back. -/
theorem HasBlocks.applyAlways_of_isEmpty (hb : s.HasBlocks hd blocks) (hm : m.isEmpty = true) :
    s.applyAlways charset m = .ok (s, Relocation.report s.assembly m s.container.jumps) := by
  have hfst : (s.applyAlways charset m).map Prod.fst = .ok s := by
    rw [← relocated, ← hb.apply_map_fst, apply_of_isEmpty hm]
    rfl
  cases ha : s.applyAlways charset m with
  | error e =>
    rw [ha] at hfst
    cases hfst
  | ok p =>
    obtain ⟨s', rep⟩ := p
    rw [ha] at hfst
    cases hfst
    rw [hb.report_of_applyAlways ha]

/-- The script that comes out does not show whether the shortcut is there. Without it an empty map
is reported on like any other: the report lists the jump entries that refer to no instruction and
counts the others. With it the report is empty, so it is the same only if there are no jump
entries. -/
theorem apply_shortcut {file : Bytes} (hs : load file = .ok s) (charset : Charset)
    (m : Replacements) :
    (s.apply charset m).map Prod.fst = (s.applyAlways charset m).map Prod.fst ∧
      (m.isEmpty = false → s.apply charset m = s.applyAlways charset m) ∧
      (m.isEmpty = true → s.apply charset m = .ok (s, .empty) ∧
        ∃ rep, s.applyAlways charset m = .ok (s, rep) ∧ rep.replaced = 0 ∧ rep.ignored = [] ∧
          (∀ n, n ∈ rep.unmatched ↔ ∃ e, s.container.jumps[n]? = some e ∧
            ∀ i ∈ s.assembly.instructions, i.address ≠ e.target) ∧
          rep.patched + rep.unmatched.length = s.container.jumps.length) ∧
      (s.apply charset m = s.applyAlways charset m ↔
        m.isEmpty = false ∨ s.container.jumps = []) := by
  obtain ⟨hd, blocks, hb⟩ := exists_hasBlocks_of_load hs
  refine ⟨by rw [hb.apply_map_fst, relocated], apply_eq_applyAlways, fun hm => ?_, ?_⟩
  · obtain ⟨hreplaced, hignored⟩ := report_of_isEmpty hm
    refine ⟨apply_of_isEmpty hm, _, hb.applyAlways_of_isEmpty hm, hreplaced, hignored, fun n => ?_,
      patched_add_unmatched⟩
    have hu : n ∈ (Relocation.report s.assembly m s.container.jumps).unmatched ↔ _ :=
      mem_unmatched_iff
    simp only [hu, Assembly.find?_eq_none_iff hb.ascending]
  · cases hm : m.isEmpty with
    | false => simp [apply_eq_applyAlways hm]
    | true =>
      have hnil : Relocation.report s.assembly m s.container.jumps = .empty ↔ _ :=
        report_eq_empty_iff hm
      rw [apply_of_isEmpty hm, hb.applyAlways_of_isEmpty hm, ← hnil, eq_comm]
      simp

theorem apply_shortcut_sample :
    load sampleFile = .ok sample ∧ sample.apply .shiftJis .empty = .ok (sample, .empty) ∧
      sample.applyAlways .shiftJis .empty = .ok (sample, ⟨0, [], 3, [3]⟩) ∧
      sample.apply .shiftJis .empty ≠ sample.applyAlways .shiftJis .empty := by
  obtain ⟨-, -, hempty, hiff⟩ := apply_shortcut load_sampleFile .shiftJis .empty
  obtain ⟨hshort, rep, halways, -⟩ := hempty rfl
  obtain ⟨hd, blocks, hb⟩ := exists_hasBlocks_of_load load_sampleFile
  have hrep : rep = ⟨0, [], 3, [3]⟩ := by
    rw [hb.report_of_applyAlways halways]
    cbv
  rw [hrep] at halways
  have hne : ¬ (Replacements.empty.isEmpty = false ∨ sample.container.jumps = []) := by decide
  exact ⟨load_sampleFile, hshort, halways, fun he => hne (hiff.1 he)⟩

/-- The shortcut does not report the jump entries. -/
theorem not_apply_eq_applyAlways : ¬ ∀ (file : Bytes) (s : Script), load file = .ok s →
    ∀ (charset : Charset) (m : Replacements), s.apply charset m = s.applyAlways charset m := by
  intro h
  have he := h sampleFile sample load_sampleFile .shiftJis .empty
  obtain ⟨r, hr, hp⟩ : ∃ r, sample.applyAlways .shiftJis .empty = .ok r ∧ r.2.patched = 3 :=
    ⟨_, by cbv, rfl⟩
  rw [hr, apply_of_isEmpty rfl] at he
  cases he
  cases hp

end Script

end Dialogue
