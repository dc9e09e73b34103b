import Dialogue.Proofs.Replacements
import Dialogue.Proofs.Script

/-!
# What a relocation reports

The string loads that are replaced are counted while the code is replayed, the jump entries while
the table is patched, and the keys that are ignored are found by going through the map. A script
that has been loaded gets the `report` that is counted from the input (`HasBlocks.report_of_relocate`).
Its numbers add up because two lists ascend: the addresses of the string loads replaced are exactly
the keys at which a string load starts (`addresses_replaced`). `Script.report_accounts` says that
every key and every jump entry is accounted for once.
-/

namespace Dialogue

namespace JumpEntry

/-- The target is what the low 31 bits of the word say. -/
theorem toNat_masked (e : JumpEntry) : (e.raw &&& 0x7FFFFFFF).toNat = e.target := by
  have ht : e.target = e.raw.toNat % 0x80000000 := congrArg target (ofRaw_raw e).symm
  have hm : (0x7FFFFFFF : UInt32).toNat = 2 ^ 31 - 1 := rfl
  rw [UInt32.toNat_and, hm, Nat.and_two_pow_sub_one_eq_mod, ht]

end JumpEntry

namespace Relocation

section
variable {asm : Assembly} {m : Replacements} {jumps : List JumpEntry}

/-! ## Jump entries -/

theorem pairwise_unmatched : (unmatched asm jumps).Pairwise (· < ·) := by
  have hsub : (unmatched asm jumps).Sublist (jumps.zipIdx.map (·.2)) :=
    List.filter_sublist.map _
  rw [List.zipIdx_map_snd] at hsub
  exact List.Pairwise.sublist hsub List.pairwise_lt_range'

theorem mem_unmatched_iff {n : Nat} :
    n ∈ unmatched asm jumps ↔ ∃ e, jumps[n]? = some e ∧ asm.find? e.target = none := by
  simp only [unmatched, List.mem_map, List.mem_filter, Option.isNone_iff_eq_none]
  constructor
  · rintro ⟨⟨e, k⟩, ⟨hk, hn⟩, rfl⟩
    exact ⟨e, List.mem_zipIdx_iff_getElem?.1 hk, hn⟩
  · rintro ⟨e, hk, hn⟩
    exact ⟨(e, n), ⟨List.mem_zipIdx_iff_getElem?.2 hk, hn⟩, rfl⟩

theorem patched_add_unmatched : (report asm m jumps).patched + (unmatched asm jumps).length =
    jumps.length := by
  have hu : (unmatched asm jumps).length =
      (jumps.filter fun e => !(asm.find? e.target).isSome).length := by
    conv_rhs => rw [← List.zipIdx_map_fst 0 jumps, List.filter_map]
    simp only [unmatched, List.length_map, Function.comp_def, Option.not_isSome]
  rw [hu, report]
  exact (List.length_eq_length_filter_add _).symm

/-! ## Keys -/

theorem mem_ignored_iff (hs : Assembly.Ascending asm.instructions) {a : Nat} :
    a ∈ (report asm m jumps).ignored ↔
      a ∈ m.keys ∧ ¬ ∃ i ∈ asm.stringLoads, i.address = a := by
  rw [← Assembly.loadsStringAt_iff hs, report, ignored, List.mem_filter, Bool.not_eq_true',
    Bool.not_eq_true]

/-- The string loads replaced stand at the keys at which a string load starts. -/
theorem addresses_replaced (hs : Assembly.Ascending asm.instructions) :
    (asm.instructions.toList.filter fun i => (replacement? m i).isSome).map (·.address) =
      m.keys.filter asm.loadsStringAt := by
  have hl : ((asm.instructions.toList.filter fun i => (replacement? m i).isSome).map
      (·.address)).Pairwise (· < ·) := List.pairwise_map.2 (hs.filter _)
  have hr : (m.keys.filter asm.loadsStringAt).Pairwise (· < ·) := m.pairwise_keys.filter _
  refine List.Pairwise.eq_of_mem_iff hl hr fun a => ?_
  rw [List.mem_map, List.mem_filter, Assembly.loadsStringAt_iff hs, Replacements.mem_keys_iff]
  constructor
  · rintro ⟨i, hi, rfl⟩
    obtain ⟨hmem, hsome⟩ := List.mem_filter.1 hi
    obtain ⟨text, ht⟩ := Option.isSome_iff_exists.1 hsome
    obtain ⟨hk, hg⟩ := stringLoad_of_replacement? ht
    exact ⟨⟨text, hg⟩, i, List.mem_filter.2 ⟨hmem, by simp [Instruction.isStringLoad, hk]⟩, rfl⟩
  · rintro ⟨⟨text, hg⟩, i, hi, rfl⟩
    obtain ⟨hmem, hl⟩ := List.mem_filter.1 hi
    refine ⟨i, List.mem_filter.2 ⟨hmem, ?_⟩, rfl⟩
    rw [replacement?, if_pos hl, hg]
    rfl

theorem replaced_add_ignored (hs : Assembly.Ascending asm.instructions) :
    (report asm m jumps).replaced + (report asm m jumps).ignored.length = m.keys.length := by
  have hr : (report asm m jumps).replaced = (m.keys.filter asm.loadsStringAt).length := by
    rw [← addresses_replaced hs, List.length_map]
    rfl
  rw [hr, report, ignored]
  exact (List.length_eq_length_filter_add _).symm

end

end Relocation

namespace Script

open Relocation

/-- What has been counted on the way is what the report counts. -/
theorem HasBlocks.report_of_relocate {s : Script} {hd : Header} {blocks : List Block}
    (hb : s.HasBlocks hd blocks) {charset : Charset} {m : Replacements} {r : Relocated}
    (hr : relocate charset s.container s.assembly m = .ok r) :
    r.report = Relocation.report s.assembly m s.container.jumps := by
  obtain ⟨blocks', -, -, rfl⟩ := hb.relocate_ok_iff.1 hr
  rfl

/-- The report of a relocation accounts for every key once, as the address of a string load that was
replaced or as ignored, and for every jump entry once, as patched or as unmatched. -/
theorem report_accounts {file : Bytes} {s : Script} {charset : Charset} {m : Replacements}
    {r : Relocated} (hs : load file = .ok s)
    (hr : relocate charset s.container s.assembly m = .ok r) :
    r.report.ignored.Pairwise (· < ·) ∧
      (∀ a, a ∈ r.report.ignored ↔ a ∈ m.keys ∧
        ¬ ∃ i ∈ s.assembly.instructions, i.kind = .stringLoad ∧ i.address = a) ∧
      r.report.replaced + r.report.ignored.length = m.keys.length ∧
      r.report.unmatched.Pairwise (· < ·) ∧
      (∀ n, n ∈ r.report.unmatched ↔ ∃ e, s.container.jumps[n]? = some e ∧
        ∀ i ∈ s.assembly.instructions, i.address ≠ (e.raw &&& 0x7FFFFFFF).toNat) ∧
      r.report.patched + r.report.unmatched.length = s.container.jumps.length := by
  obtain ⟨hd, blocks, hb⟩ := exists_hasBlocks_of_load hs
  rw [hb.report_of_relocate hr]
  have hasc := hb.ascending
  refine ⟨m.pairwise_keys.filter _, fun a => ?_, replaced_add_ignored hasc, pairwise_unmatched,
    fun n => ?_, patched_add_unmatched⟩
  · rw [mem_ignored_iff hasc]
    simp only [Assembly.stringLoads, List.mem_filter, Array.mem_toList_iff,
      Instruction.isStringLoad, decide_eq_true_eq, and_assoc]
  · have hu : n ∈ (Relocation.report s.assembly m s.container.jumps).unmatched ↔ _ :=
      mem_unmatched_iff
    simp only [hu, Assembly.find?_eq_none_iff hasc, JumpEntry.toNat_masked]

/-- Texts for a string load, for an offset inside it, for an instruction that is none, for a string
load again, and for an offset behind the code. -/
def sampleStray : Replacements :=
  ⟨[(3, ""), (5, "inside"), (16, "no load"), (19, "A"), (1000, "behind")], by decide⟩

theorem report_accounts_sample :
    load sampleFile = .ok sample ∧
      ∃ r, relocate .shiftJis sample.container sample.assembly sampleStray = .ok r ∧
        r.report = ⟨2, [5, 16, 1000], 3, [3]⟩ ∧
        r.report.replaced + r.report.ignored.length = 5 ∧
        r.report.patched + r.report.unmatched.length = 4 := by
  obtain ⟨r, hr, hrep⟩ : ∃ r,
      relocate .shiftJis sample.container sample.assembly sampleStray = .ok r ∧
        r.report = ⟨2, [5, 16, 1000], 3, [3]⟩ := ⟨_, by cbv, rfl⟩
  obtain ⟨-, -, hkeys, -, -, hjumps⟩ := report_accounts load_sampleFile hr
  exact ⟨load_sampleFile, r, hr, hrep, hkeys, hjumps⟩

end Script

end Dialogue
