import Dialogue.Proofs.Script

/-!
# Jumps after relocation

Every block moves by what the replaced texts before it grew (`Rebuilt.offset_eq`). A jump
entry that refers to an instruction is patched to where that instruction has moved, every
other entry stays (`patch_of_getElem?`, `patch_of_forall_ne`). The main result is
`Script.jumps_follow`.
-/

namespace Dialogue

namespace Relocation

open Block (flatten layout offset)

/-- The string loads below `address` that have a replacement, with their new texts. -/
def replacedBelow (m : Replacements) (address : Nat) (is : List Instruction) :
    List (Instruction × String) :=
  is.filterMap fun i => if i.address < address then (replacement? m i).map (i, ·) else none

/-- How many bytes a string load of `code` grows by with another text. -/
def growth (charset : Charset) (code : Bytes) (r : Instruction × String) : Int :=
  ((charset.encode r.2).toOption.getD []).length - ((r.1.payload? code).getD []).length

section
variable {charset : Charset} {m : Replacements} {code : Bytes} {pos : Nat}

theorem payload_length {b : Block} (h : b.At code pos) (hk : b.opcode.kind = .stringLoad) :
    (((b.instruction pos).payload? code).getD []).length = b.text.length := by
  rw [h.payload?_eq hk]
  split
  · next ht => rw [ht]; rfl
  · rfl

theorem Becomes.length_eq_of_some {b b' : Block} {text : String} (h : Becomes charset m pos b b')
    (hat : b.At code pos) (hr : replacement? m (b.instruction pos) = some text) :
    (b'.bytes.length : Int) = b.bytes.length + growth charset code (b.instruction pos, text) := by
  obtain ⟨hk, -⟩ := stringLoad_of_replacement? hr
  obtain ⟨plain, he, hp⟩ := h.bytes_eq_of_some hr
  obtain ⟨-, ho⟩ := Block.operand_eq_text (Opcode.operand_of_stringLoad hk)
  simp only [growth, he, payload_length hat hk, Except.toOption, Option.getD_some]
  rw [hp, Block.length_bytes, ho]
  simp only [List.length_append, List.length_cons, List.length_nil, Cipher.length_encrypt]
  omega

theorem replacedBelow_eq_nil {address : Nat} {is : List Instruction}
    (h : ∀ i ∈ is, address ≤ i.address) : replacedBelow m address is = [] := by
  rw [replacedBelow, List.filterMap_eq_nil_iff]
  intro i hi
  rw [if_neg (Nat.not_lt.2 (h i hi))]

theorem replacedBelow_cons {address : Nat} {i : Instruction} {is : List Instruction}
    (h : i.address < address) : replacedBelow m address (i :: is) =
      ((replacement? m i).map (i, ·)).toList ++ replacedBelow m address is := by
  rw [replacedBelow, List.filterMap_cons, if_pos h]
  cases replacement? m i <;> rfl

/-- A block has moved by what the replaced texts before it grew. -/
theorem Rebuilt.offset_eq {front : Bytes} {blocks blocks' : List Block}
    (h : Rebuilt charset m pos blocks blocks') (hc : code = front ++ flatten blocks)
    (hp : front.length = pos) {k : Nat} (hk : k ≤ blocks.length) :
    (offset blocks' k : Int) = offset blocks k +
      ((replacedBelow m (pos + offset blocks k) (layout pos blocks)).map
        (growth charset code)).sum := by
  induction h generalizing front k with
  | nil =>
    obtain rfl : k = 0 := by simpa using hk
    rfl
  | @cons pos b b' blocks blocks' hb hr ih =>
    cases k with
    | zero =>
      rw [Block.offset_zero, Block.offset_zero,
        replacedBelow_eq_nil fun i hi => by simpa using Block.le_address_of_mem_layout hi]
      rfl
    | succ k =>
      have hat : b.At code pos := ⟨front, flatten blocks, by rw [hc]; simp, hp⟩
      have hi := ih (by rw [hc]; simp : code = (front ++ b.bytes) ++ flatten blocks)
        (by rw [List.length_append, hp]) (by simpa using hk : k ≤ blocks.length)
      have hlt : pos < pos + (b.bytes.length + offset blocks k) := by
        have := b.length_bytes
        omega
      rw [Block.offset_cons_succ, Block.offset_cons_succ, layout, replacedBelow_cons hlt,
        ← Nat.add_assoc, List.map_append, List.sum_append]
      cases hs : replacement? m (b.instruction pos) with
      | none =>
        rw [hb.bytes_eq_of_none hs]
        simp only [Option.map_none, Option.toList_none, List.map_nil, List.sum_nil]
        omega
      | some text =>
        have hg := hb.length_eq_of_some hat hs
        simp only [Option.map_some, Option.toList_some, List.map_cons, List.map_nil,
          List.sum_cons, List.sum_nil]
        omega

end

/-! ## Patching -/

section
variable {asm : Assembly} {e : JumpEntry}

theorem patch_of_getElem? {addresses : Array Nat} {k : Nat} {i : Instruction}
    (hs : Assembly.Ascending asm.instructions) (hk : asm.instructions[k]? = some i)
    (he : e.target = i.address) : patch asm addresses e = e.withTarget (addresses.getD k 0) := by
  rw [patch, patch?, (Assembly.find?_eq_some_iff hs).2 ⟨hk, he.symm⟩]
  rfl

theorem patch_of_forall_ne {addresses : Array Nat} (hs : Assembly.Ascending asm.instructions)
    (h : ∀ i ∈ asm.instructions, i.address ≠ e.target) : patch asm addresses e = e := by
  rw [patch, patch?, (Assembly.find?_eq_none_iff hs).2 h]
  rfl

theorem flag_patch (asm : Assembly) (addresses : Array Nat) (e : JumpEntry) :
    (patch asm addresses e).flag = e.flag := by
  unfold patch patch?
  cases asm.find? e.target <;> rfl

theorem getD_addresses {blocks' : List Block} {k : Nat} {b : Block} (hk : blocks'[k]? = some b) :
    ((layout Assembly.headerSize blocks').map (·.address)).toArray.getD k 0 =
      Assembly.headerSize + offset blocks' k := by
  rw [Array.getD_eq_getD_getElem?, List.getElem?_toArray, List.getElem?_map, Block.getElem?_layout,
    hk]
  rfl

end

end Relocation

namespace Script

open Relocation

/-- After an import every jump entry keeps its flag. An entry that referred to the `k`-th
instruction refers to the `k`-th instruction of the new assembly, which has moved by what the
replaced texts before it grew; an entry that referred to no instruction is the same word as
before. The table keeps its length, its order and its auxiliary values. -/
theorem jumps_follow {file : Bytes} {s s' : Script} {charset : Charset} {m : Replacements}
    {rep : RelocationReport} (hs : load file = .ok s) (hm : m.isEmpty = false)
    (ha : s.apply charset m = .ok (s', rep)) :
    s'.container.aux = s.container.aux ∧
      s'.container.jumps.length = s.container.jumps.length ∧
      ∀ (n : Nat) (e : JumpEntry), s.container.jumps[n]? = some e →
        ∃ e' : JumpEntry, s'.container.jumps[n]? = some e' ∧
          e'.raw.toNat.testBit 31 = e.raw.toNat.testBit 31 ∧
          (∀ (k : Nat) (i : Instruction), s.assembly.instructions[k]? = some i →
            e.target = i.address →
            ∃ i' : Instruction, s'.assembly.instructions[k]? = some i' ∧
              e'.target = i'.address ∧
              (i'.address : Int) = e.target +
                ((replacedBelow m e.target s.assembly.instructions.toList).map
                  (growth charset s.container.code)).sum) ∧
          ((∀ i ∈ s.assembly.instructions, i.address ≠ e.target) → e'.raw = e.raw) := by
  obtain ⟨hd, blocks, hb⟩ := exists_hasBlocks_of_load hs
  obtain ⟨blocks', hbs, hle, rfl, -⟩ := (hb.apply_ok_iff hm).1 ha
  have hasc := hb.ascending
  have hj := s.jumps_withBlocks hd blocks'
  refine ⟨s.aux_withBlocks hd blocks', by rw [hj, length_patched], fun n e hn => ?_⟩
  refine ⟨_, by rw [hj, patched, List.getElem?_map, hn, Option.map_some], ?_, ?_, ?_⟩
  · rw [JumpEntry.testBit_raw, JumpEntry.testBit_raw, flag_patch]
  · intro k i hk he
    obtain ⟨b, hbk, rfl, -⟩ := hb.block_of_getElem? hk
    have hlt : k < blocks.length := (List.getElem?_eq_some_iff.1 hbk).1
    obtain ⟨b', hbk', -, hj', -⟩ := rebuilt_getElem? hd hbs hbk
    refine ⟨_, hj', ?_, ?_⟩
    · have hle' := Block.offset_le blocks' k
      rw [List.length_append, hd.length_bytes] at hle
      rw [patch_of_getElem? hasc hk he, getD_addresses hbk']
      exact JumpEntry.target_withTarget (Nat.le_trans (by omega) hle)
    · have ho := hbs.offset_eq hb.code_eq hd.length_bytes (Nat.le_of_lt hlt)
      have ht : e.target = Assembly.headerSize + Block.offset blocks k := he
      rw [ht, hb.assembly_eq]
      simp only [Assembly.ofBlocks, List.toList_toArray, Block.instruction]
      omega
  · intro hne
    rw [patch_of_forall_ne hasc hne]

/-- The third entry follows the fourth instruction past a text that got three bytes longer and
one that got two bytes shorter. -/
theorem jumps_follow_sample :
    sampleReplacements.isEmpty = false ∧
      ∃ s' rep, sample.apply .shiftJis sampleReplacements = .ok (s', rep) ∧
        ∃ e', s'.container.jumps[2]? = some e' ∧ e'.target = 24 := by
  have ha : sample.apply .shiftJis sampleReplacements = .ok
      (⟨sample.container.replaceCode
          [.ofRaw 0x80000013, .ofRaw 22, .ofRaw 24, .ofRaw 5] sampleRebuilt,
        ⟨1, 0x00AB, #[⟨3, 16, 0x6B, true⟩, ⟨19, 3, 0x10, false⟩, ⟨22, 2, 0x6C, false⟩,
          ⟨24, 9, 0x80, false⟩]⟩⟩, sampleReport) := by
    cbv
  have hm : sampleReplacements.isEmpty = false := rfl
  obtain ⟨-, -, h⟩ := jumps_follow load_sampleFile hm ha
  obtain ⟨e', he', -, hk, -⟩ := h 2 (.ofRaw 23) rfl
  obtain ⟨i', hi', ht, -⟩ := hk 3 ⟨23, 9, 0x80, false⟩ rfl rfl
  cases hi'
  exact ⟨hm, _, _, ha, e', he', ht⟩

end Script

end Dialogue
