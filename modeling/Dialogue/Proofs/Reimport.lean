import Dialogue.Proofs.Export
import Dialogue.Proofs.Jumps
import Dialogue.Proofs.Replacements

/-!
# Importing what was exported

Rebuilding a body gives its own bytes exactly if every replaced text encodes to the bytes
that were there: a text ends at its first zero, so equal bytes mean equal blocks
(`Rebuilt.eq_of_flatten_eq`). The replacements read from an unmodified export are the
exported texts (`HasBlocks.replacement?_of_mem`). The main result is
`Script.reimport_restores_iff`.
-/

namespace Dialogue

namespace Relocation

open Block (flatten layout offset)

section
variable {charset : Charset} {m : Replacements} {pos : Nat}

/-! ## Blocks that stay as they are -/

theorem withText_text {b : Block} (h : b.opcode.operand = .text) (hz : (0 : UInt8) ∉ b.text) :
    b.withText b.text h hz = b := by
  obtain ⟨-, ho⟩ := Block.operand_eq_text h
  obtain ⟨opcode, operand, extra, hf, hx⟩ := b
  simp only [Block.withText, Block.mk.injEq, true_and, and_true]
  exact ho.symm

theorem bytes_eq_text {b : Block} (h : b.opcode.kind = .stringLoad) :
    (0 : UInt8) ∉ b.text ∧ b.bytes = b.opcode :: b.text ++ 0 :: b.trailer := by
  obtain ⟨hz, ho⟩ := Block.operand_eq_text (Opcode.operand_of_stringLoad h)
  exact ⟨hz, by rw [Block.bytes, ho]; simp⟩

/-- If the same bytes follow on, the block has not changed: its text ends at the first zero. -/
theorem Becomes.eq_of_append_eq {b b' : Block} {rest rest' : Bytes}
    (h : Becomes charset m pos b b') (he : b'.bytes ++ rest' = b.bytes ++ rest) :
    b' = b ∧ rest' = rest := by
  cases h with
  | kept => exact ⟨rfl, List.append_cancel_left he⟩
  | @replaced text plain hop hr henc =>
    obtain ⟨hz, ho⟩ := Block.operand_eq_text hop
    have he' : Cipher.encrypt plain ++ 0 :: (b.trailer ++ rest') =
        b.text ++ 0 :: (b.trailer ++ rest) := by
      simpa [Block.bytes, Block.withText, Block.trailer, ho] using he
    obtain ⟨ht, hrest⟩ := Bytes.eq_of_append_zero (Cipher.zero_not_mem_encrypt plain) hz he'
    refine ⟨?_, List.append_cancel_left hrest⟩
    simp only [ht]
    exact withText_text hop hz

theorem Rebuilt.eq_of_flatten_eq {blocks blocks' : List Block}
    (h : Rebuilt charset m pos blocks blocks') (he : flatten blocks' = flatten blocks) :
    blocks' = blocks := by
  induction h with
  | nil => rfl
  | cons hb _ ih =>
    rw [Block.flatten_cons, Block.flatten_cons] at he
    obtain ⟨rfl, hrest⟩ := hb.eq_of_append_eq he
    rw [ih hrest]

theorem becomes_self_iff {b : Block} :
    Becomes charset m pos b b ↔ ∀ text, replacement? m (b.instruction pos) = some text →
      ∃ plain, charset.encode text = .ok plain ∧ b.text = Cipher.encrypt plain := by
  constructor
  · intro h text ht
    obtain ⟨plain, he, hp⟩ := h.bytes_eq_of_some ht
    obtain ⟨hz, hbt⟩ := bytes_eq_text (stringLoad_of_replacement? ht).1
    rw [hbt, List.cons_append, List.cons_append, List.cons.injEq] at hp
    exact ⟨plain, he, (Bytes.eq_of_append_zero hz (Cipher.zero_not_mem_encrypt plain) hp.2).1⟩
  · intro h
    cases ht : replacement? m (b.instruction pos) with
    | none => exact .kept ht
    | some text =>
      obtain ⟨plain, he, hp⟩ := h text ht
      have hop : b.opcode.operand = .text :=
        Opcode.operand_of_stringLoad (stringLoad_of_replacement? ht).1
      have hb := Becomes.replaced hop ht he
      simp only [← hp] at hb
      rwa [withText_text] at hb

theorem rebuilt_self_iff {blocks : List Block} :
    Rebuilt charset m pos blocks blocks ↔ ∀ (k : Nat) (b : Block), blocks[k]? = some b →
      Becomes charset m (pos + offset blocks k) b b := by
  constructor
  · intro h k b hk
    obtain ⟨b', hk', hb⟩ := h.getElem? hk
    rw [hk, Option.some.injEq] at hk'
    exact hk' ▸ hb
  · intro h
    induction blocks generalizing pos with
    | nil => exact .nil
    | cons b blocks ih =>
      refine .cons (h 0 b rfl) (ih fun k c hk => ?_)
      have hc := h (k + 1) c hk
      rwa [Block.offset_cons_succ, ← Nat.add_assoc] at hc

theorem replacement?_of_isEmpty {i : Instruction} (hm : m.isEmpty = true) :
    replacement? m i = none :=
  replacement?_eq_none (.inr (Replacements.get?_of_isEmpty hm _))

theorem rebuilt_self_of_isEmpty {blocks : List Block} (hm : m.isEmpty = true) :
    Rebuilt charset m pos blocks blocks :=
  rebuilt_self_iff.2 fun _ _ _ => .kept (replacement?_of_isEmpty hm)

end

/-! ## Jumps that stay as they are -/

theorem patched_self {hd : Header} {blocks : List Block} (jumps : List JumpEntry) :
    patched (Assembly.ofBlocks hd blocks) blocks jumps = jumps := by
  have hasc := Assembly.ascending_ofBlocks hd blocks
  rw [patched, ← List.map_id jumps, List.map_map]
  apply List.map_congr_left
  intro e _
  simp only [Function.comp, id]
  cases hf : (Assembly.ofBlocks hd blocks).find? e.target with
  | none =>
    rw [patch, patch?, hf]
    rfl
  | some r =>
    obtain ⟨hk, he⟩ := (Assembly.find?_eq_some_iff hasc).1 hf
    obtain ⟨b, hbk, hi, -⟩ := Assembly.block_of_getElem? hk
    rw [patch_of_getElem? hasc hk he.symm, getD_addresses hbk]
    rw [hi] at he
    simp only [Block.instruction] at he
    rw [he, JumpEntry.withTarget_target]

end Relocation

namespace Script

open Relocation Artifact

section
variable {charset : Charset} {s : Script} {hd : Header} {blocks : List Block} {units : Artifact}

theorem HasBlocks.withBlocks_self (hb : s.HasBlocks hd blocks) : s.withBlocks hd blocks = s := by
  obtain ⟨c, asm⟩ := s
  obtain ⟨-, hc, rfl, -⟩ := hb
  simp only at hc
  simp only [withBlocks, patched_self, ← hc, Container.replaceCode_self]

/-- Replacements give the script other blocks, also if there are none to apply. -/
theorem HasBlocks.exists_rebuilt_of_apply {m : Replacements} {s' : Script} {rep : RelocationReport}
    (hb : s.HasBlocks hd blocks) (h : s.apply charset m = .ok (s', rep)) :
    ∃ blocks', Rebuilt charset m Assembly.headerSize blocks blocks' ∧
      (hd.bytes ++ Block.flatten blocks').length ≤ addressLimit ∧ s' = s.withBlocks hd blocks' := by
  cases hm : m.isEmpty with
  | false =>
    obtain ⟨blocks', hr, hle, rfl, -⟩ := (hb.apply_ok_iff hm).1 h
    exact ⟨blocks', hr, hle, rfl⟩
  | true =>
    rw [apply_of_isEmpty hm] at h
    cases h
    refine ⟨blocks, rebuilt_self_of_isEmpty hm, ?_, hb.withBlocks_self.symm⟩
    rw [← hb.code_eq]
    exact hb.length_le

/-- Replacements leave the file as it was exactly if each block becomes itself. -/
theorem HasBlocks.apply_restores_iff {m : Replacements} (hb : s.HasBlocks hd blocks)
    (hm : m.isEmpty = false) :
    (∃ s' rep, s.apply charset m = .ok (s', rep) ∧ s'.save = s.save) ↔
      Rebuilt charset m Assembly.headerSize blocks blocks := by
  constructor
  · rintro ⟨s', rep, h, hsave⟩
    obtain ⟨blocks', hr, -, rfl, -⟩ := (hb.apply_ok_iff hm).1 h
    have hcode : hd.bytes ++ Block.flatten blocks' = s.container.code :=
      Container.code_eq_of_toBytes_eq (s.length_rows_withBlocks hd blocks') hsave
    rw [hb.code_eq] at hcode
    have heq := hr.eq_of_flatten_eq (List.append_cancel_left hcode)
    rwa [heq] at hr
  · intro hr
    have hle : (hd.bytes ++ Block.flatten blocks).length ≤ addressLimit := by
      rw [← hb.code_eq]
      exact hb.length_le
    refine ⟨_, _, (hb.apply_ok_iff hm).2 ⟨blocks, hr, hle, rfl, rfl⟩, ?_⟩
    rw [hb.withBlocks_self]

/-! ## The replacements of an unmodified export -/

theorem exists_unit_of_replacement? {i : Instruction} {text : String}
    (h : replacement? (collected .empty units) i = some text) :
    ∃ u ∈ units, u.address = i.address ∧ unescape u.text = text := by
  have hg := (stringLoad_of_replacement? h).2
  rw [get?_collected_empty, Option.map_eq_some_iff] at hg
  obtain ⟨t, ht, rfl⟩ := hg
  obtain ⟨u, hu, ha, rfl⟩ := exists_mem_of_lastText? ht
  exact ⟨u, hu, ha, rfl⟩

variable (hb : s.HasBlocks hd blocks) (hx : s.exportText charset = .ok units)
include hb hx

theorem HasBlocks.replacement?_of_mem {u : TextUnit} (hu : u ∈ units) {i : Instruction}
    (hi : i ∈ s.assembly.instructions.toList) (ha : i.address = u.address) :
    s.exports i = true ∧
      replacement? (collected .empty units) i = some (unescape u.text) := by
  obtain ⟨j, hj, hja, hp⟩ := exists_load_of_mem hx hu
  obtain rfl : j = i := Assembly.eq_of_pairwise_lt hb.ascending hj hi (by rw [hja, ha])
  refine ⟨hp, ?_⟩
  rw [replacement?, if_pos (isStringLoad_of_exports hp), get?_collected_empty, ha,
    lastText?_of_mem (hb.pairwise_units hx) hu]
  rfl

/-- The string loads that are replaced are those that were exported. -/
theorem HasBlocks.isSome_replacement?_iff {i : Instruction}
    (hi : i ∈ s.assembly.instructions.toList) :
    (replacement? (collected .empty units) i).isSome = s.exports i := by
  cases hp : s.exports i with
  | true =>
    obtain ⟨u, hu, ha⟩ := exists_unit_of_exports hx hi hp
    rw [(hb.replacement?_of_mem hx hu hi ha.symm).2]
    rfl
  | false =>
    cases hr : replacement? (collected .empty units) i with
    | none => rfl
    | some text =>
      obtain ⟨u, hu, ha, -⟩ := exists_unit_of_replacement? hr
      rw [(hb.replacement?_of_mem hx hu hi ha.symm).1] at hp
      cases hp

theorem HasBlocks.report_imported (jumps : List JumpEntry) :
    (Relocation.report s.assembly (collected .empty units) jumps).replaced = units.length ∧
      (Relocation.report s.assembly (collected .empty units) jumps).ignored = [] := by
  constructor
  · have hf : s.assembly.instructions.toList.filter
        (fun i => (replacement? (collected .empty units) i).isSome) =
        s.assembly.instructions.toList.filter s.exports :=
      List.filter_congr fun i hi => hb.isSome_replacement?_iff hx hi
    have hl := congrArg List.length (addresses_of_exportText hx)
    rw [List.length_map, List.length_map] at hl
    rw [Relocation.report, replaced, hf, hl]
  · simp only [Relocation.report, ignored, List.filter_eq_nil_iff]
    intro address ha
    obtain ⟨text, ht⟩ := Replacements.exists_get?_of_mem_keys ha
    rw [get?_collected_empty, Option.map_eq_some_iff] at ht
    obtain ⟨t, ht, -⟩ := ht
    obtain ⟨u, hu, rfl, -⟩ := exists_mem_of_lastText? ht
    obtain ⟨i, hi, hia, hp⟩ := exists_load_of_mem hx hu
    have hl : s.assembly.loadsStringAt u.address = true :=
      (Assembly.loadsStringAt_iff hb.ascending).2
        ⟨i, List.mem_filter.2 ⟨hi, isStringLoad_of_exports hp⟩, hia⟩
    simp [hl]

/-- The export of a unit can be undone: its text, escaped and unescaped, encodes to the stored
bytes of the string load at its address. -/
def EncodesBack (s : Script) (charset : Charset) (u : TextUnit) : Prop :=
  ∃ i ∈ s.assembly.stringLoads, i.address = u.address ∧
    ∃ plain, charset.encode (unescape (escape u.text)) = .ok plain ∧
      i.payload? s.container.code = some (Cipher.encrypt plain)

theorem HasBlocks.rebuilt_self_iff :
    Rebuilt charset (collected .empty units) Assembly.headerSize blocks blocks ↔
      ∀ u ∈ units, s.EncodesBack charset u := by
  rw [Relocation.rebuilt_self_iff]
  constructor
  · intro h u hu
    obtain ⟨i, hi, ha, hp⟩ := exists_load_of_mem hx hu
    have hr := (hb.replacement?_of_mem hx hu hi ha).2
    obtain ⟨k, b, hbk, rfl, hat⟩ := hb.block_of_mem hi
    obtain ⟨plain, he, ht⟩ := becomes_self_iff.1 (h k b hbk) _ hr
    refine ⟨_, List.mem_filter.2 ⟨hi, isStringLoad_of_exports hp⟩, ha, plain, ?_, ?_⟩
    · rw [unescape_escape, he]
    · rw [exports, hat.payload?_eq (stringLoad_of_replacement? hr).1] at hp
      rw [hat.payload?_eq (stringLoad_of_replacement? hr).1, ← ht]
      split at hp
      · cases hp
      · next hne => rw [if_neg hne]
  · intro h k b hbk
    rw [becomes_self_iff]
    intro text hr
    obtain ⟨u, hu, hua, rfl⟩ := exists_unit_of_replacement? hr
    obtain ⟨i, hi, hia, plain, he, hp⟩ := h u hu
    obtain ⟨hk, hat⟩ := hb.getElem?_of_block hbk
    obtain rfl := Assembly.eq_of_pairwise_lt hb.ascending (List.mem_filter.1 hi).1
      (Array.mem_toList_iff.2 (Array.mem_of_getElem? hk)) (by rw [hia, hua])
    rw [hat.payload?_eq (stringLoad_of_replacement? hr).1] at hp
    rw [unescape_escape] at he
    split at hp
    · cases hp
    · exact ⟨plain, he, Option.some.inj hp⟩

theorem HasBlocks.importText_render :
    s.importText charset (render units) = s.apply charset (collected .empty units) := by
  rw [importText_eq, parse_render fun u hu => hb.unit_address_lt hx hu]

theorem HasBlocks.isEmpty_collected {u : TextUnit} (hu : u ∈ units) :
    (collected .empty units).isEmpty = false := by
  have hg := get?_collected_empty units u.address
  rw [lastText?_of_mem (hb.pairwise_units hx) hu] at hg
  exact Replacements.isEmpty_eq_false_of_get? hg

end

/-- Importing an unmodified export succeeds and leaves the file as it was exactly if every
exported text encodes back to the bytes stored for it. Whenever the import succeeds it
replaces as many texts as were exported and ignores no address. -/
theorem reimport_restores_iff {file : Bytes} {s : Script} {charset : Charset} {units : Artifact}
    (hs : load file = .ok s) (hx : s.exportText charset = .ok units) :
    ((∃ s' rep, s.importText charset (render units) = .ok (s', rep) ∧ s'.save = file) ↔
        ∀ u ∈ units, s.EncodesBack charset u) ∧
      ∀ s' rep, s.importText charset (render units) = .ok (s', rep) →
        rep.replaced = units.length ∧ rep.ignored = [] := by
  obtain ⟨hd, blocks, hb⟩ := exists_hasBlocks_of_load hs
  have hsave : s.save = file := Container.toBytes_of_parse (load_ok_iff.1 hs).1
  rw [hb.importText_render hx]
  cases hu : units with
  | nil =>
    have happ : s.apply charset (collected .empty []) = .ok (s, .empty) := rfl
    rw [happ]
    refine ⟨⟨fun _ u hu => by simp at hu, fun _ => ⟨s, .empty, rfl, hsave⟩⟩, ?_⟩
    intro s' rep h
    cases h
    exact ⟨rfl, rfl⟩
  | cons u rest =>
    rw [← hu]
    have hmem : u ∈ units := by
      rw [hu]
      exact List.mem_cons_self
    have hm := hb.isEmpty_collected hx hmem
    constructor
    · rw [← hb.rebuilt_self_iff hx, ← hb.apply_restores_iff hm, hsave]
    · intro s' rep h
      obtain ⟨blocks', -, -, -, rfl⟩ := (hb.apply_ok_iff hm).1 h
      exact hb.report_imported hx _

theorem reimport_restores_sample :
    load sampleFile = .ok sample ∧
      sample.exportText .shiftJis = .ok [⟨3, "Hi"⟩, ⟨19, "Yo"⟩] ∧
      ∃ s' rep, sample.importText .shiftJis (render [⟨3, "Hi"⟩, ⟨19, "Yo"⟩]) = .ok (s', rep) ∧
        s'.save = sampleFile := by
  have hx : sample.exportText .shiftJis = .ok [⟨3, "Hi"⟩, ⟨19, "Yo"⟩] := by cbv
  refine ⟨load_sampleFile, hx, (reimport_restores_iff load_sampleFile hx).1.2 ?_⟩
  intro u hu
  simp only [List.mem_cons, List.not_mem_nil, or_false] at hu
  rcases hu with rfl | rfl
  · exact ⟨⟨3, 13, 0x6B, true⟩, by decide, rfl, [0x48, 0x69], by cbv, by decide⟩
  · exact ⟨⟨19, 4, 0x6C, false⟩, by decide, rfl, [0x59, 0x6F], by cbv, by decide⟩

end Script

end Dialogue
