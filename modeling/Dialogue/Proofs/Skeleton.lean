import Dialogue.Proofs.Reimport

/-!
# What imports keep

`SameSkeleton s s'`: the two scripts differ in the texts of their string loads at most, and in
the addresses that depend on them. Replacements keep the skeleton (`HasBlocks.sameSkeleton`):
opcodes and extra blocks stay, and a jump leads to the instruction with the same index.
-/

namespace Dialogue

namespace Script

open Relocation

/-- The index of the instruction that the `n`-th jump entry refers to. -/
def jumpIndex? (s : Script) (n : Nat) : Option Nat :=
  s.container.jumps[n]?.bind fun e => (s.assembly.find? e.target).map (·.1)

/-- What an instruction of one script and its counterpart in another have in common. -/
structure SameInstruction (s s' : Script) (i i' : Instruction) : Prop where
  opcode : i'.opcode = i.opcode
  kind : i'.kind = i.kind
  hasExtra : i'.hasExtra = i.hasExtra
  trailer : i'.trailer s'.container.code = i.trailer s.container.code
  bytes : i.kind ≠ .stringLoad → i'.bytes s'.container.code = i.bytes s.container.code

structure SameSkeleton (s s' : Script) : Prop where
  version : s'.assembly.version = s.assembly.version
  marker : s'.assembly.marker = s.assembly.marker
  aux : s'.container.aux = s.container.aux
  flags : s'.container.jumps.map (·.raw.toNat.testBit 31) =
    s.container.jumps.map (·.raw.toNat.testBit 31)
  size : s'.assembly.instructions.size = s.assembly.instructions.size
  instruction : ∀ (k : Nat) (i : Instruction), s.assembly.instructions[k]? = some i →
    ∃ i', s'.assembly.instructions[k]? = some i' ∧ s.SameInstruction s' i i'
  jumpIndex : ∀ n k : Nat, s.jumpIndex? n = some k → s'.jumpIndex? n = some k

theorem SameInstruction.trans {s s' s'' : Script} {i i' i'' : Instruction}
    (h : s.SameInstruction s' i i') (h' : s'.SameInstruction s'' i' i'') :
    s.SameInstruction s'' i i'' where
  opcode := h'.opcode.trans h.opcode
  kind := h'.kind.trans h.kind
  hasExtra := h'.hasExtra.trans h.hasExtra
  trailer := h'.trailer.trans h.trailer
  bytes hk := (h'.bytes (by rwa [h.kind])).trans (h.bytes hk)

theorem SameSkeleton.refl (s : Script) : s.SameSkeleton s where
  version := rfl
  marker := rfl
  aux := rfl
  flags := rfl
  size := rfl
  instruction _ i hk := ⟨i, hk, rfl, rfl, rfl, rfl, fun _ => rfl⟩
  jumpIndex _ _ h := h

theorem SameSkeleton.trans {s s' s'' : Script} (h : s.SameSkeleton s')
    (h' : s'.SameSkeleton s'') : s.SameSkeleton s'' where
  version := h'.version.trans h.version
  marker := h'.marker.trans h.marker
  aux := h'.aux.trans h.aux
  flags := h'.flags.trans h.flags
  size := h'.size.trans h.size
  instruction k i hk := by
    obtain ⟨i', hk', hi⟩ := h.instruction k i hk
    obtain ⟨i'', hk'', hi'⟩ := h'.instruction k i' hk'
    exact ⟨i'', hk'', hi.trans hi'⟩
  jumpIndex n k hn := h'.jumpIndex n k (h.jumpIndex n k hn)

/-! ## One import -/

section
variable {charset : Charset} {m : Replacements} {s : Script} {hd : Header}
  {blocks blocks' : List Block}

theorem sameInstruction_of_becomes {s' : Script} {b b' : Block} {pos pos' : Nat}
    (h : Becomes charset m pos b b') (hat : b.At s.container.code pos)
    (hat' : b'.At s'.container.code pos') :
    s.SameInstruction s' (b.instruction pos) (b'.instruction pos') where
  opcode := h.opcode_eq
  kind := congrArg Opcode.kind h.opcode_eq
  hasExtra := congrArg Option.isSome h.extra_eq
  trailer := by
    rw [hat'.trailer_eq, hat.trailer_eq, Block.trailer, Block.trailer, h.extra_eq]
  bytes hk := by
    rw [hat'.bytes_eq, hat.bytes_eq]
    exact h.bytes_eq_of_none (replacement?_eq_none (.inl hk))

theorem flags_withBlocks (s : Script) (hd : Header) (blocks' : List Block) :
    (s.withBlocks hd blocks').container.jumps.map (·.raw.toNat.testBit 31) =
      s.container.jumps.map (·.raw.toNat.testBit 31) := by
  rw [jumps_withBlocks, patched, List.map_map]
  refine List.map_congr_left fun e _ => ?_
  simp only [Function.comp, JumpEntry.testBit_raw, flag_patch]

theorem HasBlocks.jumpIndex?_eq_some_iff (hb : s.HasBlocks hd blocks) {n k : Nat} :
    s.jumpIndex? n = some k ↔ ∃ e i, s.container.jumps[n]? = some e ∧
      s.assembly.instructions[k]? = some i ∧ i.address = e.target := by
  simp only [jumpIndex?, Option.bind_eq_some_iff, Option.map_eq_some_iff, Prod.exists,
    Assembly.find?_eq_some_iff hb.ascending]
  constructor
  · rintro ⟨e, hn, k, i, ⟨hk, he⟩, rfl⟩
    exact ⟨e, i, hn, hk, he⟩
  · rintro ⟨e, i, hn, hk, he⟩
    exact ⟨e, hn, k, i, ⟨hk, he⟩, rfl⟩

/-- An entry that refers to the `k`-th instruction refers to the `k`-th after relocation too. -/
theorem HasBlocks.jumpIndex?_withBlocks (hb : s.HasBlocks hd blocks)
    (hr : Rebuilt charset m Assembly.headerSize blocks blocks')
    (hle : (hd.bytes ++ Block.flatten blocks').length ≤ addressLimit) {n k : Nat}
    (h : s.jumpIndex? n = some k) : (s.withBlocks hd blocks').jumpIndex? n = some k := by
  obtain ⟨e, i, hn, hk, he⟩ := hb.jumpIndex?_eq_some_iff.1 h
  obtain ⟨b, hbk, -, -⟩ := hb.block_of_getElem? hk
  obtain ⟨b', hbk', -, hj', -⟩ := rebuilt_getElem? hd hr hbk
  have hn' : (s.withBlocks hd blocks').container.jumps[n]? =
      some (e.withTarget (Assembly.headerSize + Block.offset blocks' k)) := by
    rw [jumps_withBlocks, patched, List.getElem?_map, hn, Option.map_some,
      patch_of_getElem? hb.ascending hk he.symm, getD_addresses hbk']
  refine (hb.rebuilt hr hle).jumpIndex?_eq_some_iff.2 ⟨_, _, hn', hj', ?_⟩
  -- the new address fits the 31 bits of an entry
  have hlim : Assembly.headerSize + Block.offset blocks' k ≤ addressLimit := by
    rw [List.length_append, hd.length_bytes] at hle
    have hoff := Block.offset_le blocks' k
    omega
  exact (JumpEntry.target_withTarget hlim).symm

theorem HasBlocks.sameSkeleton (hb : s.HasBlocks hd blocks)
    (hr : Rebuilt charset m Assembly.headerSize blocks blocks')
    (hle : (hd.bytes ++ Block.flatten blocks').length ≤ addressLimit) :
    s.SameSkeleton (s.withBlocks hd blocks') where
  version := by
    rw [hb.assembly_eq]
    rfl
  marker := by
    rw [hb.assembly_eq]
    rfl
  aux := s.aux_withBlocks hd blocks'
  flags := s.flags_withBlocks hd blocks'
  size := hb.size_eq_of_rebuilt (hb.rebuilt hr hle) hr
  instruction k i hk := by
    obtain ⟨b, hbk, rfl, hat⟩ := hb.block_of_getElem? hk
    obtain ⟨b', -, hbb, hj, hat'⟩ := rebuilt_getElem? hd hr hbk
    exact ⟨_, hj, sameInstruction_of_becomes hbb hat hat'⟩
  jumpIndex _ _ h := hb.jumpIndex?_withBlocks hr hle h

end

end Script

end Dialogue
