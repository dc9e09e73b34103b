import Dialogue.Assembly
import Dialogue.Proofs.Block

/-!
# Decoded assemblies

`Assembly.ofBlocks header blocks` is the assembly of a code section with this header and
these blocks. `Assembly.decode_ok_iff`: decoding succeeds exactly on the sections of separated
blocks that the addresses can reach, and gives this assembly. The closing check on its length never
fails (`byteLength_of_readAll`). In an assembly whose addresses ascend, `find?` finds an instruction
exactly at its address.
-/

namespace Dialogue

/-- The version byte and the two bytes of the marker. -/
structure Header where
  version : UInt8
  low : UInt8
  high : UInt8

def Header.bytes (h : Header) : Bytes := [h.version, h.low, h.high]

theorem Header.length_bytes (h : Header) : h.bytes.length = Assembly.headerSize := rfl

namespace Assembly

def ofBlocks (h : Header) (blocks : List Block) : Assembly :=
  ⟨h.version, Bytes.word16 h.low h.high, (Block.layout headerSize blocks).toArray⟩

/-- What has been read adds up to the bytes it was read from. -/
theorem byteLength_of_readAll {body : Bytes} {is : List Instruction}
    (h : Instruction.readAll headerSize body = .ok is) (version : UInt8) (marker : UInt16) :
    byteLength ⟨version, marker, is.toArray⟩ = body.length := by
  obtain ⟨blocks, -, rfl, rfl⟩ := Instruction.readAll_ok_iff.1 h
  exact Block.sum_length_layout headerSize blocks

/-- Behind the header, decoding is reading. -/
theorem decode_header {h : Header} {body : Bytes} (hle : (h.bytes ++ body).length ≤ addressLimit) :
    decode (h.bytes ++ body) = (Instruction.readAll headerSize body).map fun is =>
      ⟨h.version, Bytes.word16 h.low h.high, is.toArray⟩ := by
  unfold decode
  rw [if_neg (Nat.not_lt.2 hle)]
  simp only [Header.bytes, List.cons_append, List.nil_append]
  cases hr : Instruction.readAll headerSize body with
  | error e => rfl
  | ok is => exact if_pos (byteLength_of_readAll hr ..)

theorem decode_ok_iff {code : Bytes} {asm : Assembly} :
    decode code = .ok asm ↔ code.length ≤ addressLimit ∧
      ∃ (h : Header) (blocks : List Block), Block.Separated blocks ∧
        code = h.bytes ++ Block.flatten blocks ∧ asm = ofBlocks h blocks := by
  constructor
  · intro hd
    unfold decode at hd
    split at hd
    · cases hd
    · next hlen =>
      refine ⟨Nat.le_of_not_lt hlen, ?_⟩
      split at hd
      · cases hd
      · next version low high body =>
        split at hd
        · cases hd
        · next is his =>
          rw [if_pos (byteLength_of_readAll his ..)] at hd
          cases hd
          obtain ⟨blocks, hs, rfl, rfl⟩ := Instruction.readAll_ok_iff.1 his
          exact ⟨⟨version, low, high⟩, blocks, hs, rfl, rfl⟩
      · cases hd
  · rintro ⟨hlen, h, blocks, hs, rfl, rfl⟩
    have hr : Instruction.readAll headerSize (Block.flatten blocks) =
        .ok (Block.layout headerSize blocks) :=
      Instruction.readAll_ok_iff.2 ⟨blocks, hs, rfl, rfl⟩
    rw [decode_header hlen, hr]
    rfl

/-! ## Instructions of an assembly -/

section
variable {h : Header} {blocks : List Block} {k : Nat} {i : Instruction}

theorem getElem?_ofBlocks :
    (ofBlocks h blocks).instructions[k]? =
      blocks[k]?.map fun b => b.instruction (headerSize + Block.offset blocks k) := by
  simp only [ofBlocks, List.getElem?_toArray]
  exact Block.getElem?_layout headerSize blocks k

/-- Each block of a section is an instruction of its assembly and stands in the code there. -/
theorem getElem?_of_block {b : Block} (hk : blocks[k]? = some b) :
    (ofBlocks h blocks).instructions[k]? =
        some (b.instruction (headerSize + Block.offset blocks k)) ∧
      b.At (h.bytes ++ Block.flatten blocks) (headerSize + Block.offset blocks k) := by
  refine ⟨?_, Block.at_of_getElem? hk⟩
  rw [getElem?_ofBlocks, hk]
  rfl

theorem size_ofBlocks : (ofBlocks h blocks).instructions.size = blocks.length := by
  simp [ofBlocks]

/-- Each instruction of an assembly is a block that stands in the code at its address. -/
theorem block_of_getElem? (hk : (ofBlocks h blocks).instructions[k]? = some i) :
    ∃ b, blocks[k]? = some b ∧ i = b.instruction (headerSize + Block.offset blocks k) ∧
      b.At (h.bytes ++ Block.flatten blocks) (headerSize + Block.offset blocks k) := by
  rw [getElem?_ofBlocks, Option.map_eq_some_iff] at hk
  obtain ⟨b, hb, rfl⟩ := hk
  exact ⟨b, hb, rfl, Block.at_of_getElem? hb⟩

theorem block_of_mem (hi : i ∈ (ofBlocks h blocks).instructions) :
    ∃ (b : Block) (pos : Nat), i = b.instruction pos ∧ b.At (h.bytes ++ Block.flatten blocks) pos := by
  obtain ⟨k, hk, rfl⟩ := Array.mem_iff_getElem.1 hi
  obtain ⟨b, -, he, hat⟩ := block_of_getElem? (Array.getElem?_eq_getElem hk)
  exact ⟨b, _, he, hat⟩

end

/-! ## Lookup -/

/-- In a list that ascends by a key, the key tells the elements apart. -/
theorem eq_of_pairwise_lt {α : Type} {key : α → Nat} {l : List α}
    (hl : l.Pairwise (key · < key ·)) {a b : α} (ha : a ∈ l) (hb : b ∈ l) (h : key a = key b) :
    a = b := by
  obtain ⟨j, hj, rfl⟩ := List.mem_iff_getElem.1 ha
  obtain ⟨k, hk, rfl⟩ := List.mem_iff_getElem.1 hb
  rw [List.pairwise_iff_getElem] at hl
  rcases Nat.lt_trichotomy j k with hjk | rfl | hkj
  · have := hl j k hj hk hjk
    omega
  · rfl
  · have := hl k j hk hj hkj
    omega

/-- The addresses ascend. -/
def Ascending (is : Array Instruction) : Prop := is.toList.Pairwise (·.address < ·.address)

theorem ascending_ofBlocks (h : Header) (blocks : List Block) :
    Ascending (ofBlocks h blocks).instructions :=
  Block.pairwise_layout headerSize blocks

theorem Ascending.lt {is : Array Instruction} (hs : Ascending is) {j k : Nat} (hjk : j < k)
    (hk : k < is.size) : is[j].address < is[k].address := by
  have hp := List.pairwise_iff_getElem.1 hs j k (by simp; omega) (by simpa using hk) hjk
  simpa using hp

theorem Ascending.lt_iff {is : Array Instruction} (hs : Ascending is) {j k : Nat}
    (hj : j < is.size) (hk : k < is.size) : is[j].address < is[k].address ↔ j < k := by
  constructor
  · intro h
    rcases Nat.lt_trichotomy j k with hjk | rfl | hkj
    · exact hjk
    · omega
    · have := hs.lt hkj hj
      omega
  · intro h
    exact hs.lt h hk

section
variable {is : Array Instruction} {address lo hi k : Nat} {hhi : hi ≤ is.size}

theorem bisect_sound (h : bisect is address lo hi hhi = some k) :
    ∃ hk : k < is.size, is[k].address = address := by
  fun_induction bisect is address lo hi hhi with
  | case1 lo hi hhi hlt mid hm he =>
    rw [Option.some.injEq] at h
    subst h
    exact ⟨hm, he⟩
  | case2 lo hi hhi hlt mid hm hne hless ih => exact ih h
  | case3 lo hi hhi hlt mid hm hne hless ih => exact ih h
  | case4 => cases h

theorem bisect_complete (hs : Ascending is) (hlo : lo ≤ k) (hk : k < hi)
    (he : is[k].address = address) : bisect is address lo hi hhi = some k := by
  fun_induction bisect is address lo hi hhi with
  | case1 lo hi hhi hlt mid hm hmid =>
    -- two different indices cannot both have the address
    have hmk := hs.lt_iff hm (Nat.lt_of_lt_of_le hk hhi)
    have hkm := hs.lt_iff (Nat.lt_of_lt_of_le hk hhi) hm
    rw [Option.some.injEq]
    omega
  | case2 lo hi hhi hlt mid hm hne hless ih =>
    have hmk := hs.lt_iff hm (Nat.lt_of_lt_of_le hk hhi)
    exact ih (hmk.1 (he ▸ hless)) hk he
  | case3 lo hi hhi hlt mid hm hne hless ih =>
    have hkm := hs.lt_iff (Nat.lt_of_lt_of_le hk hhi) hm
    exact ih hlo (hkm.1 (by omega)) he
  | case4 => omega

end

section
variable {asm : Assembly} {address k : Nat} {i : Instruction}

theorem find?_eq_some_iff (hs : Ascending asm.instructions) :
    asm.find? address = some (k, i) ↔ asm.instructions[k]? = some i ∧ i.address = address := by
  unfold find?
  constructor
  · intro h
    split at h
    · next j hj =>
      obtain ⟨hlt, he⟩ := bisect_sound hj
      rw [Array.getElem?_eq_getElem hlt] at h
      cases h
      exact ⟨Array.getElem?_eq_getElem hlt, he⟩
    · cases h
  · rintro ⟨hk, rfl⟩
    obtain ⟨hlt, rfl⟩ := Array.getElem?_eq_some_iff.1 hk
    rw [bisect_complete hs (Nat.zero_le k) hlt rfl]
    simp [hk]

theorem find?_eq_none_iff (hs : Ascending asm.instructions) :
    asm.find? address = none ↔ ∀ i ∈ asm.instructions, i.address ≠ address := by
  constructor
  · intro h i hi he
    obtain ⟨k, hk, rfl⟩ := Array.mem_iff_getElem.1 hi
    rw [(find?_eq_some_iff hs).2 ⟨Array.getElem?_eq_getElem hk, he⟩] at h
    cases h
  · intro h
    cases hf : asm.find? address with
    | none => rfl
    | some r =>
      obtain ⟨hk, he⟩ := (find?_eq_some_iff hs).1 hf
      exact absurd he (h _ (Array.mem_of_getElem? hk))

theorem loadsStringAt_iff (hs : Ascending asm.instructions) :
    asm.loadsStringAt address = true ↔ ∃ i ∈ asm.stringLoads, i.address = address := by
  simp only [loadsStringAt, stringLoads, List.mem_filter, Array.mem_toList_iff]
  constructor
  · intro h
    split at h
    · next k i hf =>
      obtain ⟨hk, he⟩ := (find?_eq_some_iff hs).1 hf
      exact ⟨i, ⟨Array.mem_of_getElem? hk, h⟩, he⟩
    · cases h
  · rintro ⟨i, ⟨hi, hl⟩, rfl⟩
    obtain ⟨k, hk, rfl⟩ := Array.mem_iff_getElem.1 hi
    rw [(find?_eq_some_iff hs).2 ⟨Array.getElem?_eq_getElem hk, rfl⟩]
    exact hl

end

end Assembly

end Dialogue
