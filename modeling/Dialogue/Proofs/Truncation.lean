import Dialogue.Proofs.Damage

/-!
# Truncated code sections

A place in a body is between two blocks or strictly inside one (`Block.Cut`). Cut between blocks, a
section is the section of the blocks in front. Cut inside a block it is damaged behind the block's
opcode, unless exactly the extra block is cut off: operands are prefix-free, and what is left of an
extra block begins with its tag (`Block.eq_bare_of_append_eq`). `Assembly.decode_take` says
what the first `n` bytes of a section decode to, for every `n`.
-/

namespace Dialogue

namespace Block

/-! ## Cutting a body -/

inductive Cut (blocks : List Block) : Nat → Prop
  | between (front back : List Block) (h : blocks = front ++ back) :
      Cut blocks (flatten front).length
  | inside (front : List Block) (b : Block) (back : List Block) (j : Nat)
      (h : blocks = front ++ b :: back) (hpos : 0 < j) (hlt : j < b.bytes.length) :
      Cut blocks ((flatten front).length + j)

theorem Cut.cons {blocks : List Block} {n : Nat} (h : Cut blocks n) (b : Block) :
    Cut (b :: blocks) (b.bytes.length + n) := by
  cases h with
  | between front back h =>
    subst h
    have hc : Cut (b :: front ++ back) _ := .between (b :: front) back rfl
    rwa [flatten_cons, List.length_append] at hc
  | inside front c back j h hpos hlt =>
    subst h
    have hc : Cut (b :: front ++ c :: back) _ := .inside (b :: front) c back j rfl hpos hlt
    rwa [flatten_cons, List.length_append, Nat.add_assoc] at hc

theorem cut_of_le {blocks : List Block} {n : Nat} (h : n ≤ (flatten blocks).length) :
    Cut blocks n := by
  induction blocks generalizing n with
  | nil =>
    obtain rfl : n = 0 := Nat.le_zero.1 h
    exact .between [] [] rfl
  | cons b blocks ih =>
    rw [flatten_cons, List.length_append] at h
    rcases Nat.lt_or_ge n b.bytes.length with hlt | hge
    · rcases Nat.eq_zero_or_pos n with rfl | hpos
      · exact .between [] (b :: blocks) rfl
      · have hc : Cut (b :: blocks) (0 + n) := .inside [] b blocks n rfl hpos hlt
        rwa [Nat.zero_add] at hc
    · have hc := (ih (n := n - b.bytes.length) (by omega)).cons b
      rwa [Nat.add_sub_cancel' hge] at hc

/-! ## Cutting a block -/

/-- The block without its extra block. -/
def bare (b : Block) : Block := { b with extra := none, extra_length := by simp }

theorem bytes_eq_bare (b : Block) : b.bytes = b.bare.bytes ++ b.trailer := by
  simp [bytes, bare, trailer]

theorem length_bare (b : Block) : b.bare.bytes.length = 1 + b.operand.length := b.bare.length_bytes

theorem length_trailer_of_extra {b : Block} (h : b.extra.isSome = true) : b.trailer.length = 9 := by
  rw [length_trailer, if_pos h]
  rfl

/-- A separated body that a block begins with, but is not all of it, is the block without its extra
block. -/
theorem eq_bare_of_append_eq {b : Block} {blocks : List Block} {rest : Bytes} (hne : blocks ≠ [])
    (hrest : rest ≠ []) (hs : Separated blocks) (h : flatten blocks ++ rest = b.bytes) :
    b.extra.isSome = true ∧ flatten blocks = b.bare.bytes := by
  obtain ⟨c, blocks, rfl⟩ := List.exists_cons_of_ne_nil hne
  have hpos := List.length_pos_iff.2 hrest
  -- both operands follow the same opcode, so they are the same operand
  rw [flatten_cons, bytes, bytes] at h
  simp only [List.cons_append, List.append_assoc, List.cons.injEq] at h
  obtain ⟨hop, h⟩ := h
  obtain ⟨ho, ht⟩ := Operand.Fits.eq_of_append_eq (hop ▸ c.operand_fits) b.operand_fits h
  have hlen := congrArg List.length ht
  rw [List.length_append, List.length_append] at hlen
  cases hx : b.extra with
  | none =>
    rw [b.length_trailer, hx, Option.isSome_none, if_neg Bool.false_ne_true] at hlen
    omega
  | some fields =>
    have hc : c.extra = none := by
      cases hc : c.extra with
      | none => rfl
      | some fields' =>
        -- two whole extra blocks would leave nothing for the rest
        rw [b.length_trailer, c.length_trailer, hx, hc, Option.isSome_some, Option.isSome_some,
          if_pos rfl] at hlen
        omega
    have htc : c.trailer = [] := by rw [trailer, hc]
    refine ⟨rfl, ?_⟩
    cases blocks with
    | nil => rw [flatten_cons, flatten_nil, List.append_nil, bytes, htc, hop, ho, List.append_nil,
        bytes, trailer, bare, List.append_nil]
    | cons d blocks =>
      -- the rest begins with the tag, which may not follow a block without an extra block
      have htb : b.trailer = Opcode.extraTag :: fields := by rw [trailer, hx]
      refine absurd ?_ (hs.1 hc)
      rw [htc, htb, List.nil_append, flatten_cons, bytes, List.cons_append, List.cons_append,
        List.cons_append, List.cons.injEq] at ht
      rw [head?_flatten_cons, ht.1]

end Block

/-! ## Cutting a section -/

namespace Instruction

/-- The offset is behind the first byte of the instruction and before its end. -/
def Covers (i : Instruction) (n : Nat) : Prop := i.address < n ∧ n < i.stop

/-- The extra block of the instruction stands in the code at the offset, with its tag. -/
def TagAt (i : Instruction) (code : Bytes) (n : Nat) : Prop :=
  i.hasExtra = true ∧ i.stop = n + 9 ∧ code[n]? = some 0x77

/-- The instruction without its extra block. -/
def bare (i : Instruction) : Instruction := { i with length := i.length - 9, hasExtra := false }

end Instruction

namespace Block

theorem tagAt_iff {b : Block} {code : Bytes} {pos n : Nat} (h : b.At code pos) :
    (b.instruction pos).TagAt code n ↔
      b.extra.isSome = true ∧ n = pos + b.bare.bytes.length := by
  have hlen (hx : b.extra.isSome = true) : b.bytes.length = b.bare.bytes.length + 9 := by
    rw [bytes_eq_bare, List.length_append, length_trailer_of_extra hx]
  simp only [Instruction.TagAt, Instruction.stop, instruction]
  constructor
  · rintro ⟨hx, hn, -⟩
    have := hlen hx
    exact ⟨hx, by omega⟩
  · rintro ⟨hx, rfl⟩
    have := hlen hx
    obtain ⟨fields, hf⟩ := Option.isSome_iff_exists.1 hx
    obtain ⟨front, back, rfl, rfl⟩ := h
    refine ⟨hx, by omega, ?_⟩
    have ht : b.trailer = 0x77 :: fields := by rw [trailer, hf]; rfl
    rw [bytes_eq_bare, ht, List.append_assoc, List.append_assoc, ← List.append_assoc front,
      ← List.length_append, List.getElem?_append_right (Nat.le_refl _), Nat.sub_self]
    rfl

theorem covers_of_tagAt {b : Block} {code : Bytes} {pos n : Nat} (h : b.At code pos)
    (ht : (b.instruction pos).TagAt code n) : (b.instruction pos).Covers n := by
  obtain ⟨-, hn⟩ := (tagAt_iff h).1 ht
  have hstop := ht.2.1
  have hlen := length_bare b
  refine ⟨?_, by omega⟩
  show pos < n
  omega

theorem bare_instruction {b : Block} (hx : b.extra.isSome = true) (pos : Nat) :
    (b.instruction pos).bare = b.bare.instruction pos := by
  have hlen : b.bytes.length - 9 = b.bare.bytes.length := by
    rw [bytes_eq_bare, List.length_append, length_trailer_of_extra hx]
    omega
  simp only [Instruction.bare, instruction, hlen]
  rfl

theorem Separated.bare {front back : List Block} {b : Block}
    (h : Separated (front ++ b :: back)) : Separated (front ++ [b.bare]) := by
  obtain ⟨hf, -, hj⟩ := separated_append_iff.1 h
  exact separated_append_iff.2 ⟨hf, ⟨fun _ => by simp, trivial⟩, hj⟩

end Block

namespace Instruction

/-- What is left of a block cut inside cannot be read, unless its extra block is what is missing. -/
theorem readAll_take_error {b : Block} {j : Nat} (hpos : 0 < j) (hlt : j < b.bytes.length)
    (hn : ¬ (b.extra.isSome = true ∧ j = b.bare.bytes.length)) (pos : Nat) :
    ∃ e, readAll pos (b.bytes.take j) = .error e ∧ e.DamageIn (pos + 1) (pos + j) := by
  have hj : (b.bytes.take j).length = j := by
    rw [List.length_take]
    omega
  cases hr : readAll pos (b.bytes.take j) with
  | error e =>
    have hd := damageIn_of_readAll hr
    rw [hj] at hd
    exact ⟨e, rfl, hd⟩
  | ok is =>
    obtain ⟨blocks, hs, hb, -⟩ := readAll_ok_iff.1 hr
    rw [hb] at hj
    refine absurd ?_ hn
    have hne : blocks ≠ [] := by
      rintro rfl
      rw [Block.flatten_nil, List.length_nil] at hj
      omega
    have hrest : b.bytes.drop j ≠ [] := by
      rw [ne_eq, List.drop_eq_nil_iff]
      omega
    obtain ⟨hx, he⟩ := Block.eq_bare_of_append_eq hne hrest hs
      (by rw [← hb, List.take_append_drop])
    exact ⟨hx, by rw [← he, hj]⟩

end Instruction

namespace Assembly

open Block (flatten layout Separated)

/-- The section ends at the offset, or an instruction begins there. -/
def Boundary (code : Bytes) (asm : Assembly) (n : Nat) : Prop :=
  n = code.length ∨ ∃ i ∈ asm.instructions, i.address = n

/-- The instructions that begin before the offset. -/
def before (asm : Assembly) (n : Nat) : List Instruction :=
  asm.instructions.toList.filter (·.address < n)

section
variable {h : Header} {front back : List Block} {b : Block} {n : Nat}

theorem before_ofBlocks (hf : ∀ i ∈ layout headerSize front, i.address < n)
    (hb : n ≤ headerSize + (flatten front).length) :
    (ofBlocks h (front ++ back)).before n = layout headerSize front := by
  rw [before, ofBlocks, List.toList_toArray, Block.layout_append, List.filter_append,
    List.filter_eq_self.2 fun i hi => decide_eq_true (hf i hi), List.filter_eq_nil_iff.2,
    List.append_nil]
  intro i hi
  have := Block.le_address_of_mem_layout hi
  simp only [decide_eq_true_eq, Nat.not_lt]
  omega

theorem mem_ofBlocks_append {i : Instruction} :
    i ∈ (ofBlocks h (front ++ back)).instructions ↔ i ∈ layout headerSize front ∨
      i ∈ layout (headerSize + (flatten front).length) back := by
  rw [ofBlocks, List.mem_toArray, Block.layout_append, List.mem_append]

/-! ## Between blocks -/

theorem decode_take_between (hs : Separated (front ++ back))
    (hle : (h.bytes ++ flatten (front ++ back)).length ≤ addressLimit) :
    decode ((h.bytes ++ flatten (front ++ back)).take (headerSize + (flatten front).length)) =
      .ok (ofBlocks h front) := by
  have ht : (h.bytes ++ flatten (front ++ back)).take (headerSize + (flatten front).length) =
      h.bytes ++ flatten front := by
    rw [Block.flatten_append, ← List.append_assoc, ← h.length_bytes, ← List.length_append,
      List.take_left]
  rw [Block.flatten_append, ← List.append_assoc, List.length_append] at hle
  rw [ht, decode_ok_iff]
  exact ⟨by omega, h, front, (Block.separated_append_iff.1 hs).1, rfl, rfl⟩

/-- No instruction goes over the place between two blocks. -/
theorem not_covers_between {i : Instruction} (hi : i ∈ (ofBlocks h (front ++ back)).instructions) :
    ¬ i.Covers (headerSize + (flatten front).length) := by
  rintro ⟨hlt, hgt⟩
  rcases mem_ofBlocks_append.1 hi with hi | hi
  · have := Block.stop_le_of_mem_layout hi
    omega
  · have := Block.le_address_of_mem_layout hi
    omega

theorem before_between : (ofBlocks h (front ++ back)).before (headerSize + (flatten front).length) =
    layout headerSize front := by
  refine before_ofBlocks (fun i hi => ?_) (Nat.le_refl _)
  exact Nat.lt_of_lt_of_le (Block.address_lt_of_mem_layout hi) (Block.stop_le_of_mem_layout hi)

theorem boundary_between :
    Boundary (h.bytes ++ flatten (front ++ back)) (ofBlocks h (front ++ back))
      (headerSize + (flatten front).length) := by
  cases back with
  | nil => exact .inl (by rw [List.append_nil, List.length_append, h.length_bytes])
  | cons c back => exact .inr ⟨_, mem_ofBlocks_append.2 (.inr List.mem_cons_self), rfl⟩

/-! ## Inside a block -/

/-- The offset is inside this instruction, so inside no other and at the beginning of none. -/
structure Inside (asm : Assembly) (n : Nat) (i : Instruction) : Prop where
  mem : i ∈ asm.instructions
  covers : i.Covers n
  eq_of_covers : ∀ j ∈ asm.instructions, j.Covers n → j = i
  address_ne : ∀ j ∈ asm.instructions, j.address ≠ n

section
variable {j : Nat}

theorem take_inside (hle : j ≤ b.bytes.length) :
    (h.bytes ++ flatten (front ++ b :: back)).take (headerSize + ((flatten front).length + j)) =
      h.bytes ++ (flatten front ++ b.bytes.take j) := by
  rw [Block.flatten_append, Block.flatten_cons, ← h.length_bytes, List.take_length_add_append,
    List.take_length_add_append, List.take_append_of_le_length hle]

theorem length_take_inside_le (hle : j ≤ b.bytes.length)
    (hlen : (h.bytes ++ flatten (front ++ b :: back)).length ≤ addressLimit) :
    (h.bytes ++ (flatten front ++ b.bytes.take j)).length ≤ addressLimit := by
  have ht : (h.bytes ++ flatten (front ++ b :: back)).take _ = _ := take_inside hle
  rw [← ht, List.length_take]
  omega

/-- Cut where an extra block begins, the section is one without the extra block. -/
theorem decode_take_bare (hs : Separated (front ++ b :: back))
    (hlen : (h.bytes ++ flatten (front ++ b :: back)).length ≤ addressLimit) :
    decode ((h.bytes ++ flatten (front ++ b :: back)).take
        (headerSize + ((flatten front).length + b.bare.bytes.length))) =
      .ok (ofBlocks h (front ++ [b.bare])) := by
  have hle : b.bare.bytes.length ≤ b.bytes.length := by
    rw [b.bytes_eq_bare, List.length_append]
    exact Nat.le_add_right ..
  have htake : b.bytes.take b.bare.bytes.length = b.bare.bytes := by
    rw [Block.bytes_eq_bare b, List.take_left]
  have hlen' := length_take_inside_le hle hlen
  rw [take_inside hle, htake]
  rw [htake] at hlen'
  exact decode_ok_iff.2 ⟨hlen', h, _, hs.bare, by simp, rfl⟩

theorem decode_take_error (hs : Separated (front ++ b :: back))
    (hlen : (h.bytes ++ flatten (front ++ b :: back)).length ≤ addressLimit) (hpos : 0 < j)
    (hlt : j < b.bytes.length) (hn : ¬ (b.extra.isSome = true ∧ j = b.bare.bytes.length)) :
    ∃ e, decode ((h.bytes ++ flatten (front ++ b :: back)).take
        (headerSize + ((flatten front).length + j))) = .error e ∧
      e.DamageIn (headerSize + (flatten front).length + 1)
        (headerSize + ((flatten front).length + j)) := by
  obtain ⟨hf, -, hj⟩ := Block.separated_append_iff.1 hs
  have hhead : (b.bytes.take j).head? = (flatten (b :: back)).head? := by
    rw [List.head?_take, if_neg (by omega)]
    rfl
  obtain ⟨e, he, hd⟩ :=
    Instruction.readAll_take_error hpos hlt hn (headerSize + (flatten front).length)
  refine ⟨e, ?_, hd.mono (Nat.le_refl _) (by omega)⟩
  rw [take_inside (Nat.le_of_lt hlt), decode_header (length_take_inside_le (Nat.le_of_lt hlt) hlen),
    Instruction.readAll_append hf (by rw [hhead]; exact hj), he]
  rfl

theorem inside_of_cut (hpos : 0 < j) (hlt : j < b.bytes.length) :
    (ofBlocks h (front ++ b :: back)).Inside (headerSize + ((flatten front).length + j))
      (b.instruction (headerSize + (flatten front).length)) := by
  -- an instruction ends before the block, is the block or begins behind it
  have hcases (i : Instruction) (hi : i ∈ (ofBlocks h (front ++ b :: back)).instructions) :
      i.address < i.stop ∧ (i.stop ≤ headerSize + (flatten front).length ∨
        i = b.instruction (headerSize + (flatten front).length) ∨
        headerSize + (flatten front).length + b.bytes.length ≤ i.address) := by
    rcases mem_ofBlocks_append.1 hi with hi | hi
    · exact ⟨Block.address_lt_of_mem_layout hi, .inl (Block.stop_le_of_mem_layout hi)⟩
    · refine ⟨Block.address_lt_of_mem_layout hi, .inr ?_⟩
      rcases List.mem_cons.1 hi with rfl | hi
      · exact .inl rfl
      · exact .inr (Block.le_address_of_mem_layout hi)
  refine ⟨mem_ofBlocks_append.2 (.inr List.mem_cons_self), ?_, ?_, ?_⟩
  · simp only [Instruction.Covers, Instruction.stop, Block.instruction]
    omega
  · rintro i hi ⟨hia, his⟩
    obtain ⟨-, hi | rfl | hi⟩ := hcases i hi
    · omega
    · rfl
    · omega
  · intro i hi
    obtain ⟨hia, hi | rfl | hi⟩ := hcases i hi
    · omega
    · simp only [Block.instruction]
      omega
    · omega

theorem before_inside (hpos : 0 < j) (hlt : j < b.bytes.length) :
    (ofBlocks h (front ++ b :: back)).before (headerSize + ((flatten front).length + j)) =
      layout headerSize front ++ [b.instruction (headerSize + (flatten front).length)] := by
  have hl : layout headerSize (front ++ [b]) = layout headerSize front ++
      [b.instruction (headerSize + (flatten front).length)] := Block.layout_append ..
  rw [List.append_cons, ← hl]
  refine before_ofBlocks (fun i hi => ?_) ?_
  · rw [hl, List.mem_append, List.mem_singleton] at hi
    rcases hi with hi | rfl
    · have := Block.address_lt_of_mem_layout hi
      have := Block.stop_le_of_mem_layout hi
      omega
    · simp only [Block.instruction]
      omega
  · rw [Block.flatten_append, Block.flatten_cons, Block.flatten_nil, List.append_nil,
      List.length_append]
    omega

end

end

/-! ## The first bytes of a section -/

section
variable {code : Bytes} {asm : Assembly} {n : Nat}

/-- What the first `n` bytes of a section with this assembly decode to, if `n` is not inside the
header. -/
inductive Truncation (code : Bytes) (asm : Assembly) (n : Nat) : Prop
  | between (hb : Boundary code asm n) (hnone : ∀ i ∈ asm.instructions, ¬ i.Covers n)
      (hr : decode (code.take n) = .ok { asm with instructions := (asm.before n).toArray })
  | bare (front : List Instruction) (i : Instruction) (hi : asm.Inside n i) (ht : i.TagAt code n)
      (hf : asm.before n = front ++ [i])
      (hr : decode (code.take n) = .ok { asm with instructions := (front ++ [i.bare]).toArray })
  | broken (i : Instruction) (hi : asm.Inside n i) (ht : ¬ i.TagAt code n) (e : ScriptError)
      (hr : decode (code.take n) = .error e) (hd : e.DamageIn (i.address + 1) n)

theorem truncation (h : decode code = .ok asm) (h3 : headerSize ≤ n) (hn : n ≤ code.length) :
    Truncation code asm n := by
  obtain ⟨hle, hd, blocks, hs, rfl, rfl⟩ := decode_ok_iff.1 h
  obtain ⟨m, rfl⟩ := Nat.exists_eq_add_of_le h3
  rw [List.length_append, hd.length_bytes] at hn
  cases Block.cut_of_le (Nat.le_of_add_le_add_left hn) with
  | between front back hb =>
    subst hb
    refine .between boundary_between (fun i hi => not_covers_between hi) ?_
    rw [decode_take_between hs hle, before_between]
    rfl
  | inside front b back j hb hpos hlt =>
    subst hb
    have hin : (ofBlocks hd (front ++ b :: back)).Inside _ _ := inside_of_cut hpos hlt
    have hat : b.At (hd.bytes ++ flatten (front ++ b :: back))
        (headerSize + (flatten front).length) :=
      ⟨hd.bytes ++ flatten front, flatten back, by simp, List.length_append⟩
    by_cases hx : b.extra.isSome = true ∧ j = b.bare.bytes.length
    · obtain ⟨hx, rfl⟩ := hx
      have ht := (Block.tagAt_iff hat).2 ⟨hx, (Nat.add_assoc ..).symm⟩
      refine .bare _ _ hin ht (before_inside hpos hlt) ?_
      rw [decode_take_bare hs hle, Block.bare_instruction hx, ofBlocks, Block.layout_append]
      rfl
    · obtain ⟨e, he, hdam⟩ := decode_take_error hs hle hpos hlt hx
      refine .broken _ hin (fun ht => hx ?_) e he hdam
      obtain ⟨hsome, hj⟩ := (Block.tagAt_iff hat).1 ht
      exact ⟨hsome, by omega⟩

theorem covers_of_tagAt (h : decode code = .ok asm) {i : Instruction} (hi : i ∈ asm.instructions)
    (ht : i.TagAt code n) : i.Covers n := by
  obtain ⟨-, hd, blocks, -, rfl, rfl⟩ := decode_ok_iff.1 h
  obtain ⟨b, pos, rfl, hat⟩ := block_of_mem hi
  exact Block.covers_of_tagAt hat ht

/-- The instructions lie behind the header and before the end. -/
theorem bounds_of_mem (h : decode code = .ok asm) {i : Instruction} (hi : i ∈ asm.instructions) :
    headerSize ≤ i.address ∧ i.stop ≤ code.length := by
  obtain ⟨-, hd, blocks, -, rfl, rfl⟩ := decode_ok_iff.1 h
  rw [ofBlocks, List.mem_toArray] at hi
  refine ⟨Block.le_address_of_mem_layout hi, ?_⟩
  rw [List.length_append, hd.length_bytes]
  exact Block.stop_le_of_mem_layout hi

theorem headerSize_le_of_decode (h : decode code = .ok asm) : headerSize ≤ code.length := by
  obtain ⟨-, hd, blocks, -, rfl, rfl⟩ := decode_ok_iff.1 h
  rw [List.length_append, hd.length_bytes]
  exact Nat.le_add_right ..

theorem Boundary.headerSize_le (h : decode code = .ok asm) (hb : Boundary code asm n) :
    headerSize ≤ n := by
  rcases hb with rfl | ⟨i, hi, rfl⟩
  · exact headerSize_le_of_decode h
  · exact (bounds_of_mem h hi).1

theorem Inside.not_boundary {i : Instruction} (hi : asm.Inside n i) (h : decode code = .ok asm) :
    ¬ Boundary code asm n := by
  rintro (rfl | ⟨k, hk, ha⟩)
  · have := (bounds_of_mem h hi.mem).2
    have := hi.covers.2
    omega
  · exact hi.address_ne k hk ha

theorem decode_take_of_boundary (h : decode code = .ok asm) (hn : n ≤ code.length)
    (hb : Boundary code asm n) :
    decode (code.take n) = .ok { asm with instructions := (asm.before n).toArray } := by
  cases truncation h (hb.headerSize_le h) hn with
  | between _ _ hr => exact hr
  | bare _ i hi => exact absurd hb (hi.not_boundary h)
  | broken i hi => exact absurd hb (hi.not_boundary h)

theorem decode_take_of_tagAt (h : decode code = .ok asm) (hn : n ≤ code.length) {i : Instruction}
    (hi : i ∈ asm.instructions) (ht : i.TagAt code n) :
    ∃ front, asm.before n = front ++ [i] ∧
      decode (code.take n) = .ok { asm with instructions := (front ++ [i.bare]).toArray } := by
  have hc := covers_of_tagAt h hi ht
  have h3 : headerSize ≤ n := Nat.le_of_lt (Nat.lt_of_le_of_lt (bounds_of_mem h hi).1 hc.1)
  cases truncation h h3 hn with
  | between _ hnone => exact absurd hc (hnone i hi)
  | bare front k hk _ hf hr =>
    obtain rfl := hk.eq_of_covers i hi hc
    exact ⟨front, hf, hr⟩
  | broken k hk hnt =>
    obtain rfl := hk.eq_of_covers i hi hc
    exact absurd ht hnt

theorem boundary_or_tagAt_of_ok {cut : Assembly} (h : decode code = .ok asm) (hn : n ≤ code.length)
    (hc : decode (code.take n) = .ok cut) :
    headerSize ≤ n ∧ (Boundary code asm n ∨ ∃ i ∈ asm.instructions, i.TagAt code n) := by
  have h3 := headerSize_le_of_decode hc
  rw [List.length_take, Nat.min_eq_left hn] at h3
  refine ⟨h3, ?_⟩
  cases truncation h h3 hn with
  | between hb => exact .inl hb
  | bare _ i hi ht => exact .inr ⟨i, hi.mem, ht⟩
  | broken _ _ _ e hr =>
    rw [hr] at hc
    cases hc

theorem damage_of_decode_take {e : ScriptError} (h : decode code = .ok asm) (hn : n ≤ code.length)
    (he : decode (code.take n) = .error e) :
    ∃ offset damage, e = .structural offset damage ∧ offset ≤ n ∧
      (3 < n → ∃ i, asm.Inside n i ∧ i.address < offset) := by
  obtain ⟨offset, damage, hs, -, hle⟩ := damageIn_of_decode he
  rw [List.length_take, Nat.min_eq_left hn] at hle
  refine ⟨offset, damage, hs, hle, fun h3 => ?_⟩
  cases truncation h (Nat.le_of_lt h3) hn with
  | between _ _ hr =>
    rw [hr] at he
    cases he
  | bare _ _ _ _ _ hr =>
    rw [hr] at he
    cases he
  | broken i hi _ e' hr hd =>
    rw [hr] at he
    cases he
    obtain ⟨offset', damage', hs', hlo, -⟩ := hd
    cases hs.symm.trans hs'
    exact ⟨i, hi, hlo⟩

/-- The first `n` bytes of a section decode exactly if they hold the header and end with the
section, where an instruction begins, or at the tag of an extra block. They decode to the
instructions before `n`, of which the last loses its extra block if that is where they end.
Otherwise they are damaged inside the instruction that was cut, behind its opcode. -/
theorem decode_take (h : decode code = .ok asm) (hn : n ≤ code.length) :
    ((∃ cut, decode (code.take n) = .ok cut) ↔
        3 ≤ n ∧ (Boundary code asm n ∨ ∃ i ∈ asm.instructions, i.TagAt code n)) ∧
      (Boundary code asm n →
        decode (code.take n) = .ok { asm with instructions := (asm.before n).toArray }) ∧
      (∀ i ∈ asm.instructions, i.TagAt code n → ∃ front, asm.before n = front ++ [i] ∧
        decode (code.take n) = .ok { asm with instructions := (front ++ [i.bare]).toArray }) ∧
      ∀ e, decode (code.take n) = .error e →
        ∃ offset damage, e = .structural offset damage ∧ offset ≤ n ∧
          (3 < n → ∃ i, asm.Inside n i ∧ i.address < offset) := by
  refine ⟨⟨?_, ?_⟩, decode_take_of_boundary h hn, fun i => decode_take_of_tagAt h hn,
    fun e => damage_of_decode_take h hn⟩
  · rintro ⟨cut, hc⟩
    exact boundary_or_tagAt_of_ok h hn hc
  · rintro ⟨-, hb | ⟨i, hi, ht⟩⟩
    · exact ⟨_, decode_take_of_boundary h hn hb⟩
    · obtain ⟨front, -, hr⟩ := decode_take_of_tagAt h hn hi ht
      exact ⟨_, hr⟩

end

/-- A text with an extra block, and a pair that looks like two tags. -/
def sampleTagged : Bytes :=
  [1, 0xAB, 0, 0x6A, 0x41, 0, 0x77, 1, 0, 2, 0, 3, 0, 4, 0, 0x10, 0x77, 0x77]

def sampleTaggedAssembly : Assembly :=
  ⟨1, 0xAB, #[⟨3, 12, 0x6A, true⟩, ⟨15, 3, 0x10, false⟩]⟩

/-- Cut at the tag, at the second instruction, and inside it where a tag seems to stand. -/
theorem decode_take_sample :
    decode sampleTagged = .ok sampleTaggedAssembly ∧
      decode (sampleTagged.take 6) = .ok ⟨1, 0xAB, #[⟨3, 3, 0x6A, false⟩]⟩ ∧
      decode (sampleTagged.take 15) = .ok ⟨1, 0xAB, #[⟨3, 12, 0x6A, true⟩]⟩ ∧
      ¬ ∃ cut, decode (sampleTagged.take 16) = .ok cut := by
  have h : decode sampleTagged = .ok sampleTaggedAssembly := by
    refine decode_ok_iff.2 ⟨by decide, ⟨1, 0xAB, 0⟩,
      [⟨0x6A, [0x41, 0], some [1, 0, 2, 0, 3, 0, 4, 0], ⟨[0x41], by decide, rfl⟩, by simp; rfl⟩,
        ⟨0x10, [0x77, 0x77], none, rfl, by simp⟩], ?_, rfl, rfl⟩
    simp [Block.Separated]
  obtain ⟨-, -, htag, -⟩ := decode_take h (n := 6) (by decide)
  obtain ⟨-, hbetween, -, -⟩ := decode_take h (n := 15) (by decide)
  obtain ⟨hiff, -, -, -⟩ := decode_take h (n := 16) (by decide)
  refine ⟨h, ?_, hbetween (.inr ⟨⟨15, 3, 0x10, false⟩, by simp [sampleTaggedAssembly], rfl⟩), ?_⟩
  · obtain ⟨front, hf, hr⟩ := htag ⟨3, 12, 0x6A, true⟩ (by simp [sampleTaggedAssembly])
      ⟨rfl, rfl, rfl⟩
    obtain rfl : front = [] := List.append_cancel_right (hf.symm.trans rfl)
    exact hr
  · rw [hiff]
    simp [Boundary, sampleTagged, sampleTaggedAssembly, Instruction.TagAt, Instruction.stop]

end Assembly

end Dialogue
