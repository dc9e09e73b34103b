import Dialogue.Proofs.Session

/-!
# Imports one after the other

Two imports in a row have the effect of one. The second finds its string loads at other addresses,
so its replacements are taken there first (`Script.rekey`); the single import has those of both,
and where both have one, that of the second (`Replacements.override`). What relocation makes of a
body is determined by the texts that its replacements find (`Rebuilt.unique`, `Rebuilt.congr`),
and two relocations compose block by block (`Rebuilt.trans`). The main result is
`Script.apply_override`.
-/

namespace Dialogue

namespace Replacements

/-- The texts of both maps, and at an address in both the text of the second. -/
def override (m₁ m₂ : Replacements) : Replacements := m₁.insertAll m₂.entries

theorem lookup_reverse {es : List (Nat × String)} (h : es.Pairwise (·.1 < ·.1)) (address : Nat) :
    es.reverse.lookup address = es.lookup address := by
  induction es with
  | nil => rfl
  | cons e es ih =>
    obtain ⟨he, hes⟩ := List.pairwise_cons.1 h
    rw [List.reverse_cons, List.lookup_append, ih hes, lookup_cons_eq_ite, lookup_cons_eq_ite]
    by_cases ha : address = e.1
    · -- the address does not come again
      have hn : es.lookup address = none :=
        lookup_eq_none fun x hx => by have := he x hx; omega
      rw [if_pos ha, if_pos ha, hn]
      rfl
    · rw [if_neg ha, if_neg ha]
      exact Option.or_none

theorem get?_insertAll {es : List (Nat × String)} (h : es.Pairwise (·.1 < ·.1))
    (m : Replacements) (address : Nat) :
    (m.insertAll es).get? address = (es.lookup address).or (m.get? address) := by
  rw [get?_insertAll_last, lookup_reverse h]

theorem get?_override (m₁ m₂ : Replacements) (address : Nat) :
    (m₁.override m₂).get? address = (m₂.get? address).or (m₁.get? address) :=
  get?_insertAll m₂.ascending m₁ address

/-- Maps without a common key can override each other in either order. -/
theorem get?_override_comm {m₁ m₂ : Replacements} (h : ∀ a ∈ m₁.keys, a ∉ m₂.keys)
    (address : Nat) : (m₁.override m₂).get? address = (m₂.override m₁).get? address := by
  rw [get?_override, get?_override]
  cases h₁ : m₁.get? address with
  | none => rw [Option.or_none, Option.none_or]
  | some t₁ =>
    cases h₂ : m₂.get? address with
    | none => rfl
    | some t₂ => exact absurd (mem_keys_of_get? h₂) (h _ (mem_keys_of_get? h₁))

end Replacements

namespace Relocation

open Block (flatten offset)

section
variable {charset : Charset} {m m₁ m₂ : Replacements} {pos : Nat}

/-! ## What relocation makes of a body is determined -/

theorem Becomes.unique {b b₁ b₂ : Block} (h₁ : Becomes charset m pos b b₁)
    (h₂ : Becomes charset m pos b b₂) : b₁ = b₂ := by
  cases h₁ with
  | kept hn =>
    cases h₂ with
    | kept => rfl
    | replaced _ hr => rw [hn] at hr; cases hr
  | replaced _ hr he =>
    cases h₂ with
    | kept hn => rw [hn] at hr; cases hr
    | replaced _ hr' he' =>
      rw [hr] at hr'
      cases hr'
      rw [he] at he'
      cases he'
      rfl

theorem Rebuilt.unique {blocks blocks₁ blocks₂ : List Block}
    (h₁ : Rebuilt charset m pos blocks blocks₁) (h₂ : Rebuilt charset m pos blocks blocks₂) :
    blocks₁ = blocks₂ := by
  induction h₁ generalizing blocks₂ with
  | nil => cases h₂; rfl
  | cons hb _ ih =>
    cases h₂ with
    | cons hb' hr' => rw [hb.unique hb', ih hr']

/-- Only the texts that are found matter. -/
theorem Rebuilt.congr (hm : ∀ address, m₁.get? address = m₂.get? address)
    {blocks blocks' : List Block} (h : Rebuilt charset m₁ pos blocks blocks') :
    Rebuilt charset m₂ pos blocks blocks' := by
  have hr (i : Instruction) : replacement? m₂ i = replacement? m₁ i := by
    simp only [replacement?, hm]
  induction h with
  | nil => exact .nil
  | cons hb _ ih =>
    refine .cons ?_ ih
    cases hb with
    | kept hn => exact .kept ((hr _).trans hn)
    | replaced hop ht he => exact .replaced hop ((hr _).trans ht) he

/-! ## Two relocations -/

/-- A block that becomes another one twice becomes that at once, with the later text if there
is one. -/
theorem Becomes.trans {pos₁ : Nat} {b b₁ b₂ : Block} (h₁ : Becomes charset m₁ pos b b₁)
    (h₂ : Becomes charset m₂ pos₁ b₁ b₂)
    (hm : replacement? m (b.instruction pos) =
      (replacement? m₂ (b₁.instruction pos₁)).or (replacement? m₁ (b.instruction pos))) :
    Becomes charset m pos b b₂ := by
  cases h₂ with
  | kept hn =>
    rw [hn, Option.none_or] at hm
    cases h₁ with
    | kept hn₁ => exact .kept (hm.trans hn₁)
    | replaced hop hr he => exact .replaced hop (hm.trans hr) he
  | replaced hop hr he =>
    rw [hr, Option.some_or] at hm
    cases h₁ with
    | kept => exact .replaced hop hm he
    | replaced hop₁ => exact .replaced hop₁ hm he

theorem rebuilt_of_getElem? {blocks blocks' : List Block} (hl : blocks'.length = blocks.length)
    (h : ∀ (k : Nat) (b b' : Block), blocks[k]? = some b → blocks'[k]? = some b' →
      Becomes charset m (pos + offset blocks k) b b') :
    Rebuilt charset m pos blocks blocks' := by
  induction blocks generalizing pos blocks' with
  | nil =>
    obtain rfl := List.length_eq_zero_iff.1 hl
    exact .nil
  | cons b blocks ih =>
    match blocks', hl with
    | b' :: blocks', hl =>
      refine .cons (h 0 b b' rfl rfl) (ih (Nat.succ.inj hl) fun k c c' hc hc' => ?_)
      have hk := h (k + 1) c c' hc hc'
      rwa [Block.offset_cons_succ, ← Nat.add_assoc] at hk

theorem Rebuilt.trans {blocks blocks₁ blocks₂ : List Block}
    (h₁ : Rebuilt charset m₁ pos blocks blocks₁) (h₂ : Rebuilt charset m₂ pos blocks₁ blocks₂)
    (hm : ∀ (k : Nat) (b b₁ : Block), blocks[k]? = some b → blocks₁[k]? = some b₁ →
      replacement? m (b.instruction (pos + offset blocks k)) =
        (replacement? m₂ (b₁.instruction (pos + offset blocks₁ k))).or
          (replacement? m₁ (b.instruction (pos + offset blocks k)))) :
    Rebuilt charset m pos blocks blocks₂ := by
  refine rebuilt_of_getElem? (h₂.length_eq.trans h₁.length_eq) fun k b b₂ hb hb₂ => ?_
  obtain ⟨b₁, hb₁, hbb₁⟩ := h₁.getElem? hb
  obtain ⟨c, hc, hbb₂⟩ := h₂.getElem? hb₁
  obtain rfl : c = b₂ := Option.some.inj (hc.symm.trans hb₂)
  exact hbb₁.trans hbb₂ (hm k b b₁ hb hb₁)

end

end Relocation

namespace Script

open Relocation

/-- The texts that `m` has for the instructions of `s`, at the addresses that these instructions
have in `s'`. -/
def rekey (s s' : Script) (m : Replacements) : Replacements :=
  Replacements.empty.insertAll
    ((s.assembly.instructions.toList.zip s'.assembly.instructions.toList).filterMap fun p =>
      (m.get? p.1.address).map (p.2.address, ·))

/-- The jump entry refers to an instruction of the script. -/
def Resolves (s : Script) (e : JumpEntry) : Prop :=
  ∃ i ∈ s.assembly.instructions, i.address = e.target

section
variable {charset : Charset} {m m₁ m₂ : Replacements} {s s₁ : Script} {hd : Header}
  {blocks blocks₁ blocks₂ : List Block}

theorem lookup_rekeyed {ps : List (Instruction × Instruction)}
    (h : ps.Pairwise (·.2.address < ·.2.address)) {i i' : Instruction} (hi : (i, i') ∈ ps) :
    (ps.filterMap fun p => (m.get? p.1.address).map (p.2.address, ·)).lookup i'.address =
      m.get? i.address := by
  induction ps with
  | nil => cases hi
  | cons p ps ih =>
    obtain ⟨hp, hps⟩ := List.pairwise_cons.1 h
    rw [List.filterMap_cons]
    rcases List.mem_cons.1 hi with rfl | hi
    · -- the pairs behind it have greater addresses
      have hn : (ps.filterMap fun p => (m.get? p.1.address).map (p.2.address, ·)).lookup
          i'.address = none := by
        refine Replacements.lookup_eq_none fun e he => ?_
        obtain ⟨q, hq, heq⟩ := List.mem_filterMap.1 he
        obtain ⟨t, -, rfl⟩ := Option.map_eq_some_iff.1 heq
        exact Nat.ne_of_gt (hp q hq)
      cases hg : m.get? i.address with
      | none => exact hn
      | some t => simp
    · have hne : i'.address ≠ p.2.address := Nat.ne_of_gt (hp _ hi)
      cases hg : m.get? p.1.address with
      | none => exact ih hps hi
      | some t =>
        simp only [Option.map_some, Replacements.lookup_cons_eq_ite, if_neg hne]
        exact ih hps hi

theorem pairwise_rekeyed {ps : List (Instruction × Instruction)}
    (h : ps.Pairwise (·.2.address < ·.2.address)) :
    (ps.filterMap fun p => (m.get? p.1.address).map (p.2.address, ·)).Pairwise (·.1 < ·.1) := by
  refine h.filterMap _ fun p q hpq e he e' he' => ?_
  obtain ⟨t, -, rfl⟩ := Option.map_eq_some_iff.1 he
  obtain ⟨t', -, rfl⟩ := Option.map_eq_some_iff.1 he'
  exact hpq

/-- The text for an instruction is found again at its address in the other script. -/
theorem get?_rekey (hs : Assembly.Ascending s₁.assembly.instructions) {k : Nat}
    {i i' : Instruction} (hi : s.assembly.instructions[k]? = some i)
    (hi' : s₁.assembly.instructions[k]? = some i') :
    (s.rekey s₁ m).get? i'.address = m.get? i.address := by
  have hz : (s.assembly.instructions.toList.zip s₁.assembly.instructions.toList).Pairwise
      (·.2.address < ·.2.address) := by
    refine List.pairwise_iff_getElem.2 fun a b ha hb hab => ?_
    rw [List.getElem_zip, List.getElem_zip]
    exact List.pairwise_iff_getElem.1 hs a b _ _ hab
  have hmem : (i, i') ∈ s.assembly.instructions.toList.zip s₁.assembly.instructions.toList := by
    refine List.mem_of_getElem? (i := k) ?_
    rw [List.getElem?_zip_eq_some]
    exact ⟨by simpa using hi, by simpa using hi'⟩
  rw [rekey, Replacements.get?_insertAll (pairwise_rekeyed hz), lookup_rekeyed hz hmem]
  exact Option.or_none

/-- Any other blocks that relocation makes of a script are what an import makes of it. -/
theorem HasBlocks.apply_of_rebuilt (hb : s.HasBlocks hd blocks)
    (hr : Rebuilt charset m Assembly.headerSize blocks blocks₁)
    (hle : (hd.bytes ++ Block.flatten blocks₁).length ≤ addressLimit) :
    ∃ rep, s.apply charset m = .ok (s.withBlocks hd blocks₁, rep) := by
  cases hm : m.isEmpty with
  | false => exact ⟨_, (hb.apply_ok_iff hm).2 ⟨blocks₁, hr, hle, rfl, rfl⟩⟩
  | true =>
    rw [hr.unique (rebuilt_self_of_isEmpty hm), hb.withBlocks_self]
    exact ⟨_, apply_of_isEmpty hm⟩

/-- Two relocations in a row give the blocks that relocation with both maps gives. -/
theorem HasBlocks.rebuilt_override (hb : s.HasBlocks hd blocks) (hb₁ : s₁.HasBlocks hd blocks₁)
    (h₁ : Rebuilt charset m₁ Assembly.headerSize blocks blocks₁)
    (h₂ : Rebuilt charset (s.rekey s₁ m₂) Assembly.headerSize blocks₁ blocks₂) :
    Rebuilt charset (m₁.override m₂) Assembly.headerSize blocks blocks₂ := by
  refine h₁.trans h₂ fun k b b₁ hk hk₁ => ?_
  obtain ⟨c, hc, hbc⟩ := h₁.getElem? hk
  obtain rfl : c = b₁ := Option.some.inj (hc.symm.trans hk₁)
  have hg := get?_rekey (m := m₂) hb₁.ascending (hb.getElem?_of_block hk).1
    (hb₁.getElem?_of_block hk₁).1
  have hl : (c.instruction (Assembly.headerSize + Block.offset blocks₁ k)).isStringLoad =
      (b.instruction (Assembly.headerSize + Block.offset blocks k)).isStringLoad := by
    simp only [Instruction.isStringLoad, Instruction.kind, Block.instruction, hbc.opcode_eq]
    rfl
  simp only [replacement?, hl, hg, Replacements.get?_override]
  split
  · rfl
  · rfl

/-! ## Jumps -/

/-- After two relocations an entry is what it is after one, unless it referred to no instruction
and then, unmoved, to one that the first relocation has put at its target. -/
theorem HasBlocks.getElem?_jumps (hb : s.HasBlocks hd blocks)
    (h₁ : Rebuilt charset m₁ Assembly.headerSize blocks blocks₁)
    (hle : (hd.bytes ++ Block.flatten blocks₁).length ≤ addressLimit)
    (hl : blocks₂.length = blocks₁.length) {n : Nat} {e : JumpEntry}
    (hn : s.container.jumps[n]? = some e)
    (he : s.Resolves e ∨ ¬ (s.withBlocks hd blocks₁).Resolves e) :
    ((s.withBlocks hd blocks₁).withBlocks hd blocks₂).container.jumps[n]? =
      (s.withBlocks hd blocks₂).container.jumps[n]? := by
  have hb₁ := hb.rebuilt h₁ hle
  simp only [jumps_withBlocks, patched, List.getElem?_map, hn, Option.map_some,
    Option.some.injEq]
  by_cases hr : s.Resolves e
  · obtain ⟨i, hi, hie⟩ := hr
    obtain ⟨k, hk⟩ := Array.mem_iff_getElem?.1 hi
    obtain ⟨b, hbk, -, -⟩ := hb.block_of_getElem? hk
    obtain ⟨b₁, hbk₁, -, hk₁, -⟩ := rebuilt_getElem? hd h₁ hbk
    obtain ⟨b₂, hbk₂⟩ : ∃ b₂, blocks₂[k]? = some b₂ := by
      have hlt := (List.getElem?_eq_some_iff.1 hbk₁).1
      exact ⟨_, List.getElem?_eq_getElem (hl ▸ hlt)⟩
    have hlim : Assembly.headerSize + Block.offset blocks₁ k ≤ addressLimit := by
      rw [List.length_append, hd.length_bytes] at hle
      have := Block.offset_le blocks₁ k
      omega
    -- the entry follows the instruction to where the second relocation finds it
    have hp : patch (s.withBlocks hd blocks₁).assembly
        ((Block.layout Assembly.headerSize blocks₂).map (·.address)).toArray
        (e.withTarget (Assembly.headerSize + Block.offset blocks₁ k)) = _ :=
      patch_of_getElem? hb₁.ascending hk₁ (JumpEntry.target_withTarget hlim)
    rw [patch_of_getElem? hb.ascending hk hie.symm, patch_of_getElem? hb.ascending hk hie.symm,
      getD_addresses hbk₁, hp, getD_addresses hbk₂]
    rfl
  · have hr₁ := he.resolve_left hr
    have hne : ∀ i ∈ s.assembly.instructions, i.address ≠ e.target :=
      fun i hi hie => hr ⟨i, hi, hie⟩
    have hne₁ : ∀ i ∈ (s.withBlocks hd blocks₁).assembly.instructions, i.address ≠ e.target :=
      fun i hi hie => hr₁ ⟨i, hi, hie⟩
    rw [patch_of_forall_ne hb.ascending hne, patch_of_forall_ne hb.ascending hne,
      patch_of_forall_ne hb₁.ascending hne₁]

end

/-- Two imports in a row, the second with its keys taken to where the first has moved the
instructions, give the code and the assembly of one import with the texts of both, which then
succeeds as well. They also give the same jump entries, except where an entry referred to no
instruction and the first import has moved one to its target. So imports without a common key
give the same code in either order. -/
theorem apply_override {file : Bytes} {s s₁ s₂ : Script} {charset : Charset}
    {m₁ m₂ : Replacements} {rep₁ rep₂ : RelocationReport} (hs : load file = .ok s)
    (h₁ : s.apply charset m₁ = .ok (s₁, rep₁))
    (h₂ : s₁.apply charset (s.rekey s₁ m₂) = .ok (s₂, rep₂)) :
    (∃ s' rep, s.apply charset (m₁.override m₂) = .ok (s', rep) ∧
        s'.container.code = s₂.container.code ∧ s'.assembly = s₂.assembly ∧
        ∀ (n : Nat) (e : JumpEntry), s.container.jumps[n]? = some e →
          s.Resolves e ∨ ¬ s₁.Resolves e →
          s'.container.jumps[n]? = s₂.container.jumps[n]?) ∧
      ∀ (t₁ t₂ : Script) (r₁ r₂ : RelocationReport), (∀ a ∈ m₁.keys, a ∉ m₂.keys) →
        s.apply charset m₂ = .ok (t₁, r₁) →
        t₁.apply charset (s.rekey t₁ m₁) = .ok (t₂, r₂) →
        t₂.container.code = s₂.container.code := by
  obtain ⟨hd, blocks, hb⟩ := exists_hasBlocks_of_load hs
  obtain ⟨blocks₁, hr₁, hle₁, rfl⟩ := hb.exists_rebuilt_of_apply h₁
  have hb₁ := hb.rebuilt hr₁ hle₁
  obtain ⟨blocks₂, hr₂, hle₂, rfl⟩ := hb₁.exists_rebuilt_of_apply h₂
  have hr := hb.rebuilt_override hb₁ hr₁ hr₂
  constructor
  · obtain ⟨rep, ha⟩ := hb.apply_of_rebuilt hr hle₂
    exact ⟨_, rep, ha, rfl, rfl, fun n e hn he =>
      (hb.getElem?_jumps hr₁ hle₁ hr₂.length_eq hn he).symm⟩
  · intro t₁ t₂ r₁ r₂ hdis ht₁ ht₂
    obtain ⟨blocks₃, hr₃, hle₃, rfl⟩ := hb.exists_rebuilt_of_apply ht₁
    have hb₃ := hb.rebuilt hr₃ hle₃
    obtain ⟨blocks₄, hr₄, -, rfl⟩ := hb₃.exists_rebuilt_of_apply ht₂
    have hr' := (hb.rebuilt_override hb₃ hr₃ hr₄).congr
      fun a => (Replacements.get?_override_comm hdis a).symm
    obtain rfl := hr.unique hr'
    rfl

/-- The sample with other payloads in its two string loads. -/
def sampleWith (p q : Bytes) : Script where
  container := {
    rows := [⟨.ofRaw (0x80000000 + .ofNat (14 + p.length)), 1⟩,
      ⟨.ofRaw (.ofNat (17 + p.length)), 2⟩, ⟨.ofRaw (.ofNat (19 + p.length + q.length)), 3⟩,
      ⟨.ofRaw 5, 4⟩]
    code := [1, 0xAB, 0, 0x6B] ++ p ++ [0, 0x77, 1, 2, 3, 4, 5, 6, 7, 8, 0x10, 0x77, 0x77, 0x6C] ++
      q ++ [0, 0x80, 1, 2, 3, 4, 5, 6, 7, 8] }
  assembly := {
    version := 1
    marker := 0x00AB
    instructions :=
      #[⟨3, 11 + p.length, 0x6B, true⟩, ⟨14 + p.length, 3, 0x10, false⟩,
        ⟨17 + p.length, 2 + q.length, 0x6C, false⟩,
        ⟨19 + p.length + q.length, 9, 0x80, false⟩] }

/-- Texts for the first string load and for no string load. -/
def sampleFirst : Replacements := ⟨[(3, "A$ b"), (16, "no load")], by decide⟩

/-- Texts for the second string load and for no string load. -/
def sampleSecond : Replacements := ⟨[(19, "Yes"), (23, "no load")], by decide⟩

theorem apply_override_sample :
    load sampleFile = .ok sample ∧ (∀ a ∈ sampleFirst.keys, a ∉ sampleSecond.keys) ∧
      ∃ s₁ rep₁ s₂ rep₂ t₁ r₁ t₂ r₂ s' rep,
        sample.apply .shiftJis sampleFirst = .ok (s₁, rep₁) ∧
        s₁.apply .shiftJis (sample.rekey s₁ sampleSecond) = .ok (s₂, rep₂) ∧
        sample.apply .shiftJis sampleSecond = .ok (t₁, r₁) ∧
        t₁.apply .shiftJis (sample.rekey t₁ sampleFirst) = .ok (t₂, r₂) ∧
        sample.apply .shiftJis (sampleFirst.override sampleSecond) = .ok (s', rep) ∧
        s'.container.code = s₂.container.code ∧ t₂.container.code = s₂.container.code := by
  have h₁ : sample.apply .shiftJis sampleFirst =
      .ok (sampleWith [0x21, 4, 4, 0x42] [0x39, 0x4F], ⟨1, [16], 3, [3]⟩) := by
    cbv
  have h₂ : (sampleWith [0x21, 4, 4, 0x42] [0x39, 0x4F]).apply .shiftJis
      (sample.rekey (sampleWith [0x21, 4, 4, 0x42] [0x39, 0x4F]) sampleSecond) =
        .ok (sampleWith [0x21, 4, 4, 0x42] [0x39, 0x45, 0x53], ⟨1, [25], 3, [3]⟩) := by
    cbv
  have ht₁ : sample.apply .shiftJis sampleSecond =
      .ok (sampleWith [0x28, 0x49] [0x39, 0x45, 0x53], ⟨1, [23], 3, [3]⟩) := by
    cbv
  have ht₂ : (sampleWith [0x28, 0x49] [0x39, 0x45, 0x53]).apply .shiftJis
      (sample.rekey (sampleWith [0x28, 0x49] [0x39, 0x45, 0x53]) sampleFirst) =
        .ok (sampleWith [0x21, 4, 4, 0x42] [0x39, 0x45, 0x53], ⟨1, [16], 3, [3]⟩) := by
    cbv
  have hdis : ∀ a ∈ sampleFirst.keys, a ∉ sampleSecond.keys := by decide
  obtain ⟨⟨s', rep, ha, hc, -⟩, hcomm⟩ := apply_override load_sampleFile h₁ h₂
  exact ⟨load_sampleFile, hdis, _, _, _, _, _, _, _, _, s', rep, h₁, h₂, ht₁, ht₂, ha, hc,
    hcomm _ _ _ _ hdis ht₁ ht₂⟩

/-- The exception for jump entries is needed: emptying the text moves the second instruction to the
target of an entry that referred to none, and a second import takes the entry along. -/
example :
    let s : Script := ⟨⟨[⟨.ofRaw 5, 0⟩], [1, 0xAB, 0, 0x6B, 0x28, 0x49, 0, 0x10, 1, 2]⟩,
      ⟨1, 0xAB, #[⟨3, 4, 0x6B, false⟩, ⟨7, 3, 0x10, false⟩]⟩⟩
    let emptied : Replacements := ⟨[(3, "")], by decide⟩
    let filled : Replacements := ⟨[(3, "Hello")], by decide⟩
    (s.after .utf8 [.apply emptied, .apply filled]).container.jumps = [.ofRaw 10] ∧
      (s.after .utf8 [.apply (emptied.override filled)]).container.jumps = [.ofRaw 5] := by
  intro s emptied filled
  constructor
  · cbv
  · cbv

end Script

end Dialogue
