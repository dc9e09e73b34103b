import Dialogue.Proofs.Dollar
import Dialogue.Proofs.Reimport

/-!
# Reading back what was imported

A replaced string load is exported as its new text with spaces for dollar signs, a kept one as
before (`text?_of_becomes`). Old and new instructions go in pairs (`HasBlocks.becomes_of_mem_zip`),
so the export of the rebuilt script is known pair by pair. The main result is
`Script.exportText_of_apply`.
-/

namespace Dialogue

namespace Script

open Relocation

section
variable {charset : Charset} {m : Replacements} {s s' : Script} {hd : Header}
  {blocks blocks' : List Block} {b b' : Block} {pos pos' : Nat}

/-- The text that an instruction is exported with after an import. -/
def textAfter (s : Script) (charset : Charset) (m : Replacements) (i : Instruction) :
    Option String :=
  match replacement? m i with
  | some text => if text = "" then none else some (spaced text)
  | none => s.decodedText? charset i

/-! ## One string load -/

theorem text?_of_at (h : b.At s.container.code pos) (hk : b.opcode.kind = .stringLoad) :
    s.text? charset (b.instruction pos) =
      if b.text = [] then none else some (charset.decode (Cipher.decrypt b.text)) := by
  rw [text?, h.payload?_eq hk]
  split <;> rfl

theorem text?_of_kind_ne (hk : b.opcode.kind ≠ .stringLoad) :
    s.text? charset (b.instruction pos) = none := by
  cases ht : s.text? charset (b.instruction pos) with
  | none => rfl
  | some r => exact absurd (of_decide_eq_true (isStringLoad_of_text? ht)) hk

theorem text_withText {text : Bytes} (hop : b.opcode.operand = .text) (hz : (0 : UInt8) ∉ text) :
    (b.withText text hop hz).text = text :=
  List.dropLast_concat

theorem text_eq_nil_iff {text : String} {plain : Bytes} (he : charset.encode text = .ok plain)
    (hd : charset.decode plain = .ok text) : plain = [] ↔ text = "" := by
  constructor
  · rintro rfl
    rw [charset.decode_nil] at hd
    cases hd
    rfl
  · rintro rfl
    rw [charset.encode_empty] at he
    cases he
    rfl

/-- A replaced text comes back with spaces for dollar signs; other texts come back unchanged. -/
theorem text?_of_becomes (h : Becomes charset m pos b b') (hat : b.At s.container.code pos)
    (hat' : b'.At s'.container.code pos')
    (henc : ∀ text, replacement? m (b.instruction pos) = some text →
      ∃ plain, charset.encode text = .ok plain ∧ charset.decode plain = .ok text) :
    s'.text? charset (b'.instruction pos') =
      match replacement? m (b.instruction pos) with
      | some text => if text = "" then none else some (.ok (spaced text))
      | none => s.text? charset (b.instruction pos) := by
  cases h with
  | kept hn =>
    rw [hn]
    by_cases hk : b.opcode.kind = .stringLoad
    · rw [text?_of_at hat' hk, text?_of_at hat hk]
    · rw [text?_of_kind_ne hk, text?_of_kind_ne hk]
  | @replaced text plain hop hr he =>
    obtain ⟨plain', he', hd⟩ := henc text hr
    rw [he, Except.ok.injEq] at he'
    subst he'
    have hk : b.opcode.kind = .stringLoad := (stringLoad_of_replacement? hr).1
    rw [text?_of_at hat' hk, text_withText, hr, Cipher.decrypt_encrypt,
      charset.decode_map_spaceByte, hd]
    simp only [Cipher.encrypt, List.map_eq_nil_iff, text_eq_nil_iff he hd]
    rfl

/-! ## All instructions -/

/-- Old and new instructions go in pairs, and each pair is a block and what it has become. -/
theorem HasBlocks.becomes_of_mem_zip (hb : s.HasBlocks hd blocks)
    (hb' : s'.HasBlocks hd blocks') (hr : Rebuilt charset m Assembly.headerSize blocks blocks')
    {p : Instruction × Instruction}
    (hp : p ∈ s.assembly.instructions.toList.zip s'.assembly.instructions.toList) :
    ∃ b b' pos pos', p = (b.instruction pos, b'.instruction pos') ∧
      Becomes charset m pos b b' ∧ b.At s.container.code pos ∧ b'.At s'.container.code pos' := by
  obtain ⟨k, hk⟩ := List.mem_iff_getElem?.1 hp
  rw [List.getElem?_zip_eq_some, Array.getElem?_toList, Array.getElem?_toList] at hk
  obtain ⟨b, hbk, hi, hat⟩ := hb.block_of_getElem? hk.1
  obtain ⟨b', hbk', hi', hat'⟩ := hb'.block_of_getElem? hk.2
  obtain ⟨c, hc, hbc⟩ := hr.getElem? hbk
  rw [hbk', Option.some.injEq] at hc
  subst hc
  exact ⟨b, b', _, _, Prod.ext hi hi', hbc, hat, hat'⟩

/-- The charset can hold every text that is imported. -/
def HoldsTexts (s : Script) (charset : Charset) (m : Replacements) : Prop :=
  ∀ i ∈ s.assembly.stringLoads, ∀ text, m.get? i.address = some text →
    ∃ plain, charset.encode text = .ok plain ∧ charset.decode plain = .ok text

/-- Every text that is not replaced can be exported. -/
def KeepsTexts (s : Script) (charset : Charset) (m : Replacements) : Prop :=
  ∀ i ∈ s.assembly.stringLoads, m.get? i.address = none →
    ∀ payload, i.payload? s.container.code = some payload →
      ∃ text, charset.decode (Cipher.decrypt payload) = .ok text

theorem KeepsTexts.text?_ne_error (hk : s.KeepsTexts charset m) {i : Instruction}
    (hi : i ∈ s.assembly.instructions.toList) (hn : replacement? m i = none) (e : CharsetError) :
    s.text? charset i ≠ some (.error e) := by
  intro ht
  have hl := isStringLoad_of_text? ht
  obtain ⟨payload, hp, hd⟩ := Option.map_eq_some_iff.1 ht
  rw [replacement?, if_pos hl] at hn
  obtain ⟨text, he⟩ := hk i (List.mem_filter.2 ⟨hi, hl⟩) hn payload hp
  rw [he] at hd
  cases hd

section
variable (hb : s.HasBlocks hd blocks) (hb' : s'.HasBlocks hd blocks')
  (hr : Rebuilt charset m Assembly.headerSize blocks blocks') (hh : s.HoldsTexts charset m)
include hb hb' hr

theorem HasBlocks.map_snd_zip :
    (s.assembly.instructions.toList.zip s'.assembly.instructions.toList).map Prod.snd =
      s'.assembly.instructions.toList := by
  apply List.map_snd_zip
  rw [Array.length_toList, Array.length_toList, hb.size_eq_of_rebuilt hb' hr]

include hh

theorem HasBlocks.text?_of_mem_zip {p : Instruction × Instruction}
    (hp : p ∈ s.assembly.instructions.toList.zip s'.assembly.instructions.toList) :
    s'.text? charset p.2 =
      match replacement? m p.1 with
      | some text => if text = "" then none else some (.ok (spaced text))
      | none => s.text? charset p.1 := by
  have hi := (List.of_mem_zip hp).1
  obtain ⟨b, b', pos, pos', rfl, hbc, hat, hat'⟩ := hb.becomes_of_mem_zip hb' hr hp
  refine text?_of_becomes hbc hat hat' fun text ht => ?_
  obtain ⟨hk, hg⟩ := stringLoad_of_replacement? ht
  exact hh _ (List.mem_filter.2 ⟨hi, decide_eq_true hk⟩) text hg

theorem HasBlocks.exportText_of_rebuilt (hk : s.KeepsTexts charset m) :
    s'.exportText charset = .ok
      ((s.assembly.instructions.toList.zip s'.assembly.instructions.toList).filterMap fun p =>
        (s.textAfter charset m p.1).map (⟨p.2.address, ·⟩)) := by
  refine exportText_ok_iff.2 ⟨?_, ?_⟩
  · intro i' hi' e he
    rw [← hb.map_snd_zip hb' hr] at hi'
    obtain ⟨p, hp, rfl⟩ := List.mem_map.1 hi'
    rw [hb.text?_of_mem_zip hb' hr hh hp] at he
    cases hn : replacement? m p.1 with
    | none =>
      rw [hn] at he
      exact hk.text?_ne_error (List.of_mem_zip hp).1 hn e he
    | some text =>
      rw [hn] at he
      dsimp only at he
      split at he <;> cases he
  · conv_rhs => rw [← hb.map_snd_zip hb' hr, List.filterMap_map]
    refine List.filterMap_congr fun p hp => ?_
    simp only [Function.comp, textAfter, decodedText?, hb.text?_of_mem_zip hb' hr hh hp]
    cases replacement? m p.1 with
    | none => rfl
    | some text =>
      dsimp only
      split <;> rfl

end

end

/-- After an import of texts that their charset can hold, the export has, in the order of the
instructions and under their new addresses: each text imported, unless it is empty, with spaces
for its dollar signs, and each text that was not replaced, as it was exported before. -/
theorem exportText_of_apply {file : Bytes} {s s' : Script} {charset : Charset} {m : Replacements}
    {rep : RelocationReport} (hs : load file = .ok s) (ha : s.apply charset m = .ok (s', rep))
    (hh : s.HoldsTexts charset m) (hk : s.KeepsTexts charset m) :
    s'.assembly.instructions.size = s.assembly.instructions.size ∧
      s'.exportText charset = .ok
        ((s.assembly.instructions.toList.zip s'.assembly.instructions.toList).filterMap fun p =>
          (s.textAfter charset m p.1).map (⟨p.2.address, ·⟩)) ∧
      ∀ units, s.exportText charset = .ok units →
        units = s.assembly.instructions.toList.filterMap fun i =>
          (s.decodedText? charset i).map (⟨i.address, ·⟩) := by
  obtain ⟨hd, blocks, hb⟩ := exists_hasBlocks_of_load hs
  obtain ⟨blocks', hr, hle, rfl⟩ := hb.exists_rebuilt_of_apply ha
  have hb' := hb.rebuilt hr hle
  exact ⟨hb.size_eq_of_rebuilt hb' hr, hb.exportText_of_rebuilt hb' hr hh hk,
    fun units hx => (exportText_ok_iff.1 hx).2⟩

def dollarReplacements : Replacements := ⟨[(3, "$ 5")], by decide⟩

/-- A text with a dollar sign comes back with a space, and the text behind it as it was. -/
theorem exportText_of_apply_sample :
    load sampleFile = .ok sample ∧ sample.HoldsTexts .shiftJis dollarReplacements ∧
      sample.KeepsTexts .shiftJis dollarReplacements ∧
      ∃ s' rep, sample.apply .shiftJis dollarReplacements = .ok (s', rep) ∧
        s'.exportText .shiftJis = .ok [⟨3, "  5"⟩, ⟨20, "Yo"⟩] := by
  have ha : sample.apply .shiftJis dollarReplacements = .ok
      (⟨sample.container.replaceCode
          [.ofRaw 0x80000011, .ofRaw 20, .ofRaw 24, .ofRaw 5]
          [1, 0xAB, 0,
            0x6B, 0x04, 0x04, 0x15, 0, 0x77, 1, 2, 3, 4, 5, 6, 7, 8,
            0x10, 0x77, 0x77,
            0x6C, 0x39, 0x4F, 0,
            0x80, 1, 2, 3, 4, 5, 6, 7, 8],
        ⟨1, 0x00AB, #[⟨3, 14, 0x6B, true⟩, ⟨17, 3, 0x10, false⟩, ⟨20, 4, 0x6C, false⟩,
          ⟨24, 9, 0x80, false⟩]⟩⟩, ⟨1, [], 3, [3]⟩) := by
    cbv
  have hl : sample.assembly.stringLoads = [⟨3, 13, 0x6B, true⟩, ⟨19, 4, 0x6C, false⟩] := by
    decide
  have hh : sample.HoldsTexts .shiftJis dollarReplacements := by
    intro i hi text ht
    rw [hl] at hi
    simp only [List.mem_cons, List.not_mem_nil, or_false] at hi
    rcases hi with rfl | rfl
    · cases ht
      exact ⟨[0x24, 0x20, 0x35], by cbv, by cbv⟩
    · cases ht
  have hk : sample.KeepsTexts .shiftJis dollarReplacements := by
    intro i hi hn payload hp
    rw [hl] at hi
    simp only [List.mem_cons, List.not_mem_nil, or_false] at hi
    rcases hi with rfl | rfl
    · cases hn
    · cases hp
      exact ⟨"Yo", by cbv⟩
  refine ⟨load_sampleFile, hh, hk, _, _, ha, ?_⟩
  rw [(exportText_of_apply load_sampleFile ha hh hk).2.1]
  cbv

end Script

end Dialogue
