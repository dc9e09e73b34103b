import Dialogue.Proofs.Artifact
import Dialogue.Proofs.Script

/-!
# Exported units

An exported artifact has one unit for each string load with a payload, in their order
(`addresses_of_exportText`), so its addresses ascend and fit their eight digits, and what the
rendered artifact says of an address is what the unit there says. `exportText_ok_iff` says when
the export succeeds and which units it has.
-/

namespace Dialogue

namespace Artifact

theorem exists_mem_of_lastText? {units : Artifact} {address : Nat} {text : String}
    (h : lastText? units address = some text) : ∃ u ∈ units, u.address = address ∧ u.text = text := by
  obtain ⟨u, hu, rfl⟩ := Option.map_eq_some_iff.1 h
  rw [List.findRev?_eq_find?_reverse] at hu
  exact ⟨u, List.mem_reverse.1 (List.mem_of_find?_eq_some hu), by
    simpa using List.find?_some hu, rfl⟩

theorem lastText?_of_mem {units : Artifact} (hp : units.Pairwise (·.address < ·.address))
    {u : TextUnit} (hu : u ∈ units) : lastText? units u.address = some u.text := by
  cases h : lastText? units u.address with
  | none =>
    rw [lastText?, Option.map_eq_none_iff, List.findRev?_eq_find?_reverse, List.find?_eq_none] at h
    exact absurd (decide_eq_true rfl) (h u (List.mem_reverse.2 hu))
  | some text =>
    obtain ⟨v, hv, ha, rfl⟩ := exists_mem_of_lastText? h
    rw [Assembly.eq_of_pairwise_lt hp hv hu ha]

end Artifact

namespace Script

section
variable {charset : Charset} {s : Script} {hd : Header} {blocks : List Block} {units : Artifact}

/-- Whether an instruction is exported. -/
def exports (s : Script) (i : Instruction) : Bool := (i.payload? s.container.code).isSome

theorem addresses_of_textsOf {is : List Instruction} (h : s.textsOf charset is = .ok units) :
    units.map (·.address) = (is.filter s.exports).map (·.address) := by
  induction is generalizing units with
  | nil =>
    cases h
    rfl
  | cons i is ih =>
    simp only [textsOf, text?] at h
    cases hp : i.payload? s.container.code with
    | none =>
      rw [hp] at h
      rw [List.filter_cons_of_neg (by simp [exports, hp])]
      exact ih h
    | some payload =>
      rw [hp] at h
      rw [List.filter_cons_of_pos (by simp [exports, hp])]
      simp only [Option.map_some] at h
      split at h
      · next hn => cases hn
      · cases h
      · split at h
        · cases h
        · next rest hr =>
          cases h
          rw [List.map_cons, List.map_cons, ih hr]

theorem isStringLoad_of_exports {i : Instruction} (h : s.exports i = true) :
    i.isStringLoad = true := by
  rw [exports, Instruction.payload?, Option.isSome_map, Instruction.payloadRange] at h
  split at h
  · next hl => exact hl.1
  · cases h

/-- The exported addresses are those of the string loads that have a payload. -/
theorem addresses_of_exportText (hx : s.exportText charset = .ok units) :
    units.map (·.address) = (s.assembly.instructions.toList.filter s.exports).map (·.address) := by
  rw [addresses_of_textsOf hx, Assembly.stringLoads, List.filter_filter]
  congr 1
  apply List.filter_congr
  intro i _
  cases h : s.exports i with
  | false => rfl
  | true => rw [isStringLoad_of_exports h, Bool.true_and]

theorem exists_load_of_mem (hx : s.exportText charset = .ok units) {u : TextUnit} (hu : u ∈ units) :
    ∃ i ∈ s.assembly.instructions.toList, i.address = u.address ∧ s.exports i = true := by
  have ha : u.address ∈ units.map (·.address) := List.mem_map_of_mem hu
  rw [addresses_of_exportText hx] at ha
  obtain ⟨i, hi, he⟩ := List.mem_map.1 ha
  obtain ⟨hi, hp⟩ := List.mem_filter.1 hi
  exact ⟨i, hi, he, hp⟩

theorem exists_unit_of_exports (hx : s.exportText charset = .ok units) {i : Instruction}
    (hi : i ∈ s.assembly.instructions.toList) (hp : s.exports i = true) :
    ∃ u ∈ units, u.address = i.address := by
  have ha : i.address ∈ units.map (·.address) := by
    rw [addresses_of_exportText hx]
    exact List.mem_map_of_mem (List.mem_filter.2 ⟨hi, hp⟩)
  exact List.mem_map.1 ha

/-! ## The units -/

/-- The text of a string load, unless it is empty or cannot be decoded. -/
def decodedText? (s : Script) (charset : Charset) (i : Instruction) : Option String :=
  (s.text? charset i).bind Except.toOption

theorem isStringLoad_of_text? {i : Instruction} {r : Except CharsetError String}
    (h : s.text? charset i = some r) : i.isStringLoad = true := by
  obtain ⟨payload, hp, -⟩ := Option.map_eq_some_iff.1 h
  exact isStringLoad_of_exports (s := s) (by rw [exports, hp, Option.isSome_some])

theorem textsOf_ok_iff {is : List Instruction} :
    s.textsOf charset is = .ok units ↔ (∀ i ∈ is, ∀ e, s.text? charset i ≠ some (.error e)) ∧
      units = is.filterMap fun i => (s.decodedText? charset i).map (⟨i.address, ·⟩) := by
  induction is generalizing units with
  | nil => simp [textsOf, eq_comm]
  | cons i is ih =>
    rw [textsOf, List.forall_mem_cons, List.filterMap_cons]
    simp only [decodedText?] at ih ⊢
    cases ht : s.text? charset i with
    | none => simpa using ih
    | some r => cases r with
      | error e => simp
      | ok text =>
        simp only [Option.bind_some, Except.toOption, Option.map_some]
        constructor
        · intro h
          split at h
          · cases h
          · next rest hr =>
            cases h
            obtain ⟨hok, rfl⟩ := ih.1 hr
            exact ⟨⟨by simp, hok⟩, rfl⟩
        · rintro ⟨⟨-, hok⟩, rfl⟩
          rw [ih.2 ⟨hok, rfl⟩]

/-- The export succeeds if all texts can be decoded, and has a unit for each of them. -/
theorem exportText_ok_iff :
    s.exportText charset = .ok units ↔
      (∀ i ∈ s.assembly.instructions.toList, ∀ e, s.text? charset i ≠ some (.error e)) ∧
        units = s.assembly.instructions.toList.filterMap fun i =>
          (s.decodedText? charset i).map (⟨i.address, ·⟩) := by
  rw [exportText, textsOf_ok_iff, Assembly.stringLoads, List.filterMap_filter]
  refine and_congr ⟨fun h i hi e he => ?_, fun h i hi => h i (List.mem_filter.1 hi).1⟩ ?_
  · exact h i (List.mem_filter.2 ⟨hi, isStringLoad_of_text? he⟩) e he
  · refine Eq.congr_right (List.filterMap_congr fun i _ => ?_)
    split
    · rfl
    · next hn =>
      cases ht : s.text? charset i with
      | none => simp [decodedText?, ht]
      | some r => exact absurd (isStringLoad_of_text? ht) hn

theorem HasBlocks.pairwise_units (hb : s.HasBlocks hd blocks)
    (hx : s.exportText charset = .ok units) : units.Pairwise (·.address < ·.address) := by
  have hp : (units.map (·.address)).Pairwise (· < ·) := by
    rw [addresses_of_exportText hx, List.pairwise_map]
    exact hb.ascending.filter s.exports
  exact List.pairwise_map.1 hp

theorem HasBlocks.address_lt (hb : s.HasBlocks hd blocks) {i : Instruction}
    (hi : i ∈ s.assembly.instructions.toList) : i.address < s.container.code.length := by
  obtain ⟨k, b, -, rfl, front, back, hc, hl⟩ := hb.block_of_mem hi
  rw [hc, List.length_append, List.length_append, hl, b.length_bytes]
  simp only [Block.instruction]
  omega

theorem HasBlocks.unit_address_lt (hb : s.HasBlocks hd blocks)
    (hx : s.exportText charset = .ok units) {u : TextUnit} (hu : u ∈ units) :
    u.address < 0x100000000 := by
  obtain ⟨i, hi, he, -⟩ := exists_load_of_mem hx hu
  have hlt := hb.address_lt hi
  have hle := hb.length_le
  simp only [addressLimit] at hle
  omega

end

end Script

end Dialogue
