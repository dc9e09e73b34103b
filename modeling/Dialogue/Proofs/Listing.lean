import Dialogue.Listing
import Dialogue.Proofs.Export
import Dialogue.Proofs.Report

/-!
# Listing, export and relocation

A listing takes the instructions and the jump entries in their order (`getElem?_entries`,
`getElem?_jumps`), with the text of each instruction if there is one to decode. The export stops
where the listing leaves a text out (`Script.decodes_iff`), and a relocation cannot match the jump
entries that the listing shows as unresolved. The main result is `listing_agrees`.
-/

namespace Dialogue

namespace Script

variable {s : Script} {charset : Charset} {i : Instruction} {is : List Instruction}
  {e : CharsetError}

/-! ## Texts that do not decode -/

theorem eq_undecodable_of_text? (h : s.text? charset i = some (.error e)) :
    e = .undecodable charset := by
  obtain ⟨payload, -, hd⟩ := Option.map_eq_some_iff.1 h
  unfold Charset.decode at hd
  split at hd
  · cases hd
  · cases hd
    rfl

theorem exists_text?_of_textsOf_error (h : s.textsOf charset is = .error e) :
    ∃ i ∈ is, s.text? charset i = some (.error e) := by
  induction is with
  | nil => cases h
  | cons i is ih =>
    have later (hr : s.textsOf charset is = .error e) :
        ∃ j ∈ i :: is, s.text? charset j = some (.error e) := by
      obtain ⟨j, hj, ht⟩ := ih hr
      exact ⟨j, List.mem_cons_of_mem _ hj, ht⟩
    unfold textsOf at h
    split at h
    · exact later h
    · next ht =>
      cases h
      exact ⟨i, List.mem_cons_self, ht⟩
    · split at h
      · next hr =>
        cases h
        exact later hr
      · cases h

theorem eq_undecodable_of_exportText (h : s.exportText charset = .error e) :
    e = .undecodable charset := by
  obtain ⟨i, -, ht⟩ := exists_text?_of_textsOf_error h
  exact eq_undecodable_of_text? ht

/-- There is no error for an instruction exactly if it has no payload or the payload decodes. -/
theorem decodes_iff : (∀ e, s.text? charset i ≠ some (.error e)) ↔
    ∀ payload, i.payload? s.container.code = some payload →
      ∃ text, s.decodedText? charset i = some text := by
  unfold decodedText? text?
  cases i.payload? s.container.code with
  | none => simp
  | some payload => cases h : charset.decode (Cipher.decrypt payload) <;> simp [h, Except.toOption]

end Script

namespace Listing

variable {s : Script} {charset : Charset}

/-! ## What stands where -/

theorem getElem?_entries (k : Nat) : (ofScript s charset).entries[k]? =
    s.assembly.instructions[k]?.map (entry s charset) := by
  simp [ofScript]

theorem getElem?_jumps (n : Nat) : (ofScript s charset).jumps[n]? =
    s.container.rows[n]?.map fun row => jump s.assembly row n := by
  simp [ofScript, List.getElem?_zipIdx, Function.comp_def]

theorem mem_unmatched_iff_not_resolved {n : Nat} {j : Jump}
    (hj : (ofScript s charset).jumps[n]? = some j) :
    n ∈ Relocation.unmatched s.assembly s.container.jumps ↔ j.resolved = false := by
  rw [getElem?_jumps] at hj
  obtain ⟨row, hrow, rfl⟩ := Option.map_eq_some_iff.1 hj
  rw [Relocation.mem_unmatched_iff, Container.jumps, List.getElem?_map, hrow]
  simp [jump]

/-! ## Agreement -/

/-- The export succeeds if no string load with a payload is listed without its text. -/
theorem exists_units_iff : (∃ units, s.exportText charset = .ok units) ↔
    ∀ (k : Nat) (i : Instruction) (payload : Bytes), s.assembly.instructions[k]? = some i →
      i.kind = .stringLoad → i.payload? s.container.code = some payload →
      ∃ e text, (ofScript s charset).entries[k]? = some e ∧ e.text = some text := by
  have hok : (∃ units, s.exportText charset = .ok units) ↔
      ∀ i ∈ s.assembly.instructions.toList, ∀ e, s.text? charset i ≠ some (.error e) := by
    simp only [Script.exportText_ok_iff, exists_and_left, exists_eq, and_true]
  rw [hok]
  constructor
  · intro h k i payload hk _ hp
    have hi : i ∈ s.assembly.instructions.toList :=
      Array.mem_toList_iff.2 (Array.mem_of_getElem? hk)
    obtain ⟨text, ht⟩ := Script.decodes_iff.1 (h i hi) payload hp
    exact ⟨_, text, by rw [getElem?_entries, hk]; rfl, ht⟩
  · intro h i hi
    refine Script.decodes_iff.2 fun payload hp => ?_
    obtain ⟨k, hk⟩ := List.mem_iff_getElem?.1 hi
    rw [Array.getElem?_toList] at hk
    have hl : i.isStringLoad = true :=
      Script.isStringLoad_of_exports (s := s) (by rw [Script.exports, hp]; rfl)
    obtain ⟨e, text, he, ht⟩ := h k i payload hk (of_decide_eq_true hl) hp
    rw [getElem?_entries, hk] at he
    cases he
    exact ⟨text, ht⟩

theorem units_eq {units : Artifact} (h : s.exportText charset = .ok units) : units =
    (ofScript s charset).entries.filterMap fun e => e.text.map (⟨e.address, ·⟩) := by
  rw [(Script.exportText_ok_iff.1 h).2, ofScript, List.filterMap_map]
  rfl

theorem resolved_iff {file : Bytes} (hs : Script.load file = .ok s) {n : Nat} {j : Jump}
    (hj : (ofScript s charset).jumps[n]? = some j) :
    j.resolved = true ↔ ∃ i ∈ s.assembly.instructions, i.address = j.target := by
  obtain ⟨hd, blocks, hb⟩ := Script.exists_hasBlocks_of_load hs
  rw [getElem?_jumps] at hj
  obtain ⟨row, -, rfl⟩ := Option.map_eq_some_iff.1 hj
  have hnone : s.assembly.find? row.jump.target = none ↔ _ :=
    Assembly.find?_eq_none_iff hb.ascending
  rw [jump, Option.isSome_iff_ne_none, Ne, hnone]
  simp

/-- The listing, the export and a relocation read a script alike. The export succeeds exactly if
each string load with a payload is listed with a text, and has the texts of the listing in their
order. If it fails, a payload does not decode, but the listing still has every instruction and every
jump entry. The jump entries listed as resolved are those that no relocation reports as
unmatched. -/
theorem listing_agrees {file : Bytes} (hs : Script.load file = .ok s) (charset : Charset) :
    ((∃ units, s.exportText charset = .ok units) ↔
      ∀ (k : Nat) (i : Instruction) (payload : Bytes), s.assembly.instructions[k]? = some i →
        i.kind = .stringLoad → i.payload? s.container.code = some payload →
        ∃ e text, (ofScript s charset).entries[k]? = some e ∧ e.text = some text) ∧
    (∀ units, s.exportText charset = .ok units → units =
      (ofScript s charset).entries.filterMap fun e => e.text.map (⟨e.address, ·⟩)) ∧
    (∀ e, s.exportText charset = .error e → e = .undecodable charset) ∧
    (ofScript s charset).entries.length = s.assembly.instructions.size ∧
    (∀ (k : Nat) (i : Instruction), s.assembly.instructions[k]? = some i → ∃ text,
      (ofScript s charset).entries[k]? =
        some ⟨i.address, i.length, i.opcode, i.kind, i.hasExtra, text⟩) ∧
    (ofScript s charset).jumps.length = s.container.jumps.length ∧
    (∀ (n : Nat) (e : JumpEntry) (aux : UInt16), s.container.jumps[n]? = some e →
      s.container.aux[n]? = some aux → ∃ resolved,
        (ofScript s charset).jumps[n]? = some ⟨n, e.target, e.flag, aux, resolved⟩) ∧
    ∀ (n : Nat) (j : Jump), (ofScript s charset).jumps[n]? = some j →
      (j.resolved = true ↔ ∃ i ∈ s.assembly.instructions, i.address = j.target) ∧
      ∀ (charset' : Charset) (m : Replacements) (r : Relocated),
        relocate charset' s.container s.assembly m = .ok r →
          (j.resolved = true ↔ n ∉ r.report.unmatched) := by
  refine ⟨exists_units_iff, fun _ => units_eq, fun _ => Script.eq_undecodable_of_exportText,
    by simp [ofScript], fun k i hk => ?_, by simp [ofScript, Container.jumps],
    fun n e aux he ha => ?_, fun n j hj => ⟨resolved_iff hs hj, fun charset' m r hr => ?_⟩⟩
  · exact ⟨_, by rw [getElem?_entries, hk]; rfl⟩
  · rw [Container.jumps, List.getElem?_map] at he
    rw [Container.aux, List.getElem?_map] at ha
    obtain ⟨row, hrow, rfl⟩ := Option.map_eq_some_iff.1 he
    rw [hrow] at ha
    cases ha
    exact ⟨_, by rw [getElem?_jumps, hrow]; rfl⟩
  · obtain ⟨hd, blocks, hb⟩ := Script.exists_hasBlocks_of_load hs
    have hu : r.report.unmatched = Relocation.unmatched s.assembly s.container.jumps := by
      rw [hb.report_of_relocate hr]
      rfl
    rw [hu, mem_unmatched_iff_not_resolved hj, Bool.not_eq_false]

/-- The second payload is no text in UTF-8, and the second jump entry leads into the first string
load. -/
def garbledFile : Bytes :=
  [2, 0, 0, 0, 3, 0, 0, 0x80, 5, 0, 0, 0, 7, 0, 9, 0,
    1, 0xAB, 0,
    0x6B, 0x28, 0x49, 0,
    0x6C, 0x8F, 0]

def garbled : Script where
  container := {
    rows := [⟨.ofRaw 0x80000003, 7⟩, ⟨.ofRaw 5, 9⟩]
    code := garbledFile.drop 16 }
  assembly := {
    version := 1
    marker := 0x00AB
    instructions := #[⟨3, 4, 0x6B, false⟩, ⟨7, 3, 0x6C, false⟩] }

theorem listing_agrees_garbled :
    Script.load garbledFile = .ok garbled ∧
      garbled.exportText .utf8 = .error (.undecodable .utf8) ∧
      (ofScript garbled .utf8).entries.length = 2 ∧
      garbled.exportText .shiftJis = .ok [⟨3, "Hi"⟩, ⟨7, "ｯ"⟩] ∧
      ∃ r j, relocate .utf8 garbled.container garbled.assembly .empty = .ok r ∧
        (ofScript garbled .utf8).jumps[1]? = some j ∧
        r.report.unmatched = [1] ∧ j.resolved = false := by
  have hs : Script.load garbledFile = .ok garbled := by cbv
  obtain ⟨e, he⟩ : ∃ e, garbled.exportText .utf8 = .error e := ⟨_, by cbv⟩
  obtain ⟨units, hu⟩ : ∃ units, garbled.exportText .shiftJis = .ok units := ⟨_, by cbv⟩
  obtain ⟨r, hr, hun⟩ : ∃ r, relocate .utf8 garbled.container garbled.assembly .empty = .ok r ∧
      r.report.unmatched = [1] := ⟨_, by cbv, rfl⟩
  obtain ⟨j, hj⟩ : ∃ j, (ofScript garbled .utf8).jumps[1]? = some j := ⟨_, rfl⟩
  obtain ⟨-, -, herr, hlen, -, -, -, hres⟩ := listing_agrees hs .utf8
  obtain ⟨-, hunits, -⟩ := listing_agrees hs .shiftJis
  have hlisted : (ofScript garbled .shiftJis).entries.filterMap
      (fun e => e.text.map (⟨e.address, ·⟩)) = ([⟨3, "Hi"⟩, ⟨7, "ｯ"⟩] : Artifact) := by cbv
  have hiff := (hres 1 j hj).2 .utf8 .empty r hr
  rw [hun] at hiff
  rw [herr e he] at he
  rw [hunits units hu, hlisted] at hu
  exact ⟨hs, he, hlen, hu, r, j, hr, hj, hun, by simpa using hiff⟩

end Listing

end Dialogue
