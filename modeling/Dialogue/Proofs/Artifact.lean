import Mathlib
import Dialogue.Proofs.Escape
import Dialogue.Proofs.Lines

/-!
# Reading a rendered artifact

The lines of a rendered artifact are, for each unit, a reference line, an editable line and
an empty line (`lines_render`); only the editable line counts, and it gives the address back
and the text with its escapes undone (`ofChars_editable`). So parsing collects the units
(`parse_render`), of which the last at an address is what a look-up finds
(`get?_collected`).
-/

namespace Dialogue

namespace Hex

theorem digit?_digit : ∀ n < 16, digit? (digit n) = some n := by decide

@[simp] theorem length_padded (width n : Nat) : (padded width n).length = width := by
  induction width with
  | zero => rfl
  | succ width ih => exact congrArg (· + 1) ih

theorem value?_padded (acc width n : Nat) :
    value? acc (padded width n) = some (acc * 16 ^ width + n % 16 ^ width) := by
  induction width generalizing acc with
  | zero =>
    rw [Nat.pow_zero, Nat.mul_one, Nat.mod_one]
    rfl
  | succ width ih =>
    have hd := digit?_digit (n >>> (4 * width) % 16) (Nat.mod_lt _ (by decide))
    have hs : n >>> (4 * width) = n / 16 ^ width := by
      rw [Nat.shiftRight_eq_div_pow, Nat.pow_mul]
    rw [padded, value?, hd]
    simp only [ih, Option.some.injEq, hs]
    rw [Nat.mod_pow_succ, Nat.pow_succ, Nat.add_mul, Nat.mul_comm (16 ^ width) (_ % 16),
      Nat.mul_comm 16 acc, Nat.mul_assoc, Nat.mul_comm 16 (16 ^ width)]
    omega

end Hex

namespace Artifact

/-! ## Lines -/

theorem linesFrom_cons {cur : List Char} (h : ∀ d ∈ cur, d ≠ '\r') (c : Char) (cs : List Char) :
    linesFrom cur (c :: cs) =
      if c = '\n' then cur.reverse :: linesFrom [] cs else linesFrom (c :: cur) cs := by
  rw [linesFrom]
  rintro ds rfl
  exact h '\r' List.mem_cons_self rfl

theorem linesFrom_append {line : List Char} (h : ∀ c ∈ line, c ≠ '\r' ∧ c ≠ '\n')
    {cur : List Char} (hcur : ∀ c ∈ cur, c ≠ '\r') (rest : List Char) :
    linesFrom cur (line ++ '\n' :: rest) = (cur.reverse ++ line) :: linesFrom [] rest := by
  induction line generalizing cur with
  | nil => rw [List.nil_append, linesFrom_cons hcur, if_pos rfl, List.append_nil]
  | cons c line ih =>
    obtain ⟨hr, hn⟩ := h c List.mem_cons_self
    have hcur' : ∀ d ∈ c :: cur, d ≠ '\r' := by
      intro d hd
      rcases List.mem_cons.1 hd with rfl | hd
      · exact hr
      · exact hcur d hd
    rw [List.cons_append, linesFrom_cons hcur, if_neg hn,
      ih (fun d hd => h d (List.mem_cons_of_mem _ hd)) hcur']
    simp

/-- A line of a rendered unit without its line feed. -/
def lineBody (marker : Char) (u : TextUnit) : List Char :=
  marker :: Hex.padded 8 u.address ++ marker :: escapeChars u.text.toList

theorem line_eq_lineBody (marker : Char) (u : TextUnit) :
    line marker u = lineBody marker u ++ ['\n'] := rfl

theorem digit_ne_lineBreak : ∀ n < 16, Hex.digit n ≠ '\r' ∧ Hex.digit n ≠ '\n' := by decide

theorem not_lineBreak_of_mem_padded {c : Char} {width n : Nat} (h : c ∈ Hex.padded width n) :
    c ≠ '\r' ∧ c ≠ '\n' := by
  induction width with
  | zero => exact absurd h List.not_mem_nil
  | succ width ih =>
    rcases List.mem_cons.1 h with rfl | h
    · exact digit_ne_lineBreak _ (Nat.mod_lt _ (by decide))
    · exact ih h

theorem not_lineBreak_of_mem_lineBody {marker c : Char} {u : TextUnit}
    (hm : marker ≠ '\r' ∧ marker ≠ '\n') (h : c ∈ lineBody marker u) : c ≠ '\r' ∧ c ≠ '\n' := by
  simp only [lineBody, List.cons_append, List.mem_cons, List.mem_append] at h
  rcases h with rfl | h | rfl | h
  · exact hm
  · exact not_lineBreak_of_mem_padded h
  · exact hm
  · exact not_lineBreak_of_mem_escapeChars h

/-- The lines that a unit is rendered as. -/
def unitLines (u : TextUnit) : List (List Char) :=
  [lineBody referenceMarker u, lineBody editableMarker u, []]

theorem linesFrom_renderUnit (u : TextUnit) (rest : List Char) :
    linesFrom [] (renderUnit u ++ rest) = unitLines u ++ linesFrom [] rest := by
  have href : ∀ c ∈ lineBody referenceMarker u, c ≠ '\r' ∧ c ≠ '\n' :=
    fun c hc => not_lineBreak_of_mem_lineBody (by decide) hc
  have hedit : ∀ c ∈ lineBody editableMarker u, c ≠ '\r' ∧ c ≠ '\n' :=
    fun c hc => not_lineBreak_of_mem_lineBody (by decide) hc
  have hnil : ∀ c ∈ ([] : List Char), c ≠ '\r' := by simp
  simp only [renderUnit, line_eq_lineBody, List.append_assoc, List.cons_append, List.nil_append]
  rw [linesFrom_append href hnil, linesFrom_append hedit hnil, linesFrom_cons hnil, if_pos rfl]
  rfl

theorem lines_render (units : Artifact) : lines (render units) = units.flatMap unitLines := by
  have h : linesFrom [] (units.flatMap renderUnit) = units.flatMap unitLines := by
    induction units with
    | nil => rfl
    | cons u units ih => rw [List.flatMap_cons, linesFrom_renderUnit, ih]; rfl
  rw [lines, render, String.toList_ofList, ← h]
  cases units with
  | nil => rfl
  | cons u units => rfl

/-! ## Editable lines -/

theorem readAddress_padded {address : Nat} (h : address < 0x100000000) (text : List Char) :
    readAddress (Hex.padded 8 address ++ editableMarker :: text) = some (address, text) := by
  have hv : Hex.value? 0 (Hex.padded 8 address) = some address := by
    have hm : address % 16 ^ 8 = address := Nat.mod_eq_of_lt h
    rw [Hex.value?_padded, Nat.zero_mul, Nat.zero_add, hm]
  exact readAddress_eq_some_iff.2 ⟨_, ⟨Hex.length_padded 8 address, hv⟩, rfl⟩

theorem ofChars_reference (u : TextUnit) :
    Line.ofChars (lineBody referenceMarker u) = .skipped := ofChars_reference_cons _

theorem ofChars_editable {u : TextUnit} (h : u.address < 0x100000000) :
    Line.ofChars (lineBody editableMarker u) = .editable u.address (unescape u.text) := by
  rw [lineBody, List.cons_append, ofChars_editable_cons, readAddress_padded h, unescape,
    ← unescapeChars_escapeChars]

/-! ## Collecting -/

/-- What is collected from the lines of units, after `found`. -/
def collected (found : Replacements) (units : Artifact) : Replacements :=
  units.foldl (fun m u => m.insert u.address (unescape u.text)) found

theorem collect_unitLines {units : Artifact} (h : ∀ u ∈ units, u.address < 0x100000000)
    (n : Nat) (found : Replacements) :
    collect n found (units.flatMap unitLines) = .ok (collected found units) := by
  induction units generalizing n found with
  | nil => rfl
  | cons u units ih =>
    have hnil : Line.ofChars [] = .skipped := rfl
    simp only [List.flatMap_cons, unitLines, List.cons_append, List.nil_append, collect,
      ofChars_reference, ofChars_editable (h u List.mem_cons_self), hnil]
    exact ih (fun v hv => h v (List.mem_cons_of_mem _ hv)) _ _

/-- Parsing a rendered artifact succeeds and collects its units. -/
theorem parse_render {units : Artifact} (h : ∀ u ∈ units, u.address < 0x100000000) :
    parse (render units) = .ok (collected .empty units) := by
  rw [parse, lines_render, collect_unitLines h]

/-- The text of the last unit with this address. -/
def lastText? (units : Artifact) (address : Nat) : Option String :=
  (units.findRev? (·.address = address)).map (·.text)

theorem get?_collected (found : Replacements) (units : Artifact) (address : Nat) :
    (collected found units).get? address =
      ((lastText? units address).map unescape).or (found.get? address) := by
  induction units generalizing found with
  | nil => rfl
  | cons u units ih =>
    have hi := ih (found.insert u.address (unescape u.text))
    rw [Replacements.get?_insert] at hi
    rw [collected, List.foldl_cons]
    refine hi.trans ?_
    unfold lastText?
    rw [List.findRev?]
    cases units.findRev? (·.address = address) with
    | some v => rfl
    | none =>
      by_cases ha : u.address = address
      · simp [ha]
      · simp [ha, Ne.symm ha]

theorem get?_collected_empty (units : Artifact) (address : Nat) :
    (collected .empty units).get? address = (lastText? units address).map unescape :=
  (get?_collected .empty units address).trans Option.or_none

/-- A rendered artifact reads back: parsing succeeds, and at each address finds the text of the
last unit with this address, in which a backslash before `r` or `n` has become the line break it
stands for. So exactly the texts without such a pair read back as they were. -/
theorem parse_render_reads_last {units : Artifact} (h : ∀ u ∈ units, u.address < 0x100000000) :
    ∃ m, parse (render units) = .ok m ∧
      (∀ address, m.get? address = (lastText? units address).map unescape) ∧
      ∀ address text, lastText? units address = some text →
        (m.get? address = some text ↔ ¬ HasEscape text.toList) := by
  refine ⟨_, parse_render h, get?_collected_empty units, fun address text ht => ?_⟩
  rw [get?_collected_empty, ht, Option.map_some, Option.some.injEq, unescape_eq_self_iff]

/-- An address given twice, and texts with line breaks, a marker, a byte order mark, and a
backslash that does or does not stand before `n`. -/
def sampleUnits : Artifact :=
  [⟨0xFFFFFFFF, "first"⟩, ⟨3, "\r◆\n\\"⟩, ⟨0xFFFFFFFF, "\uFEFF a\\n "⟩]

theorem parse_render_reads_last_sample :
    (∀ u ∈ sampleUnits, u.address < 0x100000000) ∧
      ∃ m, parse (render sampleUnits) = .ok m ∧
        m.get? 3 = some "\r◆\n\\" ∧ m.get? 0xFFFFFFFF = some "\uFEFF a\n " := by
  have h : ∀ u ∈ sampleUnits, u.address < 0x100000000 := by decide
  obtain ⟨m, hm, hg, -⟩ := parse_render_reads_last h
  exact ⟨h, m, hm, (hg 3).trans (by cbv), (hg 0xFFFFFFFF).trans (by cbv)⟩

/-- A text that holds a backslash before `n` does not read back as it was. -/
theorem not_parse_render_verbatim :
    ¬ ∀ units : Artifact, (∀ u ∈ units, u.address < 0x100000000) →
      ∃ m, parse (render units) = .ok m ∧
        ∀ address, m.get? address = lastText? units address := by
  intro h
  obtain ⟨m, hm, hg⟩ := h [⟨3, "\\n"⟩] (by decide)
  have hp : parse (render [⟨3, "\\n"⟩]) = .ok ⟨[(3, "\n")], by simp⟩ := by cbv
  rw [hp] at hm
  cases hm
  exact absurd (hg 3) (by decide)

end Artifact

end Dialogue
