import Dialogue.Proofs.Artifact
import Dialogue.Proofs.Lines
import Dialogue.Proofs.Replacements

/-!
# The grammar of artifacts

A text is split at its line feeds, after at most one byte order mark (`splitLines`). An editable
line holds an address in the eight digits that it is written with, in either case (`Hex.IsWord`),
and a rest (`IsEditable`). Parsing puts the entries of the editable lines into a map, one after the
other, if all lines are well formed (`parse_ok_iff`). `parse_accepts_grammar` says which texts are
parsed and what is found in the map, and where the others fail.
-/

namespace Dialogue

namespace Hex

/-! ## Numerals -/

theorem toUpper_of_digit? :
    ∀ n < 128, ∀ d ∈ digit? (Char.ofNat n), d < 16 ∧ (Char.ofNat n).toUpper = digit d := by
  decide +kernel

theorem digit?_of_toUpper :
    ∀ n < 128, ∀ d < 16, (Char.ofNat n).toUpper = digit d → digit? (Char.ofNat n) = some d := by
  decide +kernel

theorem digit_lt : ∀ d < 16, (digit d).toNat < 128 := by decide

theorem toNat_lt_of_isDigit {c : Char} (h : IsDigit c) : c.toNat < 128 := by
  have h9 : '9'.toNat = 57 := rfl
  have hF : 'F'.toNat = 70 := rfl
  have hf : 'f'.toNat = 102 := rfl
  rcases h with ⟨-, h⟩ | ⟨-, h⟩ | ⟨-, h⟩
  all_goals
    have := UInt32.le_iff_toNat_le.1 (Char.le_def.1 h)
    unfold Char.toNat at *
    omega

theorem toNat_lt_of_toUpper {c : Char} (h : c.toUpper.toNat < 128) : c.toNat < 128 := by
  unfold Char.toUpper at h
  split at h
  · next hc =>
    have hz : 'z'.val.toNat = 122 := rfl
    have := UInt32.le_iff_toNat_le.1 hc.2
    unfold Char.toNat
    omega
  · exact h

/-- A digit is read exactly if it is written that way, in either case. -/
theorem digit?_eq_some_iff {c : Char} {d : Nat} :
    digit? c = some d ↔ d < 16 ∧ c.toUpper = digit d := by
  constructor
  · intro h
    have hc : IsDigit c := digit?_isSome_iff.1 (by rw [h]; rfl)
    have ht := toUpper_of_digit? c.toNat (toNat_lt_of_isDigit hc)
    rw [Char.ofNat_toNat] at ht
    exact ht d h
  · rintro ⟨hd, hu⟩
    have hc : c.toNat < 128 := toNat_lt_of_toUpper (hu ▸ digit_lt d hd)
    have ht := digit?_of_toUpper c.toNat hc d hd
    rw [Char.ofNat_toNat] at ht
    exact ht hu

theorem padded_mod {width v : Nat} (h : width ≤ v) (n : Nat) :
    padded width (n % 16 ^ v) = padded width n := by
  induction width with
  | zero => rfl
  | succ width ih =>
    obtain ⟨k, rfl⟩ := Nat.exists_eq_add_of_le h
    have hv : (16 : Nat) ^ (width + 1 + k) = 16 ^ width * (16 * 16 ^ k) := by
      rw [Nat.pow_add, Nat.pow_succ, Nat.mul_assoc]
    rw [padded, padded, ih (by omega), Nat.shiftRight_eq_div_pow, Nat.shiftRight_eq_div_pow,
      Nat.pow_mul]
    show digit (n % 16 ^ (width + 1 + k) / 16 ^ width % 16) :: _ = _
    rw [hv, Nat.mod_mul_right_div_self, Nat.mod_mul_right_mod]

theorem padded_cons {width d r : Nat} (hd : d < 16) (hr : r < 16 ^ width) :
    padded (width + 1) (d * 16 ^ width + r) = digit d :: padded width r := by
  have hq : (d * 16 ^ width + r) / 16 ^ width = d := by
    rw [Nat.mul_comm, Nat.mul_add_div (Nat.pow_pos (by decide)), Nat.div_eq_of_lt hr, Nat.add_zero]
  have hm : (d * 16 ^ width + r) % 16 ^ width = r := by
    rw [Nat.mul_comm, Nat.mul_add_mod, Nat.mod_eq_of_lt hr]
  rw [padded, Nat.shiftRight_eq_div_pow, Nat.pow_mul]
  show digit ((d * 16 ^ width + r) / 16 ^ width % 16) :: _ = _
  rw [hq, Nat.mod_eq_of_lt hd, ← padded_mod (Nat.le_refl width), hm]

/-- A number below a power of sixteen is its first digit and a number below the power before. -/
theorem exists_first_digit {width n : Nat} (h : n < 16 ^ (width + 1)) :
    ∃ d < 16, ∃ r < 16 ^ width, n = d * 16 ^ width + r := by
  have hpos : 0 < 16 ^ width := Nat.pow_pos (by decide)
  refine ⟨n / 16 ^ width, ?_, n % 16 ^ width, Nat.mod_lt _ hpos, (Nat.div_add_mod' ..).symm⟩
  rw [Nat.div_lt_iff_lt_mul hpos, Nat.mul_comm, ← Nat.pow_succ]
  exact h

/-- A numeral is read exactly if it is written that way, in either case. -/
theorem value?_eq_some_iff {acc n : Nat} {ds : List Char} :
    value? acc ds = some n ↔ ∃ r < 16 ^ ds.length,
      ds.map Char.toUpper = padded ds.length r ∧ n = acc * 16 ^ ds.length + r := by
  induction ds generalizing acc with
  | nil => simp [value?, padded, eq_comm]
  | cons c ds ih =>
    rw [value?, List.length_cons, List.map_cons]
    constructor
    · intro h
      cases hd : digit? c with
      | none => simp [hd] at h
      | some d =>
        rw [hd] at h
        obtain ⟨hlt, hu⟩ := digit?_eq_some_iff.1 hd
        obtain ⟨r, hr, hds, rfl⟩ := ih.1 h
        refine ⟨d * 16 ^ ds.length + r, ?_, by rw [padded_cons hlt hr, hu, hds], by ring⟩
        calc d * 16 ^ ds.length + r < (d + 1) * 16 ^ ds.length := by
              rw [Nat.add_mul, Nat.one_mul]
              omega
          _ ≤ 16 * 16 ^ ds.length := Nat.mul_le_mul_right _ hlt
          _ = 16 ^ (ds.length + 1) := by ring
    · rintro ⟨n, hn, hds, rfl⟩
      obtain ⟨d, hlt, r, hr, rfl⟩ := exists_first_digit hn
      rw [padded_cons hlt hr, List.cons.injEq] at hds
      rw [digit?_eq_some_iff.2 ⟨hlt, hds.1⟩]
      exact ih.2 ⟨r, hr, hds.2, by ring⟩

/-- The eight digits that an address is written with, in either case. -/
def IsWord (digits : List Char) (address : Nat) : Prop :=
  address < 0x100000000 ∧ digits.map Char.toUpper = padded 8 address

theorem isWord_iff {digits : List Char} {address : Nat} :
    IsWord digits address ↔ digits.length = 8 ∧ value? 0 digits = some address := by
  constructor
  · rintro ⟨ha, hd⟩
    have hl : digits.length = 8 := by
      have := congrArg List.length hd
      rwa [List.length_map, length_padded] at this
    refine ⟨hl, value?_eq_some_iff.2 ⟨address, ?_⟩⟩
    rw [hl, Nat.zero_mul, Nat.zero_add]
    exact ⟨ha, hd, rfl⟩
  · rintro ⟨hl, hv⟩
    obtain ⟨r, hr, hd, rfl⟩ := value?_eq_some_iff.1 hv
    rw [Nat.zero_mul, Nat.zero_add]
    rw [hl] at hr hd
    exact ⟨hr, hd⟩

end Hex

namespace Artifact

/-! ## Editable lines -/

/-- An editable line for the address, with this rest. -/
def IsEditable (l : List Char) (address : Nat) (rest : List Char) : Prop :=
  ∃ digits, Hex.IsWord digits address ∧ l = editableMarker :: (digits ++ editableMarker :: rest)

theorem ofChars_eq_editable_iff {l : List Char} {address : Nat} {text : String} :
    Line.ofChars l = .editable address text ↔
      ∃ rest, IsEditable l address rest ∧ text = String.ofList (unescapeChars rest) := by
  constructor
  · intro h
    unfold Line.ofChars at h
    split at h
    · cases h
    · split at h
      · cases h
      · next c cs =>
        split at h
        · cases h
        · split at h
          · next hc =>
            split at h
            · next a rest hr =>
              cases h
              obtain ⟨digits, hw, rfl⟩ := readAddress_eq_some_iff.1 hr
              exact ⟨rest, ⟨digits, Hex.isWord_iff.2 hw, by rw [hc]⟩, rfl⟩
            · cases h
          · cases h
  · rintro ⟨rest, ⟨digits, hw, rfl⟩, rfl⟩
    rw [ofChars_editable_cons, readAddress_eq_some_iff.2 ⟨digits, Hex.isWord_iff.1 hw, rfl⟩]

/-! ## Splitting -/

/-- A line without the carriage return at its end. -/
def withoutReturn (l : List Char) : List Char :=
  if l.getLast? = some '\r' then l.dropLast else l

/-- The lines that the pieces between line feeds are: a carriage return right before a line feed
belongs to the line end, and behind the last line feed there is a line only if anything is left. -/
def endLines : List (List Char) → List (List Char)
  | [] => []
  | [last] => if last = [] then [] else [last]
  | piece :: next :: pieces => withoutReturn piece :: endLines (next :: pieces)

/-- The text without one byte order mark at its beginning. -/
def withoutMark : List Char → List Char
  | c :: cs => if c = byteOrderMark then cs else c :: cs
  | [] => []

/-- The lines of a text. -/
def splitLines (text : String) : List (List Char) :=
  endLines ((withoutMark text.toList).splitOn '\n')

theorem endLines_cons (piece : List Char) {pieces : List (List Char)} (h : pieces ≠ []) :
    endLines (piece :: pieces) = withoutReturn piece :: endLines pieces := by
  obtain ⟨next, pieces, rfl⟩ := List.exists_cons_of_ne_nil h
  rfl

theorem linesFrom_newline (cur cs : List Char) :
    linesFrom cur ('\n' :: cs) = withoutReturn cur.reverse :: linesFrom [] cs := by
  unfold withoutReturn
  rw [List.getLast?_reverse, List.dropLast_reverse]
  cases cur with
  | nil => rfl
  | cons c cur =>
    by_cases hc : c = '\r'
    · subst hc
      rfl
    · rw [if_neg (by simpa using hc)]
      simp [linesFrom, hc]

theorem modifyHead_nil_append (pieces : List (List Char)) :
    pieces.modifyHead ([].reverse ++ ·) = pieces := by
  cases pieces <;> rfl

/-- Reading from the middle of a line, `cur` behind its beginning, is reading the pieces with `cur`
before the first. -/
theorem linesFrom_eq_endLines (cur cs : List Char) :
    linesFrom cur cs = endLines ((cs.splitOn '\n').modifyHead (cur.reverse ++ ·)) := by
  induction cs generalizing cur with
  | nil =>
    cases cur with
    | nil => rfl
    | cons c cur => simp [linesFrom, endLines]
  | cons c cs ih =>
    rw [List.splitOn_cons_eq_if_modifyHead]
    by_cases hc : c = '\n'
    · subst hc
      rw [linesFrom_newline, if_pos (by rfl), ih, List.modifyHead_cons,
        endLines_cons _ (List.splitOn_ne_nil _ _), List.append_nil, modifyHead_nil_append]
    · have hstep : linesFrom cur (c :: cs) = linesFrom (c :: cur) cs := by simp [linesFrom, hc]
      rw [hstep, if_neg (by simpa using hc), ih, List.modifyHead_modifyHead]
      simp [Function.comp_def]

theorem lines_eq_splitLines (text : String) : lines text = splitLines text := by
  have hl (cs : List Char) : linesFrom [] cs = endLines (cs.splitOn '\n') := by
    rw [linesFrom_eq_endLines, modifyHead_nil_append]
  unfold lines splitLines
  cases text.toList with
  | nil => rfl
  | cons c cs =>
    by_cases hc : c = byteOrderMark
    · simp only [withoutMark, if_pos hc, hl]
    · simp only [withoutMark, if_neg hc, hl]

/-! ## Collecting -/

/-- What a line puts into the map. -/
def entry? (l : List Char) : Option (Nat × String) :=
  match Line.ofChars l with
  | .editable address text => some (address, text)
  | _ => none

def entries (ls : List (List Char)) : List (Nat × String) := ls.filterMap entry?

theorem entry?_eq_some_iff {l : List Char} {address : Nat} {text : String} :
    entry? l = some (address, text) ↔
      ∃ rest, IsEditable l address rest ∧ text = String.ofList (unescapeChars rest) := by
  rw [← ofChars_eq_editable_iff, entry?]
  split
  · next h => simp [h]
  · next h => exact iff_of_false (by simp) (h address text)

/-- Lines are collected exactly if all are well formed, and then their entries are put into the
map. -/
theorem collect_ok_iff {n : Nat} {found m : Replacements} {ls : List (List Char)} :
    collect n found ls = .ok m ↔
      (∀ l ∈ ls, WellFormed l) ∧ m = found.insertAll (entries ls) := by
  induction ls generalizing n found with
  | nil => simp [collect, entries, Replacements.insertAll, eq_comm]
  | cons l ls ih =>
    rw [collect, entries, List.filterMap_cons, entry?, List.forall_mem_cons]
    cases hl : Line.ofChars l with
    | skipped =>
      have hw : WellFormed l := wellFormed_iff.2 (by simp [hl])
      rw [and_iff_right hw]
      exact ih
    | editable address text =>
      have hw : WellFormed l := wellFormed_iff.2 (by simp [hl])
      rw [and_iff_right hw]
      exact ih
    | faulty fault =>
      have hw := (ofChars_eq_faulty_iff.1 hl).1
      simp [hw]

/-- The last editable line for the address has this rest. -/
def LastEditable (ls : List (List Char)) (address : Nat) (rest : List Char) : Prop :=
  ∃ before l after, ls = before ++ l :: after ∧ IsEditable l address rest ∧
    ∀ l' ∈ after, ∀ rest', ¬ IsEditable l' address rest'

theorem lookup_entries_iff {ls : List (List Char)} {address : Nat} {text : String} :
    (entries ls).reverse.lookup address = some text ↔
      ∃ rest, LastEditable ls address rest ∧ text = String.ofList (unescapeChars rest) := by
  rw [List.lookup_eq_some_iff]
  constructor
  · rintro ⟨after, before, hs, hne⟩
    rw [List.reverse_eq_append_iff, List.reverse_cons, List.append_assoc,
      List.singleton_append] at hs
    obtain ⟨front, back, rfl, -, hback⟩ := List.filterMap_eq_append_iff.1 hs
    obtain ⟨skipped, l, rear, rfl, -, hl, hrear⟩ := List.filterMap_eq_cons_iff.1 hback
    obtain ⟨rest, he, rfl⟩ := entry?_eq_some_iff.1 hl
    refine ⟨rest, ⟨front ++ skipped, l, rear, by simp, he, ?_⟩, rfl⟩
    intro l' hl' rest' he'
    have hmem : (address, String.ofList (unescapeChars rest')) ∈ rear.filterMap entry? :=
      List.mem_filterMap.2 ⟨l', hl', entry?_eq_some_iff.2 ⟨rest', he', rfl⟩⟩
    rw [hrear, List.mem_reverse] at hmem
    simpa using hne _ hmem
  · rintro ⟨rest, ⟨before, l, after, rfl, he, hlast⟩, rfl⟩
    have hl : entry? l = some (address, String.ofList (unescapeChars rest)) :=
      entry?_eq_some_iff.2 ⟨rest, he, rfl⟩
    refine ⟨(entries after).reverse, (entries before).reverse, ?_, ?_⟩
    · simp [entries, hl]
    · rintro ⟨a, t⟩ hp
      obtain ⟨l', hl', he'⟩ := List.mem_filterMap.1 (List.mem_reverse.1 hp)
      obtain ⟨rest', he', -⟩ := entry?_eq_some_iff.1 he'
      rw [bne_iff_ne]
      rintro rfl
      exact hlast l' hl' rest' he'

/-- An address with an editable line has a last one. -/
theorem exists_lastEditable_iff {ls : List (List Char)} {address : Nat} :
    (∃ rest, LastEditable ls address rest) ↔ ∃ l ∈ ls, ∃ rest, IsEditable l address rest := by
  constructor
  · rintro ⟨rest, before, l, after, rfl, he, -⟩
    exact ⟨l, by simp, rest, he⟩
  · rintro ⟨l, hl, rest, he⟩
    cases ht : (entries ls).reverse.lookup address with
    | none =>
      have hmem : (address, String.ofList (unescapeChars rest)) ∈ entries ls :=
        List.mem_filterMap.2 ⟨l, hl, entry?_eq_some_iff.2 ⟨rest, he, rfl⟩⟩
      simpa using List.lookup_eq_none_iff.1 ht _ (List.mem_reverse.2 hmem)
    | some text =>
      obtain ⟨rest, hlast, -⟩ := lookup_entries_iff.1 ht
      exact ⟨rest, hlast⟩

/-! ## Parsing -/

theorem parse_ok_iff {text : String} {m : Replacements} :
    parse text = .ok m ↔ (∀ l ∈ splitLines text, WellFormed l) ∧
      m = .insertAll .empty (entries (splitLines text)) := by
  rw [parse, collect_ok_iff, lines_eq_splitLines]

theorem get?_entries_iff {ls : List (List Char)} {address : Nat} {text : String} :
    (Replacements.insertAll .empty (entries ls)).get? address = some text ↔
      ∃ rest, LastEditable ls address rest ∧ text = unescape (String.ofList rest) := by
  have hempty : Replacements.empty.get? address = none := rfl
  rw [Replacements.get?_insertAll_last, hempty, Option.or_none, lookup_entries_iff]
  simp only [unescape, String.toList_ofList]

theorem eq_faultOf_iff {fault : LineFault} {l : List Char} : fault = faultOf l ↔
    (fault.message = "line does not start with ◆" ↔ l.head? ≠ some editableMarker) := by
  unfold faultOf
  by_cases hl : l.head? = some editableMarker
  · rw [if_pos hl]
    cases fault <;> simp [LineFault.message, hl]
  · rw [if_neg hl]
    cases fault <;> simp [LineFault.message, hl]

/-- A text is parsed exactly if all its lines are well formed. Exactly the addresses of editable
lines are then keys, with what the last line for the address gives them. Any other text fails at
its first line that is not well formed, and the message says whether that line has a marker. -/
theorem parse_accepts_grammar (text : String) :
    ((∃ m, parse text = .ok m) ↔ ∀ l ∈ splitLines text, WellFormed l) ∧
    (∀ m, parse text = .ok m →
      (∀ address t, m.get? address = some t ↔
        ∃ rest, LastEditable (splitLines text) address rest ∧
          t = unescape (String.ofList rest)) ∧
      ∀ address, address ∈ m.keys ↔ ∃ l ∈ splitLines text, ∃ rest, IsEditable l address rest) ∧
    ∀ e, parse text = .error e ↔
      ∃ k l fault, FirstFaulty (splitLines text) k l ∧ e = .format k fault ∧
        (fault.message = "line does not start with ◆" ↔ l.head? ≠ some editableMarker) := by
  refine ⟨?_, fun m h => ?_, fun e => ?_⟩
  · constructor
    · rintro ⟨m, h⟩
      exact (parse_ok_iff.1 h).1
    · intro h
      exact ⟨_, parse_ok_iff.2 ⟨h, rfl⟩⟩
  · obtain ⟨-, rfl⟩ := parse_ok_iff.1 h
    refine ⟨fun address t => get?_entries_iff, fun address => ?_⟩
    rw [Replacements.mem_keys_iff, ← exists_lastEditable_iff]
    constructor
    · rintro ⟨t, ht⟩
      obtain ⟨rest, hr, -⟩ := get?_entries_iff.1 ht
      exact ⟨rest, hr⟩
    · rintro ⟨rest, hr⟩
      exact ⟨_, get?_entries_iff.2 ⟨rest, hr, rfl⟩⟩
  · rw [parse_error_iff, lines_eq_splitLines]
    constructor
    · rintro ⟨k, l, hf, rfl⟩
      exact ⟨k, l, faultOf l, hf, rfl, eq_faultOf_iff.1 rfl⟩
    · rintro ⟨k, l, fault, hf, rfl, hm⟩
      exact ⟨k, l, hf, by rw [eq_faultOf_iff.2 hm]⟩

/-- A marked text with both line ends, blank and reference lines, both cases of a digit, an address
given again and a carriage return that ends no line. -/
def sampleText : String :=
  "\uFEFF◆0000001a◆one\r\n◇0000001A◇x\r\n \u3000\r\n◆0000001A◆◆two\\n\r\r\n\n◆00000002◆a\r"

theorem parse_accepts_grammar_sample :
    ∃ m, parse sampleText = .ok m ∧
      (∃ rest, LastEditable (splitLines sampleText) 0x1A rest ∧
        "◆two\n\r" = unescape (String.ofList rest)) ∧
      (∀ rest, LastEditable (splitLines sampleText) 2 rest →
        unescape (String.ofList rest) = "a\r") ∧
      ¬ ∃ l ∈ splitLines sampleText, ∃ rest, IsEditable l 3 rest := by
  have hp : parse sampleText = .ok ⟨[(2, "a\r"), (0x1A, "◆two\n\r")], by decide⟩ := by cbv
  obtain ⟨hget, hkeys⟩ := (parse_accepts_grammar sampleText).2.1 _ hp
  refine ⟨_, hp, (hget _ _).1 rfl, fun rest hr => ?_, fun h => ?_⟩
  · exact Option.some.inj (((hget 2 _).2 ⟨rest, hr, rfl⟩).symm.trans rfl)
  · exact absurd ((hkeys 3).2 h) (by decide)

end Artifact

end Dialogue
