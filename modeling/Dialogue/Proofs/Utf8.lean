import Dialogue.Charset.Utf8

/-!
# Characters in UTF-8

`read` takes the code of a character off the front (`read_code`) and nothing else (`code_of_read`),
so a text and its bytes determine each other (`toText?_eq_some_iff`). A byte below 0x80 is a
character by itself wherever it stands (`mem_code_iff`), so bytes are cut there as the text is
(`exists_cut`).
-/

namespace Dialogue

namespace Charset.Utf8

/-! ## One character -/

/-- The rows of the table of first bytes, by how many bytes follow. -/
theorem shape_cases {b n lo hi : Nat} (h : shape b = some (n, lo, hi)) :
    (n = 0 ∧ b ≤ 0x7F) ∨ (n = 1 ∧ 0xC2 ≤ b ∧ b ≤ 0xDF ∧ 0x80 ≤ lo ∧ hi ≤ 0xBF) ∨
      (n = 2 ∧ 0xE0 ≤ b ∧ b ≤ 0xEF ∧ 0x80 ≤ lo ∧ hi ≤ 0xBF ∧ (b = 0xE0 → 0xA0 ≤ lo) ∧
        (b = 0xED → hi ≤ 0x9F)) ∨
      (n = 3 ∧ 0xF0 ≤ b ∧ b ≤ 0xF4 ∧ 0x80 ≤ lo ∧ hi ≤ 0xBF ∧ (b = 0xF0 → 0x90 ≤ lo) ∧
        (b = 0xF4 → hi ≤ 0x8F)) := by
  unfold shape at h
  repeat' split at h
  all_goals cases h
  all_goals omega

theorem tails_cons {n lo hi : Nat} {t : UInt8} (ts : Bytes) (h : lo ≤ t.toNat ∧ t.toNat ≤ hi) :
    tails (n + 1) lo hi (t :: ts) = t.toNat % 64 :: tails n 0x80 0xBF ts := if_pos h

theorem tails_of_length {n lo hi : Nat} {rest : Bytes}
    (h : (tails (n + 1) lo hi rest).length = n + 1) : ∃ t ts, rest = t :: ts ∧
      lo ≤ t.toNat ∧ t.toNat ≤ hi ∧ (tails n 0x80 0xBF ts).length = n ∧
      tails (n + 1) lo hi rest = t.toNat % 64 :: tails n 0x80 0xBF ts := by
  cases rest with
  | nil => simp [tails] at h
  | cons t ts =>
    by_cases ht : lo ≤ t.toNat ∧ t.toNat ≤ hi
    · have htails := tails_cons (n := n) ts ht
      rw [htails, List.length_cons] at h
      exact ⟨t, ts, rfl, ht.1, ht.2, by omega, htails⟩
    · rw [tails, if_neg ht] at h
      simp at h

theorem toNat_ofNat {n : Nat} (h : n < 0xD800 ∨ 0xDFFF < n ∧ n < 0x110000) :
    (Char.ofNat n).toNat = n := by
  unfold Char.ofNat
  rw [dif_pos h]
  rfl

theorem ofNat_eq {n : Nat} {b : UInt8} (h : n = b.toNat) : UInt8.ofNat n = b := by
  rw [h, UInt8.ofNat_toNat]

section
variable {c : Char}

theorem code_one (h : c.toNat < 0x80) : code c = [UInt8.ofNat c.toNat] := if_pos h

theorem code_two (h : 0x80 ≤ c.toNat) (h' : c.toNat < 0x800) :
    code c = [UInt8.ofNat (0xC0 + c.toNat / 64), UInt8.ofNat (0x80 + c.toNat % 64)] := by
  unfold code
  dsimp only
  rw [if_neg (by omega), if_pos h']

theorem code_three (h : 0x800 ≤ c.toNat) (h' : c.toNat < 0x10000) :
    code c = [UInt8.ofNat (0xE0 + c.toNat / 4096), UInt8.ofNat (0x80 + c.toNat / 64 % 64),
      UInt8.ofNat (0x80 + c.toNat % 64)] := by
  unfold code
  dsimp only
  rw [if_neg (by omega), if_neg (by omega), if_pos h']

theorem code_four (h : 0x10000 ≤ c.toNat) :
    code c = [UInt8.ofNat (0xF0 + c.toNat / 262144), UInt8.ofNat (0x80 + c.toNat / 4096 % 64),
      UInt8.ofNat (0x80 + c.toNat / 64 % 64), UInt8.ofNat (0x80 + c.toNat % 64)] := by
  unfold code
  dsimp only
  rw [if_neg (by omega), if_neg (by omega), if_neg (by omega)]

end

theorem code_of_read {b : UInt8} {rest : Bytes} {c : Char} {k : Nat}
    (h : read b rest = some (c, k)) :
    ∃ ts more, rest = ts ++ more ∧ ts.length = k ∧ code c = b :: ts := by
  simp only [read, scan] at h
  split at h
  · next c' k' hs =>
    cases h
    split at hs
    · cases hs
    · next n lo hi hsh =>
      split at hs
      · next hl =>
        cases hs
        obtain ⟨rfl, hb⟩ | ⟨rfl, hb⟩ | ⟨rfl, hb⟩ | ⟨rfl, hb⟩ := shape_cases hsh
        · have hv : (Char.ofNat b.toNat).toNat = b.toNat := toNat_ofNat (by omega)
          refine ⟨[], rest, rfl, rfl, ?_⟩
          show code (Char.ofNat b.toNat) = [b]
          rw [code_one (by omega), hv, UInt8.ofNat_toNat]
        · obtain ⟨t, more, rfl, hlo, hhi, -, ht⟩ := tails_of_length hl
          refine ⟨[t], more, rfl, rfl, ?_⟩
          rw [ht]
          show code (Char.ofNat (64 * (b.toNat % 32) + t.toNat % 64)) = [b, t]
          have hv : (Char.ofNat (64 * (b.toNat % 32) + t.toNat % 64)).toNat =
              64 * (b.toNat % 32) + t.toNat % 64 := toNat_ofNat (by omega)
          rw [code_two (by omega) (by omega), hv]
          simp only [List.cons.injEq, and_true]
          exact ⟨ofNat_eq (by omega), ofNat_eq (by omega)⟩
        · obtain ⟨t, us, rfl, hlo, hhi, hl', ht⟩ := tails_of_length hl
          obtain ⟨u, more, rfl, hlo', hhi', -, hu⟩ := tails_of_length hl'
          refine ⟨[t, u], more, rfl, rfl, ?_⟩
          rw [ht, hu]
          show code (Char.ofNat (64 * (64 * (b.toNat % 16) + t.toNat % 64) + u.toNat % 64)) =
            [b, t, u]
          have hv : (Char.ofNat (64 * (64 * (b.toNat % 16) + t.toNat % 64) +
              u.toNat % 64)).toNat =
              64 * (64 * (b.toNat % 16) + t.toNat % 64) + u.toNat % 64 := toNat_ofNat (by omega)
          rw [code_three (by omega) (by omega), hv]
          simp only [List.cons.injEq, and_true]
          exact ⟨ofNat_eq (by omega), ofNat_eq (by omega), ofNat_eq (by omega)⟩
        · obtain ⟨t, us, rfl, hlo, hhi, hl', ht⟩ := tails_of_length hl
          obtain ⟨u, xs, rfl, hlo', hhi', hl'', hu⟩ := tails_of_length hl'
          obtain ⟨x, more, rfl, hlo'', hhi'', -, hx⟩ := tails_of_length hl''
          refine ⟨[t, u, x], more, rfl, rfl, ?_⟩
          rw [ht, hu, hx]
          show code (Char.ofNat (64 * (64 * (64 * (b.toNat % 8) + t.toNat % 64) + u.toNat % 64) +
            x.toNat % 64)) = [b, t, u, x]
          have hv : (Char.ofNat (64 * (64 * (64 * (b.toNat % 8) + t.toNat % 64) + u.toNat % 64) +
              x.toNat % 64)).toNat =
              64 * (64 * (64 * (b.toNat % 8) + t.toNat % 64) + u.toNat % 64) + x.toNat % 64 :=
            toNat_ofNat (by omega)
          rw [code_four (by omega), hv]
          simp only [List.cons.injEq, and_true]
          exact ⟨ofNat_eq (by omega), ofNat_eq (by omega), ofNat_eq (by omega),
            ofNat_eq (by omega)⟩
      · cases hs
  · cases h

theorem shape_two {b : Nat} (h : 0xC2 ≤ b) (h' : b ≤ 0xDF) : shape b = some (1, 0x80, 0xBF) := by
  unfold shape
  rw [if_neg (by omega), if_pos ⟨h, h'⟩]

theorem exists_shape_three {b : Nat} (h : 0xE0 ≤ b) (h' : b ≤ 0xEF) : ∃ lo hi,
    shape b = some (2, lo, hi) ∧ ∀ t, 0x80 ≤ t → t ≤ 0xBF → (b = 0xE0 → 0xA0 ≤ t) →
      (b = 0xED → t ≤ 0x9F) → lo ≤ t ∧ t ≤ hi := by
  unfold shape
  rw [if_neg (by omega), if_neg (by omega)]
  split
  · exact ⟨_, _, rfl, by omega⟩
  · split
    · exact ⟨_, _, rfl, by omega⟩
    · rw [if_pos (by omega)]
      exact ⟨_, _, rfl, by omega⟩

theorem exists_shape_four {b : Nat} (h : 0xF0 ≤ b) (h' : b ≤ 0xF4) : ∃ lo hi,
    shape b = some (3, lo, hi) ∧ ∀ t, 0x80 ≤ t → t ≤ 0xBF → (b = 0xF0 → 0x90 ≤ t) →
      (b = 0xF4 → t ≤ 0x8F) → lo ≤ t ∧ t ≤ hi := by
  unfold shape
  rw [if_neg (by omega), if_neg (by omega), if_neg (by omega), if_neg (by omega),
    if_neg (by omega)]
  split
  · exact ⟨_, _, rfl, by omega⟩
  · split
    · exact ⟨_, _, rfl, by omega⟩
    · rw [if_pos (by omega)]
      exact ⟨_, _, rfl, by omega⟩

/-- A first byte whose followers are all there reads as what they come to. -/
theorem read_of_tails {b : UInt8} {rest : Bytes} {n lo hi : Nat} {vs : List Nat} {c : Char}
    (hs : shape b.toNat = some (n, lo, hi)) (ht : tails n lo hi rest = vs) (hl : vs.length = n)
    (hv : vs.foldl (fun acc t => 64 * acc + t) (headBits n b.toNat) = c.toNat) :
    read b rest = some (c, n) := by
  unfold read scan
  rw [hs]
  dsimp only
  rw [ht, if_pos hl, hv, Char.ofNat_toNat]

theorem toNat_byte {n : Nat} (h : n < 0x100) : (UInt8.ofNat n).toNat = n :=
  UInt8.toNat_ofNat_of_lt' h

theorem tails_zero (lo hi : Nat) (bs : Bytes) : tails 0 lo hi bs = [] := by
  cases bs <;> rfl

theorem read_code (c : Char) (rest : Bytes) :
    ∃ b ts, code c = b :: ts ∧ read b (ts ++ rest) = some (c, ts.length) := by
  have hc : c.toNat < 0xD800 ∨ 0xDFFF < c.toNat ∧ c.toNat < 0x110000 := c.valid
  have htail (m : Nat) : (UInt8.ofNat (0x80 + m % 64)).toNat = 0x80 + m % 64 :=
    toNat_byte (by omega)
  have htails (n m : Nat) (bs : Bytes) :
      tails (n + 1) 0x80 0xBF (UInt8.ofNat (0x80 + m % 64) :: bs) =
        m % 64 :: tails n 0x80 0xBF bs := by
    rw [tails_cons bs (by rw [htail]; omega), htail]
    congr 1
    omega
  by_cases h₁ : c.toNat < 0x80
  · have hb : (UInt8.ofNat c.toNat).toNat = c.toNat := toNat_byte (by omega)
    have hs : shape (UInt8.ofNat c.toNat).toNat = some (0, 0x80, 0xBF) := by
      rw [hb]
      exact if_pos (by omega)
    exact ⟨_, _, code_one h₁, read_of_tails hs (tails_zero _ _ _) rfl hb⟩
  by_cases h₂ : c.toNat < 0x800
  · have hb : (UInt8.ofNat (0xC0 + c.toNat / 64)).toNat = 0xC0 + c.toNat / 64 :=
      toNat_byte (by omega)
    have hs : shape (UInt8.ofNat (0xC0 + c.toNat / 64)).toNat = some (1, 0x80, 0xBF) :=
      shape_two (by omega) (by omega)
    have ht : tails 1 0x80 0xBF (UInt8.ofNat (0x80 + c.toNat % 64) :: rest) =
        [c.toNat % 64] := by
      rw [htails, tails_zero]
    refine ⟨_, _, code_two (by omega) h₂, read_of_tails hs ht rfl ?_⟩
    rw [hb]
    show 64 * ((0xC0 + c.toNat / 64) % 32) + c.toNat % 64 = c.toNat
    omega
  by_cases h₃ : c.toNat < 0x10000
  · have hb : (UInt8.ofNat (0xE0 + c.toNat / 4096)).toNat = 0xE0 + c.toNat / 4096 :=
      toNat_byte (by omega)
    obtain ⟨lo, hi, hs, hnext⟩ :=
      exists_shape_three (b := (UInt8.ofNat (0xE0 + c.toNat / 4096)).toNat) (by omega) (by omega)
    have hin := hnext (0x80 + c.toNat / 64 % 64) (by omega) (by omega) (by omega) (by omega)
    have ht : tails 2 lo hi (UInt8.ofNat (0x80 + c.toNat / 64 % 64) ::
        UInt8.ofNat (0x80 + c.toNat % 64) :: rest) =
        [(0x80 + c.toNat / 64 % 64) % 64, c.toNat % 64] := by
      rw [tails_cons _ (by rwa [htail]), htail, htails, tails_zero]
    refine ⟨_, _, code_three (by omega) h₃, read_of_tails hs ht rfl ?_⟩
    rw [hb]
    show 64 * (64 * ((0xE0 + c.toNat / 4096) % 16) + (0x80 + c.toNat / 64 % 64) % 64) +
      c.toNat % 64 = c.toNat
    omega
  · have hb : (UInt8.ofNat (0xF0 + c.toNat / 262144)).toNat = 0xF0 + c.toNat / 262144 :=
      toNat_byte (by omega)
    obtain ⟨lo, hi, hs, hnext⟩ :=
      exists_shape_four (b := (UInt8.ofNat (0xF0 + c.toNat / 262144)).toNat) (by omega) (by omega)
    have hin := hnext (0x80 + c.toNat / 4096 % 64) (by omega) (by omega) (by omega) (by omega)
    have ht : tails 3 lo hi (UInt8.ofNat (0x80 + c.toNat / 4096 % 64) ::
        UInt8.ofNat (0x80 + c.toNat / 64 % 64) :: UInt8.ofNat (0x80 + c.toNat % 64) :: rest) =
        [(0x80 + c.toNat / 4096 % 64) % 64, c.toNat / 64 % 64, c.toNat % 64] := by
      rw [tails_cons _ (by rwa [htail]), htail, htails, htails, tails_zero]
    refine ⟨_, _, code_four (by omega), read_of_tails hs ht rfl ?_⟩
    rw [hb]
    show 64 * (64 * (64 * ((0xF0 + c.toNat / 262144) % 8) +
      (0x80 + c.toNat / 4096 % 64) % 64) + c.toNat / 64 % 64) + c.toNat % 64 = c.toNat
    omega

/-! ## Texts -/

theorem decode_cons {b : UInt8} {rest : Bytes} {c : Char} {n : Nat}
    (h : read b rest = some (c, n)) :
    scheme.decode (b :: rest) = (scheme.decode (rest.drop n)).map (c :: ·) := by
  have hread : scheme.read b rest = some (c, n) := h
  rw [Scheme.decode, hread]

theorem decode_flatMap_code (cs : List Char) : scheme.decode (cs.flatMap code) = some cs := by
  induction cs with
  | nil => rw [List.flatMap_nil, Scheme.decode]
  | cons c cs ih =>
    obtain ⟨b, ts, hcode, hread⟩ := read_code c (cs.flatMap code)
    rw [List.flatMap_cons, hcode, List.cons_append, decode_cons hread, List.drop_left, ih,
      Option.map_some]

theorem flatMap_code_of_decode {bs : Bytes} {cs : List Char} (h : scheme.decode bs = some cs) :
    cs.flatMap code = bs := by
  fun_induction scheme.decode bs generalizing cs with
  | case1 =>
    cases h
    rfl
  | case2 b rest c n hread ih =>
    obtain ⟨cs', hcs', rfl⟩ := Option.map_eq_some_iff.1 h
    obtain ⟨ts, more, rfl, rfl, hcode⟩ := code_of_read hread
    rw [List.drop_left] at ih hcs'
    rw [List.flatMap_cons, hcode, ih hcs', List.cons_append]
  | case3 b rest hread => cases h

theorem le_of_mem_code {b : UInt8} {c : Char} (hc : 0x80 ≤ c.toNat) (hb : b ∈ code c) :
    0x80 ≤ b.toNat := by
  have hvalid : c.toNat < 0xD800 ∨ 0xDFFF < c.toNat ∧ c.toNat < 0x110000 := c.valid
  have htail (m : Nat) : 0x80 ≤ (UInt8.ofNat (0x80 + m % 64)).toNat := by
    rw [toNat_byte (by omega)]
    omega
  have hhead (m n : Nat) (h : 0xC0 ≤ m) (h' : m + n < 0x100) :
      0x80 ≤ (UInt8.ofNat (m + n)).toNat := by
    rw [toNat_byte h']
    omega
  by_cases h₂ : c.toNat < 0x800
  · rw [code_two hc h₂] at hb
    simp only [List.mem_cons, List.not_mem_nil, or_false] at hb
    obtain rfl | rfl := hb
    · exact hhead _ _ (by omega) (by omega)
    · exact htail _
  by_cases h₃ : c.toNat < 0x10000
  · rw [code_three (by omega) h₃] at hb
    simp only [List.mem_cons, List.not_mem_nil, or_false] at hb
    obtain rfl | rfl | rfl := hb
    · exact hhead _ _ (by omega) (by omega)
    · exact htail _
    · exact htail _
  · rw [code_four (by omega)] at hb
    simp only [List.mem_cons, List.not_mem_nil, or_false] at hb
    obtain rfl | rfl | rfl | rfl := hb
    · exact hhead _ _ (by omega) (by omega)
    · exact htail _
    · exact htail _
    · exact htail _

/-- A byte below 0x80 is in no code but that of the character with its number. -/
theorem mem_code_iff {b : UInt8} {c : Char} (hb : b.toNat < 0x80) :
    b ∈ code c ↔ c.toNat = b.toNat := by
  constructor
  · intro h
    by_cases hc : c.toNat < 0x80
    · rw [code_one hc, List.mem_singleton] at h
      rw [h, toNat_byte (by omega)]
    · exact absurd (le_of_mem_code (by omega) h) (by omega)
  · intro h
    rw [code_one (by omega), h, UInt8.ofNat_toNat]
    exact List.mem_singleton_self b

theorem code_of_toNat_eq {b : UInt8} {c : Char} (hb : b.toNat < 0x80) (h : c.toNat = b.toNat) :
    code c = [b] := by
  rw [code_one (by omega), h, UInt8.ofNat_toNat]

/-- Bytes of a text cut at a byte below 0x80 are bytes of the text cut at its character. -/
theorem exists_cut {b : UInt8} (hb : b.toNat < 0x80) {cs : List Char} {x y : Bytes}
    (h : cs.flatMap code = x ++ b :: y) :
    ∃ xs c ys, cs = xs ++ c :: ys ∧ c.toNat = b.toNat ∧ xs.flatMap code = x ∧
      ys.flatMap code = y := by
  induction cs generalizing x with
  | nil => simp at h
  | cons c cs ih =>
    rw [List.flatMap_cons, List.append_eq_append_iff] at h
    obtain ⟨z, hx, hz⟩ | ⟨z, hc, hz⟩ := h
    · -- The cut is behind the first character.
      obtain ⟨xs, c', ys, rfl, hc', rfl, hy⟩ := ih hz
      exact ⟨c :: xs, c', ys, rfl, hc', by rw [List.flatMap_cons, hx], hy⟩
    · cases z with
      | nil =>
        obtain ⟨xs, c', ys, rfl, hc', hxs, hy⟩ := ih (x := []) hz.symm
        refine ⟨c :: xs, c', ys, rfl, hc', ?_, hy⟩
        rw [List.flatMap_cons, hxs, hc, List.append_nil, List.append_nil]
      | cons b' z =>
        obtain ⟨rfl, hy⟩ := List.cons.inj hz
        have hc' : c.toNat = b.toNat := (mem_code_iff hb).1 (by simp [hc])
        rw [code_of_toNat_eq hb hc', List.singleton_eq_append_iff] at hc
        obtain ⟨rfl, hz⟩ | ⟨-, hz⟩ := hc
        · obtain ⟨-, rfl⟩ := List.cons.inj hz
          exact ⟨[], c, cs, rfl, hc', rfl, hy.symm⟩
        · cases hz

end Charset.Utf8

namespace Bytes

open Charset.Utf8

theorem toText?_eq_some_iff {bs : Bytes} {s : String} : toText? bs = some s ↔ bs = ofText s := by
  unfold toText? ofText
  rw [Option.map_eq_some_iff]
  constructor
  · rintro ⟨cs, h, rfl⟩
    rw [String.toList_ofList, flatMap_code_of_decode h]
  · rintro rfl
    exact ⟨s.toList, decode_flatMap_code _, String.ofList_toList⟩

theorem toText?_ofText (s : String) : toText? (ofText s) = some s := toText?_eq_some_iff.2 rfl

theorem ofText_injective {s t : String} (h : ofText s = ofText t) : s = t := by
  have hs := toText?_ofText s
  rw [h, toText?_ofText] at hs
  exact (Option.some.inj hs).symm

theorem isSome_toText?_iff {bs : Bytes} : (toText? bs).isSome ↔ ∃ s, bs = ofText s := by
  rw [Option.isSome_iff_exists]
  exact exists_congr fun s => toText?_eq_some_iff

theorem isSome_toText?_flatMap (cs : List Char) : (toText? (cs.flatMap code)).isSome :=
  isSome_toText?_iff.2 ⟨String.ofList cs, by rw [ofText, String.toList_ofList]⟩

end Bytes

end Dialogue
