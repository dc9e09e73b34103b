import Dialogue.Charset.Codec
import Dialogue.Cipher

/-!
# Dollar signs in encoded text

The cipher turns the byte of a dollar sign into that of a space (`Cipher.decrypt_encrypt`). In
every charset this byte stands for a dollar sign and is part of no other code
(`Scheme.DollarAlone`), so what the cipher does to the bytes of a text is the same as putting
spaces for the dollar signs of the text itself (`Charset.decode_map_spaceByte`).
-/

namespace Dialogue

namespace Cipher

/-- What the cipher makes of a byte. -/
def spaceByte (b : UInt8) : UInt8 := if b = dollar then space else b

theorem spaceByte_of_ne {b : UInt8} (h : b ≠ 0x24) : spaceByte b = b := if_neg h

theorem decrypt_encrypt (bs : Bytes) : decrypt (encrypt bs) = bs.map spaceByte := by
  rw [decrypt, encrypt, List.map_map]
  exact List.map_congr_left fun b _ => decryptByte_encryptByte b

end Cipher

/-- A character with a space for a dollar sign. -/
def spaceChar (c : Char) : Char := if c = '$' then ' ' else c

/-- A text with spaces for its dollar signs. -/
def spaced (text : String) : String := String.ofList (text.toList.map spaceChar)

namespace Charset

open Cipher (spaceByte)

/-- The byte of a dollar sign stands for a dollar sign, is its only code, and stands in no code
of another character. -/
structure Scheme.DollarAlone (s : Scheme) : Prop where
  read_dollar (rest : Bytes) : s.read 0x24 rest = some ('$', 0)
  read_space (rest : Bytes) : s.read 0x20 rest = some (' ', 0)
  read_map (b : UInt8) (rest : Bytes) : s.read b (rest.map spaceByte) = s.read b rest
  eq_of_read {b : UInt8} {rest : Bytes} {n : Nat} (h : s.read b rest = some ('$', n)) : b = 0x24

theorem Scheme.DollarAlone.decode_map {s : Scheme} (hs : s.DollarAlone) (bs : Bytes) :
    s.decode (bs.map spaceByte) = (s.decode bs).map (·.map spaceChar) := by
  fun_induction s.decode bs with
  | case1 => rw [List.map_nil, decode]; rfl
  | case2 b rest c n hr ih =>
    rw [List.map_cons]
    by_cases hb : b = 0x24
    · subst hb
      rw [hs.read_dollar, Option.some.injEq, Prod.mk.injEq] at hr
      obtain ⟨rfl, rfl⟩ := hr
      have hsp : s.read (spaceByte 0x24) (rest.map spaceByte) = some (' ', 0) := hs.read_space _
      rw [decode, hsp]
      simp only [List.drop_zero] at ih ⊢
      rw [ih, Option.map_map, Option.map_map]
      rfl
    · have hc : c ≠ '$' := fun he => hb (hs.eq_of_read (he ▸ hr))
      rw [Cipher.spaceByte_of_ne hb, decode, hs.read_map, hr]
      simp only [← List.map_drop]
      rw [ih, Option.map_map, Option.map_map]
      simp only [Function.comp_def, List.map_cons, spaceChar, if_neg hc]
  | case3 b rest hr =>
    have hb : b ≠ 0x24 := by
      rintro rfl
      rw [hs.read_dollar] at hr
      cases hr
    rw [List.map_cons, Cipher.spaceByte_of_ne hb, decode, hs.read_map, hr]
    rfl

/-! ## Single characters -/

theorem eq_of_ofNat_eq_dollar {n : Nat} (h : Char.ofNat n = '$') : n = 0x24 := by
  by_cases hn : n.isValidChar
  · rw [Char.ofNat, dif_pos hn] at h
    exact congrArg Char.toNat h
  · rw [Char.ofNat, dif_neg hn] at h
    cases h

theorem eq_of_ofNat_toNat_eq_dollar {b : UInt8} (h : Char.ofNat b.toNat = '$') : b = 0x24 :=
  UInt8.toNat_inj.1 (eq_of_ofNat_eq_dollar h)

/-- Tables hold no dollar sign. -/
theorem Index.char?_ne_dollar (ix : Index) (p : Nat) : ix.char? p ≠ some '$' := by
  intro h
  have hle := Index.le_of_char? h
  exact absurd hle (by decide)

namespace ShiftJis

theorem read_map_spaceByte (b : UInt8) (rest : Bytes) :
    read b (rest.map spaceByte) = read b rest := by
  cases rest with
  | nil => rfl
  | cons t rest =>
    by_cases ht : t = 0x24
    · subst ht
      simp [read, spaceByte, isTrail, Cipher.dollar, Cipher.space]
    · rw [List.map_cons, Cipher.spaceByte_of_ne ht]
      rfl

theorem char?_ne_dollar (p : Nat) : char? p ≠ some '$' := by
  intro h
  unfold char? at h
  split at h
  · next hp =>
    have := eq_of_ofNat_eq_dollar (Option.some.inj h)
    omega
  · exact index.char?_ne_dollar p h

theorem eq_of_read_dollar {b : UInt8} {rest : Bytes} {n : Nat}
    (h : read b rest = some ('$', n)) : b = 0x24 := by
  simp only [read] at h
  split at h
  · rw [Option.some.injEq, Prod.mk.injEq] at h
    exact eq_of_ofNat_toNat_eq_dollar h.1
  · split at h
    · rw [Option.some.injEq, Prod.mk.injEq] at h
      have := eq_of_ofNat_eq_dollar h.1
      omega
    · split at h
      · cases h
      · split at h
        · rw [Option.map_eq_some_iff] at h
          obtain ⟨c, hc, he⟩ := h
          cases he
          exact absurd hc (char?_ne_dollar _)
        · cases h

theorem dollarAlone : scheme.DollarAlone where
  read_dollar _ := rfl
  read_space _ := rfl
  read_map := read_map_spaceByte
  eq_of_read := eq_of_read_dollar

end ShiftJis

namespace Gb18030

theorem readLong_map_spaceByte (b : Nat) (rest : Bytes) :
    readLong b (rest.map spaceByte) = readLong b rest := by
  -- neither a dollar sign nor a space can be the second, the third or the fourth byte of a code
  match rest with
  | [] => rfl
  | [t] =>
    by_cases ht : t = 0x24
    · subst ht
      rfl
    · simp only [List.map_cons, List.map_nil, Cipher.spaceByte_of_ne ht]
  | [t, u] =>
    by_cases ht : t = 0x24
    · subst ht
      rfl
    · simp only [List.map_cons, List.map_nil, Cipher.spaceByte_of_ne ht]
      rfl
  | t :: u :: v :: rest =>
    simp only [readLong, List.map_cons]
    by_cases ht : t = 0x24
    · subst ht
      simp [spaceByte, isTrail, isDigit, Cipher.dollar, Cipher.space]
    · rw [Cipher.spaceByte_of_ne ht]
      by_cases hu : u = 0x24
      · subst hu
        simp [spaceByte, isLead, Cipher.dollar, Cipher.space]
      · rw [Cipher.spaceByte_of_ne hu]
        by_cases hv : v = 0x24
        · subst hv
          simp [spaceByte, isDigit, Cipher.dollar, Cipher.space]
        · rw [Cipher.spaceByte_of_ne hv]

theorem longChar?_ne_dollar (n : Nat) : longChar? n ≠ some '$' := by
  intro h
  have hruns : ∀ r ∈ gbRuns, 0x80 ≤ r.2.1 := by decide +kernel
  obtain ⟨r, hr, he⟩ := Option.map_eq_some_iff.1 h
  have := hruns r (List.mem_of_find?_eq_some hr)
  have := eq_of_ofNat_eq_dollar he
  omega

theorem readLong_ne_dollar {b n : Nat} {rest : Bytes} : readLong b rest ≠ some ('$', n) := by
  intro h
  unfold readLong at h
  split at h
  · cases h
  · simp only at h
    split at h
    · obtain ⟨c, hc, he⟩ := Option.map_eq_some_iff.1 h
      cases he
      exact index.char?_ne_dollar _ hc
    · split at h
      · split at h
        · obtain ⟨c, hc, he⟩ := Option.map_eq_some_iff.1 h
          cases he
          exact longChar?_ne_dollar _ hc
        · cases h
      · cases h

theorem dollarAlone : scheme.DollarAlone where
  read_dollar _ := rfl
  read_space _ := rfl
  read_map b rest := by
    simp only [scheme, read, readLong_map_spaceByte]
  eq_of_read := by
    intro b rest n h
    simp only [scheme, read] at h
    split at h
    · rw [Option.some.injEq, Prod.mk.injEq] at h
      exact eq_of_ofNat_toNat_eq_dollar h.1
    · split at h
      · cases h
      · split at h
        · exact absurd h readLong_ne_dollar
        · cases h

end Gb18030

namespace Utf8

theorem tails_map_spaceByte {lo : Nat} (hlo : 0x80 ≤ lo) (n hi : Nat) (rest : Bytes) :
    tails n lo hi (rest.map spaceByte) = tails n lo hi rest := by
  induction rest generalizing n lo hi with
  | nil => rfl
  | cons t rest ih => cases n with
    | zero => rfl
    | succ n =>
      by_cases ht : t = 0x24
      · subst ht
        simp only [List.map_cons, tails]
        rw [if_neg (by simp [spaceByte, Cipher.dollar, Cipher.space]; omega),
          if_neg (by simp; omega)]
      · simp only [List.map_cons, Cipher.spaceByte_of_ne ht, tails, ih (Nat.le_refl 0x80)]

theorem le_of_shape {b n lo hi : Nat} (h : shape b = some (n, lo, hi)) : 0x80 ≤ lo := by
  unfold shape at h
  grind

theorem scan_map_spaceByte (b : UInt8) (rest : Bytes) :
    scan b (rest.map spaceByte) = scan b rest := by
  unfold scan
  split
  · rfl
  · next n lo hi hsh => rw [tails_map_spaceByte (le_of_shape hsh)]

theorem le_foldl (ts : List Nat) (acc : Nat) : acc ≤ ts.foldl (fun acc t => 64 * acc + t) acc := by
  induction ts generalizing acc with
  | nil => exact Nat.le_refl acc
  | cons t ts ih =>
    have h := ih (64 * acc + t)
    rw [List.foldl_cons]
    omega

/-- No overlong form is accepted, so a code of several bytes has a value that needs them. -/
theorem headBits_of_shape {b n lo hi : Nat} (h : shape b = some (n + 1, lo, hi)) :
    2 ≤ headBits (n + 1) b ∨
      (1 ≤ n ∧ ∀ t, lo ≤ t → t ≤ hi → 2 ≤ 64 * headBits (n + 1) b + t % 64) := by
  unfold shape at h
  split at h
  · cases h
  · split at h
    · cases h
      simp only [headBits]
      omega
    · right
      repeat' split at h
      all_goals cases h
      all_goals exact ⟨by omega, fun t h₁ h₂ => by simp only [headBits]; omega⟩

theorem value_of_tails {b n lo hi : Nat} {rest : Bytes} (hsh : shape b = some (n + 1, lo, hi))
    (hl : (tails (n + 1) lo hi rest).length = n + 1) :
    0x80 ≤ (tails (n + 1) lo hi rest).foldl (fun acc t => 64 * acc + t) (headBits (n + 1) b) := by
  cases rest with
  | nil => simp [tails] at hl
  | cons t rest =>
    simp only [tails] at hl ⊢
    split at hl
    · next ht =>
      rw [if_pos ht, List.foldl_cons]
      rw [List.length_cons] at hl
      rcases headBits_of_shape hsh with hb | ⟨hn, hb⟩
      · exact Nat.le_trans (by omega) (le_foldl _ _)
      · cases hts : tails n 0x80 0xBF rest with
        | nil =>
          rw [hts, List.length_nil] at hl
          omega
        | cons u us =>
          have := hb t.toNat ht.1 ht.2
          rw [List.foldl_cons]
          exact Nat.le_trans (by omega) (le_foldl _ _)
    · simp at hl

theorem eq_of_read_dollar {b : UInt8} {rest : Bytes} {n : Nat}
    (h : read b rest = some ('$', n)) : b = 0x24 := by
  simp only [read, scan] at h
  split at h
  · next c k hs =>
    rw [Option.some.injEq, Prod.mk.injEq] at h
    obtain ⟨rfl, -⟩ := h
    split at hs
    · cases hs
    · next m lo hi hsh =>
      split at hs
      · next hl =>
        rw [Prod.mk.injEq, Option.some.injEq] at hs
        have hv := eq_of_ofNat_eq_dollar hs.1
        cases m with
        | zero => exact UInt8.toNat_inj.1 hv
        | succ m =>
          have := value_of_tails hsh hl
          omega
      · cases hs
  · cases h

theorem dollarAlone : scheme.DollarAlone where
  read_dollar _ := rfl
  read_space _ := rfl
  read_map b rest := by
    simp only [scheme, read, scan_map_spaceByte]
  eq_of_read := eq_of_read_dollar

end Utf8

theorem dollarAlone (charset : Charset) : charset.scheme.DollarAlone := by
  cases charset with
  | shiftJis => exact ShiftJis.dollarAlone
  | gbk => exact Gb18030.dollarAlone
  | gb18030 => exact Gb18030.dollarAlone
  | utf8 => exact Utf8.dollarAlone

theorem decode_map_spaceByte (charset : Charset) (bs : Bytes) :
    charset.decode (bs.map spaceByte) = (charset.decode bs).map spaced := by
  unfold decode
  rw [charset.dollarAlone.decode_map]
  cases charset.scheme.decode bs with
  | none => rfl
  | some cs => simp [spaced, Except.map]

theorem decode_nil (charset : Charset) : charset.decode [] = .ok "" := by
  simp [decode, Scheme.decode]

theorem encode_empty (charset : Charset) : charset.encode "" = .ok [] := by
  simp [encode, Scheme.encode]

end Charset

end Dialogue
