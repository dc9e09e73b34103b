import Dialogue.Bytes

/-!
# The cipher of string loads

Stored bytes are plain bytes shifted down by `0x20`. A space is stored as if it were a
dollar sign, so both have the stored byte `0x04`, which is always read as a space. No plain
byte is stored as zero, the byte that ends a text.
-/

namespace Dialogue.Cipher

def shift : UInt8 := 0x20

def space : UInt8 := 0x20

/-- The plain byte in whose place a space is stored. -/
def dollar : UInt8 := 0x24

def decryptByte (b : UInt8) : UInt8 :=
  if b + shift = dollar then space else b + shift

def encryptByte (b : UInt8) : UInt8 :=
  (if b = space then dollar else b) - shift

def decrypt (bs : Bytes) : Bytes := bs.map decryptByte

def encrypt (bs : Bytes) : Bytes := bs.map encryptByte

theorem encryptByte_ne_zero (b : UInt8) : encryptByte b ≠ 0 :=
  Bytes.forall_byte (p := fun b => encryptByte b ≠ 0) (by decide +kernel) b

theorem encryptByte_decryptByte {b : UInt8} (h : b ≠ 0) : encryptByte (decryptByte b) = b :=
  Bytes.forall_byte (p := fun b => b ≠ 0 → encryptByte (decryptByte b) = b)
    (by decide +kernel) b h

theorem decryptByte_encryptByte (b : UInt8) :
    decryptByte (encryptByte b) = if b = dollar then space else b :=
  Bytes.forall_byte (p := fun b => decryptByte (encryptByte b) = if b = dollar then space else b)
    (by decide +kernel) b

theorem length_encrypt (bs : Bytes) : (encrypt bs).length = bs.length := List.length_map ..

theorem zero_not_mem_encrypt (bs : Bytes) : (0 : UInt8) ∉ encrypt bs := by
  simp [encrypt, encryptByte_ne_zero]

end Dialogue.Cipher
