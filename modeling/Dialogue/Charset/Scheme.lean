import Dialogue.Bytes

/-!
# Encoding schemes

A scheme reads one character off the front of a byte sequence and writes one character as
bytes. Whole texts are read and written character by character, and fail as a whole.
-/

namespace Dialogue.Charset

structure Scheme where
  /-- The character that a first byte and what follows it begin with, and how many bytes
  after the first belong to it. -/
  read : UInt8 → Bytes → Option (Char × Nat)
  /-- The code of a character. -/
  write : Char → Option Bytes

namespace Scheme

def decode (s : Scheme) : Bytes → Option (List Char)
  | [] => some []
  | b :: rest =>
    match s.read b rest with
    | some (c, n) => (decode s (rest.drop n)).map (c :: ·)
    | none => none
  termination_by bs => bs.length
  decreasing_by simp only [List.length_drop, List.length_cons]; omega

def encode (s : Scheme) : List Char → Option Bytes
  | [] => some []
  | c :: cs =>
    match s.write c, encode s cs with
    | some bs, some rest => some (bs ++ rest)
    | _, _ => none

end Scheme

end Dialogue.Charset
