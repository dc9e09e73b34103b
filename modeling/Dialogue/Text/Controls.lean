/-!
# Control sequences

A terminal takes an escape character for the start of a sequence that it obeys and does not
show. `plain` keeps of a text what would be shown, with its line ends and tabs, so that text
from elsewhere cannot steer the terminal. `Phase` says how far inside a sequence a text has
come; `Phase.next` moves it on by a byte of the encoded text.
-/

namespace Dialogue.Text

inductive Phase where
  | text
  /-- Right behind an escape character. -/
  | escape
  /-- In an escape sequence of more than two characters. -/
  | longEscape
  /-- In a control sequence, which a letter ends. -/
  | control
  /-- In an operating system command, which a bell ends. -/
  | command
  /-- At the head of a device control string. -/
  | device
  /-- In the parameters of a device control string. -/
  | deviceParameters
  /-- Between the parameters of a device control string and its final character. -/
  | deviceMiddle
  /-- In a string that lasts until its terminator. -/
  | body
  deriving DecidableEq, Repr

namespace Phase

def next (p : Phase) (b : UInt8) : Phase :=
  if b = 0x18 ∨ b = 0x1A then text
  else if b = 0x1B then escape
  else
    match p with
    | text => text
    | escape =>
      if b = 0x5B then control
      else if b = 0x5D then command
      else if b = 0x50 then device
      else if b = 0x58 ∨ b = 0x5E ∨ b = 0x5F then body
      else if 0x20 ≤ b ∧ b ≤ 0x2F then longEscape
      else if 0x30 ≤ b ∧ b ≤ 0x7E then text
      else escape
    | longEscape => if 0x30 ≤ b ∧ b ≤ 0x7E then text else longEscape
    | control => if 0x40 ≤ b ∧ b ≤ 0x7E then text else control
    | command => if b = 0x07 then text else command
    | device =>
      if 0x20 ≤ b ∧ b ≤ 0x2F then deviceMiddle
      else if 0x30 ≤ b ∧ b ≤ 0x3F then deviceParameters
      else if 0x40 ≤ b ∧ b ≤ 0x7E then body
      else device
    | deviceParameters =>
      if 0x20 ≤ b ∧ b ≤ 0x2F then deviceMiddle
      else if 0x3C ≤ b ∧ b ≤ 0x7E then body
      else deviceParameters
    | deviceMiddle => if 0x30 ≤ b ∧ b ≤ 0x7E then body else deviceMiddle
    | body => if b = 0x9C then text else body

/-- The phase behind a character, whose encoding may hold the byte of a terminator. -/
def after (p : Phase) (c : Char) : Phase := (String.utf8EncodeChar c).foldl next p

def isSpacing (c : Char) : Bool := c = '\t' || c = '\n' || c = '\x0c' || c = '\r'

/-- Whether a character is shown. One that moves the cursor is obeyed inside a sequence, too. -/
def shows (p : Phase) (c : Char) : Bool :=
  match p with
  | text => isSpacing c || (0x20 ≤ c.toNat && c.toNat ≠ 0x7F)
  | escape | longEscape | control => isSpacing c
  | _ => false

/-- What is shown of a text that begins in a phase. What is shown ends a sequence. -/
def plain : Phase → List Char → List Char
  | _, [] => []
  | p, c :: cs => if p.shows c then c :: plain .text cs else plain (p.after c) cs

end Phase

/-- The text without its control sequences. -/
def plain (s : String) : String := String.ofList (Phase.text.plain s.toList)

end Dialogue.Text
