import Dialogue.Text.Blank
import Dialogue.Text.Quoted

/-!
# Text encodings by name

The four encodings a script's text may be stored in, the names they go by, and what can
go wrong between bytes and text.
-/

namespace Dialogue

inductive Charset where
  | shiftJis
  | gbk
  | gb18030
  | utf8
  deriving DecidableEq, Repr, Inhabited

namespace Charset

/-- The name shown to the user. -/
def name : Charset → String
  | shiftJis => "shift_jis"
  | gbk => "gbk"
  | gb18030 => "gb18030"
  | utf8 => "utf-8"

/-- The encoding that a name means; case and outer blanks do not matter. -/
def named? (s : String) : Option Charset :=
  let key := String.ofList ((Text.trim s.toList).map Char.toLower)
  if key ∈ ["sjis", "shift_jis", "shift-jis", "cp932"] then some shiftJis
  else if key ∈ ["gbk", "cp936"] then some gbk
  else if key = "gb18030" then some gb18030
  else if key ∈ ["utf8", "utf-8"] then some utf8
  else none

end Charset

inductive CharsetError where
  /-- No encoding has this name. -/
  | unknown (name : String)
  /-- The bytes are not text in this encoding. -/
  | undecodable (charset : Charset)
  /-- The encoding has no code for some character of the text. -/
  | unmappable (charset : Charset) (text : String)
  deriving DecidableEq, Repr

def CharsetError.message : CharsetError → String
  | unknown name => "unknown text encoding: " ++ name
  | undecodable charset => charset.name ++ ": byte sequence is not valid text"
  | unmappable charset text => charset.name ++ ": cannot represent " ++ Text.quote text

def Charset.ofName (s : String) : Except CharsetError Charset :=
  match Charset.named? s with
  | some charset => .ok charset
  | none => .error (.unknown s)

end Dialogue
