import Dialogue.Charset.Gb18030
import Dialogue.Charset.Name
import Dialogue.Charset.ShiftJis
import Dialogue.Charset.Utf8

/-!
# Text in an encoding

`decode` and `encode` are strict: nothing is replaced, because the result is written back
into game data. Text labelled GBK is treated as GB 18030, which extends it.
-/

namespace Dialogue.Charset

def scheme : Charset → Scheme
  | shiftJis => ShiftJis.scheme
  | gbk => Gb18030.scheme
  | gb18030 => Gb18030.scheme
  | utf8 => Utf8.scheme

def decode (charset : Charset) (bs : Bytes) : Except CharsetError String :=
  match charset.scheme.decode bs with
  | some cs => .ok (String.ofList cs)
  | none => .error (.undecodable charset)

def encode (charset : Charset) (text : String) : Except CharsetError Bytes :=
  match charset.scheme.encode text.toList with
  | some bs => .ok bs
  | none => .error (.unmappable charset text)

end Dialogue.Charset
