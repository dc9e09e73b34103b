import Dialogue.Regex.Match
import Dialogue.Regex.Meaning

/-!
# From patterns to regular expressions

`compile` reads a pattern and gives it its meaning. A pattern fails because it is malformed,
or because it would take too much memory.
-/

namespace Dialogue.Regex

inductive Error where
  | malformed (pattern : String) (m : Malformed)
  | tooLarge
  deriving DecidableEq, Repr

def Error.message : Error → String
  | malformed pattern m => m.report pattern
  | tooLarge => s!"Compiled regex exceeds size limit of {sizeLimit} bytes."

def compile (pattern : String) : Except Error Regex :=
  let read : Meaning Regex := do
    let e ← Expr.ofPattern pattern.toList
    return (← e.meaning {}).1
  match read with
  | .error m => .error (.malformed pattern m)
  | .ok r => if r.size ≤ sizeLimit then .ok r else .error .tooLarge

end Dialogue.Regex
