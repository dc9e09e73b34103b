import Dialogue.Listing
import Dialogue.Yaml.Scalar

/-!
# Listings as YAML

A listing is written as a block mapping; `extra` appears only where it is true, and `text`
only where there is one.
-/

namespace Dialogue.Listing

def field (name value : String) : String := name ++ ": " ++ value ++ "\n"

def Jump.toYaml (j : Jump) : String :=
  "- " ++ field "index" (toString j.index) ++
  "  " ++ field "target" (toString j.target) ++
  "  " ++ field "flag" (toString j.flag) ++
  "  " ++ field "aux" (toString j.aux.toNat) ++
  "  " ++ field "resolved" (toString j.resolved)

def kindName : Kind → String
  | .unknown => "unknown"
  | .stringLoad => "string_load"

def opcodeName (op : Opcode) : String := "0x" ++ Hex.byte op.toNat

def Entry.toYaml (e : Entry) : String :=
  "- " ++ field "address" (toString e.address) ++
  "  " ++ field "length" (toString e.length) ++
  "  opcode: " ++ Yaml.scalar (opcodeName e.opcode) ++
  "  kind: " ++ Yaml.scalar (kindName e.kind) ++
  (if e.hasExtra then "  " ++ field "extra" "true" else "") ++
  match e.text with
  | some text => "  text: " ++ Yaml.scalar text
  | none => ""

/-- A key with a list as its value. -/
def block (name : String) (items : List String) : String :=
  if items.isEmpty then field name "[]" else name ++ ":\n" ++ String.join items

def toYaml (l : Listing) : String :=
  field "version" (toString l.version.toNat) ++
  field "marker" (toString l.marker.toNat) ++
  field "code_size" (toString l.codeSize) ++
  block "jumps" (l.jumps.map Jump.toYaml) ++
  block "insts" (l.entries.map Entry.toYaml)

end Dialogue.Listing
