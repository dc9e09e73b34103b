/-!
# Notices

What the tool reports while it works: a level, the part of the tool that speaks, and a
message.
-/

namespace Dialogue

inductive Level where
  | error
  | warn
  | info
  | debug
  | trace
  deriving DecidableEq, Repr

namespace Level

def name : Level → String
  | error => "ERROR"
  | warn => "WARN"
  | info => "INFO"
  | debug => "DEBUG"
  | trace => "TRACE"

/-- A larger rank is a more talkative level. -/
def rank : Level → Nat
  | error => 1
  | warn => 2
  | info => 3
  | debug => 4
  | trace => 5

end Level

/-- The part of the tool a notice comes from. -/
inductive Source where
  | tool
  | batch
  | listing
  | container
  | decoder
  | text
  | relocation
  deriving DecidableEq, Repr

/-- The path by which a log filter addresses a source. -/
def Source.path : Source → String
  | tool => "mestool"
  | batch => "mestool::batch"
  | listing => "mestool::listing"
  | container => "mes_script::container"
  | decoder => "mes_script::decode"
  | text => "mes_script::text"
  | relocation => "mes_script::relocate"

structure Notice where
  level : Level
  source : Source
  message : String
  deriving DecidableEq, Repr

end Dialogue
