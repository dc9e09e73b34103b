import Dialogue.Charset.Utf8

/-!
# Commands and flags

The words of a command line: the commands, and the flags that can stand before a command or
behind it.
-/

namespace Dialogue.CommandLine

/-- Arguments need not be text. -/
abbrev Argument := Bytes

inductive Command where
  | exportText
  | build
  | dump
  deriving DecidableEq, Repr

namespace Command

def all : List Command := [exportText, build, dump]

def word : Command → String
  | exportText => "export"
  | build => "build"
  | dump => "dump"

def ofWord? (a : Argument) : Option Command := all.find? fun c => Bytes.ofText c.word = a

/-- The word that asks for help about a command. -/
def helpWord : String := "help"

end Command

/-- What a flag or an argument can give a value to. -/
inductive Slot where
  | config
  | encoding
  | output
  | path
  deriving DecidableEq, Repr

inductive Flag where
  | encoding
  | output
  | config
  | verbose
  | help
  | version
  deriving DecidableEq, Repr

namespace Flag

/-- The flags known at a place, in the order in which help shows them: before the command
(`none`) or behind one. -/
def known : Option Command → List Flag
  | none => [config, verbose, help, version]
  | some .dump => [config, encoding, output, verbose, help]
  | some _ => [config, encoding, verbose, help]

def long : Flag → String
  | encoding => "encoding"
  | output => "output"
  | config => "config"
  | verbose => "verbose"
  | help => "help"
  | version => "version"

def short : Flag → Char
  | encoding => 'e'
  | output => 'o'
  | config => 'c'
  | verbose => 'v'
  | help => 'h'
  | version => 'V'

/-- What a flag gives a value to, if it takes one. -/
def slot? : Flag → Option Slot
  | encoding => some .encoding
  | output => some .output
  | config => some .config
  | _ => none

def ofLong? (place : Option Command) (name : Bytes) : Option Flag :=
  (known place).find? fun f => Bytes.ofText f.long = name

def ofShort? (place : Option Command) (letter : UInt8) : Option Flag :=
  (known place).find? fun f => f.short.toNat = letter.toNat

end Flag

end Dialogue.CommandLine
