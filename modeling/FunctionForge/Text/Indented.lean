/-!
# Indented text

A text is built line by line, each at a level of indentation.
-/

namespace FunctionForge.Text

/-- How one level of indentation is written. -/
inductive Indent where
  | spaces (width : Nat)
  | tab
  deriving DecidableEq, Repr

namespace Indent

/-- The indentation of generated code: four spaces. -/
def standard : Indent := .spaces 4

/-- The text of one level. Widths other than two, four and eight fall back to four. -/
def unit : Indent → String
  | spaces 2 => "  "
  | spaces 8 => "        "
  | spaces _ => "    "
  | tab => "\t"

def text (indent : Indent) : Nat → String
  | 0 => ""
  | level + 1 => indent.unit ++ indent.text level

end Indent

/-- The text built so far and the level at which the next line stands. -/
structure Indented where
  indent : Indent
  level : Nat
  text : String
  deriving DecidableEq, Repr

namespace Indented

/-- No text, at the outermost level. -/
def new (indent : Indent) : Indented := ⟨indent, 0, ""⟩

/-- No text, with the standard indentation. -/
def standard : Indented := new .standard

def line (b : Indented) (s : String) : Indented :=
  { b with text := b.text ++ (b.indent.text b.level ++ s ++ "\n") }

def raw (b : Indented) (s : String) : Indented := { b with text := b.text ++ s }

def blank (b : Indented) : Indented := b.raw "\n"

def deeper (b : Indented) : Indented := { b with level := b.level + 1 }

/-- Goes one level out, and stays at the outermost. -/
def shallower (b : Indented) : Indented := { b with level := b.level - 1 }

end Indented

end FunctionForge.Text
