/-!
# Painted texts

Texts with escapes that give them an ink on a terminal. A painted text stands between the escape
that begins its ink and the one that ends every ink. Where the text itself ends an ink, its own ink
begins again.
-/

namespace PipeShell.Text

inductive Ink where
  | dim | red | green | magenta | brightBlack | brightRed | brightBlue | brightMagenta | brightCyan
deriving DecidableEq, Repr, Inhabited

def Ink.code : Ink → Nat
  | dim => 2
  | red => 31
  | green => 32
  | magenta => 35
  | brightBlack => 90
  | brightRed => 91
  | brightBlue => 94
  | brightMagenta => 95
  | brightCyan => 96

def escape (code : Nat) : String := "\x1b[" ++ toString code ++ "m"

def inkEnd : String := escape 0

def Ink.begin (ink : Ink) : String := escape ink.code

def Ink.paint (ink : Ink) (text : String) : String :=
  ink.begin ++ (inkEnd ++ ink.begin).intercalate (text.splitOn inkEnd) ++ inkEnd

end PipeShell.Text
