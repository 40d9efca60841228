import PipeShell.Text.Painted

/-!
# Themes

A theme says in which inks the shell speaks. Without colours all themes show the same texts, but for
the sign of success.
-/

namespace PipeShell
open Text (Ink)

structure Theme where
  coloured : Bool := false
  successSign : String := "✓"
  successSignInk : Ink := .green
  welcomeInk : Ink := .brightCyan
  farewellInk : Ink := .brightBlue
  promptInk : Ink := .brightCyan
  errorInk : Ink := .brightRed
  successInk : Ink := .green
  listingInk : Ink := .dim
deriving DecidableEq, Repr, Inhabited

namespace Theme

def dark (coloured : Bool) : Theme :=
  { coloured
    successSign := "♦"
    successSignInk := .brightMagenta
    welcomeInk := .brightMagenta
    farewellInk := .brightMagenta
    promptInk := .brightMagenta
    errorInk := .red
    successInk := .magenta
    listingInk := .brightBlack }

/-- The theme of a name. All names but one stand for the same theme. -/
def named (name : String) (coloured : Bool) : Theme :=
  if name = "dark" then dark coloured else { coloured }

def paint (t : Theme) (ink : Ink) (text : String) : String :=
  if t.coloured then ink.paint text else text

def success (t : Theme) : String := t.paint t.successSignInk t.successSign

def failure (t : Theme) : String := t.paint .red "✗"

def welcome (t : Theme) : String := t.paint t.welcomeInk "psh - type \x60exit\x60 to leave"

def farewell (t : Theme) : String := t.paint t.farewellInk "bye"

def errorLine (t : Theme) (text : String) : String :=
  t.failure ++ " " ++ t.paint t.errorInk text ++ "\n"

def successLine (t : Theme) (text : String) : String :=
  t.success ++ " " ++ t.paint t.successInk text ++ "\n"

end Theme
end PipeShell
