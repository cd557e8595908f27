/-! Colors and weights of terminal text as ANSI sequences. -/

namespace BoostFeed.Terminal

inductive Style where
  | bold
  | dimmed
  | red
  | green
  | yellow
  | magenta
  | cyan
  | boldGreen
  | boldRed

/-- The parameters of the sequence that turns a style on. -/
def Style.code : Style → String
  | .bold => "1"
  | .dimmed => "2"
  | .red => "31"
  | .green => "32"
  | .yellow => "33"
  | .magenta => "35"
  | .cyan => "36"
  | .boldGreen => "1;32"
  | .boldRed => "1;31"

/-- The variables that have a say in colors. -/
def colorVariables : List String := ["CLICOLOR_FORCE", "NO_COLOR", "CLICOLOR"]

/-- Whether text is colored: one variable asks for it, two speak against it, else a terminal decides. -/
def wantsColors (lookup : String → Option String) (isTerminal : Bool) : Bool :=
  match lookup "CLICOLOR_FORCE" with
  | some "0" | none => (lookup "NO_COLOR").isNone && isTerminal && lookup "CLICOLOR" ≠ some "0"
  | some _ => true

/-- Turns all styles off. -/
def resetSequence : String := "\x1b[0m"

/-- A text in a style, plain without colors. Where the text itself turns styles off, this one comes on
again. -/
def styled (colors : Bool) (s : Style) (text : String) : String :=
  if colors then
    let on := "\x1b[" ++ s.code ++ "m"
    on ++ (resetSequence ++ on).intercalate (text.splitOn resetSequence) ++ resetSequence
  else text

end BoostFeed.Terminal
