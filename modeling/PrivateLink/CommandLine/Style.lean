/-!
# Styled text

Text is shown in a colour, bold or not, by codes that a terminal understands. A code that ends a
style inside the text would end the style of the whole, so the style begins anew behind it.
-/

namespace PrivateLink.CommandLine

/-- The colours in use. -/
inductive Colour where
  | red
  | green
  | yellow
  | cyan
deriving DecidableEq, Repr

/-- The number of a colour. -/
def Colour.code : Colour → String
  | .red => "31"
  | .green => "32"
  | .yellow => "33"
  | .cyan => "36"

/-- A colour, bold or not. -/
structure Style where
  colour : Colour
  bold : Bool := false
deriving DecidableEq, Repr

namespace Style

/-- The code that begins the style. -/
def start (style : Style) : String :=
  "\x1b[" ++ (if style.bold then "1;" else "") ++ style.colour.code ++ "m"

/-- The code that ends all styles. -/
def reset : String := "\x1b[0m"

/-- The characters with `start` behind every code that ends all styles. -/
def restarted (start : List Char) : List Char → List Char
  | '\x1b' :: '[' :: '0' :: 'm' :: rest =>
    '\x1b' :: '[' :: '0' :: 'm' :: start ++ restarted start rest
  | c :: rest => c :: restarted start rest
  | [] => []

/-- The text in the style. -/
def paint (style : Style) (text : String) : String :=
  style.start ++ String.ofList (restarted style.start.toList text.toList) ++ reset

end Style

/-- Styles are shown only where the variables force it, since the output is not taken to be a
terminal. -/
def isColoured (environment : String → Option String) : Bool :=
  (environment "CLICOLOR_FORCE").any (· ≠ "0")

end PrivateLink.CommandLine
