/-! Text styles of a terminal, as escape sequences around the text. -/

namespace ProviderCoverage

inductive Style where
  | bold
  | dimmed
  | red
  | green
  | yellow
  | blue
  | cyan
deriving DecidableEq

namespace Style

/-- The code that switches the style on. -/
def code : Style → String
  | bold => "1"
  | dimmed => "2"
  | red => "31"
  | green => "32"
  | yellow => "33"
  | blue => "34"
  | cyan => "36"

/-- The code that ends the style: all of them for weights, the colour alone for colours. -/
def endCode : Style → String
  | bold | dimmed => "0"
  | _ => "39"

def escape (code : String) : String :=
  "\x1b[" ++ code ++ "m"

def apply (s : Style) (text : String) : String :=
  escape s.code ++ text ++ escape s.endCode

end Style

/-- A text in several styles, the first of them innermost. -/
def styled (styles : List Style) (text : String) : String :=
  styles.foldl (fun text s => s.apply text) text

end ProviderCoverage
