import ProviderCoverage.Unicode.Case
import ProviderCoverage.Text.Cut

/-! The two spellings of a name: words joined by underscores (`example_widget`), as entities are
called, and words run together (`ExampleWidget`), as the functions and types about them are. -/

namespace ProviderCoverage.Naming

open Unicode

/-- Whether a word begins at `c`: an upper-case character after a lower-case one or a digit, or
the last upper-case character of a run that a lower-case one follows. -/
def beginsWord (previous : Option Char) (c : Char) (next : Option Char) : Bool :=
  isUppercase c && previous.any fun p =>
    isLowercase p || p.isDigit || (isUppercase p && next.any isLowercase)

def snakeFrom (previous : Option Char) : List Char → List Char
  | [] => []
  | c :: rest =>
    (if beginsWord previous c rest.head? then ['_'] else []) ++ lowercase c
      ++ snakeFrom (some c) rest

/-- `WidgetResource` to `widget_resource`, `HTTPServer` to `http_server`. -/
def snakeCase (s : List Char) : List Char :=
  snakeFrom none s

def capitalize : List Char → List Char
  | [] => []
  | c :: rest => uppercase c ++ rest

/-- `example_widget` to `ExampleWidget`. -/
def titleCase (s : List Char) : List Char :=
  (Text.splitOn '_' s).flatMap capitalize

/-- The text after the first underscore, when there is any: `example_widget` to `widget`. -/
def withoutProviderPrefix? (name : List Char) : Option (List Char) :=
  match Text.splitFirst? '_' name with
  | some (_, c :: rest) => some (c :: rest)
  | _ => none

end ProviderCoverage.Naming
