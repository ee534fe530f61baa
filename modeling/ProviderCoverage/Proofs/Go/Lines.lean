import ProviderCoverage.Go.SourceFile

/-! Source files that are written out line by line. What a file declares can be computed from its
text, once that is the list of the characters of its lines (`ofLines_eq`, `textOfLines_cons`). -/

namespace ProviderCoverage.Go.SourceFile

/-- The text of some lines, each with a line break after it. -/
def textOfLines : List String → List Char
  | [] => []
  | line :: lines => line.toList ++ '\n' :: textOfLines lines

/-- The file with these lines. -/
def ofLines (path : String) (lines : List String) (isTest : Bool) : SourceFile :=
  read path (String.ofList (textOfLines lines)) isTest

theorem ofLines_eq (path : String) (lines : List String) (isTest : Bool) :
    ofLines path lines isTest = ⟨path, isTest, parseChars (textOfLines lines)⟩ := by
  rw [ofLines, read, parse, String.toList_ofList]

/-- A line that is written out need not be decoded. -/
theorem textOfLines_cons (line : List Char) (lines : List String) :
    textOfLines (String.ofList line :: lines) = line ++ '\n' :: textOfLines lines := by
  rw [textOfLines, String.toList_ofList]

end ProviderCoverage.Go.SourceFile
