import ProviderCoverage.CommandLine

/-! The program. The files to be looked at are named on standard input, one path on a line, below
the working directory. -/

open ProviderCoverage

/-- The lines of a stream up to its end. -/
partial def readLines (input : IO.FS.Stream) (lines : List String) : IO (List String) := do
  let line ← input.getLine
  if line.isEmpty then pure lines.reverse
  else readLines input (String.ofList (Text.trimEnd line.toList) :: lines)

def readFolder (paths : List String) : IO Folder :=
  paths.foldlM (fun folder (path : String) => do
    let content ← IO.FS.readBinFile path
    pure (folder.write (FilePath.ofText path) content)) Folder.empty

def main (words : List String) : IO UInt32 := do
  let paths ← readLines (← IO.getStdin) []
  let answer := CommandLine.answer words (← readFolder (paths.filter (!·.isEmpty)))
  IO.eprint answer.notes
  IO.print answer.output
  pure (if answer.succeeds then 0 else 1)
