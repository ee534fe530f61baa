import ProviderCoverage.Go.Grammar.Statements
import ProviderCoverage.Go.Lexeme

/-! The syntax tree of a source text. -/

namespace ProviderCoverage.Go

namespace Grammar

open Reader

/-- The readers of nested constructs, `depth` levels deep. -/
def nestedUpTo : Nat → Nested
  | 0, _ => fail
  | depth + 1, c =>
    let nested := nestedUpTo depth
    match c with
    | .expression headed => expressionRule nested headed
    | .type => typeRule nested
    | .block => blockRule nested
    | .statement => statementRule nested
    | .element => elementRule nested

def packageClause : Reader Node := do
  let p ← symbol "package"
  let name ← identifier
  pure (.branch .other [p, name])

def topLevel (nested : Nested) : Reader Node := do
  match ← peek? with
  | none => fail
  | some t =>
    if t.is "func" then functionDeclaration nested
    else if t.is "import" then grouped "import" importSpec
    else if t.is "package" then packageClause
    else declaration nested

/-- Whether a declaration can begin here: at a keyword that opens one, in the first column. -/
def opensDeclaration (t : Token) : Bool :=
  t.position.column == 1 && (t.is "func" || t.is "import" || t.is "var" || t.is "const" || t.is "type")

/-- One token and those after it up to the next declaration. -/
def unread : Reader Node
  | [] => none
  | t :: ts =>
    let skipped := ts.takeWhile (!opensDeclaration ·)
    some (.branch .unread ((t :: skipped).map .leaf), ts.drop skipped.length)

/-- The declarations of a file. What cannot be read is kept as it is, up to the next one. -/
def declarations (nested : Nested) : Reader (List Node) :=
  many (orElse
    (do
      let n ← topLevel nested
      if ← atEnd then pure [n]
      else
        let t ← terminator
        pure [n, t])
    (orElse (do let t ← terminator; pure [t]) (do let n ← unread; pure [n])))

end Grammar

/-- The tree of a text. Rules nest less deeply than there are tokens. -/
def parseChars (s : List Char) : Node :=
  let ts := tokens s
  let depth := 4 * (ts.length + 1)
  match Grammar.declarations (Grammar.nestedUpTo depth) ts with
  | some (ns, _) => .branch .file ns
  | none => .branch .file []

def parse (source : String) : Node :=
  parseChars source.toList

end ProviderCoverage.Go
