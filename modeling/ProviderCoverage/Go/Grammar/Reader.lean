import ProviderCoverage.Go.Node

/-! Readers of syntax: functions that take nodes from the front of a list of tokens, or fail and
take nothing. -/

namespace ProviderCoverage.Go

abbrev Reader := StateT (List Token) Option

namespace Reader

def fail {α : Type} : Reader α :=
  fun _ => none

def peek? : Reader (Option Token) :=
  fun ts => some (ts.head?, ts)

/-- Whether the next token is this operator or keyword. -/
def sees (text : String) : Reader Bool :=
  fun ts => some (ts.head?.any (·.is text), ts)

def seesAny (texts : List String) : Reader Bool :=
  fun ts => some (texts.any fun text => ts.head?.any (·.is text), ts)

def atEnd : Reader Bool :=
  fun ts => some (ts.isEmpty, ts)

def tokenWhere (p : Token → Bool) : Reader Node
  | t :: ts => if p t then some (.leaf t, ts) else none
  | [] => none

def symbol (text : String) : Reader Node :=
  tokenWhere (·.is text)

def identifier : Reader Node :=
  tokenWhere (·.kind == .identifier)

/-- Drop the statement ends that line breaks imply. -/
def skipLineEnds : Reader Unit :=
  fun ts => some ((), ts.dropWhile (·.kind == .lineEnd))

/-- An operator that may stand on a later line. -/
def symbolAfterLineEnds (text : String) : Reader Node := do
  skipLineEnds
  symbol text

def orElse {α : Type} (p q : Reader α) : Reader α :=
  fun ts => (p ts).orElse fun _ => q ts

def optional? {α : Type} (p : Reader α) : Reader (Option α) :=
  orElse (some <$> p) (pure none)

/-- The node, or the mark of an absent one. -/
def orAbsent (p : Reader Node) : Reader Node :=
  orElse p (pure .absent)

/-- Repeat while the reader succeeds and takes something, at most `fuel` times. -/
def manyUpTo (p : Reader (List Node)) : Nat → Reader (List Node)
  | 0 => pure []
  | fuel + 1 => fun ts =>
    match p ts with
    | some (ns, rest) =>
      if rest.length < ts.length then
        (manyUpTo p fuel rest).map fun (more, rest) => (ns ++ more, rest)
      else some ([], ts)
    | none => some ([], ts)

/-- Repeat while the reader succeeds. -/
def many (p : Reader (List Node)) : Reader (List Node) :=
  fun ts => manyUpTo p ts.length ts

/-- One or more nodes with a separator between them. -/
def separated (sep : Reader Node) (p : Reader Node) : Reader (List Node) := do
  let first ← p
  let more ← many do
    let s ← sep
    let n ← p
    pure [s, n]
  pure (first :: more)

def comma : Reader Node :=
  symbolAfterLineEnds ","

/-- Nodes separated by commas, with a comma after the last one allowed, between brackets. -/
def bracketed (opening closing : String) (p : Reader Node) : Reader (List Node) := do
  let o ← symbol opening
  let inside ← orElse
    (do
      let ns ← separated comma p
      match ← optional? comma with
      | some c => pure (ns ++ [c])
      | none => pure ns)
    (pure [])
  let c ← symbolAfterLineEnds closing
  pure (o :: inside ++ [c])

end Reader
end ProviderCoverage.Go
