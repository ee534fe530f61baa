/-! Globs: patterns for whole names, matched byte by byte on their UTF-8 text.

A matcher gives the remainders: what can be left of a text after the pattern has taken its part. A
text matches if nothing can be left. -/

namespace ProviderCoverage

/-- A range of bytes, both ends included. -/
structure ByteRange where
  first : UInt8
  last : UInt8
deriving DecidableEq

inductive GlobToken where
  | byte (b : UInt8)
  /-- `?`: one byte. -/
  | anyByte
  /-- `*`: any number of bytes. -/
  | anyBytes
  | oneOf (negated : Bool) (ranges : List ByteRange)
  /-- `**` and a slash at the front: nothing, or whole components. -/
  | leadingComponents
  /-- A slash and `**` at the end: a slash and anything. -/
  | trailingComponents
  /-- `**` between slashes: one slash, or components between two. -/
  | innerComponents
  | alternatives (branches : List (List GlobToken))

namespace GlobToken

def slash : UInt8 := 47

def inRanges (ranges : List ByteRange) (b : UInt8) : Bool :=
  ranges.any fun r => r.first ≤ b && b ≤ r.last

/-- Whether one byte may be taken by `?` or `*`; if `whole` is false, a slash may not. -/
def takes (whole : Bool) (b : UInt8) : Bool :=
  whole || b != slash

/-- What is left after the first byte, if `p` accepts it. -/
def afterByte (p : UInt8 → Bool) : List UInt8 → List (List UInt8)
  | [] => []
  | b :: rest => if p b then [rest] else []

/-- What is left after any number of bytes that `p` accepts. -/
def afterBytes (p : UInt8 → Bool) : List UInt8 → List (List UInt8)
  | [] => [[]]
  | b :: rest => (b :: rest) :: if p b then afterBytes p rest else []

/-- What is left after any text that ends in a slash. -/
def afterSlashes : List UInt8 → List (List UInt8)
  | [] => []
  | b :: rest => if b = slash then rest :: afterSlashes rest else afterSlashes rest

/-- What is left after a slash at the front. -/
def afterSlash (s : List UInt8) : List (List UInt8) :=
  afterByte (· == slash) s

mutual

/-- The remainders of a token. -/
def remainders (whole : Bool) : GlobToken → List UInt8 → List (List UInt8)
  | byte b, s => afterByte (· == b) s
  | anyByte, s => afterByte (takes whole) s
  | anyBytes, s => afterBytes (takes whole) s
  | oneOf negated ranges, s => afterByte (fun b => inRanges ranges b != negated) s
  | leadingComponents, s => s :: afterSlashes s
  | trailingComponents, s => (afterSlash s).flatMap (afterBytes fun _ => true)
  | innerComponents, s => (afterSlash s).flatMap fun rest => rest :: afterSlashes rest
  | alternatives branches, s => remaindersOfBranches whole branches s

/-- The remainders of a sequence. -/
def remaindersOfAll (whole : Bool) : List GlobToken → List UInt8 → List (List UInt8)
  | [], s => [s]
  | t :: ts, s => ((t.remainders whole s).eraseDups.flatMap (remaindersOfAll whole ts)).eraseDups

/-- The remainders of any branch. -/
def remaindersOfBranches (whole : Bool) : List (List GlobToken) → List UInt8 → List (List UInt8)
  | [], _ => []
  | b :: bs, s => remaindersOfAll whole b s ++ remaindersOfBranches whole bs s

end

end GlobToken

/-- A pattern for whole texts. If `whole` is false, `?` and `*` stop at slashes. -/
structure Glob where
  tokens : List GlobToken
  whole : Bool

def utf8 (s : List Char) : List UInt8 :=
  s.flatMap String.utf8EncodeChar

def Glob.accepts (g : Glob) (s : String) : Bool :=
  (GlobToken.remaindersOfAll g.whole g.tokens (utf8 s.toList)).any (·.isEmpty)

end ProviderCoverage
