import ProviderCoverage.Glob.Basic

/-! The written form of globs: `*`, `?`, `**` between slashes, classes such as `[a-z]` and `[!a]`,
alternatives `{a,b}` that may nest, and a backslash before a character that stands for itself. -/

namespace ProviderCoverage

inductive GlobError where
  | unclosedClass
  | invalidRange (first last : Char)
  | unclosedAlternatives
  | unopenedAlternatives
  | danglingEscape
deriving DecidableEq

def GlobError.reason : GlobError → String
  | unclosedClass => "unclosed character class; missing ']'"
  | invalidRange first last =>
    "invalid range; '" ++ String.singleton first ++ "' > '" ++ String.singleton last ++ "'"
  | unclosedAlternatives =>
    "unclosed alternate group; missing '\x7d' (maybe escape '\x7b' with '[\x7b]'?)"
  | unopenedAlternatives =>
    "unopened alternate group; missing '\x7b' (maybe escape '\x7d' with '[\x7d]'?)"
  | danglingEscape => "dangling '\\'"

def GlobError.message (e : GlobError) (glob : String) : String :=
  "error parsing glob '" ++ glob ++ "': " ++ e.reason

namespace GlobToken

def ofChar (c : Char) : List GlobToken :=
  (String.utf8EncodeChar c).map byte

/-- The bytes that a range of characters stands for in a class: those of its ends one by one, and
the range from the last byte of one to the first of the other. -/
def byteRanges (first last : Char) : List ByteRange :=
  let a := String.utf8EncodeChar first
  let b := String.utf8EncodeChar last
  if first = last then a.map fun x => ⟨x, x⟩
  else
    (a.dropLast.map fun x => ⟨x, x⟩) ++ [⟨a.getLast?.getD 0, b.head?.getD 0⟩]
      ++ b.tail.map fun x => ⟨x, x⟩

end GlobToken

namespace Glob

/-- A class whose closing bracket has not been read. Its ranges are in reverse. -/
structure OpenClass where
  negated : Bool
  ranges : List (Char × Char)
  first : Bool
  inRange : Bool

/-- A group whose closing brace has not been read: the tokens before it in reverse, and its
branches up to the current one. -/
structure OpenGroup where
  before : List GlobToken
  branches : List (List GlobToken)

structure Reading where
  previous : Option Char
  /-- The tokens of the current branch in reverse. -/
  current : List GlobToken
  groups : List OpenGroup
  openClass : Option OpenClass

namespace Reading

def push (r : Reading) (c : Char) (ts : List GlobToken) : Reading :=
  { r with previous := some c, current := ts.reverse ++ r.current }

/-- Extend the last range of a class to `c`. -/
def extendRange (cls : OpenClass) (c : Char) : Except GlobError OpenClass :=
  match cls.ranges with
  | (a, _) :: more =>
    if c < a then .error (.invalidRange a c)
    else .ok { cls with ranges := (a, c) :: more, inRange := false }
  | [] => .ok { cls with ranges := [(c, c)], inRange := false }

/-- One character of a class; `none` when it closes the class. -/
def classStep (cls : OpenClass) (c : Char) : Except GlobError (Option OpenClass) :=
  let single := { cls with ranges := (c, c) :: cls.ranges, first := false, inRange := false }
  if c = ']' then
    if cls.first then .ok (some single) else .ok none
  else if c = '-' && cls.first then .ok (some single)
  else if c = '-' && !cls.inRange then .ok (some { cls with first := false, inRange := true })
  else if cls.inRange then (extendRange { cls with first := false } c).map some
  else .ok (some single)

/-- A hyphen at the end of a class stands for itself. -/
def classToken (cls : OpenClass) : GlobToken :=
  let ranges := if cls.inRange then ('-', '-') :: cls.ranges else cls.ranges
  .oneOf cls.negated (ranges.reverse.flatMap fun (a, b) => GlobToken.byteRanges a b)

/-- A group of branches, of which the empty ones count for nothing. -/
def group (branches : List (List GlobToken)) : List GlobToken :=
  let full := branches.filter (!·.isEmpty)
  if full.isEmpty then [] else [.alternatives full]

/-- Whether `**` may begin here: at a slash or the start of a branch. -/
def atComponentStart (r : Reading) : Bool :=
  r.previous == some '/' ||
    (!r.groups.isEmpty && (r.previous == some ',' || r.previous == some '\x7b'))

/-- `**` after other tokens. It takes the slash before it along. -/
def components (r : Reading) (c : Char) (token : GlobToken) : Reading :=
  let kept := match r.current with
    | .leadingComponents :: rest => .leadingComponents :: rest
    | .trailingComponents :: rest => .trailingComponents :: rest
    | _ :: rest => token :: rest
    | [] => [token]
  { r with previous := some c, current := kept }

end Reading

open Reading in
/-- The tokens of a glob from here on. -/
def readFrom (r : Reading) : List Char → Except GlobError (List GlobToken)
  | [] =>
    if r.openClass.isSome then .error .unclosedClass
    else if r.groups.isEmpty then .ok r.current.reverse
    else .error .unclosedAlternatives
  | c :: rest =>
    match r.openClass with
    | some cls =>
      match classStep cls c with
      | .error e => .error e
      | .ok (some cls) => readFrom { r with previous := some c, openClass := some cls } rest
      | .ok none => readFrom { r.push c [classToken cls] with openClass := none } rest
    | none =>
      match c with
      | '?' => readFrom (r.push c [.anyByte]) rest
      | '[' =>
        match rest with
        | '!' :: rest | '^' :: rest =>
          readFrom { r with previous := some c, openClass := some ⟨true, [], true, false⟩ } rest
        | rest =>
          readFrom { r with previous := some c, openClass := some ⟨false, [], true, false⟩ } rest
      | '\x7b' =>
        readFrom { r with previous := some c, current := [], groups := ⟨r.current, []⟩ :: r.groups }
          rest
      | '\x7d' =>
        match r.groups with
        | [] => .error .unopenedAlternatives
        | g :: gs =>
          let branches := g.branches ++ [r.current.reverse]
          readFrom { r with previous := some c, current := group branches ++ g.before, groups := gs }
            rest
      | ',' =>
        match r.groups with
        | [] => readFrom (r.push c (GlobToken.ofChar c)) rest
        | g :: gs =>
          let g := { g with branches := g.branches ++ [r.current.reverse] }
          readFrom { r with previous := some c, current := [], groups := g :: gs } rest
      | '\\' =>
        match rest with
        | [] => .error .danglingEscape
        | d :: rest => readFrom (r.push d (GlobToken.ofChar d)) rest
      | '*' =>
        match rest with
        | '*' :: rest =>
          if r.current.isEmpty then
            match rest with
            | [] => readFrom (r.push c [.leadingComponents]) []
            | '/' :: rest => readFrom (r.push '/' [.leadingComponents]) rest
            | rest => readFrom (r.push c [.anyBytes]) rest
          else if !r.atComponentStart then readFrom (r.push c [.anyBytes]) rest
          else match rest with
            | [] => readFrom (r.components c .trailingComponents) []
            | '/' :: rest => readFrom (r.components '/' .innerComponents) rest
            | d :: rest =>
              if !r.groups.isEmpty && (d == ',' || d == '\x7d') then
                readFrom (r.components c .trailingComponents) (d :: rest)
              else readFrom (r.push c [.anyBytes]) (d :: rest)
        | rest => readFrom (r.push c [.anyBytes]) rest
      | c => readFrom (r.push c (GlobToken.ofChar c)) rest

/-- A glob that is nothing but `**` takes everything. -/
def ofTokens (whole : Bool) : List GlobToken → Glob
  | [.leadingComponents] => ⟨[.anyBytes], true⟩
  | tokens => ⟨tokens, whole⟩

/-- Read a glob whose `?` and `*` pass slashes if `whole`. -/
def read (whole : Bool) (glob : String) : Except GlobError Glob :=
  (readFrom ⟨none, [], [], none⟩ glob.toList).map (ofTokens whole)

end Glob
end ProviderCoverage
