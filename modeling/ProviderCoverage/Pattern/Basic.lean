import ProviderCoverage.Unicode.Case
import ProviderCoverage.Unicode.Class

/-! Regular expressions and search. A place in a text is what comes before it, as far as one
character, and what comes after it. An expression leads from a place to the places where it can
end. -/

namespace ProviderCoverage

inductive CharClass where
  | range (first last : Char)
  /-- A range with the characters that differ from its members only in case. -/
  | foldedRange (first last : Char)
  | digit
  | space
  | word
  | union (members : List CharClass)
  | both (a b : CharClass)
  | without (a b : CharClass)
  | either (a b : CharClass)
  | complement (a : CharClass)

namespace CharClass

/-- The characters that differ from `c` only in case, itself included. -/
def caseVariants (c : Char) : List Char :=
  let f := Unicode.caseFold c
  let preimage (s : Unicode.Shift) : Option Char :=
    let n := s.first + (f.toNat - s.target)
    if s.target ≤ f.toNat && s.contains n then some (Char.ofNat n) else none
  c :: f :: f.toUpper :: Unicode.foldShifts.filterMap preimage

mutual

def accepts : CharClass → Char → Bool
  | range first last, c => first ≤ c && c ≤ last
  | foldedRange first last, c => (caseVariants c).any fun d => first ≤ d && d ≤ last
  | digit, c => Unicode.isDigit c
  | space, c => Unicode.isWhiteSpace c
  | word, c => Unicode.isWordChar c
  | union members, c => anyAccepts members c
  | both a b, c => a.accepts c && b.accepts c
  | without a b, c => a.accepts c && !b.accepts c
  | either a b, c => a.accepts c != b.accepts c
  | complement a, c => !a.accepts c

def anyAccepts : List CharClass → Char → Bool
  | [], _ => false
  | m :: ms, c => m.accepts c || anyAccepts ms c

end

end CharClass

inductive Assertion where
  | textStart
  | textEnd
  | lineStart
  | lineEnd
  | wordBoundary
  | noWordBoundary
  | wordStart
  | wordEnd
deriving DecidableEq

inductive Pattern where
  | empty
  | one (c : CharClass)
  | assert (a : Assertion)
  | seq (p q : Pattern)
  | alt (p q : Pattern)
  /-- At least `least` times, and at most `most` if given. -/
  | repeated (p : Pattern) (least : Nat) (most : Option Nat)

namespace Pattern

structure Place where
  before : Option Char
  after : List Char
deriving DecidableEq

def Assertion.holds (a : Assertion) (p : Place) : Bool :=
  let left := p.before.any Unicode.isWordChar
  let right := p.after.head?.any Unicode.isWordChar
  match a with
  | .textStart => p.before.isNone
  | .textEnd => p.after.isEmpty
  | .lineStart => p.before.all (· == '\n')
  | .lineEnd => p.after.head?.all (· == '\n')
  | .wordBoundary => left != right
  | .noWordBoundary => left == right
  | .wordStart => !left && right
  | .wordEnd => left && !right

/-- The places that exactly `n` steps lead to. -/
def exactly (step : Place → List Place) : Nat → List Place → List Place
  | 0, ps => ps
  | n + 1, ps => if ps.isEmpty then [] else exactly step n (ps.flatMap step).eraseDups

/-- The places that at most `n` steps lead to. -/
def upTo (step : Place → List Place) : Nat → List Place → List Place
  | 0, ps => ps
  | n + 1, ps =>
    let next := (ps ++ ps.flatMap step).eraseDups
    if next.length = ps.length then ps else upTo step n next

/-- The places where a match that begins here can end. Repetitions that take nothing lead nowhere
new, so there need not be more of them than there are characters. -/
def ends : Pattern → Place → List Place
  | empty, p => [p]
  | one c, p =>
    match p.after with
    | [] => []
    | d :: rest => if c.accepts d then [⟨some d, rest⟩] else []
  | assert a, p => if Assertion.holds a p then [p] else []
  | seq q r, p => ((ends q p).flatMap (ends r)).eraseDups
  | alt q r, p => (ends q p ++ ends r p).eraseDups
  | repeated q least most, p =>
    let more := match most with
      | some m => min (m - least) p.after.length
      | none => p.after.length
    upTo (ends q) more (exactly (ends q) least [p])

/-- Whether a match begins somewhere in the text after `before`. -/
def foundFrom (q : Pattern) (before : Option Char) : List Char → Bool
  | [] => !(q.ends ⟨before, []⟩).isEmpty
  | c :: rest => !(q.ends ⟨before, c :: rest⟩).isEmpty || q.foundFrom (some c) rest

/-- Whether the text has a match somewhere. -/
def found (q : Pattern) (text : String) : Bool :=
  q.foundFrom none text.toList

end Pattern
end ProviderCoverage
