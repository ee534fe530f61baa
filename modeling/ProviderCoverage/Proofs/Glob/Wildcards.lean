import ProviderCoverage.Glob.Syntax
import ProviderCoverage.Proofs.Glob.Remainders
import ProviderCoverage.Proofs.Text.Parts

/-! Globs of ordinary characters and `*`. They are matched byte by byte, and a wildcard may take
half a character; but an ordinary character of the glob is only found where a character of the text
begins, so in the end a glob accepts the texts that have its characters in order, with anything in
the place of a wildcard (`accepts_plain_iff`). -/

namespace ProviderCoverage

/-! ### Characters in UTF-8 -/

section
open String

variable {c d : Char} {b : UInt8} {bytes rest rest' : List UInt8} {s : List Char}

@[simp] theorem utf8_cons (c : Char) (s : List Char) : utf8 (c :: s) = utf8EncodeChar c ++ utf8 s :=
  rfl

/-- The first byte of a character is a first byte, and no other one of its bytes is. -/
theorem exists_utf8EncodeChar_eq (c : Char) : ∃ first more, utf8EncodeChar c = first :: more ∧
    first.IsUTF8FirstByte ∧ ∀ b ∈ more, ¬ b.IsUTF8FirstByte := by
  cases hbytes : utf8EncodeChar c with
  | nil =>
    have hlength := congrArg List.length hbytes
    rw [length_utf8EncodeChar, List.length_nil] at hlength
    exact absurd hlength c.utf8Size_pos.ne'
  | cons first more =>
    refine ⟨first, more, rfl, ?_, fun b hb => ?_⟩
    · have hfirst := UInt8.isUTF8FirstByte_getElem_zero_utf8EncodeChar (c := c)
      simpa only [hbytes, List.getElem_cons_zero] using hfirst
    · obtain ⟨i, hi, rfl⟩ := List.mem_iff_getElem.mp hb
      have hlt : i + 1 < (utf8EncodeChar c).length := by
        rw [hbytes]
        exact Nat.succ_lt_succ hi
      have hlater : (utf8EncodeChar c)[i + 1].IsUTF8FirstByte ↔ i + 1 = 0 :=
        UInt8.isUTF8FirstByte_getElem_utf8EncodeChar
      simpa only [hbytes, List.getElem_cons_succ, Nat.add_one_ne_zero, iff_false] using hlater

/-- No character is the beginning of another one. -/
theorem utf8EncodeChar_append_inj
    (h : utf8EncodeChar c ++ rest = utf8EncodeChar d ++ rest') : c = d ∧ rest = rest' := by
  have hdecode : ∀ (c : Char) (rest : List UInt8),
      ByteArray.utf8DecodeChar? (utf8EncodeChar c ++ rest).toByteArray 0 = some c := by
    intro c rest
    rw [List.toByteArray_append]
    exact ByteArray.utf8DecodeChar?_utf8EncodeChar_append
  have hchar := hdecode c rest
  rw [h, hdecode] at hchar
  obtain rfl : d = c := Option.some.inj hchar
  exact ⟨rfl, List.append_cancel_left h⟩

theorem exists_of_utf8_eq (h : utf8 s = utf8EncodeChar c ++ rest) :
    ∃ t, s = c :: t ∧ rest = utf8 t := by
  cases s with
  | nil =>
    obtain ⟨first, more, hbytes, -⟩ := exists_utf8EncodeChar_eq c
    rw [hbytes] at h
    cases h
  | cons d t =>
    obtain ⟨rfl, rfl⟩ := utf8EncodeChar_append_inj h
    exact ⟨t, rfl, rfl⟩

theorem utf8_eq_nil_iff : utf8 s = [] ↔ s = [] := by
  cases s with
  | nil => exact iff_of_true rfl rfl
  | cons c s =>
    obtain ⟨first, more, hbytes, -⟩ := exists_utf8EncodeChar_eq c
    simp [hbytes]

/-- What begins with a first byte begins with a character. -/
theorem exists_suffix_of_first (hb : b.IsUTF8FirstByte) (h : b :: bytes <:+ utf8 s) :
    ∃ t, t <:+ s ∧ b :: bytes = utf8 t := by
  induction s with
  | nil => cases List.suffix_nil.mp h
  | cons c s ih =>
    obtain ⟨first, more, hbytes, -, hmore⟩ := exists_utf8EncodeChar_eq c
    rw [utf8_cons, hbytes, List.cons_append, List.suffix_cons_iff] at h
    rcases h with heq | h
    · refine ⟨c :: s, List.suffix_rfl, ?_⟩
      rw [heq, utf8_cons, hbytes, List.cons_append]
    · have hrest : b :: bytes <:+ utf8 s := by
        clear hbytes
        induction more with
        | nil => exact h
        | cons b' more ihmore =>
          obtain ⟨hb', hmore⟩ := List.forall_mem_cons.mp hmore
          rcases List.suffix_cons_iff.mp h with heq | h
          · exact absurd ((List.cons.inj heq).1 ▸ hb) hb'
          · exact ihmore hmore h
      obtain ⟨t, ht, heq⟩ := ih hrest
      exact ⟨t, ht.trans (List.suffix_cons c s), heq⟩

/-- Where the bytes of a character are found in a text, the character is. -/
theorem exists_suffix_of_char (h : utf8EncodeChar c ++ rest <:+ utf8 s) :
    ∃ t, c :: t <:+ s ∧ rest = utf8 t := by
  obtain ⟨first, more, hbytes, hfirst, -⟩ := exists_utf8EncodeChar_eq c
  have hstart := h
  rw [hbytes, List.cons_append] at hstart
  obtain ⟨t, ht, heq⟩ := exists_suffix_of_first hfirst hstart
  rw [← List.cons_append, ← hbytes] at heq
  obtain ⟨t', rfl, hrest⟩ := exists_of_utf8_eq heq.symm
  exact ⟨t', ht, hrest⟩

end

/-! ### What a pattern with wildcards stands for -/

/-- The text has the characters of the pattern in order, with any text in the place of a `*`. -/
inductive Fits : List Char → List Char → Prop
  | nil : Fits [] []
  | char {c : Char} {p s : List Char} (hc : c ≠ '*') (h : Fits p s) : Fits (c :: p) (c :: s)
  | wildcard (taken : List Char) {p s : List Char} (h : Fits p s) : Fits ('*' :: p) (taken ++ s)

/-- What stands before the first wildcard of a pattern, and after the last. -/
structure HasEnds (p head tail : List Char) : Prop where
  exists_after : ∃ after, p = head ++ '*' :: after
  notMem_head : '*' ∉ head
  exists_before : ∃ before, p = before ++ '*' :: tail
  notMem_tail : '*' ∉ tail

namespace Fits

variable {p q s t : List Char}

/-- A pattern without wildcards stands for itself. -/
theorem eq_of_notMem (h : Fits p s) (hp : '*' ∉ p) : s = p := by
  induction h with
  | nil => rfl
  | char _ _ ih => rw [ih fun hmem => hp (List.mem_cons_of_mem _ hmem)]
  | wildcard => exact absurd (List.mem_cons_self ..) hp

theorem exists_of_append (h : Fits (p ++ q) s) : ∃ x y, s = x ++ y ∧ Fits p x ∧ Fits q y := by
  induction p generalizing s with
  | nil => exact ⟨[], s, rfl, .nil, h⟩
  | cons c p ih =>
    cases h with
    | char hc h =>
      obtain ⟨x, y, rfl, hx, hy⟩ := ih h
      exact ⟨c :: x, y, rfl, .char hc hx, hy⟩
    | wildcard taken h =>
      obtain ⟨x, y, rfl, hx, hy⟩ := ih h
      exact ⟨taken ++ x, y, (List.append_assoc ..).symm, .wildcard taken hx, hy⟩

/-- A wildcard at the front takes what comes before, too. -/
theorem of_suffix (h : Fits ('*' :: p) s) (hs : s <:+ t) : Fits ('*' :: p) t := by
  obtain ⟨before, rfl⟩ := hs
  cases h with
  | char hc => exact absurd rfl hc
  | wildcard taken h =>
    rw [← List.append_assoc]
    exact .wildcard _ h

/-- A pattern without wildcards is met by itself. -/
theorem self (hp : '*' ∉ p) : Fits p p := by
  induction p with
  | nil => exact .nil
  | cons c p ih =>
    obtain ⟨hc, hp⟩ := not_or.mp (mt List.mem_cons.mpr hp)
    exact .char (Ne.symm hc) (ih hp)

/-- The text begins and ends as the pattern does, and the two ends do not overlap. -/
theorem exists_of_hasEnds {head tail : List Char} (h : Fits p s) (hends : HasEnds p head tail) :
    ∃ middle, s = head ++ middle ++ tail := by
  obtain ⟨after, hfirst⟩ := hends.exists_after
  obtain ⟨before, hlast⟩ := hends.exists_before
  have hsuffix : '*' :: tail <:+ '*' :: after := by
    refine Text.suffix_of_suffix_append_cons (s := head) hends.notMem_tail ?_
    rw [← hfirst, hlast]
    exact List.suffix_append ..
  obtain ⟨between, hbetween⟩ := hsuffix
  rw [hfirst, ← hbetween] at h
  obtain ⟨x, y, rfl, hx, hy⟩ := h.exists_of_append
  rw [hx.eq_of_notMem hends.notMem_head]
  rw [← List.singleton_append, ← List.append_assoc] at hy
  obtain ⟨middle, z, rfl, -, hz⟩ := hy.exists_of_append
  exact ⟨middle, by rw [hz.eq_of_notMem hends.notMem_tail, List.append_assoc]⟩

end Fits

/-! ### The glob of such a pattern -/

/-- Outside of classes, such a character stands for itself in a glob, or is a `*`. Two of these are
special only next to a slash. -/
def isPlain (c : Char) : Bool :=
  c ∉ ['?', '[', '\x7b', '\x7d', '\\', '/']

namespace GlobToken

/-- The tokens of a pattern with wildcards. Two `*` are one wildcard. -/
def ofPlain : List Char → List GlobToken
  | '*' :: '*' :: p => .anyBytes :: ofPlain p
  | '*' :: p => .anyBytes :: ofPlain p
  | c :: p => ofChar c ++ ofPlain p
  | [] => []

end GlobToken

namespace Glob

open GlobToken

variable {c : Char} {p : List Char} {r : Reading}

/-! #### Reading it -/

/-- Outside of classes and groups. -/
def Reading.IsTop (r : Reading) : Prop :=
  r.openClass = none ∧ r.groups = []

theorem readFrom_char (hr : r.IsTop) (hc : isPlain c = true) (hstar : c ≠ '*') :
    readFrom r (c :: p) = readFrom (r.push c (ofChar c)) p := by
  simp only [isPlain, List.mem_cons, List.not_mem_nil, or_false, not_or, decide_eq_true_eq] at hc
  obtain ⟨hany, hclass, hopen, hclose, hescape, -⟩ := hc
  rw [readFrom.eq_def]
  simp only [hr.1]
  split <;> simp_all [Reading.IsTop]

theorem readFrom_wildcard (hr : r.IsTop) (hp : p.head? ≠ some '*') :
    readFrom r ('*' :: p) = readFrom (r.push '*' [.anyBytes]) p := by
  rw [readFrom.eq_def]
  simp only [hr.1]
  split
  · exact absurd rfl hp
  · rfl

/-- Two wildcards have no meaning of their own away from slashes, unless they are the whole glob. -/
theorem readFrom_wildcards (hr : r.IsTop) (hslash : r.previous ≠ some '/')
    (hp : p.head? ≠ some '/') (hwhole : r.current ≠ [] ∨ p ≠ []) :
    readFrom r ('*' :: '*' :: p) = readFrom (r.push '*' [.anyBytes]) p := by
  rw [readFrom.eq_def]
  simp only [hr.1]
  split
  · next hcurrent =>
    cases p with
    | nil => simp_all
    | cons d p => split <;> simp_all
  · have hstart : r.atComponentStart = false := by
      simp [Reading.atComponentStart, hr.2, hslash]
    simp [hstart]

theorem Reading.IsTop.push (hr : r.IsTop) (c : Char) (ts : List GlobToken) : (r.push c ts).IsTop :=
  hr

theorem head?_ne_slash (hp : ∀ c ∈ p, isPlain c = true) : p.head? ≠ some '/' := by
  intro h
  have hslash := hp '/' (List.mem_of_head? h)
  revert hslash
  decide

theorem ofChar_ne_nil (c : Char) : ofChar c ≠ [] := by
  obtain ⟨first, more, hbytes, -⟩ := exists_utf8EncodeChar_eq c
  simp [ofChar, hbytes]

theorem readFrom_plain (hp : ∀ c ∈ p, isPlain c = true) (hr : r.IsTop)
    (hslash : r.previous ≠ some '/') (hwhole : r.current ≠ [] ∨ p ≠ ['*', '*']) :
    readFrom r p = .ok (r.current.reverse ++ ofPlain p) := by
  fun_induction ofPlain p generalizing r with
  | case1 p ih =>
    have hrest := fun c hc => hp c (List.mem_cons_of_mem _ (List.mem_cons_of_mem _ hc))
    rw [readFrom_wildcards hr hslash (head?_ne_slash hrest) (hwhole.imp_right (by simp)),
      ih hrest (hr.push ..) (by simp [Reading.push]) (.inl (by simp [Reading.push]))]
    simp [Reading.push]
  | case2 p hhead ih =>
    have hrest := fun c hc => hp c (List.mem_cons_of_mem _ hc)
    have hnext : p.head? ≠ some '*' := by
      intro h
      obtain ⟨q, rfl⟩ := List.head?_eq_some_iff.mp h
      exact hhead q rfl
    rw [readFrom_wildcard hr hnext,
      ih hrest (hr.push ..) (by simp [Reading.push]) (.inl (by simp [Reading.push]))]
    simp [Reading.push]
  | case3 c p hstars hstar ih =>
    have hrest := fun c hc => hp c (List.mem_cons_of_mem _ hc)
    have hc := hp c (List.mem_cons_self ..)
    have hprevious : c ≠ '/' := by
      rintro rfl
      revert hc
      decide
    rw [readFrom_char hr hc hstar, ih hrest (hr.push ..) (by simpa [Reading.push] using hprevious)
      (.inl (by simp [Reading.push, ofChar_ne_nil]))]
    simp [Reading.push]
  | case4 =>
    rw [readFrom.eq_def]
    simp [hr.1, hr.2]

theorem leadingComponents_notMem_ofPlain (p : List Char) : .leadingComponents ∉ ofPlain p := by
  fun_induction ofPlain p with
  | case1 p ih => simpa using ih
  | case2 p _ ih => simpa using ih
  | case3 c p _ _ ih => simpa [ofChar] using ih
  | case4 => simp

/-- No such pattern is refused. -/
theorem read_plain {glob : String} (hp : ∀ c ∈ glob.toList, isPlain c = true) :
    read true glob = .ok ⟨ofPlain glob.toList, true⟩ := by
  by_cases hwhole : glob.toList = ['*', '*']
  · rw [read, hwhole]
    rfl
  · have htop : Reading.IsTop ⟨none, [], [], none⟩ := ⟨rfl, rfl⟩
    rw [read, readFrom_plain hp htop nofun (.inr hwhole)]
    have hleading : ofPlain glob.toList ≠ [.leadingComponents] := by
      intro heq
      refine leadingComponents_notMem_ofPlain glob.toList ?_
      rw [heq]
      exact List.mem_singleton_self _
    change Except.ok (ofTokens true (ofPlain glob.toList)) = _
    rw [ofTokens]
    exact hleading

/-! #### Matching it -/

variable {s t : List Char} {bytes : List UInt8}

/-- A text may be longer than what fits at its end only if a wildcard comes first. -/
theorem fits_of_suffix (hfits : Fits p t) (ht : t <:+ s)
    (h : utf8 s = utf8 t ∨ p.head? = some '*') : Fits p s := by
  rcases h with heq | hwildcard
  · obtain ⟨before, rfl⟩ := ht
    rw [utf8_append, List.append_left_eq_self, utf8_eq_nil_iff] at heq
    rwa [heq]
  · obtain ⟨q, rfl⟩ := List.head?_eq_some_iff.mp hwildcard
    exact hfits.of_suffix ht

/-- The bytes at the end of a text that the tokens take all of. They begin with a character, unless
a wildcard comes first. -/
theorem exists_fits_of_remainders (h : [] ∈ remaindersOfAll true (ofPlain p) bytes)
    (hs : bytes <:+ utf8 s) :
    ∃ t, t <:+ s ∧ Fits p t ∧ (bytes = utf8 t ∨ p.head? = some '*') := by
  fun_induction ofPlain p generalizing bytes s with
  | case1 p ih =>
    obtain ⟨left, hleft, hrest⟩ := mem_remaindersOfAll_cons.mp h
    obtain ⟨taken, -, rfl⟩ := mem_remainders_anyBytes.mp hleft
    obtain ⟨t, ht, hfits, -⟩ := ih hrest ((List.suffix_append ..).trans hs)
    exact ⟨t, ht, .wildcard [] (.wildcard [] hfits), .inr rfl⟩
  | case2 p _ ih =>
    obtain ⟨left, hleft, hrest⟩ := mem_remaindersOfAll_cons.mp h
    obtain ⟨taken, -, rfl⟩ := mem_remainders_anyBytes.mp hleft
    obtain ⟨t, ht, hfits, -⟩ := ih hrest ((List.suffix_append ..).trans hs)
    exact ⟨t, ht, .wildcard [] hfits, .inr rfl⟩
  | case3 c p _ hstar ih =>
    obtain ⟨left, rfl, hrest⟩ := mem_remaindersOfAll_bytes.mp h
    obtain ⟨after, hafter, rfl⟩ := exists_suffix_of_char hs
    obtain ⟨t, ht, hfits, hstart⟩ := ih hrest List.suffix_rfl
    exact ⟨c :: after, hafter, .char hstar (fits_of_suffix hfits ht hstart), .inl rfl⟩
  | case4 =>
    rw [mem_remaindersOfAll_nil] at h
    exact ⟨[], List.nil_suffix, .nil, .inl h⟩

theorem remainders_of_fits (h : Fits p s) : [] ∈ remaindersOfAll true (ofPlain p) (utf8 s) := by
  fun_induction ofPlain p generalizing s with
  | case1 p ih =>
    cases h with
    | char hc => exact absurd rfl hc
    | wildcard taken h =>
      cases h with
      | char hc => exact absurd rfl hc
      | @wildcard taken' _ s h =>
        refine mem_remaindersOfAll_cons.mpr ⟨utf8 s, ?_, ih h⟩
        exact mem_remainders_anyBytes.mpr ⟨utf8 (taken ++ taken'), nofun, by simp⟩
  | case2 p _ ih =>
    cases h with
    | char hc => exact absurd rfl hc
    | @wildcard taken _ s h =>
      refine mem_remaindersOfAll_cons.mpr ⟨utf8 s, ?_, ih h⟩
      exact mem_remainders_anyBytes.mpr ⟨utf8 taken, nofun, utf8_append ..⟩
  | case3 c p _ hstar ih =>
    cases h with
    | char _ h => exact mem_remaindersOfAll_bytes.mpr ⟨_, utf8_cons .., ih h⟩
    | wildcard => exact absurd rfl hstar
  | case4 =>
    cases h
    exact mem_remaindersOfAll_nil.mpr rfl

/-- Such a glob accepts the texts that fit the pattern. -/
theorem accepts_plain_iff {text : String} :
    (⟨ofPlain p, true⟩ : Glob).accepts text = true ↔ Fits p text.toList := by
  rw [accepts_iff]
  constructor
  · intro h
    obtain ⟨t, ht, hfits, hstart⟩ := exists_fits_of_remainders h List.suffix_rfl
    exact fits_of_suffix hfits ht hstart
  · exact remainders_of_fits

end Glob
end ProviderCoverage
