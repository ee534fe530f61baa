import ProviderCoverage.Duration
import ProviderCoverage.Proofs.Lists
import ProviderCoverage.Proofs.Text.Parts
import ProviderCoverage.Settings.Validation

/-! Which texts are durations. The grammar is that of a list of amounts, each a decimal number with
its unit, perhaps after one plus sign; a bare `0` needs no unit. Reading cuts a text into runs of
numeric and other characters, and the runs are the numbers and units of the grammar
(`segments_append`). So a text is read exactly if the grammar has it, but for a plus sign with
nothing after it, which counts as zero (`accepted_iff`). -/

namespace ProviderCoverage.Duration

/-- Digits with at most one point, at least one digit. -/
structure IsNumber (s : List Char) : Prop where
  numeric : ∀ c ∈ s, c.isDigit = true ∨ c = '.'
  point : s.count '.' ≤ 1
  digit : ∃ c ∈ s, c.isDigit = true

/-- From nanoseconds to hours. There are two letters for micro. -/
def units : List String :=
  ["ns", "us", "µs", "μs", "ms", "s", "m", "h"]

/-- One or more numbers, each directly followed by a unit. -/
inductive IsAmount : List Char → Prop where
  | last {number : List Char} {unit : String} (hnumber : IsNumber number) (hunit : unit ∈ units) :
      IsAmount (number ++ unit.toList)
  | next {number rest : List Char} {unit : String} (hnumber : IsNumber number)
      (hunit : unit ∈ units) (hrest : IsAmount rest) : IsAmount (number ++ unit.toList ++ rest)

/-- Durations as they are written, without space around them. -/
inductive IsDuration : List Char → Prop where
  | zero : IsDuration ['0']
  | plain {amount : List Char} (h : IsAmount amount) : IsDuration amount
  | plus {amount : List Char} (h : IsAmount amount) : IsDuration ('+' :: amount)

variable {s number unit rest : List Char} {c : Char} {segs : List Segment} {input : String}
  {sum : Rat}

/-! ### Numbers and units -/

theorem isNumeric_iff : isNumeric c = true ↔ c.isDigit = true ∨ c = '.' := by
  rw [isNumeric, Bool.or_eq_true, beq_iff_eq]

theorem IsNumber.isNumeric (h : IsNumber s) (hc : c ∈ s) : isNumeric c = true :=
  isNumeric_iff.mpr (h.numeric c hc)

theorem IsNumber.ne_nil (h : IsNumber s) : s ≠ [] := by
  obtain ⟨c, hc, -⟩ := h.digit
  exact List.ne_nil_of_mem hc

/-- Numeric characters other than points are digits. -/
theorem exists_isDigit_iff (hs : ∀ c ∈ s, Duration.isNumeric c = true) :
    (∃ c ∈ s, c.isDigit = true) ↔ ∃ c ∈ s, c ≠ '.' := by
  refine exists_congr fun c => and_congr_right fun hc => ⟨?_, (isNumeric_iff.mp (hs c hc)).resolve_right⟩
  rintro hdigit rfl
  cases hdigit

theorem exists_ne_point_iff (hs : '.' ∉ s) : (∃ c ∈ s, c ≠ '.') ↔ s ≠ [] := by
  refine ⟨fun ⟨c, hc, _⟩ => List.ne_nil_of_mem hc, fun hne => ?_⟩
  obtain ⟨c, hc⟩ := List.exists_mem_of_ne_nil s hne
  exact ⟨c, hc, fun h => hs (h ▸ hc)⟩

theorem number?_isSome_iff (hs : ∀ c ∈ s, Duration.isNumeric c = true) :
    (number? s).isSome ↔ IsNumber s := by
  have hiff : IsNumber s ↔ s.count '.' ≤ 1 ∧ ∃ c ∈ s, c ≠ '.' := by
    rw [← exists_isDigit_iff hs]
    exact ⟨fun h => ⟨h.point, h.digit⟩, fun h => ⟨fun c hc => isNumeric_iff.mp (hs c hc), h.1, h.2⟩⟩
  have hjoin := Text.intercalate_splitOn '.' s
  have hfree : ∀ part ∈ Text.splitOn '.' s, '.' ∉ part := fun _ => Text.notMem_of_mem_splitOn
  rw [hiff, number?]
  -- There is one part more than there are points.
  rcases hparts : Text.splitOn '.' s with _ | ⟨whole, _ | ⟨part, _ | ⟨third, more⟩⟩⟩
  · exact absurd hparts (Text.splitWhere_ne_nil _ s)
  · rw [hparts] at hjoin hfree
    obtain rfl : whole = s := by simpa using hjoin
    have hwhole : '.' ∉ whole := hfree whole (List.mem_singleton_self _)
    rw [List.count_eq_zero.mpr hwhole, exists_ne_point_iff hwhole]
    cases whole <;> simp
  · rw [hparts] at hjoin hfree
    obtain rfl : whole ++ '.' :: part = s := by simpa using hjoin
    obtain ⟨hwhole, hpart⟩ : '.' ∉ whole ∧ '.' ∉ part := by simpa using hfree
    have hone : (whole ++ '.' :: part).count '.' = 1 := by
      rw [List.count_append, List.count_cons_self, List.count_eq_zero.mpr hwhole,
        List.count_eq_zero.mpr hpart]
    have hdigits : (∃ c ∈ whole ++ '.' :: part, c ≠ '.') ↔ whole ++ part ≠ [] := by
      rw [← exists_ne_point_iff (by simp [hwhole, hpart])]
      refine exists_congr fun c => and_congr_left fun hc => ?_
      simp [hc]
    rw [hone, hdigits]
    cases whole <;> cases part <;> simp
  · rw [hparts] at hjoin
    have htwo : 2 ≤ s.count '.' := by
      rw [← hjoin, List.intercalate_cons_cons, List.intercalate_cons_cons]
      simp only [List.count_append, List.count_singleton_self]
      omega
    refine iff_of_false (by simp) fun h => ?_
    omega

theorem unit?_isSome_iff : (unit? unit).isSome ↔ String.ofList unit ∈ units := by
  rw [unit?, units]
  split <;> simp_all

theorem isNumeric_of_mem_units {unit : String} (h : unit ∈ units) :
    unit.toList ≠ [] ∧ ∀ c ∈ unit.toList, isNumeric c = false := by
  have hall : units.all fun unit => !unit.toList.isEmpty && unit.toList.all (!isNumeric ·) := by
    decide
  simpa using List.all_eq_true.mp hall unit h

/-! ### Segments -/

/-- A number followed by its unit. -/
def Segment.IsValid (g : Segment) : Prop :=
  IsNumber g.number ∧ String.ofList g.unit ∈ units

theorem segments_append {unit : String} (hnumber : IsNumber number) (hunit : unit ∈ units)
    (hrest : ∀ c ∈ rest.head?, isNumeric c = true) :
    segments (number ++ unit.toList ++ rest) = ⟨number, unit.toList⟩ :: segments rest := by
  obtain ⟨hne, hletters⟩ := isNumeric_of_mem_units hunit
  obtain ⟨c, digits, rfl⟩ := List.exists_cons_of_ne_nil hnumber.ne_nil
  have hc : isNumeric c = true := hnumber.isNumeric (List.mem_cons_self ..)
  have hdigits : ∀ d ∈ digits, isNumeric d = true := fun d hd =>
    hnumber.isNumeric (List.mem_cons_of_mem _ hd)
  have hunithead : ∀ d ∈ (unit.toList ++ rest).head?, isNumeric d = false := by
    intro d hd
    rw [List.head?_append_of_ne_nil _ hne] at hd
    exact hletters d (List.mem_of_mem_head? hd)
  have hunitrun : ∀ d ∈ unit.toList, (!isNumeric d) = true := fun d hd => by rw [hletters d hd]; rfl
  have hrest' : ∀ d ∈ rest.head?, (!isNumeric d) = false := fun d hd => by rw [hrest d hd]; rfl
  rw [List.cons_append, List.cons_append, List.append_assoc, segments, if_pos hc]
  simp only [Lists.takeWhile_append_of_head hdigits hunithead,
    Lists.dropWhile_append_of_head hdigits hunithead,
    Lists.takeWhile_append_of_head hunitrun hrest', Lists.dropWhile_append_of_head hunitrun hrest']

theorem IsAmount.isNumeric_head (h : IsAmount s) : s ≠ [] ∧ ∀ c ∈ s.head?, isNumeric c = true := by
  have hnumber : ∀ {number t : List Char}, IsNumber number →
      number ++ t ≠ [] ∧ ∀ c ∈ (number ++ t).head?, isNumeric c = true := by
    intro number t h
    rw [List.head?_append_of_ne_nil _ h.ne_nil]
    exact ⟨by simp [h.ne_nil], fun c hc => h.isNumeric (List.mem_of_mem_head? hc)⟩
  cases h with
  | last h _ => exact hnumber h
  | next h _ _ => exact List.append_assoc .. ▸ hnumber h

theorem IsAmount.isValid (h : IsAmount s) : ∀ g ∈ segments s, g.IsValid := by
  induction h with
  | @last number unit hnumber hunit =>
    have hone : segments (number ++ unit.toList ++ []) = ⟨number, unit.toList⟩ :: segments [] :=
      segments_append hnumber hunit nofun
    rw [List.append_nil, segments] at hone
    rw [hone, List.forall_mem_singleton]
    exact ⟨hnumber, by simpa using hunit⟩
  | next hnumber hunit hrest ih =>
    rw [segments_append hnumber hunit hrest.isNumeric_head.2, List.forall_mem_cons]
    exact ⟨⟨hnumber, by simpa using hunit⟩, ih⟩

theorem isAmount_of_isValid (hne : s ≠ []) (h : ∀ g ∈ segments s, g.IsValid) : IsAmount s := by
  fun_induction segments s with
  | case1 => exact absurd rfl hne
  | case2 c rest hc afterNumber ih =>
    obtain ⟨⟨hnumber, hunit⟩, hmore⟩ := List.forall_mem_cons.mp h
    have hsplit : c :: rest = (c :: rest.takeWhile isNumeric)
        ++ (String.ofList (afterNumber.takeWhile (!isNumeric ·))).toList
        ++ afterNumber.dropWhile (!isNumeric ·) := by
      rw [String.toList_ofList, List.append_assoc, List.takeWhile_append_dropWhile, List.cons_append,
        List.takeWhile_append_dropWhile]
    rw [hsplit]
    by_cases hrest : afterNumber.dropWhile (!isNumeric ·) = []
    · rw [hrest, List.append_nil]
      exact .last hnumber hunit
    · exact .next hnumber hunit (ih hrest hmore)
  | case3 c rest hc ih =>
    obtain ⟨⟨hnumber, -⟩, -⟩ := List.forall_mem_cons.mp h
    exact absurd rfl hnumber.ne_nil

/-- The runs of a text are numbers with their units exactly if the text is an amount. -/
theorem isAmount_iff : IsAmount s ↔ s ≠ [] ∧ ∀ g ∈ segments s, g.IsValid :=
  ⟨fun h => ⟨h.isNumeric_head.1, h.isValid⟩, fun h => isAmount_of_isValid h.1 h.2⟩

theorem isNumeric_of_mem_segments {g : Segment} (hg : g ∈ segments s) (hc : c ∈ g.number) :
    isNumeric c = true := by
  fun_induction segments s with
  | case1 => cases hg
  | case2 d rest hd afterNumber ih =>
    rcases List.mem_cons.mp hg with rfl | hg
    · rcases List.mem_cons.mp hc with rfl | hc
      · exact hd
      · exact List.mem_takeWhile_imp hc
    · exact ih hg
  | case3 d rest hd ih =>
    rcases List.mem_cons.mp hg with rfl | hg
    · cases hc
    · exact ih hg

/-! ### Reading -/

theorem nanoseconds_eq_ok_iff {g : Segment} (hg : g ∈ segments s) :
    (∃ n, g.nanoseconds input = .ok n) ↔ g.IsValid := by
  rw [Segment.IsValid, ← number?_isSome_iff fun c hc => isNumeric_of_mem_segments hg hc,
    ← unit?_isSome_iff, Segment.nanoseconds]
  cases number? g.number with
  | none => simp
  | some value =>
    cases unit? g.unit with
    | none => by_cases hg : g.unit.isEmpty = true <;> simp [hg]
    | some n => simp

theorem total_eq_ok_iff : (∃ n, total input sum segs = .ok n) ↔
    ∀ g ∈ segs, ∃ n, g.nanoseconds input = .ok n := by
  induction segs generalizing sum with
  | nil => simp [total]
  | cons g segs ih =>
    rw [total, List.forall_mem_cons]
    cases g.nanoseconds input with
    | error e => simp
    | ok n => simp [ih]

theorem withoutPlus_cases (s : List Char) :
    s = '+' :: withoutPlus s ∨ s.head? ≠ some '+' ∧ withoutPlus s = s := by
  unfold withoutPlus
  split
  · exact .inl rfl
  · next hs =>
    refine .inr ⟨fun hhead => ?_, rfl⟩
    obtain ⟨rest, hrest⟩ := List.head?_eq_some_iff.mp hhead
    exact hs rest hrest

theorem IsAmount.head?_ne (h : IsAmount s) (hc : isNumeric c = false) : s.head? ≠ some c := by
  intro hhead
  rw [h.isNumeric_head.2 c hhead] at hc
  cases hc

theorem isDuration_iff : IsDuration s ↔ s = ['0'] ∨ IsAmount (withoutPlus s) := by
  constructor
  · intro h
    cases h with
    | zero => exact .inl rfl
    | plain h =>
      rcases withoutPlus_cases s with hplus | ⟨-, hsame⟩
      · exact absurd (congrArg List.head? hplus) (h.head?_ne rfl)
      · exact .inr (hsame.symm ▸ h)
    | plus h => exact .inr h
  · rintro (rfl | h)
    · exact .zero
    · rcases withoutPlus_cases s with hplus | ⟨-, hsame⟩
      · exact hplus ▸ .plus h
      · exact .plain (hsame ▸ h)

theorem withoutPlus_eq_nil_iff (hs : s ≠ []) : withoutPlus s = [] ↔ s = ['+'] := by
  rcases withoutPlus_cases s with hplus | ⟨hhead, hsame⟩
  · constructor
    · intro h
      rw [hplus, h]
    · rintro rfl
      rfl
  · rw [hsame]
    refine iff_of_false hs ?_
    rintro rfl
    exact hhead rfl

/-- Once the sign is gone, amounts can be read, and nothing at all. -/
theorem read_eq_ok_iff (input : String) (sum : Rat) : (s.head?.any (!isNumeric ·) = false ∧
    ∃ n, total input sum (segments s) = .ok n) ↔ s = [] ∨ IsAmount s := by
  have htotal : (∃ n, total input sum (segments s) = .ok n) ↔ ∀ g ∈ segments s, g.IsValid :=
    total_eq_ok_iff.trans (forall₂_congr fun _ hg => nanoseconds_eq_ok_iff hg)
  rw [htotal]
  by_cases hs : s = []
  · subst hs
    simp [segments]
  · rw [or_iff_right hs, ← and_iff_right hs (b := ∀ g ∈ segments s, g.IsValid), ← isAmount_iff,
      and_iff_right_iff_imp]
    intro h
    rw [Option.any_eq_false]
    intro c hc
    rw [h.isNumeric_head.2 c hc]
    decide

theorem parse_eq_ok_iff : (∃ d, parse input = .ok d) ↔
    IsDuration (Text.trim input.toList) ∨ Text.trim input.toList = ['+'] := by
  rw [parse, isDuration_iff]
  generalize Text.trim input.toList = s
  by_cases hs : s = []
  · have hnone : ¬ IsAmount [] := fun h => h.isNumeric_head.1 rfl
    subst hs
    exact iff_of_false (by simp) (by simpa [withoutPlus] using hnone)
  by_cases hzero : s = ['0']
  · exact iff_of_true ⟨0, by simp [hzero]⟩ (.inl (.inl hzero))
  rw [or_iff_right hzero, ← withoutPlus_eq_nil_iff hs, or_comm,
    ← read_eq_ok_iff input 0]
  by_cases hminus : s.head? = some '-'
  · have hsame : withoutPlus s = s := by
      rcases withoutPlus_cases s with hplus | ⟨-, hsame⟩
      · rw [hplus] at hminus
        cases hminus
      · exact hsame
    rw [hsame, hminus]
    exact iff_of_false (by simp [hs, hzero]) (by simp [isNumeric])
  · by_cases hhead : (withoutPlus s).head?.any (!isNumeric ·) = true
    · simp [hs, hzero, hminus, hhead]
    · rw [Bool.not_eq_true] at hhead
      cases htotal : total input 0 (segments (withoutPlus s)) <;>
        simp [hs, hzero, hminus, hhead, htotal, Except.map]

/-! ### The lifetime of cached registries -/

variable {settings : Settings}

theorem exists_cacheLifetime_iff : (∃ lifetime, settings.cacheLifetime = .ok lifetime) ↔
    Text.trim settings.cacheTtl.toList = [] ∨
      ∃ d, parse (String.ofList (Text.trim settings.cacheTtl.toList)) = .ok d := by
  rw [Settings.cacheLifetime]
  generalize Text.trim settings.cacheTtl.toList = s
  by_cases hs : s = []
  · simp [hs]
  · cases parse (String.ofList s) <;> simp [hs]

theorem exists_parse_of_cacheLifetime (h : settings.cacheLifetime = .ok none) :
    ∃ d, parse (String.ofList (Text.trim settings.cacheTtl.toList)) = .ok d := by
  rw [Settings.cacheLifetime] at h
  generalize Text.trim settings.cacheTtl.toList = s at h ⊢
  by_cases hs : s = []
  · simp [hs] at h
  · cases hparse : parse (String.ofList s) with
    | error e => simp [hs, hparse] at h
    | ok d => exact ⟨d, rfl⟩

/-- A text is read exactly if it is a duration, with space around it or not, or a plus sign with
nothing after it. So registries are kept for ever only on the word of such a text: any other one is
refused, and where there is none the usual lifetime counts. -/
theorem accepted_iff (input : String) (settings : Settings) :
    ((∃ d, parse input = .ok d) ↔
      IsDuration (Text.trim input.toList) ∨ Text.trim input.toList = ['+']) ∧
    ((∃ lifetime, settings.cacheLifetime = .ok lifetime) ↔
      Text.trim settings.cacheTtl.toList = [] ∨ IsDuration (Text.trim settings.cacheTtl.toList) ∨
        Text.trim settings.cacheTtl.toList = ['+']) ∧
    (settings.cacheLifetime = .ok none →
      IsDuration (Text.trim settings.cacheTtl.toList) ∨
        Text.trim settings.cacheTtl.toList = ['+']) := by
  have htrimmed (s : List Char) : (∃ d, parse (String.ofList (Text.trim s)) = .ok d) ↔
      IsDuration (Text.trim s) ∨ Text.trim s = ['+'] := by
    rw [parse_eq_ok_iff, String.toList_ofList, Text.trim_trim]
  refine ⟨parse_eq_ok_iff, ?_, fun h => ?_⟩
  · rw [exists_cacheLifetime_iff, htrimmed]
  · exact (htrimmed _).mp (exists_parse_of_cacheLifetime h)

/-- A plus sign alone is no duration, and yet it is read, as one of zero: nothing ever expires. -/
theorem plus_accepted : ¬ IsDuration ['+'] ∧ (∃ d, parse " + " = .ok d) ∧
    ({ Settings.default with cacheTtl := "+" } : Settings).cacheLifetime = .ok none := by
  have hnone : ¬ IsAmount [] := fun h => h.isNumeric_head.1 rfl
  refine ⟨?_, (accepted_iff " + " .default).1.mpr (.inr (by decide)), by decide +kernel⟩
  rw [isDuration_iff]
  rintro (h | h)
  · cases h
  · exact hnone h

end ProviderCoverage.Duration
