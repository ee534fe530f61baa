import ProviderCoverage.Proofs.Discovery.AuthoritativeNames
import ProviderCoverage.Proofs.Go.Lines
import ProviderCoverage.Proofs.Linker.NamePortion
import ProviderCoverage.Proofs.Linker.Settled
import ProviderCoverage.Proofs.Linker.Snapshot
import ProviderCoverage.Proofs.Text.Parts

/-! The provider's part of a type name. It is dropped in two places: where a `Metadata` method
assigns the type name of an entity, and where the blocks of a test are linked. Both drop the
configured prefix with an underscore after it, or else the first word; but only the first of the two
takes underscores at the end of the configured prefix for granted. So a block leads to the entity
that its type name has given unless the prefix is configured with its underscore
(`literal_block_matched_iff`). -/

namespace ProviderCoverage

namespace Naming

variable {s rest : List Char}

theorem withoutProviderPrefix?_eq_some_iff : withoutProviderPrefix? s = some rest ↔
    rest ≠ [] ∧ ∃ first, '_' ∉ first ∧ s = first ++ '_' :: rest := by
  rw [withoutProviderPrefix?]
  cases hsplit : Text.splitFirst? '_' s with
  | none =>
    simp only [reduceCtorEq, false_iff, not_and, not_exists]
    intro _ first hfirst hs
    rw [Text.splitFirst?_eq_some_iff.mpr ⟨hs, hfirst⟩] at hsplit
    cases hsplit
  | some parts =>
    obtain ⟨first, after⟩ := parts
    have hrest : (∃ first', '_' ∉ first' ∧ s = first' ++ '_' :: rest) ↔ after = rest := by
      constructor
      · rintro ⟨first', hfirst, hs⟩
        rw [Text.splitFirst?_eq_some_iff.mpr ⟨hs, hfirst⟩] at hsplit
        cases hsplit
        rfl
      · rintro rfl
        obtain ⟨hs, hfirst⟩ := Text.splitFirst?_eq_some_iff.mp hsplit
        exact ⟨first, hfirst, hs⟩
    rw [hrest]
    cases after <;> cases rest <;> simp

/-- The first word is what is dropped if it is all that comes before an underscore. -/
theorem withoutProviderPrefix?_append_iff {word : List Char} (hrest : rest ≠ []) :
    withoutProviderPrefix? (word ++ '_' :: rest) = some rest ↔ '_' ∉ word := by
  rw [withoutProviderPrefix?_eq_some_iff, and_iff_right hrest]
  constructor
  · rintro ⟨first, hfirst, heq⟩
    rwa [List.append_cancel_right heq]
  · exact fun hword => ⟨word, hword, rfl⟩

end Naming

/-- The configured prefix without the underscores at its end. -/
def bareProvider (provider : List Char) : List Char :=
  provider.rdropWhile (· == '_')

/-- A type name whose provider's part is dropped in another way from a block than from the literal
that a `Metadata` method assigns: the prefix is configured with an underscore at its end, and
neither the prefix with one more underscore nor the first word is what the literal loses. -/
structure ProviderMissed (provider literal : List Char) : Prop where
  trailing : provider.getLast? = some '_'
  begins : bareProvider provider ++ ['_'] <+: literal
  differs : '_' ∈ bareProvider provider ∨ ∃ rest ≠ [], literal = provider ++ '_' :: rest

section
variable {provider literal rest : List Char}

theorem provider_eq (provider : List Char) : ∃ dropped, (∀ c ∈ dropped, c = '_') ∧
    provider = bareProvider provider ++ dropped ∧
    (dropped = [] ↔ provider.getLast? ≠ some '_') := by
  refine ⟨provider.rtakeWhile (· == '_'), fun c hc => ?_, ?_, ?_⟩
  · simpa using List.mem_rtakeWhile_imp hc
  · exact List.rdropWhile_append_rtakeWhile.symm
  · rw [List.rtakeWhile_eq_nil_iff]
    cases provider using List.reverseRecOn <;> simp

theorem isPrefixOf?_underscore (hliteral : literal.head? ≠ some '_') :
    ['_'].isPrefixOf? literal = none := by
  refine Text.isPrefixOf?_eq_none ?_
  rintro ⟨rest, rfl⟩
  exact hliteral rfl

/-- The name in a literal that names its provider. -/
theorem nameOfLiteral_eq (hliteral : literal.head? ≠ some '_') (provider : List Char) :
    Strategy.nameOfLiteral literal provider =
      ((bareProvider provider ++ ['_']).isPrefixOf? literal).getD
        ((Naming.withoutProviderPrefix? literal).getD literal) := by
  rw [Strategy.nameOfLiteral, Text.dropEndWhile_eq_rdropWhile, ← bareProvider]
  · cases provider with
    | nil =>
      rw [List.isEmpty_nil, if_pos rfl, bareProvider, List.rdropWhile_nil, List.nil_append,
        isPrefixOf?_underscore hliteral]
      rfl
    | cons c rest =>
      rw [List.isEmpty_cons, if_neg Bool.false_ne_true]
      cases (bareProvider (c :: rest) ++ ['_']).isPrefixOf? literal <;> rfl
  · rintro rest rfl
    exact hliteral rfl

theorem begins_of_append (provider rest : List Char) :
    bareProvider provider ++ ['_'] <+: provider ++ '_' :: rest := by
  obtain ⟨dropped, hdropped, hprovider, -⟩ := provider_eq provider
  have happend : provider ++ '_' :: rest = bareProvider provider ++ (dropped ++ '_' :: rest) := by
    rw [← List.append_assoc, ← hprovider]
  rw [happend, List.prefix_append_right_inj]
  cases dropped with
  | nil => exact ⟨rest, rfl⟩
  | cons c dropped =>
    rw [hdropped c (List.mem_cons_self ..)]
    exact ⟨dropped ++ '_' :: rest, rfl⟩

namespace Linker

variable {l : Linker}

/-- What follows the configured prefix in a type name, unless nothing does. -/
def afterProvider (l : Linker) (literal : List Char) : Option (List Char) :=
  ((l.providerPrefix.toList ++ ['_']).isPrefixOf? literal).filter (!·.isEmpty)

theorem afterProvider_eq_some_iff : l.afterProvider literal = some rest ↔
    rest ≠ [] ∧ literal = l.providerPrefix.toList ++ '_' :: rest := by
  rw [afterProvider, Option.filter_eq_some_iff, List.isPrefixOf?_eq_some_iff_append_eq, and_comm,
    eq_comm (b := literal)]
  simp

theorem unprefixed_eq (l : Linker) (hliteral : literal.head? ≠ some '_') :
    l.unprefixed literal = (l.afterProvider literal).or (Naming.withoutProviderPrefix? literal) := by
  rw [unprefixed, afterProvider]
  by_cases hempty : l.providerPrefix.isEmpty
  · have hnil : l.providerPrefix.toList = [] := by simpa using hempty
    rw [if_pos hempty, hnil, List.nil_append, isPrefixOf?_underscore hliteral]
    rfl
  · rw [if_neg hempty]
    match (l.providerPrefix.toList ++ ['_']).isPrefixOf? literal with
    | none | some [] | some (c :: rest) => rfl

/-- What is dropped from a type name that begins with the bare prefix. -/
theorem unprefixed_eq_some_iff_of_begins (hliteral : literal.head? ≠ some '_') (hrest : rest ≠ [])
    (h : literal = bareProvider l.providerPrefix.toList ++ '_' :: rest) :
    l.unprefixed literal = some rest ↔ ¬ ProviderMissed l.providerPrefix.toList literal := by
  obtain ⟨dropped, -, hprovider, htrailing⟩ := provider_eq l.providerPrefix.toList
  rw [l.unprefixed_eq hliteral]
  by_cases hdropped : dropped = []
  · -- The prefix has no underscore at its end, so it is dropped as it is.
    have hafter : l.afterProvider literal = some rest := by
      rw [hdropped, List.append_nil] at hprovider
      exact afterProvider_eq_some_iff.mpr ⟨hrest, by rwa [hprovider]⟩
    rw [hafter, Option.some_or, iff_true_left rfl]
    exact fun hmissed => htrailing.mp hdropped hmissed.trailing
  · have htrailing : l.providerPrefix.toList.getLast? = some '_' :=
      not_not.mp fun hne => hdropped (htrailing.mpr hne)
    have hbegins : bareProvider l.providerPrefix.toList ++ ['_'] <+: literal :=
      ⟨rest, by rw [h, List.append_assoc]; rfl⟩
    cases hafter : l.afterProvider literal with
    | some more =>
      obtain ⟨hmore, hlong⟩ := afterProvider_eq_some_iff.mp hafter
      -- More is dropped than the bare prefix.
      have hne : more ≠ rest := by
        rintro rfl
        have hlength := congrArg List.length (h.symm.trans hlong)
        have hpos : 0 < dropped.length := List.length_pos_of_ne_nil hdropped
        have hsplit := congrArg List.length hprovider
        simp only [List.length_append, List.length_cons] at hlength hsplit
        omega
      rw [Option.some_or, Option.some.injEq, iff_false_left hne, not_not]
      exact ⟨htrailing, hbegins, .inr ⟨more, hmore, hlong⟩⟩
    | none =>
      have hshort : ¬ ∃ more ≠ [], literal = l.providerPrefix.toList ++ '_' :: more := by
        rintro ⟨more, hmore, hlong⟩
        rw [afterProvider_eq_some_iff.mpr ⟨hmore, hlong⟩] at hafter
        cases hafter
      rw [Option.none_or, h, Naming.withoutProviderPrefix?_append_iff hrest, ← h, not_iff_not.symm,
        not_not, not_not]
      exact ⟨fun hmem => ⟨htrailing, hbegins, .inl hmem⟩, fun hmissed =>
        hmissed.differs.resolve_right hshort⟩

/-- The linker drops the same part as the extractor, apart from the type names that it misses. -/
theorem unprefixed_iff (hliteral : literal.head? ≠ some '_')
    (hname : Strategy.nameOfLiteral literal l.providerPrefix.toList ≠ []) :
    (literal = Strategy.nameOfLiteral literal l.providerPrefix.toList ∨
        l.unprefixed literal = some (Strategy.nameOfLiteral literal l.providerPrefix.toList)) ↔
      ¬ ProviderMissed l.providerPrefix.toList literal := by
  have hbare := nameOfLiteral_eq hliteral l.providerPrefix.toList
  cases hmarker : (bareProvider l.providerPrefix.toList ++ ['_']).isPrefixOf? literal with
  | none =>
    have hbegins : ¬ bareProvider l.providerPrefix.toList ++ ['_'] <+: literal := by
      rintro ⟨rest, hrest⟩
      rw [List.isPrefixOf?_eq_some_iff_append_eq.mpr hrest] at hmarker
      cases hmarker
    have hafter : l.afterProvider literal = none := by
      refine Option.eq_none_iff_forall_ne_some.mpr fun rest hrest => hbegins ?_
      rw [(afterProvider_eq_some_iff.mp hrest).2]
      exact begins_of_append _ rest
    rw [iff_true_right fun hmissed => hbegins hmissed.begins, hbare, hmarker, Option.getD_none,
      l.unprefixed_eq hliteral, hafter, Option.none_or]
    cases Naming.withoutProviderPrefix? literal <;> simp
  | some rest =>
    have h : literal = bareProvider l.providerPrefix.toList ++ '_' :: rest := by
      rw [← List.isPrefixOf?_eq_some_iff_append_eq.mp hmarker, List.append_assoc]
      rfl
    rw [hbare, hmarker, Option.getD_some] at hname ⊢
    have hne : literal ≠ rest := by
      intro heq
      have hlength := congrArg List.length (heq.symm.trans h)
      simp only [List.length_append, List.length_cons] at hlength
      omega
    rw [or_iff_right hne, unprefixed_eq_some_iff_of_begins hliteral hname h]

end Linker
end

namespace Linker

variable {l : Linker} {kind : EntityKind}

theorem matchByBlocks_singleton (l : Linker) (b : Block) :
    l.matchByBlocks [b] = (l.resolve b.typeName.toList (some b.kind)).or
      ((l.unprefixed b.typeName.toList).bind (l.resolve · (some b.kind))) := by
  rw [matchByBlocks, List.findSome?_singleton, matchBlock, List.findSome?_cons]
  cases l.resolve b.typeName.toList (some b.kind) with
  | some key => rfl
  | none => cases l.unprefixed b.typeName.toList <;> simp

theorem providerPrefix_of_ofRegistry {r : Registry} {s : Settings} {rounding : Rounding}
    (hl : ofRegistry r s rounding = .ok l) : l.providerPrefix = s.providerPrefix :=
  (isConfigured_of_ofRegistry hl).providerPrefix

/-- A block whose type name has given an entity its name leads to an entity of that name, or of the
type name as it stands, if there is one of that or the provider's part is not missed. -/
theorem matchByBlocks_nameOfLiteral {literal : List Char} (hliteral : literal.head? ≠ some '_')
    (hname : Strategy.nameOfLiteral literal l.providerPrefix.toList ≠ [])
    (hmem : (⟨kind, String.ofList (Strategy.nameOfLiteral literal l.providerPrefix.toList)⟩ :
      EntityKey) ∈ l.keys) :
    ((∃ key, l.matchByBlocks [⟨kind, String.ofList literal⟩] = some key ∧
        (key.name = String.ofList (Strategy.nameOfLiteral literal l.providerPrefix.toList) ∨
          key.name = String.ofList literal)) ↔
      (∃ k, (⟨k, String.ofList literal⟩ : EntityKey) ∈ l.keys) ∨
        ¬ ProviderMissed l.providerPrefix.toList literal) ∧
    ((∀ k, (⟨k, String.ofList literal⟩ : EntityKey) ∉ l.keys) →
      ¬ ProviderMissed l.providerPrefix.toList literal →
      l.matchByBlocks [⟨kind, String.ofList literal⟩] =
        some ⟨kind, String.ofList (Strategy.nameOfLiteral literal l.providerPrefix.toList)⟩) := by
  have hiff := unprefixed_iff hliteral hname
  have hblock := l.matchByBlocks_singleton ⟨kind, String.ofList literal⟩
  rw [String.toList_ofList] at hblock
  generalize Strategy.nameOfLiteral literal l.providerPrefix.toList = name at *
  cases hfull : l.resolve literal (some kind) with
  | some key =>
    have hkey : key.name = String.ofList literal := name_of_resolve hfull
    have hregistered : (⟨key.kind, String.ofList literal⟩ : EntityKey) ∈ l.keys := by
      rw [← hkey]
      exact mem_keys_of_find? (l.resolve_eq .. ▸ hfull)
    rw [hblock, hfull, Option.some_or]
    exact ⟨iff_of_true ⟨key, rfl, .inr hkey⟩ (.inl ⟨_, hregistered⟩), fun h => absurd hregistered (h _)⟩
  | none =>
    have hunregistered := resolve_eq_none_iff.mp hfull
    have hne : literal ≠ name := by
      rintro rfl
      exact hunregistered kind hmem
    rw [or_iff_right hne] at hiff
    have hfound : ¬ ProviderMissed l.providerPrefix.toList literal →
        l.matchByBlocks [⟨kind, String.ofList literal⟩] = some ⟨kind, String.ofList name⟩ := by
      intro h
      rw [hblock, hfull, Option.none_or, hiff.mpr h, Option.bind_some, resolve_of_mem hmem]
    refine ⟨⟨?_, ?_⟩, fun _ => hfound⟩
    · rintro ⟨key, hkey, hname⟩
      rw [hblock, hfull, Option.none_or] at hkey
      obtain ⟨rest, hrest, hkey⟩ := Option.bind_eq_some_iff.mp hkey
      have hregistered : key ∈ l.keys := mem_keys_of_find? (l.resolve_eq .. ▸ hkey)
      rcases hname with hname | hname
      · rw [name_of_resolve hkey, String.ofList_inj] at hname
        exact .inr (hiff.mp (hname ▸ hrest))
      · exact absurd (hname ▸ hregistered) (hunregistered key.kind)
    · rintro (⟨k, hk⟩ | h)
      · exact absurd hk (hunregistered k)
      · exact ⟨_, hfound h, .inl rfl⟩

end Linker

namespace Extractor

open Go Strategy

/-- A `Metadata` method of a type of this kind assigns the literal, and the name in it is that of an
entity of the file. -/
structure Yields (x : Extractor) (f : SourceFile) (kind : EntityKind) (literal name : String) :
    Prop where
  assigned : ∃ m receiver body left right operand,
    (m, receiver) ∈ methodsNamed f "Metadata" ∧ kindOfType? receiver = some kind ∧
    m.body = some body ∧ assignedName? x.settings.providerPrefix body = some name ∧
    (left, right) ∈ body.assignments ∧ left.selectorField? = some (operand, "TypeName") ∧
    right.unparenthesized.stringValue? = some literal
  not_action : kind ≠ .action
  name_eq : name =
    String.ofList (nameOfLiteral literal.toList x.settings.providerPrefix.toList)
  extracted : ∃ e ∈ x.extract f, e.key = ⟨kind, name⟩

theorem ne_empty_of_assignedName? {provider name : String} {body : Node}
    (h : assignedName? provider body = some name) : name ≠ "" := by
  obtain ⟨⟨left, right⟩, -, h⟩ := List.exists_of_findSome?_eq_some h
  dsimp only at h
  split at h
  · split at h
    · cases h
      intro hempty
      simpa using congrArg String.toList hempty
    · cases h
  · cases h

end Extractor

/-- A block of the type whose name a `Metadata` method assigns as a literal leads to an entity of
the name in the literal, or of the whole literal, exactly if there is one of the whole literal or
the provider's part of the literal is not missed. If there is none of the whole literal, it leads to
the entity that the method has named. -/
theorem Linker.literal_block_matched_iff {x : Extractor} {f : Go.SourceFile} {kind : EntityKind}
    {literal name : String} {r : Registry} {rounding : Rounding} {l : Linker}
    (h : x.Yields f kind literal name) (hliteral : literal.toList.head? ≠ some '_')
    (hr : (⟨kind, name⟩ : EntityKey) ∈ r.keys)
    (hl : ofRegistry r x.settings rounding = .ok l) :
    ((∃ key, l.matchByBlocks [⟨kind, literal⟩] = some key ∧
        (key.name = name ∨ key.name = literal)) ↔
      (∃ k, (⟨k, literal⟩ : EntityKey) ∈ r.keys) ∨
        ¬ ProviderMissed x.settings.providerPrefix.toList literal.toList) ∧
    ((∀ k, (⟨k, literal⟩ : EntityKey) ∉ r.keys) →
      ¬ ProviderMissed x.settings.providerPrefix.toList literal.toList →
      l.matchByBlocks [⟨kind, literal⟩] = some ⟨kind, name⟩) := by
  obtain ⟨m, receiver, body, left, right, operand, -, -, -, hassigned, -⟩ := h.assigned
  have hprovider := providerPrefix_of_ofRegistry hl
  have hname := h.name_eq
  rw [← hprovider] at hname ⊢
  have hne : Strategy.nameOfLiteral literal.toList l.providerPrefix.toList ≠ [] := by
    intro hnil
    rw [hnil] at hname
    exact Extractor.ne_empty_of_assignedName? hassigned hname
  have hkeys := (isSnapshot_of_ofRegistry hl).keys
  rw [hname, ← hkeys] at hr
  have hblock := matchByBlocks_nameOfLiteral hliteral hne hr
  rw [← hname, String.ofList_toList, hkeys] at hblock
  exact hblock

namespace Extractor

/-- A file with one resource, which names its type in full. -/
def literalNames : Go.SourceFile :=
  .ofLines "provider.go"
    ["package provider",
     "",
     "func (r *WidgetResource) Metadata(ctx context.Context, req resource.MetadataRequest,",
     "\tresp *resource.MetadataResponse) \x7b",
     "\tresp.TypeName = \"my_cloud_widget\"",
     "\x7d"] false

/-- The prefix is configured with the underscore after it. -/
def trailingPrefix : Extractor :=
  ⟨{ Settings.default with providerPrefix := "my_cloud_" }, []⟩

theorem yields_widget :
    trailingPrefix.Yields literalNames .resource "my_cloud_widget" "widget" := by
  have hfile : (Strategy.methodsNamed literalNames "Metadata").any (fun p =>
        Strategy.kindOfType? p.2 = some .resource ∧ p.1.body.any fun body =>
          Strategy.assignedName? trailingPrefix.settings.providerPrefix body = some "widget" ∧
          body.assignments.any fun sides =>
            sides.1.selectorField?.map (·.2) = some "TypeName" ∧
            sides.2.unparenthesized.stringValue? = some "my_cloud_widget") = true ∧
      (trailingPrefix.extract literalNames).any (·.key = ⟨.resource, "widget"⟩) = true := by
    rw [literalNames, Go.SourceFile.ofLines_eq]
    repeat rw [Go.SourceFile.textOfLines_cons]
    decide +kernel
  obtain ⟨hmethod, hextracted⟩ := hfile
  simp only [List.any_eq_true, Option.any_eq_true, decide_eq_true_eq, Prod.exists,
    Option.map_eq_some_iff] at hmethod hextracted
  obtain ⟨m, receiver, hm, hkind, body, hbody, hname, left, right, hassigned,
    ⟨operand, _, hfield, rfl⟩, hliteral⟩ := hmethod
  exact {
    assigned := ⟨m, receiver, body, left, right, operand, hm, hkind, hbody, hname, hassigned,
      hfield, hliteral⟩
    not_action := by decide
    name_eq := by decide
    extracted := hextracted }

end Extractor

/-- The name loses `my_cloud_`, while the linker takes `my_` from the block. -/
theorem Linker.widget_block_not_matched : ∃ r l,
    Extractor.trailingPrefix.Yields Extractor.literalNames .resource "my_cloud_widget" "widget" ∧
    (⟨.resource, "widget"⟩ : EntityKey) ∈ r.keys ∧
    ofRegistry r Extractor.trailingPrefix.settings Binary64.nearest = .ok l ∧
    ¬ ∃ key, l.matchByBlocks [⟨.resource, "my_cloud_widget"⟩] = some key ∧
      (key.name = "widget" ∨ key.name = "my_cloud_widget") := by
  have hr : (⟨.resource, "widget"⟩ : EntityKey) ∈ (Registry.empty.run untestedWidget).keys := by
    decide
  obtain ⟨l, hl⟩ : ∃ l, ofRegistry (Registry.empty.run untestedWidget)
      Extractor.trailingPrefix.settings Binary64.nearest = .ok l := ⟨_, rfl⟩
  have hfree : ∀ k, (⟨k, "my_cloud_widget"⟩ : EntityKey) ∉
      (Registry.empty.run untestedWidget).keys := by
    intro k
    cases k <;> decide
  have hmissed : ProviderMissed "my_cloud_".toList "my_cloud_widget".toList :=
    ⟨by decide, by decide, .inl (by decide)⟩
  refine ⟨_, l, Extractor.yields_widget, hr, hl, fun hmatched => ?_⟩
  rcases (literal_block_matched_iff Extractor.yields_widget (by decide) hr hl).1.mp hmatched with
    ⟨k, hk⟩ | hkept
  · exact hfree k hk
  · exact hkept hmissed
end ProviderCoverage
