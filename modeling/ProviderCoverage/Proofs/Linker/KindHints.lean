import ProviderCoverage.Proofs.Linker.Snapshot

/-! What a hint about the kind of an entity is worth. It decides between entities of one name, and
not between names: an entity of any kind that has the whole name comes before one of the hinted kind
that has the name without the provider's part (`hinted_kind_found_iff`). -/

namespace ProviderCoverage

namespace Linker

variable {l : Linker} {r : Registry} {s : Settings} {rounding : Rounding} {name found : List Char}
  {kind : EntityKind} {hint : Option EntityKind}

/-- The hint leads to an entity of its kind: one that has the whole name, or else, if no entity has
that, one that has the name without the provider's part. -/
inductive Honours (r : Registry) (l : Linker) (name : List Char) (kind : EntityKind) :
    List Char → Prop
  | whole : (⟨kind, String.ofList name⟩ : EntityKey) ∈ r.keys → Honours r l name kind name
  | unprefixed {rest : List Char} : String.ofList name ∉ r.names →
      l.unprefixed name = some rest → (⟨kind, String.ofList rest⟩ : EntityKey) ∈ r.keys →
      Honours r l name kind rest

/-- The type name of the block, or what it is without the provider's part, is that of an entity. -/
def NamesEntity (r : Registry) (l : Linker) (b : Block) : Prop :=
  ∃ name ∈ l.withUnprefixed b.typeName.toList, String.ofList name ∈ r.names

section
variable (hkeys : l.keys = r.keys)
include hkeys

/-- Under one name, the hinted kind comes before the others. -/
theorem resolve_hinted_iff : l.resolve name (some kind) = some ⟨kind, String.ofList found⟩ ↔
    found = name ∧ (⟨kind, String.ofList name⟩ : EntityKey) ∈ r.keys := by
  constructor
  · intro h
    have hname : found = name := String.ofList_inj.mp (name_of_resolve h)
    refine ⟨hname, ?_⟩
    rw [← hname, ← hkeys]
    exact mem_keys_of_find? (l.resolve_eq .. ▸ h)
  · rintro ⟨rfl, hmem⟩
    exact resolve_of_mem (hkeys ▸ hmem)

theorem resolveOrUnprefixed_hinted_iff :
    l.resolveOrUnprefixed name (some kind) = some ⟨kind, String.ofList found⟩ ↔
      Honours r l name kind found := by
  rw [resolveOrUnprefixed]
  cases hwhole : l.resolve name (some kind) with
  | some key =>
    -- Some entity has the whole name, so the other name is not looked up.
    have hnamed : String.ofList name ∈ r.names := name_mem_of_resolve hkeys hwhole
    dsimp only
    rw [← hwhole, resolve_hinted_iff hkeys]
    constructor
    · rintro ⟨rfl, hmem⟩
      exact .whole hmem
    · intro h
      cases h with
      | whole hmem => exact ⟨rfl, hmem⟩
      | unprefixed hfree _ _ => exact absurd hnamed hfree
  | none =>
    have hfree : String.ofList name ∉ r.names := (resolve_eq_none_iff_notMem_names hkeys).mp hwhole
    dsimp only
    rw [Option.bind_eq_some_iff]
    constructor
    · rintro ⟨rest, hrest, hfound⟩
      obtain ⟨rfl, hmem⟩ := (resolve_hinted_iff hkeys).mp hfound
      exact .unprefixed hfree hrest hmem
    · intro h
      cases h with
      | whole hmem => exact absurd (Registry.mem_names_iff.mpr ⟨kind, hmem⟩) hfree
      | unprefixed _ hrest hmem => exact ⟨found, hrest, (resolve_hinted_iff hkeys).mpr ⟨rfl, hmem⟩⟩

/-- A block that names no entity is passed over. -/
theorem resolveOrUnprefixed_eq_none_iff :
    l.resolveOrUnprefixed name hint = none ↔
      ∀ n ∈ l.withUnprefixed name, String.ofList n ∉ r.names := by
  rw [resolveOrUnprefixed_eq, ← findSome?_resolve, List.findSome?_eq_none_iff]
  simp only [resolve_eq_none_iff_notMem_names hkeys]

end

/-- A block is looked up as a name with its kind for a hint. -/
theorem matchBlock_eq (l : Linker) (b : Block) :
    l.matchBlock b = l.resolveOrUnprefixed b.typeName.toList (some b.kind) := by
  rw [resolveOrUnprefixed_eq, ← findSome?_resolve]
  rfl

/-- The first block that names an entity decides. -/
theorem matchByBlocks_of_first (hkeys : l.keys = r.keys) {before after : List Block} {b : Block}
    (hbefore : ∀ b' ∈ before, ¬ NamesEntity r l b') (hb : NamesEntity r l b) :
    l.matchByBlocks (before ++ b :: after) =
      l.resolveOrUnprefixed b.typeName.toList (some b.kind) := by
  have hpassed : before.findSome? l.matchBlock = none := by
    rw [List.findSome?_eq_none_iff]
    intro b' hb'
    rw [matchBlock_eq, resolveOrUnprefixed_eq_none_iff hkeys]
    exact fun n hn hnamed => hbefore b' hb' ⟨n, hn, hnamed⟩
  rw [matchByBlocks, List.findSome?_append, hpassed, Option.none_or, List.findSome?_cons,
    matchBlock_eq]
  cases hfound : l.resolveOrUnprefixed b.typeName.toList (some b.kind) with
  | some key => rfl
  | none =>
    obtain ⟨n, hn, hnamed⟩ := hb
    exact absurd hnamed ((resolveOrUnprefixed_eq_none_iff hkeys).mp hfound n hn)

/-- A name leads to an entity of the hinted kind exactly if one of that kind has the whole name, or
one has the name without the provider's part and no entity has the whole name. The kind of the first
block that names an entity is such a hint. -/
theorem hinted_kind_found_iff (hl : ofRegistry r s rounding = .ok l) :
    (∀ name kind found, l.resolveOrUnprefixed name (some kind) = some ⟨kind, String.ofList found⟩ ↔
      Honours r l name kind found) ∧
    ∀ before b after found, (∀ b' ∈ before, ¬ NamesEntity r l b') → NamesEntity r l b →
      (l.matchByBlocks (before ++ b :: after) = some ⟨b.kind, String.ofList found⟩ ↔
        Honours r l b.typeName.toList b.kind found) := by
  have hkeys : l.keys = r.keys := (isSnapshot_of_ofRegistry hl).keys
  refine ⟨fun name kind found => resolveOrUnprefixed_hinted_iff hkeys, ?_⟩
  intro before b after found hbefore hb
  rw [matchByBlocks_of_first hkeys hbefore hb]
  exact resolveOrUnprefixed_hinted_iff hkeys

/-- The first block names nothing, and the second the resource without the provider's part. -/
theorem hinted_kind_found_widget : ∃ r l, r = Registry.ofKeys [⟨.resource, "widget"⟩] ∧
    ofRegistry r .default Binary64.nearest = .ok l ∧
    ¬ NamesEntity r l ⟨.resource, "example_gadget"⟩ ∧
    NamesEntity r l ⟨.resource, "example_widget"⟩ ∧
    l.resolveOrUnprefixed "example_widget".toList (some .resource) =
      some ⟨.resource, "widget"⟩ ∧
    l.matchByBlocks [⟨.resource, "example_gadget"⟩, ⟨.resource, "example_widget"⟩] =
      some ⟨.resource, "widget"⟩ := by
  obtain ⟨r, hr⟩ : ∃ r, r = Registry.ofKeys [⟨.resource, "widget"⟩] := ⟨_, rfl⟩
  obtain ⟨l, hl, -⟩ := ofRegistry_default r Binary64.nearest
  have hprovider : l.providerPrefix = "" := (isConfigured_of_ofRegistry hl).providerPrefix
  have hgadget : l.unprefixed "example_gadget".toList = some "gadget".toList := by
    rw [unprefixed, hprovider]
    rfl
  have hwidget : l.unprefixed "example_widget".toList = some "widget".toList := by
    rw [unprefixed, hprovider]
    rfl
  have hunknown : ¬ NamesEntity r l ⟨.resource, "example_gadget"⟩ := by
    rw [NamesEntity, withUnprefixed, hgadget, hr]
    decide
  have hknown : NamesEntity r l ⟨.resource, "example_widget"⟩ := by
    rw [NamesEntity, withUnprefixed, hwidget, hr]
    decide
  have hhonours : Honours r l "example_widget".toList .resource "widget".toList := by
    subst hr
    exact .unprefixed (by decide) hwidget (by decide)
  obtain ⟨hname, hblocks⟩ := hinted_kind_found_iff hl
  refine ⟨r, l, hr, hl, hunknown, hknown, (hname _ _ _).mpr hhonours, ?_⟩
  exact (hblocks [_] ⟨.resource, "example_widget"⟩ [] _ (by simpa using hunknown) hknown).mpr
    hhonours

/-- A data source that has the whole name hides the resource that has it without the provider's
part. -/
theorem hinted_kind_hidden : ∃ r l,
    r = Registry.ofKeys [⟨.dataSource, "example_zone"⟩, ⟨.resource, "zone"⟩] ∧
    ofRegistry r .default Binary64.nearest = .ok l ∧
    l.unprefixed "example_zone".toList = some "zone".toList ∧
    (⟨.resource, "zone"⟩ : EntityKey) ∈ r.keys ∧
    l.resolveOrUnprefixed "example_zone".toList (some .resource) =
      some ⟨.dataSource, "example_zone"⟩ ∧
    l.matchByBlocks [⟨.resource, "example_zone"⟩] = some ⟨.dataSource, "example_zone"⟩ := by
  obtain ⟨r, hr⟩ : ∃ r, r = Registry.ofKeys [⟨.dataSource, "example_zone"⟩, ⟨.resource, "zone"⟩] :=
    ⟨_, rfl⟩
  obtain ⟨l, hl, -⟩ := ofRegistry_default r Binary64.nearest
  have hzone : l.unprefixed "example_zone".toList = some "zone".toList := by
    rw [unprefixed, (isConfigured_of_ofRegistry hl).providerPrefix]
    rfl
  have hwhole : l.resolve "example_zone".toList (some .resource) =
      some ⟨.dataSource, "example_zone"⟩ := by
    rw [resolve, (isSnapshot_of_ofRegistry hl).keys, hr]
    decide
  have hfound : l.resolveOrUnprefixed "example_zone".toList (some .resource) =
      some ⟨.dataSource, "example_zone"⟩ := by
    rw [resolveOrUnprefixed, hwhole]
  refine ⟨r, l, hr, hl, hzone, by rw [hr]; decide, hfound, ?_⟩
  rw [matchByBlocks, List.findSome?_cons, matchBlock_eq, hfound]

end Linker
end ProviderCoverage
