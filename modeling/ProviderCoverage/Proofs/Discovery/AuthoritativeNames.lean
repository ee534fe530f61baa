import ProviderCoverage.Discovery.Extraction
import ProviderCoverage.Proofs.Discovery.Standing
import ProviderCoverage.Proofs.Go.Lines

/-! What becomes of the names that `Metadata` methods assign. Such a name is authoritative, and yet
its entity can be missing from a file: if another type has the name provisionally, the entity of the
type that claims it is dropped, and when the other type then takes a name of its own, nobody has the
claimed one (`assigned_name_extracted_iff`). -/

namespace ProviderCoverage

open Go

namespace Strategy

/-- The receivers of the `Metadata` methods that assign a name, with these names, in order. -/
def assignedNames (f : SourceFile) (s : Settings) : List (String × EntityKey) :=
  (ofMetadataMethods f s).filterMap (·.named?)

/-- The standing of a key before any `Metadata` method is read: the first `Schema` method that it
can be guessed from gives it its receiver, and a factory gives it none. -/
def provisional (f : SourceFile) (s : Settings) (key : EntityKey) : Standing :=
  .first key (ofSchemaMethods f s ++ ofFactories f s)

/-- What is found after the `Metadata` methods are read. -/
def later (f : SourceFile) (s : Settings) : List Discovery :=
  ofActionFactories f s ++ ofReturnTypes f s ++ ofRegistryCalls f s

/-- The name that is guessed from a type. -/
def guessedKey (type : String) : EntityKey :=
  ⟨(kindOfType? type).getD .resource, nameOfType type⟩

variable {f : SourceFile} {s : Settings}

theorem ofSchemaMethods_inserts : ∀ d ∈ ofSchemaMethods f s,
    ∃ e r, d = .insert e (some r) ∧ e.key = guessedKey r := by
  intro d hd
  obtain ⟨⟨m, receiver⟩, -, hd⟩ := List.mem_filterMap.mp hd
  simp only at hd
  split at hd
  · cases hd
  · split at hd
    · cases hd
    · cases hd
    · next kind _ hkind =>
      split at hd
      · cases hd
      · cases hd
        exact ⟨_, receiver, rfl, by simp [found, guessedKey, hkind]⟩

theorem ofFactories_inserts : ∀ d ∈ ofFactories f s, ∃ e, d = .insert e none := by
  intro d hd
  obtain ⟨g, -, hd⟩ := List.mem_filterMap.mp hd
  split at hd
  · cases hd
    exact ⟨_, rfl⟩
  · cases hd

theorem ofMetadataMethods_renames : ∀ d ∈ ofMetadataMethods f s, ∃ r e, d = .rename r e := by
  intro d hd
  obtain ⟨⟨m, receiver⟩, -, hd⟩ := List.mem_filterMap.mp hd
  simp only at hd
  split at hd
  · cases hd
  · cases hd
  · obtain ⟨name, -, rfl⟩ := Option.map_eq_some_iff.mp hd
    exact ⟨receiver, _, rfl⟩

theorem ofActionFactories_inserts : ∀ d ∈ ofActionFactories f s, ∃ e r, d = .insert e r := by
  intro d hd
  obtain ⟨g, -, hd⟩ := List.mem_filterMap.mp hd
  split at hd
  · cases hd
  · split at hd
    · cases hd
    · simp only at hd
      split at hd
      · cases hd
      · cases hd
        exact ⟨_, _, rfl⟩

theorem ofReturnTypes_inserts : ∀ d ∈ ofReturnTypes f s, ∃ e r, d = .insert e r := by
  intro d hd
  obtain ⟨g, -, hd⟩ := List.mem_filterMap.mp hd
  split at hd
  · cases hd
  · obtain ⟨key, -, rfl⟩ := Option.map_eq_some_iff.mp hd
    exact ⟨_, _, rfl⟩

theorem ofRegistryCalls_inserts : ∀ d ∈ ofRegistryCalls f s, ∃ e r, d = .insert e r := by
  intro d hd
  obtain ⟨call, -, hd⟩ := List.mem_filterMap.mp hd
  split at hd
  · cases hd
    exact ⟨_, _, rfl⟩
  · cases hd

theorem later_inserts : ∀ d ∈ later f s, ∃ e r, d = .insert e r := by
  intro d hd
  rcases List.mem_append.mp hd with hd | hd
  · rcases List.mem_append.mp hd with hd | hd
    · exact ofActionFactories_inserts d hd
    · exact ofReturnTypes_inserts d hd
  · exact ofRegistryCalls_inserts d hd

/-- A `Metadata` method of a resource or data source gives its receiver the assigned name. -/
theorem mem_assignedNames {m : Function} {receiver name : String} {kind : EntityKind}
    (hm : (m, receiver) ∈ methodsNamed f "Metadata") (hkind : kindOfType? receiver = some kind)
    (haction : kind ≠ .action) (hname : m.body.bind (assignedName? s.providerPrefix) = some name) :
    (receiver, ⟨kind, name⟩) ∈ assignedNames f s := by
  refine List.mem_filterMap.mpr ⟨.rename receiver (found f m.node ⟨kind, name⟩), ?_, rfl⟩
  refine List.mem_filterMap.mpr ⟨(m, receiver), hm, ?_⟩
  cases kind with
  | action => exact absurd rfl haction
  | resource | dataSource => simp [hkind, hname]

end Strategy

namespace DiscoveryState

open Strategy

variable {f : SourceFile} {s : Settings} {key : EntityKey}

theorem run_all (f : SourceFile) (s : Settings) : empty.run f s Strategy.all =
    ((empty.applyAll (ofSchemaMethods f s ++ ofFactories f s)).applyAll
      (ofMetadataMethods f s)).applyAll (later f s) := by
  simp [run, Strategy.all, later, applyAll]

theorem standing_provisional (f : SourceFile) (s : Settings) (key : EntityKey) :
    (empty.applyAll (ofSchemaMethods f s ++ ofFactories f s)).standing key =
      provisional f s key := by
  refine WellIndexed.empty.standing_applyAll_inserts guessedKey (fun d hd => ?_) ?_ ?_
  · rcases List.mem_append.mp hd with hd | hd
    · obtain ⟨e, r, rfl, he⟩ := ofSchemaMethods_inserts d hd
      exact ⟨e, some r, rfl, fun x hx => Option.some.inj hx ▸ he⟩
    · obtain ⟨e, rfl⟩ := ofFactories_inserts d hd
      exact ⟨e, none, rfl, nofun⟩
  · intro p hp
    cases hp
  · exact standing_eq_absent_iff.mpr List.not_mem_nil

/-- A key is found in a file unless it was surrendered and not found again. -/
theorem contains_run_all_iff : (empty.run f s Strategy.all).contains key = true ↔
    Standing.run key (provisional f s key) (assignedNames f s) ≠ .absent ∨
      ∃ d ∈ later f s, d.key = key := by
  have hindexed : (empty.applyAll (ofSchemaMethods f s ++ ofFactories f s)).WellIndexed :=
    WellIndexed.empty.applyAll _
  rw [run_all, contains_applyAll_inserts later_inserts, ← standing_ne_absent_iff,
    hindexed.standing_applyAll_renames ofMetadataMethods_renames, standing_provisional]
  rfl

end DiscoveryState

namespace Extractor

open Strategy

variable {x : Extractor} {f : SourceFile} {key : EntityKey}

theorem exists_mem_extract_iff : (∃ e ∈ x.extract f, e.key = key) ↔
    x.isNestedSchema key.name = false ∧
      (DiscoveryState.empty.run f x.settings Strategy.all).contains key = true := by
  rw [DiscoveryState.contains_iff, DiscoveryState.keys, List.mem_map]
  simp only [extract, List.mem_map, List.mem_filter, Bool.not_eq_true']
  constructor
  · rintro ⟨_, ⟨e, ⟨he, hnested⟩, rfl⟩, rfl⟩
    rw [complete_key]
    exact ⟨hnested, e, he, rfl⟩
  · rintro ⟨hnested, e, he, rfl⟩
    exact ⟨_, ⟨e, ⟨he, hnested⟩, rfl⟩, complete_key ..⟩

/-- The name that a `Metadata` method assigns is that of an entity of the file, unless it is the
name of a nested schema, or the receiver that holds it takes another name after the last method that
assigns it and no factory or registration finds it again. In a file where no type has two `Metadata`
methods, who takes another name has the lost one by guess from its `Schema` method. -/
theorem assigned_name_extracted_iff {m : Function} {receiver name : String} {kind : EntityKind}
    (hm : (m, receiver) ∈ methodsNamed f "Metadata") (hkind : kindOfType? receiver = some kind)
    (haction : kind ≠ .action)
    (hname : m.body.bind (assignedName? x.settings.providerPrefix) = some name) :
    ((∃ e ∈ x.extract f, e.key = ⟨kind, name⟩) ↔
      x.isNestedSchema name = false ∧
        (¬ Standing.Surrenders ⟨kind, name⟩ (provisional f x.settings ⟨kind, name⟩)
            (assignedNames f x.settings) ∨
          ∃ d ∈ later f x.settings, d.key = ⟨kind, name⟩)) ∧
    (((assignedNames f x.settings).map (·.1)).Nodup →
      (Standing.Surrenders ⟨kind, name⟩ (provisional f x.settings ⟨kind, name⟩)
          (assignedNames f x.settings) ↔
        ∃ before other taken after,
          assignedNames f x.settings = before ++ (other, taken) :: after ∧
          provisional f x.settings ⟨kind, name⟩ = .present (some other) ∧
          taken ≠ ⟨kind, name⟩ ∧ ∀ n ∈ after, n.2 ≠ ⟨kind, name⟩)) := by
  have hassigned := mem_assignedNames hm hkind haction hname
  refine ⟨?_, Standing.surrenders_iff⟩
  rw [exists_mem_extract_iff, DiscoveryState.contains_run_all_iff, ne_eq,
    Standing.run_eq_absent_iff (.inr ⟨_, hassigned, rfl⟩)]

/-! ### A name that is lost -/

/-- The first resource is called what the second one seems to be called. -/
def shiftedNames : SourceFile :=
  .ofLines "a.go"
    ["package p",
     "",
     "func (r *AlphaResource) Schema() \x7b\x7d",
     "",
     "func (r *BetaResource) Schema() \x7b\x7d",
     "",
     "func (r *AlphaResource) Metadata(ctx context.Context, req resource.MetadataRequest,",
     "\tresp *resource.MetadataResponse) \x7b",
     "\tresp.TypeName = req.ProviderTypeName + \"_beta\"",
     "\x7d",
     "",
     "func (r *BetaResource) Metadata(ctx context.Context, req resource.MetadataRequest,",
     "\tresp *resource.MetadataResponse) \x7b",
     "\tresp.TypeName = req.ProviderTypeName + \"_gamma\"",
     "\x7d"] false

theorem assigned_name_not_extracted :
    ∃ m, (m, "AlphaResource") ∈ methodsNamed shiftedNames "Metadata" ∧
      kindOfType? "AlphaResource" = some .resource ∧
      m.body.bind (assignedName? "") = some "beta" ∧
      ¬ ∃ e ∈ extract ⟨.default, []⟩ shiftedNames, e.key = ⟨.resource, "beta"⟩ := by
  have hfile : ((methodsNamed shiftedNames "Metadata").any fun p =>
        p.2 = "AlphaResource" ∧ p.1.body.bind (assignedName? "") = some "beta") = true ∧
      assignedNames shiftedNames .default =
        [("AlphaResource", ⟨.resource, "beta"⟩), ("BetaResource", ⟨.resource, "gamma"⟩)] ∧
      provisional shiftedNames .default ⟨.resource, "beta"⟩ = .present (some "BetaResource") ∧
      (later shiftedNames .default).isEmpty = true := by
    rw [shiftedNames, SourceFile.ofLines_eq]
    repeat rw [SourceFile.textOfLines_cons]
    decide +kernel
  obtain ⟨hmethod, hnames, hholder, hlater⟩ := hfile
  obtain ⟨⟨m, receiver⟩, hm, hassigned⟩ := List.any_eq_true.mp hmethod
  obtain ⟨rfl, hname⟩ := of_decide_eq_true hassigned
  have hkind : kindOfType? "AlphaResource" = some .resource := by decide
  obtain ⟨hkept, hlost⟩ :=
    assigned_name_extracted_iff (x := ⟨.default, []⟩) hm hkind (by decide) hname
  refine ⟨m, hm, hkind, hname, fun h => ?_⟩
  rcases (hkept.mp h).2 with hheld | ⟨d, hd, -⟩
  · refine hheld ((hlost ?_).mpr ?_)
    · rw [hnames]
      decide
    · exact ⟨[("AlphaResource", ⟨.resource, "beta"⟩)], "BetaResource", ⟨.resource, "gamma"⟩, [],
        hnames, hholder, by decide, by simp⟩
  · rw [List.isEmpty_iff.mp hlater] at hd
    cases hd

end Extractor
end ProviderCoverage
