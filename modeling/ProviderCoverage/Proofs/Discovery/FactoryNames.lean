import ProviderCoverage.Proofs.Discovery.AuthoritativeNames
import ProviderCoverage.Proofs.Go.Lines
import ProviderCoverage.Proofs.Naming.SnakeCase
import ProviderCoverage.Proofs.Text.Parts

/-! The two names of a component. A `Schema` method names a component for its type, and a factory
for the function. Of the type one word about the kind is dropped, of the function up to two, so that
the names differ for a resource whose name itself ends in `DataSource`, and a file that declares one
then yields two entities (`factory_name_agrees_iff`). -/

namespace ProviderCoverage

open Go

namespace Text

theorem eq_append_of_beforeSuffix? {s finish stem : String}
    (h : beforeSuffix? s finish = some stem) :
    s = stem ++ finish := by
  obtain ⟨before, hbefore, rfl⟩ := Option.map_eq_some_iff.mp h
  rw [← String.toList_inj, String.toList_append, String.toList_ofList]
  exact (List.isSuffixOf?_eq_some_iff_append_eq.mp hbefore).symm

theorem beforeSuffix?_eq_none_iff {s finish : String} :
    beforeSuffix? s finish = none ↔ ends s finish = false := by
  rw [beforeSuffix?, Option.map_eq_none_iff, ends, ← Bool.not_eq_true, List.isSuffixOf_iff_suffix]
  constructor
  · rintro h ⟨before, hbefore⟩
    rw [List.isSuffixOf?_eq_some_iff_append_eq.mpr hbefore] at h
    cases h
  · intro h
    cases hcut : finish.toList.isSuffixOf? s.toList with
    | none => rfl
    | some before => exact absurd ⟨before, List.isSuffixOf?_eq_some_iff_append_eq.mp hcut⟩ h

theorem ends_append (s finish : String) : ends (s ++ finish) finish = true := by
  rw [ends, String.toList_append, List.isSuffixOf_iff_suffix]
  exact List.suffix_append ..

/-- Of two words that a text ends in, one is an end of the other. -/
theorem ends_append_eq_false {finish other : String} (hother : ends finish other = false)
    (hfinish : ends other finish = false) (s : String) : ends (s ++ finish) other = false := by
  simp only [ends, ← Bool.not_eq_true, List.isSuffixOf_iff_suffix, String.toList_append] at *
  intro h
  rcases Nat.le_total other.toList.length finish.toList.length with hle | hle
  · exact hother (List.suffix_of_suffix_length_le h (List.suffix_append ..) hle)
  · exact hfinish (List.suffix_of_suffix_length_le (List.suffix_append ..) h hle)

theorem afterPrefix?_append (start s : String) : afterPrefix? (start ++ s) start = some s := by
  have hcut : start.toList.isPrefixOf? (start.toList ++ s.toList) = some s.toList :=
    List.isPrefixOf?_eq_some_iff_append_eq.mpr rfl
  rw [afterPrefix?, String.toList_append, hcut, Option.map_some, String.ofList_toList]

end Text

namespace Strategy

/-- How the name of a type ends that implements a component of this kind. -/
def typeWord : EntityKind → String
  | .resource => "Resource"
  | .dataSource => "DataSource"
  | .action => "Action"

variable {f : SourceFile} {s : Settings} {type stem : String} {kind : EntityKind}

/-! ### The names -/

/-- A type name ends in the word of one kind only. -/
theorem beforeSuffix?_typeWord (stem : String) (kind other : EntityKind) :
    Text.beforeSuffix? (stem ++ typeWord kind) (typeWord other) =
      if kind = other then some stem else none := by
  split
  · next h =>
    subst h
    exact Text.beforeSuffix?_append stem (typeWord kind)
  · next h =>
    have hwords : ∀ a b : EntityKind, a ≠ b → Text.ends (typeWord a) (typeWord b) = false := by
      intro a b hab
      cases a <;> cases b <;> first | exact absurd rfl hab | decide
    exact Text.beforeSuffix?_eq_none_iff.mpr
      (Text.ends_append_eq_false (hwords kind other h) (hwords other kind (Ne.symm h)) stem)

theorem ends_typeWord (stem : String) (kind other : EntityKind) :
    Text.ends (stem ++ typeWord kind) (typeWord other) = decide (kind = other) := by
  have hcut := beforeSuffix?_typeWord stem kind other
  by_cases h : kind = other
  · subst h
    simpa using Text.ends_append stem (typeWord kind)
  · rw [if_neg h, Text.beforeSuffix?_eq_none_iff] at hcut
    rw [hcut, decide_eq_false h]

theorem kindOfType?_append (stem : String) (kind : EntityKind) :
    kindOfType? (stem ++ typeWord kind) = some kind := by
  have hdata : Text.ends (stem ++ typeWord kind) "DataSource" = _ :=
    ends_typeWord stem kind .dataSource
  have haction : Text.ends (stem ++ typeWord kind) "Action" = _ := ends_typeWord stem kind .action
  have hresource : Text.ends (stem ++ typeWord kind) "Resource" = _ :=
    ends_typeWord stem kind .resource
  rw [kindOfType?, hdata, haction, hresource]
  cases kind <;> rfl

theorem nameOfType_append (stem : String) (kind : EntityKind) :
    nameOfType (stem ++ typeWord kind) = snake stem.toList := by
  have hdata : Text.beforeSuffix? (stem ++ typeWord kind) "DataSource" = _ :=
    beforeSuffix?_typeWord stem kind .dataSource
  have hresource : Text.beforeSuffix? (stem ++ typeWord kind) "Resource" = _ :=
    beforeSuffix?_typeWord stem kind .resource
  have haction : Text.beforeSuffix? (stem ++ typeWord kind) "Action" = _ :=
    beforeSuffix?_typeWord stem kind .action
  rw [nameOfType, List.findSome?_cons, List.findSome?_cons, List.findSome?_cons, hdata, hresource,
    haction]
  cases kind <;> rfl

theorem guessedKey_append (stem : String) (kind : EntityKind) :
    guessedKey (stem ++ typeWord kind) = ⟨kind, snake stem.toList⟩ := by
  rw [guessedKey, kindOfType?_append, nameOfType_append, Option.getD_some]

/-- What a factory that is named for a type is about: the stem of the type, for a resource without
a further `DataSource` at its end. -/
def factoryName (stem : String) (kind : EntityKind) : String :=
  if kind = .resource then (Text.beforeSuffix? stem "DataSource").getD stem else stem

theorem keyOfFactory?_append (stem : String) (hkind : kind ≠ .action) :
    keyOfFactory? ("New" ++ (stem ++ typeWord kind)) kind =
      if (factoryName stem kind).isEmpty then none
      else some ⟨kind, snake (factoryName stem kind).toList⟩ := by
  have hstem : factoryStem ("New" ++ (stem ++ typeWord kind)) kind =
      (kind, stem ++ typeWord kind) := by
    rw [factoryStem, Text.afterPrefix?_append]
  have hresource : Text.beforeSuffix? (stem ++ typeWord kind) "Resource" = _ :=
    beforeSuffix?_typeWord stem kind .resource
  have hdata : Text.beforeSuffix? (stem ++ typeWord kind) "DataSource" = _ :=
    beforeSuffix?_typeWord stem kind .dataSource
  rw [keyOfFactory?, hstem]
  simp only [hresource]
  cases kind with
  | action => exact absurd rfl hkind
  | resource => rfl
  | dataSource =>
    simp only [reduceCtorEq, if_false, Option.getD_none, hdata]
    rfl

/-- More letters give another name. -/
theorem snake_append_ne {more : String} (h : 0 < (Naming.letters more.toList).length)
    (stem : String) : snake stem.toList ≠ snake (stem ++ more).toList := by
  intro heq
  have hletters := congrArg (·.filter (· != '_')) (String.ofList_inj.mp heq)
  simp only [Naming.filter_snakeCase, String.toList_append, Naming.letters_append] at hletters
  have hlength := congrArg List.length hletters
  rw [List.length_append] at hlength
  omega

theorem factoryName_cases (stem : String) (kind : EntityKind) :
    (¬ (kind = .resource ∧ Text.ends stem "DataSource" = true) ∧ factoryName stem kind = stem) ∨
    (kind = .resource ∧ stem = factoryName stem kind ++ "DataSource") := by
  by_cases hkind : kind = .resource
  · rw [factoryName, if_pos hkind]
    cases hcut : Text.beforeSuffix? stem "DataSource" with
    | none =>
      refine .inl ⟨fun h => ?_, rfl⟩
      rw [Text.beforeSuffix?_eq_none_iff, h.2] at hcut
      cases hcut
    | some rest => exact .inr ⟨hkind, Text.eq_append_of_beforeSuffix? hcut⟩
  · exact .inl ⟨fun h => hkind h.1, if_neg hkind⟩

/-- The factory has the name of its type unless the stem ends in another word about a kind. -/
theorem keyOfFactory?_eq_guessedKey_iff (hstem : stem ≠ "") (hkind : kind ≠ .action) :
    keyOfFactory? ("New" ++ (stem ++ typeWord kind)) kind =
        some (guessedKey (stem ++ typeWord kind)) ↔
      ¬ (kind = .resource ∧ Text.ends stem "DataSource" = true) := by
  rw [keyOfFactory?_append stem hkind, guessedKey_append]
  rcases factoryName_cases stem kind with ⟨hplain, hname⟩ | ⟨hresource, heq⟩
  · simp [hname, hplain, hstem]
  · refine iff_of_false (fun h => ?_) (not_not_intro ⟨hresource, ?_⟩)
    · split at h
      · cases h
      · have hsame : snake (factoryName stem kind).toList = snake stem.toList := by
          simpa using h
        have hword : 0 < (Naming.letters "DataSource".toList).length := by decide
        refine snake_append_ne hword (factoryName stem kind) ?_
        rw [← heq, hsame]
    · rw [heq]
      exact Text.ends_append ..

/-! ### The entities of a file -/

/-- A file declares a component by a `Schema` method on its type and by a factory that is named for
the type, returns a literal of it and has a result of the same kind. No method assigns a name. -/
structure Declares (f : SourceFile) (type : String) (kind : EntityKind) : Prop where
  schema : ∃ m, (m, type) ∈ methodsNamed f "Schema"
  factory : ∃ g ∈ plainFunctions f, g.name = "New" ++ type ∧
    g.body.bind returnedType? = some type ∧
    (g.firstResult?.bind (capability? f)).map (·.kind f) = some kind
  /-- The type is not the base of others. -/
  whole : Text.begins type "Base" = false
  unnamed : methodsNamed f "Metadata" = []

theorem exists_ofSchemaMethods {m : Function} (hm : (m, type) ∈ methodsNamed f "Schema")
    (hwhole : Text.begins type "Base" = false) (hkind : kindOfType? type = some kind)
    (haction : kind ≠ .action) (hname : nameOfType type ≠ "") :
    ∃ d ∈ ofSchemaMethods f s, d.key = guessedKey type := by
  have hguess : guessedKey type = ⟨kind, nameOfType type⟩ := by rw [guessedKey, hkind]; rfl
  let attributes := (m.body.map Schema.attributes).getD []
  refine ⟨.insert { found f m.node (guessedKey type) with attributes } (some type), ?_, rfl⟩
  refine List.mem_filterMap.mpr ⟨(m, type), hm, ?_⟩
  cases kind with
  | action => exact absurd rfl haction
  | resource | dataSource => simp [hwhole, hkind, hname, hguess, attributes]

theorem exists_ofReturnTypes {g : Function} {key : EntityKey} (hg : g ∈ plainFunctions f)
    (hkind : (g.firstResult?.bind (capability? f)).map (·.kind f) = some kind)
    (hunnamed : (g.body.bind returnedType?).bind (metadataName? f s) = none)
    (hkey : keyOfFactory? g.name kind = some key) : ∃ d ∈ ofReturnTypes f s, d.key = key := by
  obtain ⟨capability, hcapability, rfl⟩ := Option.map_eq_some_iff.mp hkind
  refine ⟨?d, List.mem_filterMap.mpr ⟨g, hg, ?found⟩, ?key⟩
  case found =>
    simp only [hcapability, hunnamed, hkey, Option.map_some]
    rfl
  case key => simp only [Discovery.key]; split <;> rfl

theorem method?_eq_none (h : methodsNamed f "Metadata" = []) (type : String) :
    f.method? type "Metadata" = none := by
  rw [SourceFile.method?, List.find?_eq_none]
  intro m hm
  rw [Bool.and_eq_true, beq_iff_eq, beq_iff_eq]
  rintro ⟨hreceiver, hname⟩
  have hmem : (m, type) ∈ methodsNamed f "Metadata" :=
    List.mem_filterMap.mpr ⟨m, hm, by simp [hreceiver, hname]⟩
  rw [h] at hmem
  cases hmem

theorem snake_ne_empty (hstem : stem ≠ "") : snake stem.toList ≠ "" := by
  intro h
  refine Naming.snakeCase_ne_nil (fun hnil => hstem ?_) (String.ofList_inj.mp h)
  exact String.toList_inj.mp hnil

namespace Declares

theorem contains_guessedKey (h : Declares f type kind) (hkind : kindOfType? type = some kind)
    (haction : kind ≠ .action) (hname : nameOfType type ≠ "") :
    (DiscoveryState.empty.run f s all).contains (guessedKey type) = true := by
  obtain ⟨m, hm⟩ := h.schema
  obtain ⟨d, hd, hkey⟩ := exists_ofSchemaMethods (s := s) hm h.whole hkind haction hname
  have hassigned : assignedNames f s = [] := by
    rw [assignedNames, ofMetadataMethods, h.unnamed]
    rfl
  refine DiscoveryState.contains_run_all_iff.mpr (.inl ?_)
  rw [hassigned]
  change provisional f s (guessedKey type) ≠ .absent
  rw [provisional, Standing.first]
  split
  · intro habsent
    cases habsent
  · next hnone =>
    have hother := List.find?_eq_none.mp hnone d (List.mem_append_left _ hd)
    exact absurd hkey (by simpa using hother)

theorem contains_factoryKey (h : Declares f type kind) {key : EntityKey}
    (hkey : keyOfFactory? ("New" ++ type) kind = some key) :
    (DiscoveryState.empty.run f s all).contains key = true := by
  obtain ⟨g, hg, hname, hreturned, hresult⟩ := h.factory
  have hunnamed : (g.body.bind returnedType?).bind (metadataName? f s) = none := by
    rw [hreturned, Option.bind_some, metadataName?, method?_eq_none h.unnamed]
    rfl
  obtain ⟨d, hd, hdkey⟩ := exists_ofReturnTypes hg hresult hunnamed (hname ▸ hkey)
  refine DiscoveryState.contains_run_all_iff.mpr (.inr ⟨d, ?_, hdkey⟩)
  exact List.mem_append_left _ (List.mem_append_right _ hd)

/-- A file yields an entity of its own for the factory if that has another name, and neither name is
that of a nested schema. -/
theorem yields_second_iff (h : Declares f type kind) (hkind : kindOfType? type = some kind)
    (haction : kind ≠ .action) (hname : nameOfType type ≠ "") (x : Extractor) :
    (∃ e ∈ x.extract f, ∃ e' ∈ x.extract f, e.key = guessedKey type ∧
        keyOfFactory? ("New" ++ type) kind = some e'.key ∧ e'.key ≠ e.key) ↔
      ∃ key, keyOfFactory? ("New" ++ type) kind = some key ∧ key ≠ guessedKey type ∧
        x.isNestedSchema (guessedKey type).name = false ∧ x.isNestedSchema key.name = false := by
  constructor
  · rintro ⟨e, he, e', he', hguess, hfactory, hne⟩
    refine ⟨e'.key, hfactory, hguess ▸ hne, ?_, ?_⟩
    · exact (Extractor.exists_mem_extract_iff.mp ⟨e, he, hguess⟩).1
    · exact (Extractor.exists_mem_extract_iff.mp ⟨e', he', rfl⟩).1
  · rintro ⟨key, hfactory, hne, hguessed, hother⟩
    obtain ⟨e, he, hguess⟩ := Extractor.exists_mem_extract_iff.mpr
      ⟨hguessed, h.contains_guessedKey hkind haction hname⟩
    obtain ⟨e', he', rfl⟩ := Extractor.exists_mem_extract_iff.mpr
      ⟨hother, h.contains_factoryKey hfactory⟩
    exact ⟨e, he, e', he', hguess, hfactory, hguess ▸ hne⟩

end Declares

/-- The other name of a resource whose name ends in `DataSource` is what is before that word. -/
theorem other_factoryKey_iff (hstem : stem ≠ "") (hkind : kind ≠ .action) {key : EntityKey} :
    keyOfFactory? ("New" ++ (stem ++ typeWord kind)) kind = some key ∧
        key ≠ guessedKey (stem ++ typeWord kind) ↔
      kind = .resource ∧ ∃ rest, rest ≠ "" ∧ stem = rest ++ "DataSource" ∧
        key = ⟨kind, snake rest.toList⟩ := by
  have hagrees := keyOfFactory?_eq_guessedKey_iff hstem hkind
  rcases factoryName_cases stem kind with ⟨hplain, -⟩ | ⟨hresource, heq⟩
  · rw [hagrees.mpr hplain]
    refine iff_of_false (fun h => h.2 (Option.some.inj h.1).symm) ?_
    rintro ⟨hresource, rest, -, rfl, -⟩
    exact hplain ⟨hresource, Text.ends_append ..⟩
  · have hends : kind = .resource ∧ Text.ends stem "DataSource" = true :=
      ⟨hresource, by rw [heq]; exact Text.ends_append ..⟩
    have hother : ∀ key, keyOfFactory? ("New" ++ (stem ++ typeWord kind)) kind = some key →
        key ≠ guessedKey (stem ++ typeWord kind) := by
      rintro key hkey rfl
      exact hagrees.mp hkey hends
    rw [and_iff_left_of_imp (hother key), keyOfFactory?_append stem hkind]
    constructor
    · intro h
      split at h
      · cases h
      · next hne =>
        exact ⟨hresource, _, by simpa using hne, heq, (Option.some.inj h).symm⟩
    · rintro ⟨-, rest, hrest, hstemrest, rfl⟩
      have hname : factoryName stem kind = rest :=
        String.append_left_inj "DataSource" |>.mp (heq.symm.trans hstemrest)
      rw [hname, if_neg (by simpa using hrest)]

/-- A type and its factory name the component alike, unless it is a resource whose name ends in
`DataSource`. Only for such a resource does a file that declares it yield an entity of its own for
the factory, with what is before `DataSource` as its name. -/
theorem factory_name_agrees_iff (hstem : stem ≠ "") (hkind : kind ≠ .action) :
    kindOfType? (stem ++ typeWord kind) = some kind ∧
    (keyOfFactory? ("New" ++ (stem ++ typeWord kind)) kind =
        some ⟨kind, nameOfType (stem ++ typeWord kind)⟩ ↔
      ¬ (kind = .resource ∧ Text.ends stem "DataSource" = true)) ∧
    ∀ (x : Extractor) (f : SourceFile), Declares f (stem ++ typeWord kind) kind →
      ((∃ e ∈ x.extract f, ∃ e' ∈ x.extract f,
          e.key = ⟨kind, nameOfType (stem ++ typeWord kind)⟩ ∧
          keyOfFactory? ("New" ++ (stem ++ typeWord kind)) kind = some e'.key ∧ e'.key ≠ e.key) ↔
        kind = .resource ∧ ∃ rest, rest ≠ "" ∧ stem = rest ++ "DataSource" ∧
          x.isNestedSchema (snake stem.toList) = false ∧
          x.isNestedSchema (snake rest.toList) = false) := by
  have hguess : guessedKey (stem ++ typeWord kind) = ⟨kind, nameOfType (stem ++ typeWord kind)⟩ := by
    rw [guessedKey, kindOfType?_append, Option.getD_some]
  have hname : nameOfType (stem ++ typeWord kind) = snake stem.toList := nameOfType_append stem kind
  rw [← hguess]
  refine ⟨kindOfType?_append stem kind, keyOfFactory?_eq_guessedKey_iff hstem hkind, ?_⟩
  intro x f h
  rw [h.yields_second_iff (kindOfType?_append stem kind) hkind (hname ▸ snake_ne_empty hstem) x]
  constructor
  · rintro ⟨key, hkey, hne, hguessed, hother⟩
    obtain ⟨hresource, rest, hrest, heq, rfl⟩ := (other_factoryKey_iff hstem hkind).mp ⟨hkey, hne⟩
    rw [hguess, hname] at hguessed
    exact ⟨hresource, rest, hrest, heq, hguessed, hother⟩
  · rintro ⟨hresource, rest, hrest, heq, hguessed, hother⟩
    obtain ⟨hkey, hne⟩ := (other_factoryKey_iff hstem hkind).mpr ⟨hresource, rest, hrest, heq, rfl⟩
    refine ⟨_, hkey, hne, ?_, hother⟩
    rw [hguess, hname]
    exact hguessed

/-! ### A second entity -/

/-- A resource for the audit of a data source, with its factory. -/
def auditFile : SourceFile :=
  .ofLines "audit.go"
    ["package provider",
     "",
     "import (",
     "\t\"context\"",
     "",
     "\t\"github.com/hashicorp/terraform-plugin-framework/resource\"",
     ")",
     "",
     "type AuditDataSourceResource struct\x7b\x7d",
     "",
     "func NewAuditDataSourceResource() resource.Resource \x7b",
     "\treturn &AuditDataSourceResource\x7b\x7d",
     "\x7d",
     "",
     "func (r *AuditDataSourceResource) Schema(ctx context.Context, req resource.SchemaRequest,",
     "\tresp *resource.SchemaResponse) \x7b\x7d"] false

theorem auditFile_declares : Declares auditFile "AuditDataSourceResource" .resource := by
  have hfile : ((methodsNamed auditFile "Schema").any (·.2 = "AuditDataSourceResource")) = true ∧
      ((plainFunctions auditFile).any fun g => g.name = "New" ++ "AuditDataSourceResource" ∧
        g.body.bind returnedType? = some "AuditDataSourceResource" ∧
        (g.firstResult?.bind (capability? auditFile)).map (·.kind auditFile) =
          some .resource) = true ∧
      (methodsNamed auditFile "Metadata").isEmpty = true := by
    rw [auditFile, SourceFile.ofLines_eq]
    repeat rw [SourceFile.textOfLines_cons]
    decide +kernel
  obtain ⟨hschema, hfactory, hunnamed⟩ := hfile
  obtain ⟨⟨m, receiver⟩, hm, hreceiver⟩ := List.any_eq_true.mp hschema
  obtain ⟨g, hg, hcreates⟩ := List.any_eq_true.mp hfactory
  cases of_decide_eq_true hreceiver
  exact ⟨⟨m, hm⟩, ⟨g, hg, of_decide_eq_true hcreates⟩, by decide, List.isEmpty_iff.mp hunnamed⟩

theorem audit_factory_yields_second : "AuditDataSource" ≠ "" ∧ EntityKind.resource ≠ .action ∧
    Declares auditFile ("AuditDataSource" ++ typeWord .resource) .resource ∧
    ∃ e ∈ Extractor.extract ⟨.default, []⟩ auditFile,
      ∃ e' ∈ Extractor.extract ⟨.default, []⟩ auditFile,
        e.key = ⟨.resource, "audit_data_source"⟩ ∧ e'.key = ⟨.resource, "audit"⟩ := by
  have hstem : "AuditDataSource" ≠ "" := by decide
  have hkind : EntityKind.resource ≠ .action := nofun
  obtain ⟨-, -, hyields⟩ := factory_name_agrees_iff hstem hkind
  obtain ⟨e, he, e', he', hkey, hkey', -⟩ :=
    (hyields ⟨.default, []⟩ auditFile auditFile_declares).mpr
    ⟨rfl, "Audit", by decide, rfl, rfl, rfl⟩
  refine ⟨hstem, hkind, auditFile_declares, e, he, e', he', hkey.trans (by decide), ?_⟩
  have hfactory : keyOfFactory? ("New" ++ ("AuditDataSource" ++ typeWord .resource)) .resource =
      some ⟨.resource, "audit"⟩ := by decide
  exact Option.some.inj (hkey'.symm.trans hfactory)

end Strategy
end ProviderCoverage
