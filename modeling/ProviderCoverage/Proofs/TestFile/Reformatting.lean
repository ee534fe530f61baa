import ProviderCoverage.Proofs.Go.Layout
import ProviderCoverage.Proofs.Go.Lines
import ProviderCoverage.Proofs.TestFile.StepLists

/-! Configurations laid out in another way. Which white space there is makes no difference, but
whether there is any does: two configurations with the same tokens and comments have the same normal
text exactly if they have white space in the same places, and then the later of two steps with them
does not change the configuration (`reformatted_iff`). A space left out is a change
(`spaced_argument_changes`). -/

namespace ProviderCoverage

open Go Node

namespace Go.Node

variable {m n : Node}

/-- The tokens and comments of an expression, as they are written. -/
def spellings (n : Node) : List (List Char) :=
  Go.spellings n.text.toList

/-- For each token and comment of an expression, whether white space stands between it and another
one. -/
def gaps (n : Node) : List Bool :=
  Go.gaps n.text.toList

theorem normalizedText_eq_iff (h : m.spellings = n.spellings) :
    m.normalizedText = n.normalizedText ↔ m.gaps = n.gaps := by
  rw [normalizedText, normalizedText, String.ofList_inj]
  exact normalizeSpace_eq_iff h

end Go.Node

namespace TestStep

variable {helpers : HelperBlocks} {s : TestStep} {field : KeyedElement} {fields : List KeyedElement}
  {element list config m n : Node} {index i : Nat}

/-! ### The fingerprint of a step -/

theorem fingerprint_withField : (s.withField helpers field).fingerprint =
    if field.key.text = "Config" then Digest.fingerprint field.value.normalizedText
    else s.fingerprint := by
  rw [withField]
  split <;> simp_all

theorem fingerprint_foldl_blank : (fields.foldl (withField helpers) (blank index)).fingerprint =
    (lastValue? fields "Config").elim "" fun config => Digest.fingerprint config.normalizedText := by
  induction fields using List.reverseRec with
  | nil => rfl
  | append_singleton fields field ih =>
    rw [List.foldl_concat, fingerprint_withField, ih, lastValue?_concat]
    split <;> rfl

/-- The step at this place of a list has this configuration. -/
def ConfiguredAt (list : Node) (i : Nat) (config : Node) : Prop :=
  ∃ element, list.positionalElements[i]? = some element ∧
    lastValue? (TestScope.fieldsOf element) "Config" = some config

theorem ConfiguredAt.fingerprint_eq (h : ConfiguredAt list i config) (helpers : HelperBlocks) :
    ∃ s, (ofList helpers list)[i]? = some s ∧
      s.fingerprint = Digest.fingerprint config.normalizedText := by
  obtain ⟨element, helement, hconfig⟩ := h
  obtain ⟨s, hs, hfingerprint⟩ :=
    exists_getElem?_ofList (g := (·.fingerprint)) (fun _ _ => rfl) helement
  refine ⟨s, hs, ?_⟩
  rw [hfingerprint, ofElement_eq_foldl, fingerprint_foldl_blank, hconfig]
  rfl

theorem previousFingerprint_succ {s' : TestStep} (hs : (ofList helpers list)[i]? = some s)
    (hs' : (ofList helpers list)[i + 1]? = some s') : s'.previousFingerprint = s.fingerprint := by
  obtain ⟨hi, rfl⟩ := List.getElem?_eq_some_iff.mp hs
  obtain ⟨hi', rfl⟩ := List.getElem?_eq_some_iff.mp hs'
  exact List.isChain_iff_getElem.mp isList_ofList.next i hi'

/-- A step changes nothing if its configuration has the same fingerprint as the one before. -/
theorem changesConfig_eq_false (hm : ConfiguredAt list i m) (hn : ConfiguredAt list (i + 1) n)
    (h : Digest.fingerprint m.normalizedText = Digest.fingerprint n.normalizedText) :
    ∃ s, (ofList helpers list)[i + 1]? = some s ∧ s.changesConfig = false := by
  obtain ⟨s, hs, hfingerprint⟩ := hm.fingerprint_eq helpers
  obtain ⟨s', hs', hfingerprint'⟩ := hn.fingerprint_eq helpers
  have hsame : s'.previousFingerprint = s'.fingerprint := by
    rw [previousFingerprint_succ hs hs', hfingerprint, hfingerprint', h]
  exact ⟨s', hs', by rw [changesConfig, hsame, bne_self_eq_false, Bool.and_false]⟩

/-- Configurations of the same tokens and comments have the same normal text exactly if they have
white space in the same places. Then their fingerprints are the same, and of two steps with them,
one after the other, the later one does not change the configuration. -/
theorem reformatted_iff (h : m.spellings = n.spellings) :
    (m.normalizedText = n.normalizedText ↔ m.gaps = n.gaps) ∧
    (m.gaps = n.gaps →
      Digest.fingerprint m.normalizedText = Digest.fingerprint n.normalizedText ∧
      ∀ helpers list i, ConfiguredAt list i m → ConfiguredAt list (i + 1) n →
        ∃ s, (ofList helpers list)[i + 1]? = some s ∧ s.changesConfig = false) := by
  refine ⟨normalizedText_eq_iff h, fun hgaps => ?_⟩
  have hfingerprint : Digest.fingerprint m.normalizedText = Digest.fingerprint n.normalizedText :=
    congrArg _ ((normalizedText_eq_iff h).mpr hgaps)
  exact ⟨hfingerprint, fun helpers list i hm hn => changesConfig_eq_false hm hn hfingerprint⟩

/-! ### Layouts of one call -/

/-- The configuration of the step at a place of a list. -/
def configAt? (list : Node) (i : Nat) : Option Node :=
  list.positionalElements[i]?.bind fun element =>
    lastValue? (TestScope.fieldsOf element) "Config"

theorem configuredAt_iff : ConfiguredAt list i config ↔ configAt? list i = some config :=
  Option.bind_eq_some_iff.symm

/-- The second step has a line break where the first has spaces. -/
def brokenFile : SourceFile :=
  .ofLines "widget_test.go"
    ["package provider",
     "",
     "import \"github.com/hashicorp/terraform-plugin-testing/helper/resource\"",
     "",
     "func TestAccWidget_basic(t *testing.T) \x7b",
     "\tresource.Test(t, resource.TestCase\x7b",
     "\t\tSteps: []resource.TestStep\x7b",
     "\t\t\t\x7bConfig: config(\"a\",   \"b\")\x7d,",
     "\t\t\t\x7bConfig: config(\"a\",",
     "\t\t\t\t\"b\")\x7d,",
     "\t\t\x7d,",
     "\t\x7d)",
     "\x7d"] true

theorem broken_line_unchanged : ∃ list ∈ brokenFile.tree.preorder, ∃ m n,
    ConfiguredAt list 0 m ∧ ConfiguredAt list 1 n ∧ m.text ≠ n.text ∧ m.spellings = n.spellings ∧
    m.normalizedText = n.normalizedText ∧
    ∃ s, (ofList [] list)[1]? = some s ∧ s.changesConfig = false := by
  have hfile : brokenFile.tree.preorder.any (fun list => (configAt? list 0).any fun m =>
      (configAt? list 1).any fun n =>
        m.text ≠ n.text ∧ m.spellings = n.spellings ∧ m.gaps = n.gaps) = true := by
    rw [brokenFile, SourceFile.ofLines_eq]
    repeat rw [SourceFile.textOfLines_cons]
    decide +kernel
  simp only [List.any_eq_true, Option.any_eq_true, decide_eq_true_eq] at hfile
  obtain ⟨list, hlist, m, hm, n, hn, htexts, hspellings, hgaps⟩ := hfile
  have hm : ConfiguredAt list 0 m := configuredAt_iff.mpr hm
  have hn : ConfiguredAt list 1 n := configuredAt_iff.mpr hn
  obtain ⟨hnormal, hsame⟩ := reformatted_iff hspellings
  obtain ⟨-, hsteps⟩ := hsame hgaps
  exact ⟨list, hlist, m, n, hm, hn, htexts, hspellings, hnormal.mpr hgaps, hsteps [] list 0 hm hn⟩

/-- The second step is without the space that the first has. -/
def spacedFile : SourceFile :=
  .ofLines "widget_test.go"
    ["package provider",
     "",
     "import (",
     "\t\"github.com/hashicorp/terraform-plugin-testing/helper/resource\"",
     ")",
     "",
     "func TestAccWidget_basic(t *testing.T) \x7b",
     "\tresource.Test(t, resource.TestCase\x7b",
     "\t\tSteps: []resource.TestStep\x7b",
     "\t\t\t\x7bConfig: config(\"a\", \"b\")\x7d,",
     "\t\t\t\x7bConfig: config(\"a\",\"b\")\x7d,",
     "\t\t\x7d,",
     "\t\x7d)",
     "\x7d"] true

theorem spaced_argument_changes : ∃ list ∈ spacedFile.tree.preorder, ∃ m n,
    ConfiguredAt list 0 m ∧ ConfiguredAt list 1 n ∧ m.spellings = n.spellings ∧
    m.normalizedText ≠ n.normalizedText ∧
    Digest.fingerprint m.normalizedText ≠ Digest.fingerprint n.normalizedText ∧
    ∃ s, (ofList [] list)[1]? = some s ∧ s.changesConfig = true := by
  have hfile : spacedFile.tree.preorder.any (fun list => (configAt? list 0).any fun m =>
      (configAt? list 1).any fun n =>
        m.spellings = n.spellings ∧ m.normalizedText ≠ n.normalizedText ∧
        (ofList [] list)[1]?.any (·.changesConfig)) = true := by
    rw [spacedFile, SourceFile.ofLines_eq]
    repeat rw [SourceFile.textOfLines_cons]
    decide +kernel
  simp only [List.any_eq_true, Option.any_eq_true, decide_eq_true_eq] at hfile
  obtain ⟨list, hlist, m, hm, n, hn, hspellings, hnormal, s, hs, hchanges⟩ := hfile
  have hm : ConfiguredAt list 0 m := configuredAt_iff.mpr hm
  have hn : ConfiguredAt list 1 n := configuredAt_iff.mpr hn
  refine ⟨list, hlist, m, n, hm, hn, hspellings, hnormal, fun hsame => ?_, s, hs, hchanges⟩
  -- With one fingerprint for both the second step would change nothing.
  obtain ⟨s', hs', hunchanged⟩ := changesConfig_eq_false hm hn hsame
  cases hs.symm.trans hs'
  rw [hchanges] at hunchanged
  cases hunchanged

end TestStep
end ProviderCoverage
