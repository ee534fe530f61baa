import ProviderCoverage.Naming
import ProviderCoverage.Proofs.Text.Parts
import ProviderCoverage.Proofs.Unicode.Underscore

/-! Titles have no underscores: they are made of the parts between underscores, and no character but
the underscore has one in its upper-case image. -/

namespace ProviderCoverage.Naming

theorem underscore_notMem_titleCase (s : List Char) : '_' ∉ titleCase s := by
  intro hmem
  obtain ⟨part, hpart, hmem⟩ := List.mem_flatMap.mp hmem
  have hfree := Text.notMem_of_mem_splitOn hpart
  cases part with
  | nil => cases hmem
  | cons c rest =>
    simp only [List.mem_cons, not_or] at hfree
    rcases List.mem_append.mp hmem with hmem | hmem
    · exact Unicode.underscore_notMem_uppercase (Ne.symm hfree.1) hmem
    · exact hfree.2 hmem

end ProviderCoverage.Naming
