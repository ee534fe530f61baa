import Mathlib.Data.List.Nodup
import ProviderCoverage.Proofs.Registry.Changes

/-! The order of the entities. Keys are in a strict order, and a registry holds its entities in that
order whatever operations have led to it (`keySorted_run`), so that no key is registered twice. -/

namespace ProviderCoverage

theorem EntityKind.eq_of_rank_eq {a b : EntityKind} (h : a.rank = b.rank) : a = b := by
  cases a <;> cases b <;> first | rfl | cases h

namespace EntityKey

variable {a b c : EntityKey}

theorem before_iff : a.before b = true ↔
    a.kind.rank < b.kind.rank ∨ a.kind = b.kind ∧ a.name < b.name := by
  simp [before]

theorem not_before_self (a : EntityKey) : a.before a = false := by
  rw [Bool.eq_false_iff, ne_eq, before_iff]
  rintro (hrank | ⟨-, hname⟩)
  · exact Nat.lt_irrefl _ hrank
  · exact String.lt_irrefl _ hname

theorem before_trans (hab : a.before b = true) (hbc : b.before c = true) : a.before c = true := by
  rw [before_iff] at hab hbc ⊢
  rcases hab with hab | ⟨hkind, hab⟩
  · rcases hbc with hbc | ⟨hkind, -⟩
    · exact .inl (Nat.lt_trans hab hbc)
    · exact .inl (hkind ▸ hab)
  · rcases hbc with hbc | ⟨hkind', hbc⟩
    · exact .inl (hkind ▸ hbc)
    · exact .inr ⟨hkind.trans hkind', String.lt_trans hab hbc⟩

theorem ne_of_before (h : a.before b = true) : a ≠ b := by
  rintro rfl
  rw [not_before_self] at h
  cases h

/-- One of two different keys comes before the other. -/
theorem before_of_not_before (h : ¬ a.before b = true) (hne : a ≠ b) : b.before a = true := by
  rw [before_iff, not_or, not_and] at h
  rw [before_iff]
  rcases Nat.lt_trichotomy b.kind.rank a.kind.rank with hlt | heq | hlt
  · exact .inl hlt
  · have hkind : b.kind = a.kind := EntityKind.eq_of_rank_eq heq
    have hname : b.name ≠ a.name := by
      intro hname
      cases a
      cases b
      exact hne (by rw [EntityKey.mk.injEq]; exact ⟨hkind.symm, hname.symm⟩)
    exact .inr ⟨hkind, Std.lt_of_le_of_ne (String.not_lt.mp (h.2 hkind.symm)) hname⟩
  · exact absurd hlt h.1

end EntityKey

/-- Each entity before those of later keys. -/
def KeySorted (entities : List Entity) : Prop :=
  entities.Pairwise fun a b => a.key.before b.key = true

theorem KeySorted.insertSorted {e : Entity} {es : List Entity} (hes : KeySorted es)
    (hnew : ∀ x ∈ es, x.key ≠ e.key) : KeySorted (e.insertSorted es) := by
  induction es with
  | nil => exact List.pairwise_singleton _ _
  | cons x xs ih =>
    obtain ⟨hx, hxs⟩ := List.pairwise_cons.mp hes
    rw [Entity.insertSorted]
    split
    · next hbefore =>
      refine List.pairwise_cons.mpr ⟨fun y hy => ?_, hes⟩
      rcases List.mem_cons.mp hy with rfl | hy
      · exact hbefore
      · exact EntityKey.before_trans hbefore (hx y hy)
    · next hnot =>
      have hafter : x.key.before e.key = true :=
        EntityKey.before_of_not_before hnot (hnew x (List.mem_cons_self ..)).symm
      refine List.pairwise_cons.mpr
        ⟨fun y hy => ?_, ih hxs fun y hy => hnew y (List.mem_cons_of_mem _ hy)⟩
      rcases Entity.mem_insertSorted.mp hy with rfl | hy
      · exact hafter
      · exact hx y hy

theorem KeySorted.eq_of_key_eq {a b : Entity} {es : List Entity} (hes : KeySorted es)
    (ha : a ∈ es) (hb : b ∈ es) (hkey : a.key = b.key) : a = b := by
  have hnodup : (es.map (·.key)).Nodup :=
    List.pairwise_map.mpr (hes.imp fun hab => EntityKey.ne_of_before hab)
  exact List.inj_on_of_nodup_map hnodup ha hb hkey

namespace Registry

variable {r : Registry}

theorem keySorted_of_effect {r' : Registry} {op : Operation} (h : KeySorted r.entities)
    (heffect : r.Effect op r') : KeySorted r'.entities := by
  cases heffect with
  | known | refused | test | link | sweeperFile => exact h
  | entity e hnew => exact h.insertSorted fun x hx hkey => hnew (hkey ▸ List.mem_map_of_mem hx)

theorem keySorted_run (ops : List Operation) : KeySorted (empty.run ops).entities := by
  have hrun : ∀ r : Registry, KeySorted r.entities → KeySorted (r.run ops).entities := by
    induction ops with
    | nil => exact fun _ h => h
    | cons op ops ih => exact fun r h => ih _ (keySorted_of_effect h (r.effect_apply op))
  exact hrun empty .nil

end Registry
end ProviderCoverage
