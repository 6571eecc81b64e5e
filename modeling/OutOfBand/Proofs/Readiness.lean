import OutOfBand.Catalog
import OutOfBand.Proofs.Views

/-!
# Views of catalogs and of registries

Setting up a catalog for a target makes drivers of some registrations and errors of the others
(`instantiate_eq`). A driver offers what its registration offers, so it comes to the same whether a
chain of views is applied to the catalog or to the registry that comes of it
(`instantiate_applyAll`).
-/

namespace OutOfBand

open View

variable {σ : Type}

namespace Registration

/-- The driver that comes of a registration, if one does. -/
def driver? (target : Target) (r : Registration σ) : Option (Driver σ) :=
  (r.instantiate target).toOption

/-- Why no driver comes of a registration, if none does. -/
def failure? (target : Target) (r : Registration σ) : Option RegistryError :=
  match r.instantiate target with
  | .ok _ => none
  | .error e => some e

/-- A driver offers what was registered. -/
theorem offer_of_driver? {r : Registration σ} {target : Target} {d : Driver σ}
    (h : r.driver? target = some d) : d.offer = r.offer := by
  unfold driver? instantiate at h
  split at h
  · cases h
  · split at h
    · cases h
    · cases h
      rfl

end Registration

namespace Catalog

/-- Of each registration there comes either a driver or an error, in the order of the catalog. -/
theorem instantiate_eq (catalog : Catalog σ) (target : Target) :
    catalog.instantiate target =
      (catalog.filterMap (Registration.driver? target),
        catalog.filterMap (Registration.failure? target)) := by
  induction catalog with
  | nil => rfl
  | cons r catalog ih =>
      cases h : r.instantiate target with
      | ok d => simp [instantiate, ih, h, Registration.driver?, Registration.failure?,
          Except.toOption]
      | error e => simp [instantiate, ih, h, Registration.driver?, Registration.failure?,
          Except.toOption]

/-- **Views commute with setting up.** The drivers that come of a chain of views of a catalog are
those that the chain shows of the catalog's registry; the errors are those of the registrations that
the chain shows, which are the ones that all of its views keep. -/
theorem instantiate_applyAll (views : List View) (catalog : Catalog σ) (target : Target) :
    (instantiate (applyAll views catalog) target).1 =
        applyAll views (catalog.instantiate target).1 ∧
      (instantiate (applyAll views catalog) target).2 =
        (applyAll views catalog).filterMap (Registration.failure? target) ∧
      (instantiate (applyAll views catalog) target).2.Perm
        ((catalog.filter (keptBy views)).filterMap (Registration.failure? target)) := by
  have hoffer : ∀ (r : Registration σ) (d : Driver σ), r.driver? target = some d →
      Offering.offer d = Offering.offer r := fun _ _ => Registration.offer_of_driver?
  simp only [instantiate_eq]
  exact ⟨filterMap_applyAll hoffer views catalog, trivial,
    (applyAll_perm_filter views catalog).filterMap _⟩

end Catalog

end OutOfBand
