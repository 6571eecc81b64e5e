import OutOfBand.Registry

/-!
# Chains of views

What a chain of views makes of a registry is told in two parts: which entries it shows, and in what
order. It shows the entries that all of its views keep, each as often as the registry has it, and
the views that only reorder bring these into their order one after another (`chain_of_views`).

A view sees nothing of an entry but its offer. So entries may be left out, or be replaced by others
with the same offer, before or after the view is applied (`filterMap_apply`). Filters are the case
in which entries are left out by a test of any kind.
-/

namespace OutOfBand.View

open Registry

variable {α β : Type} [Offering α] [Offering β]

/-- Whether a view shows all entries, only in another order. -/
def reorders : View → Bool
  | forDriver _ | speaking _ | supports _ => false
  | preferDriver _ | preferProtocol _ => true

/-- Whether all views of a chain keep an entry. -/
def keptBy (views : List View) (a : α) : Bool := views.all fun v => v.keeps a

/-- The place in the order of a view that an entry's offer gives it; the first place is `0`. -/
def rank : View → α → Nat
  | preferDriver name, a => if nameOf a = name then 0 else 1
  | preferProtocol protocols, a => protocols.idxOf (protocolOf a)
  | _, _ => 0

/-- One list is the other one brought into the order of their ranks, in which those of one rank
stay as they were. -/
structure StablySorted (rank : α → Nat) (before after : List α) : Prop where
  perm : after.Perm before
  ordered : after.Pairwise fun a b => rank a ≤ rank b
  stable : ∀ n, after.filter (rank · = n) = before.filter (rank · = n)

/-! ## Views see offers only -/

omit [Offering α] [Offering β] in
/-- A list may be filtered before or after some are left out and the others replaced. -/
theorem filterMap_filter_comm {f : α → Option β} {p : α → Bool} {q : β → Bool}
    (h : ∀ a b, f a = some b → q b = p a) (l : List α) :
    (l.filter p).filterMap f = (l.filterMap f).filter q := by
  induction l with
  | nil => rfl
  | cons a l ih =>
      cases hf : f a with
      | none => by_cases hp : p a <;> simp [hp, hf, ih]
      | some b =>
          have hq : q b = p a := h a b hf
          by_cases hp : p a <;> simp [hp, hf, hq, ih]

/-- **A view sees nothing but offers**: entries may be left out, and others with the same offers
take the place of those that stay, before or after the view is applied. -/
theorem filterMap_apply {f : α → Option β}
    (h : ∀ a b, f a = some b → Offering.offer b = Offering.offer a) (v : View) (l : List α) :
    (v.apply l).filterMap f = v.apply (l.filterMap f) := by
  have hname : ∀ a b, f a = some b → nameOf b = nameOf a := fun a b hf => by
    simp only [nameOf, h a b hf]
  have hprotocol : ∀ a b, f a = some b → protocolOf b = protocolOf a := fun a b hf => by
    simp only [protocolOf, h a b hf]
  have hfeatures : ∀ a b, f a = some b → featuresOf b = featuresOf a := fun a b hf => by
    simp only [featuresOf, h a b hf]
  cases v with
  | forDriver name => exact filterMap_filter_comm (fun a b hf => by rw [hname a b hf]) l
  | speaking protocol => exact filterMap_filter_comm (fun a b hf => by rw [hprotocol a b hf]) l
  | supports features => exact filterMap_filter_comm (fun a b hf => by rw [hfeatures a b hf]) l
  | preferDriver name =>
      simp only [apply, toFront, List.filterMap_append]
      congr 1
      · exact filterMap_filter_comm (fun a b hf => by rw [hname a b hf]) l
      · exact filterMap_filter_comm (fun a b hf => by rw [hname a b hf]) l
  | preferProtocol protocols =>
      -- The entries of the first protocol come to the front, and the others are dealt with in turn.
      simp only [apply]
      induction protocols generalizing l with
      | nil => rfl
      | cons p ps ih =>
          simp only [byProtocol, List.filterMap_append, ih]
          congr 2
          · exact filterMap_filter_comm (fun a b hf => by rw [hprotocol a b hf]) l
          · exact filterMap_filter_comm (fun a b hf => by rw [hprotocol a b hf]) l

theorem filterMap_applyAll {f : α → Option β}
    (h : ∀ a b, f a = some b → Offering.offer b = Offering.offer a) (views : List View)
    (l : List α) : (applyAll views l).filterMap f = applyAll views (l.filterMap f) := by
  induction views generalizing l with
  | nil => rfl
  | cons v views ih =>
      calc (applyAll views (v.apply l)).filterMap f
          = applyAll views ((v.apply l).filterMap f) := ih _
        _ = applyAll views (v.apply (l.filterMap f)) := by rw [filterMap_apply h]

/-- Any test of the entries can be made before or after a view is applied. -/
theorem filter_apply (p : α → Bool) (v : View) (l : List α) :
    (v.apply l).filter p = v.apply (l.filter p) := by
  rw [← List.filterMap_eq_filter]
  refine filterMap_apply (fun a b hf => ?_) v l
  rw [(Option.guard_eq_some_iff.mp hf).1]

/-! ## Filters and orders -/

theorem keeps_of_reorders {v : View} (h : v.reorders) (a : α) : v.keeps a = true := by
  cases v with
  | forDriver _ => cases h
  | speaking _ => cases h
  | supports _ => cases h
  | preferDriver _ => rfl
  | preferProtocol _ => rfl

theorem apply_of_not_reorders {v : View} (h : v.reorders = false) (l : List α) :
    v.apply l = l.filter v.keeps := by
  cases v with
  | forDriver _ => rfl
  | speaking _ => rfl
  | supports _ => rfl
  | preferDriver _ => cases h
  | preferProtocol _ => cases h

namespace StablySorted

omit [Offering α]

theorem refl (l : List α) : StablySorted (fun _ => 0) l l where
  perm := .refl l
  ordered := List.pairwise_of_forall fun _ _ => Nat.le_refl 0
  stable _ := rfl

theorem not_of_mem {p : α → Bool} {rank : α → Nat} {l rest : List α}
    (h : StablySorted rank (l.filter fun a => !p a) rest) : ∀ a ∈ rest, ¬p a = true := by
  intro a ha
  simpa using (List.mem_filter.mp (h.perm.mem_iff.mp ha)).2

/-- To bring the entries that pass a test to the front of a list whose other entries are sorted
gives them the first place and all others the next one. -/
theorem toFront {p : α → Bool} {rank : α → Nat} {l rest : List α}
    (h : StablySorted rank (l.filter fun a => !p a) rest) :
    StablySorted (fun a => if p a then 0 else rank a + 1) l (l.filter p ++ rest) where
  perm := (h.perm.append_left _).trans (List.filter_append_perm p l)
  ordered := by
    have hrest := h.not_of_mem
    refine List.pairwise_append.mpr ⟨?_, ?_, ?_⟩
    · refine List.pairwise_of_forall_mem_list fun a ha b hb => ?_
      rw [if_pos (List.mem_filter.mp ha).2]
      exact Nat.zero_le _
    · refine h.ordered.imp_of_mem fun ha hb hle => ?_
      rw [if_neg (hrest _ ha), if_neg (hrest _ hb)]
      exact Nat.succ_le_succ hle
    · intro a ha b _
      rw [if_pos (List.mem_filter.mp ha).2]
      exact Nat.zero_le _
  stable n := by
    have hrest := h.not_of_mem
    rw [List.filter_append]
    cases n with
    | zero =>
        have hnone : rest.filter (fun a => (if p a then 0 else rank a + 1) = 0) = [] :=
          List.filter_eq_nil_iff.mpr fun a ha => by simp [hrest a ha]
        rw [hnone, List.append_nil, List.filter_filter]
        exact List.filter_congr fun a _ => by by_cases hp : p a <;> simp [hp]
    | succ n =>
        have hnone : (l.filter p).filter (fun a => (if p a then 0 else rank a + 1) = n + 1) = [] :=
          List.filter_eq_nil_iff.mpr fun a ha => by simp [(List.mem_filter.mp ha).2]
        calc (l.filter p).filter (fun a => (if p a then 0 else rank a + 1) = n + 1) ++
              rest.filter (fun a => (if p a then 0 else rank a + 1) = n + 1)
            = rest.filter (fun a => rank a = n) := by
              rw [hnone, List.nil_append]
              exact List.filter_congr fun a ha => by simp [hrest a ha]
          _ = (l.filter fun a => !p a).filter (fun a => rank a = n) := h.stable n
          _ = l.filter (fun a => (if p a then 0 else rank a + 1) = n + 1) := by
              rw [List.filter_filter]
              exact List.filter_congr fun a _ => by by_cases hp : p a <;> simp [hp]

end StablySorted

/-- **A view that only reorders sorts stably** by the places that it gives to the offers. -/
theorem stablySorted_apply {v : View} (h : v.reorders) (l : List α) :
    StablySorted v.rank l (v.apply l) := by
  cases v with
  | forDriver _ => cases h
  | speaking _ => cases h
  | supports _ => cases h
  | preferDriver name =>
      have hrank : (preferDriver name).rank =
          fun a : α => if nameOf a == name then 0 else 0 + 1 := by
        funext a
        simp [rank]
      rw [hrank]
      exact (StablySorted.refl _).toFront
  | preferProtocol protocols =>
      change StablySorted (fun a => protocols.idxOf (protocolOf a)) l (byProtocol protocols l)
      induction protocols generalizing l with
      | nil => exact .refl l
      | cons q qs ih =>
          have hrank : (fun a : α => (q :: qs).idxOf (protocolOf a)) =
              fun a => if protocolOf a == q then 0 else qs.idxOf (protocolOf a) + 1 := by
            funext a
            by_cases hq : protocolOf a = q
            · simp [hq]
            · simp [hq, List.idxOf_cons, beq_false_of_ne (Ne.symm hq)]
          rw [hrank]
          exact (ih _ rfl).toFront

/-- A chain of views keeps what all its views keep, and the rest is a matter of order. -/
theorem applyAll_eq (views : List View) (l : List α) :
    applyAll views l = applyAll (views.filter reorders) (l.filter (keptBy views)) := by
  induction views generalizing l with
  | nil => exact (List.filter_eq_self.mpr fun _ _ => rfl).symm
  | cons v views ih =>
      have hkept : keptBy (v :: views) = fun a : α => keptBy views a && v.keeps a := by
        funext a
        simp [keptBy, Bool.and_comm]
      have hcons : applyAll (v :: views) l =
          applyAll (views.filter reorders) ((v.apply l).filter (keptBy views)) := ih _
      rw [hcons, hkept, ← List.filter_filter]
      cases h : v.reorders with
      | false =>
          rw [List.filter_cons_of_neg (by simp [h]), apply_of_not_reorders h]
      | true =>
          -- It keeps everything; the tests of the later views are made before it instead.
          have hall : l.filter v.keeps = l :=
            List.filter_eq_self.mpr fun a _ => keeps_of_reorders h a
          rw [List.filter_cons_of_pos h, hall, filter_apply]
          rfl

theorem applyAll_perm {views : List View} (h : ∀ v ∈ views, v.reorders) (l : List α) :
    (applyAll views l).Perm l := by
  induction views generalizing l with
  | nil => exact .refl l
  | cons v views ih =>
      have hv := (stablySorted_apply (h v List.mem_cons_self) l).perm
      exact (ih (fun w hw => h w (List.mem_cons_of_mem v hw)) _).trans hv

/-- **No entry is invented, lost or doubled**: a chain shows what all of its views keep, each entry
as often as the registry has it. -/
theorem applyAll_perm_filter (views : List View) (l : List α) :
    (applyAll views l).Perm (l.filter (keptBy views)) := by
  rw [applyAll_eq]
  exact applyAll_perm (fun v hv => (List.mem_filter.mp hv).2) _

/-- **The algebra of views.** A chain of views filters by the conditions of all of them and then
applies those that reorder, in their order; what it shows are the entries that meet all the
conditions, none of them lost or doubled. A filter may trade places with any other view, and what
only reorders is a stable sort. -/
theorem chain_of_views (views : List View) (registry : List α) :
    applyAll views registry =
        applyAll (views.filter reorders) (registry.filter (keptBy views)) ∧
      (applyAll views registry).Perm (registry.filter (keptBy views)) ∧
      (∀ v w : View, v.reorders = false →
        v.apply (w.apply registry) = w.apply (v.apply registry)) ∧
      ∀ v : View, v.reorders = true → StablySorted v.rank registry (v.apply registry) := by
  refine ⟨applyAll_eq views registry, applyAll_perm_filter views registry, fun v w h => ?_,
    fun v h => stablySorted_apply h registry⟩
  rw [apply_of_not_reorders h, apply_of_not_reorders h, filter_apply]

/-- Three entries, two of which have one name. -/
def twins : List Offer :=
  [⟨"a", "redfish", .full⟩, ⟨"b", "ipmi", .full⟩, ⟨"a", "ipmi", .ofList [.powerState]⟩]

theorem chain_of_views_of_twins :
    (applyAll [preferProtocol ["ipmi"], forDriver "a"] twins).map protocolOf = ["ipmi", "redfish"] ∧
      (applyAll [preferProtocol ["ipmi"], forDriver "a"] twins).Perm
        (twins.filter (keptBy [preferProtocol ["ipmi"], forDriver "a"])) ∧
      (forDriver "a").apply ((preferProtocol ["ipmi"]).apply twins) =
        (preferProtocol ["ipmi"]).apply ((forDriver "a").apply twins) ∧
      StablySorted (preferProtocol ["ipmi"]).rank twins ((preferProtocol ["ipmi"]).apply twins) :=
  have h := chain_of_views [preferProtocol ["ipmi"], forDriver "a"] twins
  ⟨by rw [h.1]; decide, h.2.1, h.2.2.1 _ _ rfl, h.2.2.2 _ rfl⟩

end OutOfBand.View
