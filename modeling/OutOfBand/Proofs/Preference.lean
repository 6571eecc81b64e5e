import Mathlib.Data.List.Basic
import OutOfBand.Proofs.Views
import OutOfBand.Registry.Marking

/-!
# Preferred protocols

The view that prefers some protocols shows one group of entries for each of them, in the order in
which the protocols are first named, and then the entries for other protocols
(`byProtocol_eq_groups`). So a protocol that is named again makes no difference, nor does it to
apply the view again. To go through the registry protocol by protocol and mark what has been taken
comes to the same (`byMarks_eq_byProtocol`): the marks of a place tell whether the protocol of its
entry has had its turn.
-/

namespace OutOfBand

variable {α : Type} [Offering α]

namespace Registry

/-! ## Groups -/

/-- The entries for a protocol, in their order. -/
def group (registry : List α) (protocol : String) : List α :=
  registry.filter fun a => protocolOf a == protocol

/-- The entries for none of the protocols, in their order. -/
def others (protocols : List String) (registry : List α) : List α :=
  registry.filter fun a => !protocols.contains (protocolOf a)

/-- The groups of the protocols in the order in which they are first named, and the others. -/
def groups (protocols : List String) (registry : List α) : List α :=
  protocols.eraseDups.flatMap (group registry) ++ others protocols registry

/-- A protocol without entries may be left out. -/
theorem byProtocol_filter_ne {p : String} {registry : List α}
    (h : ∀ a ∈ registry, protocolOf a ≠ p) (ps : List String) :
    byProtocol (ps.filter (! · == p)) registry = byProtocol ps registry := by
  induction ps generalizing registry with
  | nil => rfl
  | cons q ps ih =>
      have hrest : ∀ a ∈ registry.filter (fun a => !protocolOf a == q), protocolOf a ≠ p :=
        fun a ha => h a (List.mem_filter.mp ha).1
      by_cases hq : q = p
      · subst hq
        have hnone : registry.filter (fun a => protocolOf a == q) = [] :=
          List.filter_eq_nil_iff.mpr fun a ha => by simpa using h a ha
        have hall : registry.filter (fun a => !protocolOf a == q) = registry :=
          List.filter_eq_self.mpr fun a ha => by simpa using h a ha
        simp [byProtocol, hnone, hall, ih h]
      · simp [byProtocol, hq, ih hrest]

/-- **The order of protocols by groups.** -/
theorem byProtocol_eq_groups (ps : List String) (registry : List α) :
    byProtocol ps registry = groups ps registry := by
  -- Once the first protocol has had its turn it may be left out of the others, which are then
  -- fewer.
  induction hn : ps.length using Nat.strongRecOn generalizing ps registry with
  | ind n ih =>
      cases ps with
      | nil => exact (List.filter_eq_self.mpr fun _ _ => rfl).symm
      | cons p ps =>
          have hne : ∀ a ∈ registry.filter (fun a => !protocolOf a == p), protocolOf a ≠ p := by
            intro a ha
            simpa using (List.mem_filter.mp ha).2
          have hlength : (ps.filter (! · == p)).length < n :=
            hn ▸ Nat.lt_succ_of_le (List.length_filter_le _ ps)
          have hgroups : ∀ q ∈ (ps.filter (! · == p)).eraseDups,
              group (registry.filter fun a => !protocolOf a == p) q = group registry q := by
            intro q hq
            have hqp : q ≠ p := by
              simpa using (List.mem_filter.mp (List.mem_eraseDups.mp hq)).2
            rw [group, List.filter_filter]
            exact List.filter_congr fun a _ => by by_cases h : protocolOf a = q <;> simp [h, hqp]
          have hothers : others (ps.filter (! · == p))
              (registry.filter fun a => !protocolOf a == p) = others (p :: ps) registry := by
            rw [others, others, List.filter_filter]
            exact List.filter_congr fun a _ => by by_cases h : protocolOf a = p <;> simp [h]
          calc byProtocol (p :: ps) registry
              = group registry p ++ byProtocol (ps.filter (! · == p))
                  (registry.filter fun a => !protocolOf a == p) := by
                rw [byProtocol_filter_ne hne]
                rfl
            _ = group registry p ++ groups (ps.filter (! · == p))
                  (registry.filter fun a => !protocolOf a == p) := by rw [ih _ hlength _ _ rfl]
            _ = groups (p :: ps) registry := by
                rw [groups, groups, hothers, List.eraseDups_cons, List.flatMap_cons,
                  List.flatMap_congr hgroups, List.append_assoc]

/-- A protocol that is named again makes no difference. -/
theorem groups_append_cons {ps : List String} {p : String} (hp : p ∈ ps) (qs : List String)
    (registry : List α) : groups (ps ++ p :: qs) registry = groups (ps ++ qs) registry := by
  have hnames : (ps ++ p :: qs).eraseDups = (ps ++ qs).eraseDups := by
    rw [List.eraseDups_append, List.eraseDups_append, List.cons_removeAll]
    simp [hp]
  have hothers : others (ps ++ p :: qs) registry = others (ps ++ qs) registry :=
    List.filter_congr fun a _ => by by_cases h : protocolOf a = p <;> simp [h, hp]
  rw [groups, groups, hnames, hothers]

/-! ## Marks -/

namespace Marking

omit [Offering α] in
@[simp] theorem isFree_append_cons (before after : List Bool) (b : Bool) (ordered : List α) :
    isFree ⟨before ++ b :: after, ordered⟩ before.length = !b := by
  simp [isFree]

omit [Offering α] in
@[simp] theorem take_append_cons (before after : List Bool) (b : Bool) (ordered : List α) (a : α) :
    take ⟨before ++ b :: after, ordered⟩ a before.length =
      ⟨before ++ true :: after, ordered ++ [a]⟩ := by
  simp [take]

/-- A turn over the last part of a registry takes the entries for its protocol, if the marks tell
the protocols that have had their turn. -/
theorem foldl_visit (p : String) (had : String → Bool) (before : List Bool)
    (registry ordered : List α) :
    (registry.zipIdx before.length).foldl (visit p)
        ⟨before ++ registry.map fun a => had (protocolOf a), ordered⟩ =
      ⟨before ++ registry.map fun a => had (protocolOf a) || protocolOf a == p,
        ordered ++ registry.filter fun a => !had (protocolOf a) && protocolOf a == p⟩ := by
  induction registry generalizing before ordered with
  | nil => simp
  | cons a registry ih =>
      have hnext := fun b => ih (before ++ [b])
      simp only [List.length_append, List.length_singleton, List.append_assoc,
        List.singleton_append] at hnext
      simp only [List.zipIdx_cons, List.foldl_cons, List.map_cons, visit, isFree_append_cons,
        take_append_cons, List.filter_cons]
      cases htake : !had (protocolOf a) && protocolOf a == p with
      | true =>
          have hmark : (had (protocolOf a) || protocolOf a == p) = true := by simp_all
          simp only [if_true, hnext, hmark, List.append_assoc, List.singleton_append]
      | false =>
          have hmark : (had (protocolOf a) || protocolOf a == p) = had (protocolOf a) := by
            cases hhad : had (protocolOf a) <;> simp_all
          simp only [Bool.false_eq_true, if_false, hnext, hmark]

/-- **A turn for one more protocol** takes its entries, unless it has had a turn before. -/
theorem turn_eq (had : List String) (p : String) (registry ordered : List α) :
    turn registry ⟨registry.map fun a => had.contains (protocolOf a), ordered⟩ p =
      ⟨registry.map fun a => (had ++ [p]).contains (protocolOf a),
        ordered ++ registry.filter fun a => !had.contains (protocolOf a) && protocolOf a == p⟩ := by
  have h := foldl_visit p had.contains [] registry ordered
  have hmarks : ∀ a : α, (had ++ [p]).contains (protocolOf a) =
      (had.contains (protocolOf a) || protocolOf a == p) := fun a => by
    rw [List.contains_append, List.contains_cons, List.contains_nil, Bool.or_false]
  simpa only [turn, hmarks, List.nil_append, List.length_nil] using h

/-- What is left has none of the protocols that have had their turn. -/
theorem rest_eq (had : String → Bool) (registry ordered : List α) :
    rest ⟨registry.map fun a => had (protocolOf a), ordered⟩ registry =
      registry.filter fun a => !had (protocolOf a) := by
  suffices h : ∀ before : List Bool, ((registry.zipIdx before.length).filter fun entry =>
      isFree ⟨before ++ registry.map fun a => had (protocolOf a), ordered⟩ entry.2).map Prod.fst =
        registry.filter fun a => !had (protocolOf a) from h []
  induction registry with
  | nil => exact fun _ => rfl
  | cons a registry ih =>
      intro before
      have hnext := ih (before ++ [had (protocolOf a)])
      simp only [List.length_append, List.length_singleton, List.append_assoc,
        List.singleton_append] at hnext
      rw [List.zipIdx_cons, List.map_cons, List.filter_cons, List.filter_cons]
      simp only [isFree_append_cons]
      split
      · rw [List.map_cons, hnext]
      · exact hnext

/-- Once some protocols have had their turn, the others bring what is left into their order. -/
theorem foldl_turn (ps had : List String) (registry ordered : List α) :
    let m := ps.foldl (turn registry)
      ⟨registry.map fun a => had.contains (protocolOf a), ordered⟩
    m.ordered ++ m.rest registry = ordered ++ byProtocol ps (others had registry) := by
  induction ps generalizing had ordered with
  | nil => exact congrArg (ordered ++ ·) (rest_eq had.contains registry ordered)
  | cons p ps ih =>
      have htaken : (registry.filter fun a => !had.contains (protocolOf a) && protocolOf a == p) =
          (others had registry).filter fun a => protocolOf a == p := by
        rw [others, List.filter_filter]
        exact List.filter_congr fun a _ => Bool.and_comm ..
      have hleft : others (had ++ [p]) registry =
          (others had registry).filter fun a => !protocolOf a == p := by
        rw [others, others, List.filter_filter]
        exact List.filter_congr fun a _ => by by_cases h : protocolOf a = p <;> simp [h]
      simp only [List.foldl_cons, turn_eq, ih, htaken, hleft, List.append_assoc]
      rfl

end Marking

/-- **To mark what is taken** gives the order of the protocols. -/
theorem byMarks_eq_byProtocol (ps : List String) (registry : List α) :
    byMarks ps registry = byProtocol ps registry := by
  have hblank : List.replicate registry.length false =
      registry.map fun a => ([] : List String).contains (protocolOf a) := by simp
  have hall : others [] registry = registry := List.filter_eq_self.mpr fun _ _ => rfl
  have h := Marking.foldl_turn ps [] registry []
  rw [hall] at h
  rw [byMarks, Marking.blank, hblank]
  exact h

/-! ## The view -/

/-- The view leaves the entries for each protocol in their order. -/
theorem groups_apply (ps : List String) (registry : List α) :
    groups ps ((View.preferProtocol ps).apply registry) = groups ps registry := by
  have hstable := (View.stablySorted_apply (v := .preferProtocol ps) rfl registry).stable
  have hgroup : ∀ p ∈ ps.eraseDups, group ((View.preferProtocol ps).apply registry) p =
      group registry p := by
    intro p hp
    have hrank : ∀ a : α, decide ((View.preferProtocol ps).rank a = ps.idxOf p) =
        (protocolOf a == p) := fun a => by
      have hidx := List.idxOf_inj (y := protocolOf a) (List.mem_eraseDups.mp hp)
      rw [View.rank, beq_eq_decide, decide_eq_decide, eq_comm, hidx, eq_comm]
    simpa only [group, hrank] using hstable (ps.idxOf p)
  have hothers : others ps ((View.preferProtocol ps).apply registry) = others ps registry := by
    have hrank : ∀ a : α, decide ((View.preferProtocol ps).rank a = ps.length) =
        !ps.contains (protocolOf a) := fun a => by
      simp [View.rank, List.idxOf_eq_length_iff]
    simpa only [others, hrank] using hstable ps.length
  rw [groups, groups, hothers, List.flatMap_congr hgroup]

end Registry

namespace View

open Registry

/-- **Preferred protocols come first**, in groups: one for each protocol, in the order in which they
are first named, and all other entries after them, each group in the order of the registry. No entry
is lost or doubled, a protocol that is named again makes no difference, nor does it to apply the
view again, and to mark entries as they are taken comes to the same. -/
theorem preferProtocol_groups (ps : List String) (registry : List α) :
    (preferProtocol ps).apply registry =
        (ps.eraseDups.flatMap fun p => registry.filter fun a => protocolOf a == p) ++
          registry.filter (fun a => !ps.contains (protocolOf a)) ∧
      byMarks ps registry = (preferProtocol ps).apply registry ∧
      ((preferProtocol ps).apply registry).Perm registry ∧
      (∀ qs, ∀ p ∈ ps, (preferProtocol (ps ++ p :: qs)).apply registry =
        (preferProtocol (ps ++ qs)).apply registry) ∧
      (preferProtocol ps).apply ((preferProtocol ps).apply registry) =
        (preferProtocol ps).apply registry := by
  have happly : ∀ (ps : List String) (l : List α), (preferProtocol ps).apply l = groups ps l :=
    byProtocol_eq_groups
  refine ⟨happly ps registry, byMarks_eq_byProtocol ps registry,
    (stablySorted_apply rfl registry).perm, fun qs p hp => ?_, ?_⟩
  · rw [happly, happly, groups_append_cons hp]
  · rw [happly _ ((preferProtocol ps).apply registry), groups_apply, happly]

theorem preferProtocol_groups_of_twins :
    ((preferProtocol ["ssh", "ipmi"]).apply twins).map protocolOf = ["ipmi", "ipmi", "redfish"] ∧
      "ipmi" ∈ ["ssh", "ipmi"] ∧
      (preferProtocol (["ssh", "ipmi"] ++ "ipmi" :: ["redfish"])).apply twins =
        (preferProtocol (["ssh", "ipmi"] ++ ["redfish"])).apply twins :=
  have h := preferProtocol_groups ["ssh", "ipmi"] twins
  ⟨by rw [h.1]; decide, by decide, h.2.2.2.1 ["redfish"] "ipmi" (by decide)⟩

end View

end OutOfBand
