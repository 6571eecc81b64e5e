import Mathlib.Data.List.Induction
import OutOfBand.Json.Value

/-!
# Members in order

Records that say something of each of several names are kept as members in order of their names.
What is there under a name is what was put there last (`mem_sorted`).
-/

namespace OutOfBand.Json

/-- Members in order of their keys, none of which is there twice. -/
def Ordered (members : List (String × α)) : Prop := members.Pairwise fun a b => a.1 < b.1

variable {key k : String} {value v : α} {members : List (String × α)}

theorem Ordered.nil : Ordered ([] : List (String × α)) := List.Pairwise.nil

theorem lt_of_not_lt_of_ne (hlt : ¬key < k) (hne : key ≠ k) : k < key := by
  refine Decidable.byContradiction fun h => hne (String.le_antisymm ?_ ?_)
  · exact String.not_lt.mp h
  · exact String.not_lt.mp hlt

/-- A key that comes before the first one is not there. -/
theorem Ordered.ne_of_lt {m : String × α} (h : Ordered (m :: members)) (hlt : key < m.1) :
    ∀ a ∈ m :: members, a.1 ≠ key := by
  rintro a ha rfl
  rcases List.mem_cons.mp ha with rfl | hrest
  · exact String.lt_irrefl _ hlt
  · exact String.lt_irrefl _ (String.lt_trans hlt ((List.pairwise_cons.mp h).1 a hrest))

/-- What is there after a value was put under a key: the value, and what is under other keys. -/
theorem mem_put (h : Ordered members) :
    (k, v) ∈ put key value members ↔ k = key ∧ v = value ∨ k ≠ key ∧ (k, v) ∈ members := by
  induction members with
  | nil => simp [put]
  | cons m members ih =>
      obtain ⟨k', v'⟩ := m
      have hrest := (List.pairwise_cons.mp h).1
      simp only [put]
      split
      · -- The key is not among the members, so nothing is replaced.
        have habsent : (k, v) ∈ (k', v') :: members → k ≠ key :=
          fun hmem => h.ne_of_lt ‹key < k'› _ hmem
        simp only [List.mem_cons (a := (k, v)), Prod.mk.injEq] at habsent ⊢
        grind
      · split
        · subst key
          have hother : (k, v) ∈ members → k ≠ k' := by
            rintro hmem rfl
            exact String.lt_irrefl _ (hrest (k, v) hmem)
          simp only [List.mem_cons, Prod.mk.injEq]
          grind
        · simp only [List.mem_cons, Prod.mk.injEq, ih (List.pairwise_cons.mp h).2]
          grind

theorem Ordered.put (h : Ordered members) : Ordered (put key value members) := by
  induction members with
  | nil => exact List.pairwise_singleton ..
  | cons m members ih =>
      obtain ⟨k', v'⟩ := m
      obtain ⟨hfirst, hrest⟩ := List.pairwise_cons.mp h
      simp only [Json.put]
      split
      · refine List.pairwise_cons.mpr ⟨fun a ha => ?_, h⟩
        rcases List.mem_cons.mp ha with rfl | ha
        · assumption
        · exact String.lt_trans ‹key < k'› (hfirst a ha)
      · split
        · subst key
          exact List.pairwise_cons.mpr ⟨hfirst, hrest⟩
        · refine List.pairwise_cons.mpr ⟨fun a ha => ?_, ih hrest⟩
          obtain ⟨k, v⟩ := a
          rcases (mem_put hrest).mp ha with ⟨rfl, -⟩ | ⟨-, hmem⟩
          · exact lt_of_not_lt_of_ne ‹¬k < k'› ‹k ≠ k'›
          · exact hfirst _ hmem

theorem sorted_append_singleton (members : List (String × α)) (m : String × α) :
    sorted (members ++ [m]) = put m.1 m.2 (sorted members) := by
  simp [sorted]

theorem ordered_sorted (members : List (String × α)) : Ordered (sorted members) := by
  induction members using List.reverseRecOn with
  | nil => exact .nil
  | append_singleton members m ih =>
      rw [sorted_append_singleton]
      exact ih.put

/-- What comes after all others is put at the end. -/
theorem put_eq_append (h : ∀ m ∈ members, m.1 < key) :
    put key value members = members ++ [(key, value)] := by
  induction members with
  | nil => rfl
  | cons m members ih =>
      obtain ⟨hlt, hrest⟩ := List.forall_mem_cons.mp h
      have hnot : ¬key < m.1 := fun hgt => String.lt_irrefl _ (String.lt_trans hgt hlt)
      have hne : ¬key = m.1 := fun heq => String.lt_irrefl _ (heq ▸ hlt)
      simp [put, hnot, hne, ih hrest]

/-- Members in order stay as they are. -/
theorem sorted_of_ordered (h : Ordered members) : sorted members = members := by
  induction members using List.reverseRecOn with
  | nil => rfl
  | append_singleton members m ih =>
      obtain ⟨hmembers, -, hlast⟩ := List.pairwise_append.mp h
      rw [sorted_append_singleton, ih hmembers]
      exact put_eq_append fun a ha => hlast a ha m (List.mem_singleton_self m)

/-- **What is there under a key** is what was put there last. -/
theorem mem_sorted : (k, v) ∈ sorted members ↔
    ∃ before after, members = before ++ (k, v) :: after ∧ ∀ m ∈ after, m.1 ≠ k := by
  induction members using List.reverseRecOn with
  | nil => simp [sorted]
  | append_singleton members m ih =>
      obtain ⟨key, value⟩ := m
      rw [sorted_append_singleton, mem_put (ordered_sorted members), ih]
      constructor
      · rintro (⟨rfl, rfl⟩ | ⟨hne, before, after, rfl, hafter⟩)
        · exact ⟨members, [], rfl, by simp⟩
        · refine ⟨before, after ++ [(key, value)], by simp, fun m hm => ?_⟩
          rcases List.mem_append.mp hm with hm | hm
          · exact hafter m hm
          · rw [List.mem_singleton.mp hm]
            exact Ne.symm hne
      · rintro ⟨before, after, heq, hafter⟩
        rcases List.eq_nil_or_concat after with rfl | ⟨after, last, rfl⟩
        · obtain ⟨-, hlast⟩ := List.append_inj' heq rfl
          cases hlast
          exact .inl ⟨rfl, rfl⟩
        · rw [List.concat_eq_append] at heq hafter
          rw [← List.cons_append, ← List.append_assoc] at heq
          obtain ⟨rfl, hlast⟩ := List.append_inj' heq rfl
          cases hlast
          exact .inr ⟨Ne.symm (hafter _ (by simp)), before, after, rfl,
            fun m hm => hafter m (List.mem_append_left _ hm)⟩

/-- Where no key is there twice, what is there under a key is what was put there. -/
theorem mem_sorted_of_nodup {m : String × α} (h : (members.map Prod.fst).Nodup) :
    m ∈ sorted members ↔ m ∈ members := by
  obtain ⟨k, v⟩ := m
  rw [mem_sorted]
  constructor
  · rintro ⟨before, after, rfl, -⟩
    simp
  · intro hmem
    obtain ⟨before, after, rfl⟩ := List.append_of_mem hmem
    refine ⟨before, after, rfl, fun m hm heq => ?_⟩
    have hnodup := (List.nodup_append.mp (List.map_append ▸ h)).2.1
    rw [List.map_cons, List.nodup_cons] at hnodup
    exact hnodup.1 (List.mem_map.mpr ⟨m, hm, heq⟩)

/-- Members are told by the order that they are brought into, if no key is there twice. -/
theorem mem_iff_of_sorted_eq {members' : List (String × α)} {m : String × α}
    (h : (members.map Prod.fst).Nodup) (h' : (members'.map Prod.fst).Nodup)
    (heq : sorted members = sorted members') : m ∈ members ↔ m ∈ members' := by
  rw [← mem_sorted_of_nodup h, ← mem_sorted_of_nodup h', heq]

end OutOfBand.Json
