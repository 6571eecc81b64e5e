import Mathlib.Data.List.Induction
import OutOfBand.Proofs.Ending
import OutOfBand.Proofs.Family.Tokens

/-!
# Forests of contexts

Contexts are made of nothing or of one another, they are cancelled, and time goes by. Whatever is
done with them and in which order, it can be told from the acts alone which of them have ended and
how (`Forest`): a cancellation goes down to everything that was derived and up to nobody, and a
derived context has no time that its parent does not have.
-/

namespace OutOfBand.Family

open Context

/-! ## Cancellations -/

theorem cancelledAt_cancel (family : Family) (above token : Token) (t : Nat) :
    (family.cancel above t).cancelledAt token =
      if above.isPrefixOf token then earlier (family.cancelledAt token) (some t)
      else family.cancelledAt token := by
  rw [cancelledAt, cancel, List.foldl_append]
  rfl

/-- A token is cancelled when it or one above it is. -/
theorem reached_cancelledAt {family : Family} {token : Token} {now : Nat} :
    reached now (family.cancelledAt token) = true ↔
      ∃ above t, (above, t) ∈ family.cancellations ∧ above <+: token ∧ t ≤ now := by
  obtain ⟨members, tokens, cancellations⟩ := family
  induction cancellations using List.reverseRecOn with
  | nil => simp [cancelledAt, reached]
  | append_singleton cancellations c ih =>
      obtain ⟨above, t⟩ := c
      have hlast : ∀ u v, (u, v) ∈ cancellations ++ [(above, t)] ↔
          (u, v) ∈ cancellations ∨ u = above ∧ v = t := by simp
      change reached now ((cancel ⟨members, tokens, cancellations⟩ above t).cancelledAt token) =
        true ↔ _
      simp only [hlast]
      rw [cancelledAt_cancel]
      by_cases hprefix : above <+: token
      · rw [if_pos (List.isPrefixOf_iff_prefix.mpr hprefix), reached_earlier, Bool.or_eq_true, ih]
        simp only [reached, Option.any_some, decide_eq_true_eq]
        grind
      · rw [if_neg (mt List.isPrefixOf_iff_prefix.mp hprefix), ih]
        grind

/-! ## What goes on and what stays -/

/-- A scene of a family that some acts can make of another. -/
structure Later (s s' : Scene Family) : Prop where
  now : s.now ≤ s'.now
  members : s.world.members <+: s'.world.members
  cancellations : s.world.cancellations <+: s'.world.cancellations

theorem Later.refl (s : Scene Family) : Later s s :=
  ⟨Nat.le_refl _, List.prefix_rfl, List.prefix_rfl⟩

theorem Later.trans {s s' s'' : Scene Family} (h : Later s s') (h' : Later s' s'') :
    Later s s'' :=
  ⟨Nat.le_trans h.now h'.now, h.members.trans h'.members,
    h.cancellations.trans h'.cancellations⟩

theorem act_later {s s' : Scene Family} {a : Act} (h : act s a = some s') : Later s s' := by
  cases a with
  | found deadline perDriver =>
      cases h
      exact ⟨Nat.le_refl _, List.prefix_append _ _, List.prefix_rfl⟩
  | derive | copy | join =>
      obtain ⟨m, -, rfl⟩ := Option.map_eq_some_iff.mp h
      exact ⟨Nat.le_refl _, List.prefix_append _ _, List.prefix_rfl⟩
  | cancel which =>
      obtain ⟨m, -, rfl⟩ := Option.map_eq_some_iff.mp h
      exact ⟨Nat.le_refl _, List.prefix_rfl, List.prefix_append _ _⟩
  | wait time =>
      cases h
      exact ⟨Nat.le_add_right _ _, List.prefix_rfl, List.prefix_rfl⟩

theorem follow_append {s : Scene Family} {acts more : List Act} :
    follow s (acts ++ more) = (follow s acts).bind fun s' => follow s' more := by
  simp [follow, List.foldlM_append]

theorem follow_later {s s' : Scene Family} {acts : List Act} (h : follow s acts = some s') :
    Later s s' := by
  induction acts generalizing s with
  | nil =>
      cases h
      exact .refl _
  | cons a acts ih =>
      rw [follow, List.foldlM_cons] at h
      obtain ⟨m, ha, hacts⟩ := Option.bind_eq_some_iff.mp h
      exact (act_later ha).trans (ih hacts)

/-! ## What a family has grown from -/

def tokensOf (family : Family) : List Token := family.members.map Member.token

/-- A family that some acts have made of an empty one. -/
structure Grown (acts : List Act) (s : Scene Family) : Prop where
  planted : Planted (origins acts) s.world.tokensOf s.world.tokens
  /-- Every cancellation is one of a context, and in the past. -/
  told : ∀ t at', (t, at') ∈ s.world.cancellations →
    at' ≤ s.now ∧ ∃ j, .cancel j ∈ acts ∧ s.world.tokensOf[j]? = some t
  kept : ∀ j, .cancel j ∈ acts → ∃ t at', s.world.tokensOf[j]? = some t ∧
    (t, at') ∈ s.world.cancellations

section Grown

variable {acts : List Act} {s s' : Scene Family}

theorem getElem?_tokensOf {family : Family} {k : Nat} {t : Token} :
    family.tokensOf[k]? = some t ↔ ∃ m, family.members[k]? = some m ∧ m.token = t := by
  rw [tokensOf, List.getElem?_map, Option.map_eq_some_iff]

/-- A context keeps its place and its token. -/
theorem Later.getElem?_member (h : Later s s') {k : Nat} {m : Member}
    (hk : s.world.members[k]? = some m) : s'.world.members[k]? = some m :=
  getElem?_of_prefix h.members hk

theorem Later.getElem?_token (h : Later s s') {k : Nat} {t : Token}
    (hk : s.world.tokensOf[k]? = some t) : s'.world.tokensOf[k]? = some t := by
  obtain ⟨m, hm, ht⟩ := getElem?_tokensOf.mp hk
  exact getElem?_tokensOf.mpr ⟨m, h.getElem?_member hm, ht⟩

/-- An act that cancels nothing. -/
theorem Grown.uncancelled {a : Act} (h : Grown acts s) (hlater : Later s s')
    (ha : ∀ j, a ≠ .cancel j) (hcancellations : s'.world.cancellations = s.world.cancellations)
    (hplanted : Planted (origins (acts ++ [a])) s'.world.tokensOf s'.world.tokens) :
    Grown (acts ++ [a]) s' where
  planted := hplanted
  told := by
    intro t at' hmem
    rw [hcancellations] at hmem
    obtain ⟨hle, j, hj, ht⟩ := h.told t at' hmem
    exact ⟨Nat.le_trans hle hlater.now, j, List.mem_append_left _ hj, hlater.getElem?_token ht⟩
  kept := by
    intro j hj
    have hold : .cancel j ∈ acts := by
      rcases List.mem_append.mp hj with hj | hj
      · exact hj
      · exact absurd (List.mem_singleton.mp hj).symm (ha j)
    obtain ⟨t, at', ht, hmem⟩ := h.kept j hold
    exact ⟨t, at', hlater.getElem?_token ht, hlater.cancellations.subset hmem⟩

theorem Grown.place (h : Grown acts s) {k : Nat} {m : Member}
    (hk : s.world.members[k]? = some m) :
    k < s.world.tokensOf.length ∧ s.world.tokensOf[k]? = some m.token ∧
      ∀ id ∈ m.token, id < s.world.tokens := by
  have htoken : s.world.tokensOf[k]? = some m.token := getElem?_tokensOf.mpr ⟨m, hk, rfl⟩
  exact ⟨(List.getElem?_eq_some_iff.mp htoken).1, htoken,
    h.planted.bound _ (List.mem_of_getElem? htoken)⟩

theorem tokensOf_add (family : Family) (m : Member) :
    (family.add m).tokensOf = family.tokensOf ++ [m.token] := by
  simp [add, tokensOf]

/-- A new token is planted. -/
theorem Grown.addFresh (h : Grown acts s) {above : Token} {o : Origin}
    (hfits : o.Fits s.world.tokensOf s.world.tokensOf.length (above ++ [s.world.tokens]))
    (habove : ∀ id ∈ above, id < s.world.tokens) (deadline : Option Nat) (perDriver : Option Span) :
    Planted (origins acts ++ [o]) (s.world.addFresh above deadline perDriver).tokensOf
      (s.world.addFresh above deadline perDriver).tokens := by
  have htokens : (s.world.addFresh above deadline perDriver).tokensOf =
      s.world.tokensOf ++ [above ++ [s.world.tokens]] := tokensOf_add ..
  rw [htokens]
  exact h.planted.fresh above hfits habove

/-- So is one that is there already. -/
theorem Grown.addShared (h : Grown acts s) {other : Nat} {m m' : Member}
    (hother : s.world.members[other]? = some m) (htoken : m'.token = m.token) :
    Planted (origins acts ++ [.shared other]) (s.world.add m').tokensOf
      (s.world.add m').tokens := by
  rw [tokensOf_add, htoken]
  exact h.planted.share (h.place hother).2.1

theorem Grown.acted {a : Act} (h : Grown acts s) (ha : act s a = some s') :
    Grown (acts ++ [a]) s' := by
  have hlater := act_later ha
  cases a with
  | found deadline perDriver =>
      cases ha
      refine h.uncancelled hlater (by simp) rfl ?_
      rw [origins, filterMap_concat]
      exact h.addFresh (o := .own) ⟨_, rfl⟩ (by simp) deadline perDriver
  | derive parent time =>
      obtain ⟨m, hm, rfl⟩ := Option.map_eq_some_iff.mp ha
      obtain ⟨hlt, htoken, hbound⟩ := h.place hm
      refine h.uncancelled hlater (by simp) rfl ?_
      rw [origins, filterMap_concat]
      exact h.addFresh (o := .under parent) ⟨hlt, _, _, htoken, rfl⟩ hbound _ _
  | copy original perDriver =>
      obtain ⟨m, hm, rfl⟩ := Option.map_eq_some_iff.mp ha
      refine h.uncancelled hlater (by simp) rfl ?_
      rw [origins, filterMap_concat]
      exact h.addShared hm rfl
  | join other deadline perDriver =>
      obtain ⟨m, hm, rfl⟩ := Option.map_eq_some_iff.mp ha
      refine h.uncancelled hlater (by simp) rfl ?_
      rw [origins, filterMap_concat]
      exact h.addShared hm rfl
  | cancel which =>
      obtain ⟨m, hm, rfl⟩ := Option.map_eq_some_iff.mp ha
      obtain ⟨-, htoken, -⟩ := h.place hm
      refine ⟨?_, ?_, ?_⟩
      · rw [origins, filterMap_concat]
        exact (List.append_nil (origins acts)).symm ▸ h.planted
      · intro t at' hmem
        rcases List.mem_append.mp hmem with hmem | hmem
        · obtain ⟨hle, j, hj, ht⟩ := h.told t at' hmem
          exact ⟨hle, j, List.mem_append_left _ hj, ht⟩
        · obtain ⟨rfl, rfl⟩ := Prod.mk.inj (List.mem_singleton.mp hmem)
          exact ⟨Nat.le_refl _, which, List.mem_append_right _ List.mem_cons_self, htoken⟩
      · intro j hj
        rcases List.mem_append.mp hj with hj | hj
        · obtain ⟨t, at', ht, hmem⟩ := h.kept j hj
          exact ⟨t, at', ht, List.mem_append_left _ hmem⟩
        · cases List.mem_singleton.mp hj
          exact ⟨m.token, s.now, htoken, List.mem_append_right _ List.mem_cons_self⟩
  | wait time =>
      cases ha
      refine h.uncancelled hlater (by simp) rfl ?_
      rw [origins, filterMap_concat]
      exact (List.append_nil (origins acts)).symm ▸ h.planted

/-- **Whatever is done with contexts**, they grow. -/
theorem follow_grown {start : Nat} (h : follow ⟨start, {}⟩ acts = some s) : Grown acts s := by
  induction acts using List.reverseRecOn generalizing s with
  | nil =>
      cases h
      exact ⟨.nil, by simp, by simp⟩
  | append_singleton acts a ih =>
      rw [follow_append] at h
      obtain ⟨m, hacts, ha⟩ := Option.bind_eq_some_iff.mp h
      exact (ih hacts).acted (by simpa [follow] using ha)

/-! ## What contexts say of themselves -/

theorem getElem?_contexts {family : Family} {k : Nat} {ctx : Context} :
    family.contexts[k]? = some ctx ↔ ∃ m, family.members[k]? = some m ∧ family.resolve m = ctx := by
  rw [contexts, List.getElem?_map, Option.map_eq_some_iff]

theorem Grown.canceled_iff (h : Grown acts s) {k : Nat} {ctx : Context}
    (hk : s.world.contexts[k]? = some ctx) :
    reached s.now ctx.cancelAt = true ↔ ∃ j, .cancel j ∈ acts ∧ Rules (origins acts) j k := by
  obtain ⟨m, hm, rfl⟩ := getElem?_contexts.mp hk
  have htoken := (h.place hm).2.1
  rw [resolve, reached_cancelledAt]
  constructor
  · rintro ⟨above, t, hmem, hprefix, -⟩
    obtain ⟨-, j, hj, habove⟩ := h.told above t hmem
    exact ⟨j, hj, (h.planted.rules_iff habove htoken).mpr hprefix⟩
  · rintro ⟨j, hj, hrules⟩
    obtain ⟨above, t, habove, hmem⟩ := h.kept j hj
    exact ⟨above, t, hmem, (h.planted.rules_iff habove htoken).mp hrules, (h.told above t hmem).1⟩

theorem Later.reached (h : Later s s') {token : Token}
    (hs : reached s.now (s.world.cancelledAt token) = true) :
    reached s'.now (s'.world.cancelledAt token) = true := by
  rw [reached_cancelledAt] at hs ⊢
  obtain ⟨above, t, hmem, hprefix, hle⟩ := hs
  exact ⟨above, t, h.cancellations.subset hmem, hprefix, Nat.le_trans hle h.now⟩

/-- What is done later never brings a context back. -/
theorem Later.stays (h : Later s s') {k : Nat} {ctx : Context}
    (hk : s.world.contexts[k]? = some ctx) :
    ∃ ctx', s'.world.contexts[k]? = some ctx' ∧ ctx'.deadline = ctx.deadline ∧
      (ctx.isDone s.now = true → ctx'.isDone s'.now = true) ∧
      (ctx.error? s.now = some .canceled → ctx'.error? s'.now = some .canceled) := by
  obtain ⟨m, hm, rfl⟩ := getElem?_contexts.mp hk
  refine ⟨s'.world.resolve m, getElem?_contexts.mpr ⟨m, h.getElem?_member hm, rfl⟩, rfl, ?_, ?_⟩
  · rw [isDone_iff, isDone_iff]
    exact Or.imp h.reached (reached_of_le h.now)
  · rw [error?_eq_canceled_iff, error?_eq_canceled_iff]
    exact h.reached

/-- A cancellation is nothing to a context that is not ruled by the one that is cancelled. -/
theorem Grown.spared (h : Grown acts s) {j k : Nat} (hact : act s (.cancel j) = some s')
    (hrules : ¬Rules (origins acts) j k) {ctx : Context} (hk : s.world.contexts[k]? = some ctx) :
    ∃ ctx', s'.world.contexts[k]? = some ctx' ∧ ctx'.error? s'.now = ctx.error? s.now := by
  obtain ⟨m, hm, rfl⟩ := getElem?_contexts.mp hk
  obtain ⟨m', hm', rfl⟩ := Option.map_eq_some_iff.mp hact
  rw [h.planted.rules_iff (h.place hm').2.1 (h.place hm).2.1] at hrules
  refine ⟨_, getElem?_contexts.mpr ⟨m, hm, rfl⟩, ?_⟩
  have hcancelAt : (s.world.cancel m'.token s.now).cancelledAt m.token =
      s.world.cancelledAt m.token := by
    rw [cancelledAt_cancel, if_neg (mt List.isPrefixOf_iff_prefix.mp hrules)]
  rw [resolve, hcancelAt]
  rfl

/-- The context at `k` was derived from the one at `parent`, at an instant, for so much time. -/
def Derived (start : Nat) (acts : List Act) (k parent created : Nat) (time : Span) : Prop :=
  ∃ before after s, acts = before ++ .derive parent time :: after ∧
    follow ⟨start, {}⟩ before = some s ∧ s.now = created ∧ s.world.members.length = k

/-- A derived context has no more time than it was given, and none that its parent does not have. -/
theorem Derived.bounded {start k parent created : Nat} {time : Span}
    (h : Derived start acts k parent created time) (hs : follow ⟨start, {}⟩ acts = some s) :
    ∃ above ctx, s.world.contexts[parent]? = some above ∧ s.world.contexts[k]? = some ctx ∧
      (∃ d, ctx.deadline = some d ∧ d ≤ created + time.ns ∧
        ∀ d', above.deadline = some d' → d ≤ d') ∧
      (above.isDone s.now = true → ctx.isDone s.now = true) := by
  obtain ⟨before, after, s₀, rfl, hbefore, rfl, rfl⟩ := h
  rw [follow_append, hbefore, Option.bind_some, follow, List.foldlM_cons] at hs
  obtain ⟨s₁, hact, hafter⟩ := Option.bind_eq_some_iff.mp hs
  have hlater := follow_later hafter
  have hact' := act_later hact
  obtain ⟨m, hm, rfl⟩ := Option.map_eq_some_iff.mp hact
  have hparent := hlater.getElem?_member (hact'.getElem?_member hm)
  have hderived := hlater.getElem?_member (List.getElem?_concat_length ..)
  refine ⟨_, _, getElem?_contexts.mpr ⟨m, hparent, rfl⟩,
    getElem?_contexts.mpr ⟨_, hderived, rfl⟩, ?_, ?_⟩
  · cases hd : m.deadline with
    | none => exact ⟨s₀.now + time.ns, rfl, by simp [resolve, hd]⟩
    | some d =>
        refine ⟨min d (s₀.now + time.ns), rfl, by omega, ?_⟩
        intro d' hd'
        cases hd.symm.trans hd'
        omega
  · rw [isDone_iff, isDone_iff]
    refine Or.imp (fun hcanceled => ?_) fun hreached => ?_
    · rw [resolve, reached_cancelledAt] at hcanceled ⊢
      obtain ⟨token, t, hmem, hprefix, hle⟩ := hcanceled
      exact ⟨token, t, hmem, hprefix.trans (List.prefix_append _ _), hle⟩
    · rw [resolve, reached_earlier, Bool.or_eq_true]
      exact .inl hreached

end Grown

/-! ## The whole forest -/

/-- What some acts have made of an empty family, beginning at an instant. -/
structure Forest (start : Nat) (acts : List Act) (s : Scene Family) : Prop where
  places : s.world.contexts.length = (origins acts).length
  /-- A context is cancelled if one was whose token is its own or above it. -/
  canceled_iff : ∀ (k : Nat) (ctx : Context), s.world.contexts[k]? = some ctx →
    (ctx.error? s.now = some .canceled ↔ ∃ j, .cancel j ∈ acts ∧ Rules (origins acts) j k)
  /-- Else it has come to its end if its time is up. -/
  exceeded_iff : ∀ (k : Nat) (ctx : Context), s.world.contexts[k]? = some ctx →
    (ctx.error? s.now = some .deadlineExceeded ↔
      (¬∃ j, .cancel j ∈ acts ∧ Rules (origins acts) j k) ∧
        ∃ d, ctx.deadline = some d ∧ d ≤ s.now)
  /-- What comes next cannot change that. -/
  stays : ∀ more s', follow s more = some s' → ∀ (k : Nat) (ctx : Context),
    s.world.contexts[k]? = some ctx → ∃ ctx', s'.world.contexts[k]? = some ctx' ∧
      ctx'.deadline = ctx.deadline ∧ (ctx.isDone s.now = true → ctx'.isDone s'.now = true) ∧
      (ctx.error? s.now = some .canceled → ctx'.error? s'.now = some .canceled)
  /-- A cancellation is nothing to those that the cancelled context does not rule, -/
  spared : ∀ j s', act s (.cancel j) = some s' → ∀ (k : Nat) (ctx : Context),
    ¬Rules (origins acts) j k → s.world.contexts[k]? = some ctx →
    ∃ ctx', s'.world.contexts[k]? = some ctx' ∧ ctx'.error? s'.now = ctx.error? s.now
  /-- such as its parent, and the others that were derived from the parent. -/
  above : ∀ k p : Nat, (origins acts)[k]? = some (.under p) → ¬Rules (origins acts) k p ∧
    ∀ j : Nat, j ≠ k → (origins acts)[j]? = some (.under p) → ¬Rules (origins acts) k j
  /-- A derived context has its own time and that of its parent, and is done with its parent. -/
  derived : ∀ k p created time, Derived start acts k p created time →
    ∃ parent ctx, s.world.contexts[p]? = some parent ∧ s.world.contexts[k]? = some ctx ∧
      (∃ d, ctx.deadline = some d ∧ d ≤ created + time.ns ∧
        ∀ d', parent.deadline = some d' → d ≤ d') ∧
      (parent.isDone s.now = true → ctx.isDone s.now = true)

/-- **Contexts make a forest**, whatever is done with them. -/
theorem follow_forest {start : Nat} {acts : List Act} {s : Scene Family}
    (h : follow ⟨start, {}⟩ acts = some s) : Forest start acts s := by
  have hgrown := follow_grown h
  refine ⟨?_, ?_, ?_, ?_, ?_, ?_, ?_⟩
  · rw [← hgrown.planted.length, contexts, tokensOf, List.length_map, List.length_map]
  · intro k ctx hk
    rw [error?_eq_canceled_iff, hgrown.canceled_iff hk]
  · intro k ctx hk
    rw [error?_eq_deadlineExceeded_iff, ← Bool.not_eq_true, hgrown.canceled_iff hk]
    exact and_congr_right fun _ => by simp [reached, Option.any_eq_true]
  · intro more s' hmore k ctx hk
    exact (follow_later hmore).stays hk
  · intro j s' hact k ctx hrules hk
    exact hgrown.spared hact hrules hk
  · intro k p hk
    exact hgrown.planted.not_rules hk
  · intro k p created time hderived
    exact hderived.bounded h

/-- A call without end, two parts of it, and a copy of the first part: the copy is cancelled with
the first part, the call and its second part are not, and the second part ends with its time. -/
theorem follow_forest_of_two_parts :
    let acts : List Act := [.found none none, .derive 0 (.ofMillis 5), .derive 0 (.ofMillis 2),
      .copy 1 none, .cancel 3, .wait (.ofMillis 3)]
    ∃ s, follow ⟨0, {}⟩ acts = some s ∧
      s.world.contexts.map (·.error? s.now) =
        [none, some .canceled, some .deadlineExceeded, some .canceled] ∧
      Forest 0 acts s := by
  intro acts
  have h : follow ⟨0, {}⟩ acts = some _ := rfl
  exact ⟨_, h, by decide, follow_forest h⟩

end OutOfBand.Family
