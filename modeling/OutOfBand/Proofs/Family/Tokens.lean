import OutOfBand.Context.Family

/-!
# Tokens

Whoever makes a context says where its token comes from (`Origin`): it is new, it is new and under
that of a parent, or it is that of another context. So it is plain which contexts are cancelled when
one of them is (`Rules`). Tokens are paths, and if they are planted as their origins say (`Planted`),
to be at or above a token is to be an initial segment of it (`Planted.rules_iff`).
-/

namespace OutOfBand.Family

/-! ## Where tokens come from -/

/-- Where the token of a context comes from. -/
inductive Origin where
  /-- It is new. -/
  | own
  /-- It is new, and under that of the context there. -/
  | under (parent : Nat)
  /-- It is that of the context there. -/
  | shared (other : Nat)
  deriving DecidableEq

def Origin.isNew : Origin → Bool
  | own | under _ => true
  | shared _ => false

/-- The origin of the context that an act makes, if it makes one. -/
def Act.origin? : Act → Option Origin
  | .found .. => some .own
  | .derive parent _ => some (.under parent)
  | .copy original _ => some (.shared original)
  | .join other .. => some (.shared other)
  | .cancel _ | .wait _ => none

/-- The origins of the contexts that some acts make, in their places. -/
def origins (acts : List Act) : List Origin := acts.filterMap Act.origin?

/-- The token of the context at `k` was made for the one at `f`. -/
inductive Founder (os : List Origin) : Nat → Nat → Prop
  | new {k : Nat} {o : Origin} : os[k]? = some o → o.isNew = true → Founder os k k
  | shared {k other f : Nat} : os[k]? = some (.shared other) → Founder os other f → Founder os k f

/-- The token of the context at `j` is that of the one at `k`, or above it. -/
inductive Rules (os : List Origin) (j : Nat) : Nat → Prop
  | same {k f : Nat} : Founder os j f → Founder os k f → Rules os j k
  | above {k f p : Nat} : Founder os k f → os[f]? = some (.under p) → Rules os j p → Rules os j k

/-! ## Tokens are paths -/

/-- A token fits its origin, if `tokens` are those of all contexts in their places. -/
def Origin.Fits (tokens : List Token) (place : Nat) (t : Token) : Origin → Prop
  | own => ∃ id, t = [id]
  | under parent => parent < place ∧ ∃ above id, tokens[parent]? = some above ∧ t = above ++ [id]
  | shared other => other < place ∧ tokens[other]? = some t

/-- The tokens of the contexts fit their origins. No number of a new token was there before. -/
structure Planted (os : List Origin) (tokens : List Token) (count : Nat) : Prop where
  length : tokens.length = os.length
  fits : ∀ (k : Nat) (o : Origin) (t : Token), os[k]? = some o → tokens[k]? = some t →
    o.Fits tokens k t
  bound : ∀ t ∈ tokens, ∀ id ∈ t, id < count
  apart : ∀ (j k : Nat) (o o' : Origin) (t t' : Token), os[j]? = some o → os[k]? = some o' →
    o.isNew = true → o'.isNew = true → tokens[j]? = some t → tokens[k]? = some t' →
    t.getLast? = t'.getLast? → j = k

theorem Planted.nil : Planted [] [] 0 := by
  refine ⟨rfl, ?_, ?_, ?_⟩ <;> simp

theorem getElem?_of_prefix {l l' : List α} {k : Nat} {a : α} (h : l <+: l')
    (hk : l[k]? = some a) : l'[k]? = some a := by
  obtain ⟨hlt, rfl⟩ := List.getElem?_eq_some_iff.mp hk
  exact List.prefix_iff_getElem?.mp h k hlt

theorem Origin.Fits.snoc {tokens : List Token} {k : Nat} {t : Token} {o : Origin}
    (h : o.Fits tokens k t) (t' : Token) : o.Fits (tokens ++ [t']) k t := by
  have hmore : tokens <+: tokens ++ [t'] := List.prefix_append _ _
  cases o with
  | own => exact h
  | under parent =>
      obtain ⟨hlt, above, id, habove, rfl⟩ := h
      exact ⟨hlt, above, id, getElem?_of_prefix hmore habove, rfl⟩
  | shared other => exact ⟨h.1, getElem?_of_prefix hmore h.2⟩

theorem filterMap_concat (f : α → Option β) (l : List α) (a : α) :
    (l ++ [a]).filterMap f = l.filterMap f ++ (f a).toList := by
  rw [List.filterMap_append]
  cases h : f a <;> simp [h]

theorem getElem?_snoc {l : List α} {a b : α} {k : Nat} :
    (l ++ [a])[k]? = some b ↔ l[k]? = some b ∨ k = l.length ∧ b = a := by
  grind

/-- One more context. A new token has the number that comes next. -/
theorem Planted.snoc {os : List Origin} {tokens : List Token} {count count' : Nat} {o : Origin}
    {t : Token} (h : Planted os tokens count) (hfits : o.Fits tokens tokens.length t)
    (hcount : count ≤ count') (hbound : ∀ id ∈ t, id < count')
    (hnew : o.isNew = true → t.getLast? = some count) :
    Planted (os ++ [o]) (tokens ++ [t]) count' where
  length := by simp [h.length]
  fits := by
    intro k o' t' ho ht
    rw [getElem?_snoc] at ho ht
    rcases ht with ht | ⟨rfl, rfl⟩
    · have hk := (List.getElem?_eq_some_iff.mp ht).1
      rcases ho with ho | ⟨rfl, -⟩
      · exact (h.fits k o' t' ho ht).snoc t
      · exact absurd h.length (by omega)
    · rcases ho with ho | ⟨-, rfl⟩
      · have hk := (List.getElem?_eq_some_iff.mp ho).1
        exact absurd h.length (by omega)
      · exact hfits.snoc t'
  bound := by
    intro t' ht' id hid
    rcases List.mem_append.mp ht' with ht' | ht'
    · exact Nat.lt_of_lt_of_le (h.bound t' ht' id hid) hcount
    · rw [List.mem_singleton] at ht'
      exact hbound id (ht' ▸ hid)
  apart := by
    -- The last number of the new token is not among those of the others.
    have hfresh : ∀ (k : Nat) (t' : Token), tokens[k]? = some t' → o.isNew = true →
        t'.getLast? ≠ t.getLast? := by
      intro k t' ht' ho heq
      have hlast := List.mem_of_getLast? (heq.trans (hnew ho))
      exact Nat.lt_irrefl _ (h.bound t' (List.mem_of_getElem? ht') count hlast)
    intro j k o₁ o₂ t₁ t₂ ho₁ ho₂ hnew₁ hnew₂ ht₁ ht₂ hlast
    have hlen := h.length
    rw [getElem?_snoc] at ho₁ ho₂ ht₁ ht₂
    grind [h.apart j k o₁ o₂ t₁ t₂]

section Planted

variable {os : List Origin} {tokens : List Token} {count j k f g : Nat} {t u : Token}

/-- One more context with a token of its own, under those of another or not. -/
theorem Planted.fresh {o : Origin} (h : Planted os tokens count) (above : Token)
    (hfits : o.Fits tokens tokens.length (above ++ [count])) (habove : ∀ id ∈ above, id < count) :
    Planted (os ++ [o]) (tokens ++ [above ++ [count]]) (count + 1) := by
  refine h.snoc hfits (Nat.le_succ _) ?_ fun _ => List.getLast?_concat
  intro id hid
  rcases List.mem_append.mp hid with hid | hid
  · exact Nat.lt_succ_of_lt (habove id hid)
  · rw [List.mem_singleton.mp hid]
    exact Nat.lt_succ_self _

/-- One more context with the token of another. -/
theorem Planted.share (h : Planted os tokens count) (hk : tokens[k]? = some t) :
    Planted (os ++ [.shared k]) (tokens ++ [t]) count :=
  h.snoc ⟨(List.getElem?_eq_some_iff.mp hk).1, hk⟩ (Nat.le_refl _)
    (h.bound t (List.mem_of_getElem? hk)) (by simp [Origin.isNew])

theorem Founder.isNew (h : Founder os k f) : ∃ o, os[f]? = some o ∧ o.isNew = true := by
  induction h with
  | new ho hnew => exact ⟨_, ho, hnew⟩
  | shared _ _ ih => exact ih

theorem Founder.lt_length (h : Founder os k f) : k < os.length := by
  cases h with
  | new ho _ | shared ho _ => exact (List.getElem?_eq_some_iff.mp ho).1

theorem Planted.getElem?_origin (h : Planted os tokens count) (hk : tokens[k]? = some t) :
    ∃ o, os[k]? = some o := by
  have hlt := (List.getElem?_eq_some_iff.mp hk).1
  rw [h.length] at hlt
  exact ⟨os[k], List.getElem?_eq_getElem hlt⟩

/-- A context has the token of its founder. -/
theorem Planted.founder (h : Planted os tokens count) (hk : tokens[k]? = some t)
    (hf : Founder os k f) : f ≤ k ∧ tokens[f]? = some t := by
  induction hf with
  | new => exact ⟨Nat.le_refl _, hk⟩
  | shared ho _ ih =>
      obtain ⟨hlt, hother⟩ := h.fits _ _ _ ho hk
      obtain ⟨hle, hfounder⟩ := ih hother
      exact ⟨by omega, hfounder⟩

theorem Planted.exists_founder (h : Planted os tokens count) (hk : tokens[k]? = some t) :
    ∃ f, Founder os k f := by
  induction k using Nat.strongRecOn with
  | ind k ih =>
      obtain ⟨o, ho⟩ := h.getElem?_origin hk
      cases o with
      | own | under => exact ⟨k, .new ho rfl⟩
      | shared other =>
          obtain ⟨hlt, hother⟩ := h.fits k _ t ho hk
          obtain ⟨f, hf⟩ := ih other hlt hother
          exact ⟨f, .shared ho hf⟩

/-- Contexts with one token have one founder. -/
theorem Planted.founder_eq (h : Planted os tokens count) (hj : tokens[j]? = some t)
    (hk : tokens[k]? = some t) (hg : Founder os j g) (hf : Founder os k f) : g = f := by
  obtain ⟨o, ho, hnew⟩ := hg.isNew
  obtain ⟨o', ho', hnew'⟩ := hf.isNew
  exact h.apart g f o o' t t ho ho' hnew hnew' (h.founder hj hg).2 (h.founder hk hf).2 rfl

theorem Planted.ne_nil (h : Planted os tokens count) (hk : tokens[k]? = some t) : t ≠ [] := by
  obtain ⟨f, hf⟩ := h.exists_founder hk
  obtain ⟨o, ho, hnew⟩ := hf.isNew
  have hfits := h.fits f o t ho (h.founder hk hf).2
  cases o with
  | own =>
      obtain ⟨id, rfl⟩ := hfits
      simp
  | under parent =>
      obtain ⟨-, above, id, -, rfl⟩ := hfits
      simp
  | shared => cases hnew

/-- **Tokens tell who is cancelled with whom**: a token is at or above another just if it is an
initial segment of it. -/
theorem Planted.rules_iff (h : Planted os tokens count) (hj : tokens[j]? = some t)
    (hk : tokens[k]? = some u) : Rules os j k ↔ t <+: u := by
  constructor
  · intro hrules
    induction hrules generalizing u with
    | same hg hf =>
        have heq := (h.founder hj hg).2.symm.trans (h.founder hk hf).2
        cases heq
        exact List.prefix_rfl
    | above hf hunder _ ih =>
        obtain ⟨-, above, id, habove, rfl⟩ := h.fits _ _ _ hunder (h.founder hk hf).2
        exact (ih habove).trans (List.prefix_append _ _)
  · -- The induction is on the place: a parent comes before those derived from it.
    intro hprefix
    obtain ⟨g, hg⟩ := h.exists_founder hj
    induction k using Nat.strongRecOn generalizing u with
    | ind k ih =>
        obtain ⟨f, hf⟩ := h.exists_founder hk
        obtain ⟨o, ho, hnew⟩ := hf.isNew
        obtain ⟨hle, hfounder⟩ := h.founder hk hf
        have hfits := h.fits f o u ho hfounder
        have hsame : t = u → Rules os j k := by
          rintro rfl
          exact .same hg (h.founder_eq hk hj hf hg ▸ hf)
        cases o with
        | own =>
            obtain ⟨id, rfl⟩ := hfits
            rcases List.prefix_cons_iff.mp hprefix with hnil | ⟨rest, hrest, hnil⟩
            · exact absurd hnil (h.ne_nil hj)
            · rw [List.prefix_nil.mp hnil] at hrest
              exact hsame hrest
        | under parent =>
            obtain ⟨hlt, above, id, habove, rfl⟩ := hfits
            rcases List.prefix_concat_iff.mp hprefix with heq | habove'
            · exact hsame heq
            · exact .above hf ho (ih parent (by omega) habove habove')
        | shared => cases hnew

/-- A context derived from another neither rules it nor anything else that was derived from it. -/
theorem Planted.not_rules (h : Planted os tokens count) {parent : Nat}
    (hk : os[k]? = some (.under parent)) :
    ¬Rules os k parent ∧ ∀ i : Nat, i ≠ k → os[i]? = some (.under parent) → ¬Rules os k i := by
  have htoken : ∀ i : Nat, os[i]? = some (.under parent) → ∃ above id,
      tokens[parent]? = some above ∧ tokens[i]? = some (above ++ [id]) := by
    intro i hi
    have hlt := (List.getElem?_eq_some_iff.mp hi).1
    rw [← h.length] at hlt
    have hget := List.getElem?_eq_getElem hlt
    obtain ⟨-, above, id, habove, heq⟩ := h.fits i _ _ hi hget
    exact ⟨above, id, habove, heq ▸ hget⟩
  obtain ⟨above, id, habove, htk⟩ := htoken k hk
  constructor
  · rw [h.rules_iff htk habove]
    intro hprefix
    have hlength := hprefix.length_le
    rw [List.length_append, List.length_singleton] at hlength
    omega
  · intro i hne hi
    obtain ⟨above', id', habove', hti⟩ := htoken i hi
    cases habove.symm.trans habove'
    rw [h.rules_iff htk hti]
    intro hprefix
    have heq := hprefix.eq_of_length (by simp)
    exact hne (h.apart i k _ _ _ _ hi hk rfl rfl hti htk (congrArg _ heq.symm))

end Planted

end OutOfBand.Family
