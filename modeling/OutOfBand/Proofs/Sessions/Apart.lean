import OutOfBand.Proofs.SideBySide

/-!
# What comes of work that goes on beside other work

What comes of a piece of work that goes on beside others depends on when it is ready and on its own
answer (`Own`). When it is ready it says at its start, and how it answers it says at its end, so
others can meddle with it only through the world. Pieces of work that keep to parts of the world of
their own (`KeepsTo`) cannot: of each comes just what comes of it alone, in whatever order they end
(`together_apart`).
-/

namespace OutOfBand.Client

open Context Running

/-! ## Own answers -/

/-- What comes of a piece of work that is started in some world and, if it is ready before its
context ends, ends in some other. Absent work is done. -/
inductive Own (ctx : Context) (time : Span) (now : Nat) (idle : α) :
    Option (Operation σ α) → Except Interruption α → Prop
  | absent : Own ctx time now idle none (.ok idle)
  | answered {op lag w} (v : σ) : (op now w).lag = some lag → InTime ctx time now lag →
      Own ctx time now idle (some op) (.ok ((op now w).finish v).1)
  | late {op t cause} (w : σ) : (ctx.limited now time).stop = some t →
      (∀ lag, (op now w).lag = some lag → t ≤ ready now lag) →
      (ctx.limited now time).error? t = some cause → Own ctx time now idle (some op) (.error cause)

section Own

variable {ctx : Context} {time : Span} {now : Nat} {idle : α}

/-- Ending the work of a given instant changes nothing about what all work can come to. -/
theorem settleAt_own {R : Except Interruption α → Prop} {r : Running σ α}
    (h : ∀ v, R (r.settle v).1) (t : Nat) (w v : σ) : R ((settleAt t r w).1.settle v).1 := by
  unfold settleAt
  split
  · exact h w
  · exact h v

theorem start_own (halive : (ctx.limited now time).error? now = none)
    (op : Option (Operation σ α)) (w v : σ) :
    Own ctx time now idle op ((start ctx time now idle op w).1.settle v).1 := by
  cases op with
  | none => exact .absent
  | some op =>
      simp only [start, halive]
      rcases ending_cases (ctx.limited now time) now (op now w).lag with
        ⟨t, hstop, hlag, hend⟩ | ⟨lag, hlag, hready, hend⟩ | ⟨-, hnone, -⟩
      · obtain ⟨cause, hcause⟩ := error?_stop hstop
        rw [hend, hcause]
        exact settleAt_own (fun _ => .late w hstop hlag hcause) now _ v
      · rw [hend]
        exact settleAt_own (fun u => .answered u hlag (inTime_of_lt_stop_limited hready)) now _ v
      · rw [stop_limited] at hnone
        cases hu : ctx.stop <;> simp [hu, earlier] at hnone

theorem length_each (f : α → σ → Running σ β × σ) (as : List α) (w : σ) :
    (each f as w).1.length = as.length := by
  induction as generalizing w with
  | nil => rfl
  | cons a as ih => simp [each, ih]

theorem length_settleThrough (ts : List Nat) (rs : List (Running σ α)) (w : σ) :
    (settleThrough ts rs w).1.length = rs.length := by
  induction ts generalizing rs w with
  | nil => rfl
  | cons t ts ih => rw [settleThrough, ih, length_each]

/-- What holds of whatever started work comes to holds of all work that is started. -/
theorem each_start_own {R : Option (Operation σ α) → Except Interruption α → Prop}
    (hstart : ∀ op w v, R op ((start ctx time now idle op w).1.settle v).1)
    (ops : List (Option (Operation σ α))) (w : σ) :
    ∀ p ∈ ops.zip (each (start ctx time now idle) ops w).1, ∀ v, R p.1 (p.2.settle v).1 := by
  induction ops generalizing w with
  | nil => simp [each]
  | cons op ops ih =>
      simp only [each, List.zip_cons_cons, List.mem_cons, forall_eq_or_imp]
      exact ⟨hstart op w, ih _⟩

theorem each_settleAt_own {R : γ → Except Interruption α → Prop} (t : Nat) {cs : List γ}
    {rs : List (Running σ α)} (h : ∀ p ∈ cs.zip rs, ∀ v, R p.1 (p.2.settle v).1) (w : σ) :
    ∀ p ∈ cs.zip (each (settleAt t) rs w).1, ∀ v, R p.1 (p.2.settle v).1 := by
  induction rs generalizing cs w with
  | nil => simp [each]
  | cons r rs ih =>
      cases cs with
      | nil => simp
      | cons c cs =>
          simp only [List.zip_cons_cons, List.mem_cons, forall_eq_or_imp] at h
          simp only [each, List.zip_cons_cons, List.mem_cons, forall_eq_or_imp]
          exact ⟨settleAt_own h.1 t w, ih h.2 _⟩

theorem settleThrough_own {R : γ → Except Interruption α → Prop} (ts : List Nat) {cs : List γ}
    {rs : List (Running σ α)} (h : ∀ p ∈ cs.zip rs, ∀ v, R p.1 (p.2.settle v).1) (w : σ) :
    ∀ p ∈ cs.zip (settleThrough ts rs w).1, ∀ v, R p.1 (p.2.settle v).1 := by
  induction ts generalizing rs w with
  | nil => exact h
  | cons t ts ih => exact ih (each_settleAt_own t h w) _

/-- What holds of each piece of work on its own holds of it beside the others. -/
theorem together_each {s : Scene σ} {R : Option (Operation σ α) → Except Interruption α → Prop}
    (hstart : ∀ op w v, R op ((start ctx time s.now idle op w).1.settle v).1)
    (ops : List (Option (Operation σ α))) :
    (together ctx time idle ops s).1.length = ops.length ∧
      ∀ p ∈ ops.zip (together ctx time idle ops s).1, R p.1 p.2 := by
  refine ⟨?_, fun p hp => ?_⟩
  · simp [together, length_settleThrough, length_each]
  · simp only [together, List.zip_map_right] at hp
    obtain ⟨⟨op, r⟩, hr, rfl⟩ := List.mem_map.mp hp
    exact settleThrough_own _ (each_start_own hstart ops s.world) _ _ hr _

/-- **Of each piece of work comes what it comes to on its own account.** -/
theorem together_own {s : Scene σ} (halive : (ctx.limited s.now time).error? s.now = none)
    (idle : α) (ops : List (Option (Operation σ α))) :
    (together ctx time idle ops s).1.length = ops.length ∧
      ∀ p ∈ ops.zip (together ctx time idle ops s).1, Own ctx time s.now idle p.1 p.2 :=
  together_each (start_own halive) ops

/-- Without time for it, work fails unless it is absent. -/
theorem together_idle {s : Scene σ} {cause : Interruption}
    (hdone : (ctx.limited s.now time).error? s.now = some cause) (idle : α)
    (ops : List (Option (Operation σ α))) :
    ∀ p ∈ ops.zip (together ctx time idle ops s).1, p.1 = none ∨ p.2 = .error cause :=
  (together_each (R := fun op answer => op = none ∨ answer = .error cause) (fun op w v => by
    cases op with
    | none => exact .inl rfl
    | some op => simp [start, hdone, finished]) ops).2

end Own

/-! ## Work that keeps to its part of the world -/

/-- The `i`-th of several pieces of work keeps to the `i`-th part of the world: nothing else of the
world matters to it, and it changes nothing in the other parts. -/
structure KeepsTo (part : Nat → σ → τ) (now i : Nat) (op : Operation σ α) : Prop where
  lag : ∀ w w', part i w = part i w' → (op now w).lag = (op now w').lag
  world : ∀ w w', part i w = part i w' → part i (op now w).world = part i (op now w').world
  answer : ∀ w w' v v', part i w = part i w' → part i v = part i v' →
    ((op now w).finish v).1 = ((op now w').finish v').1
  start_others : ∀ j w, j ≠ i → part j (op now w).world = part j w
  end_others : ∀ j w v, j ≠ i → part j ((op now w).finish v).2 = part j v

/-- Work on the `i`-th part of a world whose parts can be changed one by one keeps to that part. -/
theorem keepsTo_within (part : Nat → σ → τ) (put : Nat → τ → σ → σ)
    (hput : ∀ i x w, part i (put i x w) = x)
    (hothers : ∀ i j x w, j ≠ i → part j (put i x w) = part j w) (now i : Nat)
    (op : Operation τ α) : KeepsTo part now i (op.within (part i) (put i)) where
  lag w w' h := by simp only [Operation.within, h]
  world w w' h := by simp only [Operation.within, h, hput]
  answer w w' v v' h h' := by simp only [Operation.within, h, h']
  start_others j w hj := hothers i j _ w hj
  end_others j w v hj := hothers i j _ v hj

/-- What comes of a piece of work alone. -/
def alone (ctx : Context) (time : Span) (idle : α) (s : Scene σ) :
    Option (Operation σ α) → Except Interruption α
  | none => .ok idle
  | some op => (ctx.attempt time op s).1

/-- The `i`-th piece of work comes to `a` as long as nobody else touches its part of the world, and
leaves the other parts as they are. -/
structure Fated (part : Nat → σ → τ) (i : Nat) (r : Running σ α) (a : Except Interruption α)
    (w : σ) : Prop where
  answer : ∀ v, part i v = part i w → (r.settle v).1 = a
  others : ∀ j v, j ≠ i → part j (r.settle v).2 = part j v

/-- The members of two lists are related one by one; the first are the `i`-th. -/
inductive InRow (R : Nat → γ → β → Prop) : Nat → List γ → List β → Prop
  | nil (i : Nat) : InRow R i [] []
  | cons {i c b cs bs} : R i c b → InRow R (i + 1) cs bs → InRow R i (c :: cs) (b :: bs)

theorem InRow.imp {R R' : Nat → γ → β → Prop} {i : Nat} {cs : List γ} {bs : List β}
    (h : InRow R i cs bs) (himp : ∀ j c b, i ≤ j → R j c b → R' j c b) : InRow R' i cs bs := by
  induction h with
  | nil i => exact .nil i
  | cons hfirst _ ih =>
      exact .cons (himp _ _ _ (Nat.le_refl _) hfirst)
        (ih fun j c b hj => himp j c b (Nat.le_of_succ_le hj))

theorem InRow.map {R : Nat → γ → β → Prop} {i : Nat} {cs : List γ} {f : γ → β}
    (h : ∀ k c, cs[k]? = some c → R (i + k) c (f c)) : InRow R i cs (cs.map f) := by
  induction cs generalizing i with
  | nil => exact .nil i
  | cons c cs ih =>
      refine .cons (h 0 c rfl) (ih fun k c' hk => ?_)
      have hnext := h (k + 1) c' hk
      rwa [show i + (k + 1) = i + 1 + k by omega] at hnext

section Apart

variable {part : Nat → σ → τ} {i : Nat} {r : Running σ α} {rs : List (Running σ α)}
  {a : Except Interruption α} {as : List (Except Interruption α)} {w w' : σ}

theorem Fated.finished (part : Nat → σ → τ) (i t : Nat) (a : Except Interruption α) (w : σ) :
    Fated part i (finished t a) a w := ⟨fun _ _ => rfl, fun _ _ _ => rfl⟩

theorem Fated.congr (h : Fated part i r a w) (hpart : part i w' = part i w) :
    Fated part i r a w' := ⟨fun v hv => h.answer v (hv.trans hpart), h.others⟩

theorem Fated.settleAt (h : Fated part i r a w) (t : Nat) :
    Fated part i (settleAt t r w).1 a (settleAt t r w).2 ∧
      ∀ j, j ≠ i → part j (settleAt t r w).2 = part j w := by
  unfold Running.settleAt
  split
  · refine ⟨?_, fun j hj => h.others j w hj⟩
    simp only [h.answer w rfl]
    exact .finished part i t a _
  · exact ⟨h, fun _ _ => rfl⟩

/-- Where each piece of work touches its own part of the world only, what is done for one piece
after another leaves each piece as it is after its own turn. -/
theorem InRow.each {R : σ → Nat → γ → Except Interruption α → Prop} {f : γ → σ → Running σ α × σ}
    {cs : List γ} (hcongr : ∀ j c b w w', part j w' = part j w → R w j c b → R w' j c b)
    (hstep : ∀ j c b w, R w j c b → Fated part j (f c w).1 b (f c w).2 ∧
      ∀ k, k ≠ j → part k (f c w).2 = part k w)
    (h : InRow (R w) i cs as) :
    InRow (fun j r b => Fated part j r b (each f cs w).2) i (each f cs w).1 as ∧
      ∀ j, j < i → part j (each f cs w).2 = part j w := by
  -- What is done for one piece changes no part of those before it, and those after it find their
  -- parts as they were.
  induction cs generalizing i w as with
  | nil =>
      cases h
      exact ⟨.nil i, fun _ _ => rfl⟩
  | cons c cs ih =>
      cases h with
      | cons hfirst hrest =>
          obtain ⟨hfate, hothers⟩ := hstep _ _ _ _ hfirst
          obtain ⟨hrow, hbefore⟩ := ih (w := (f c w).2) (hrest.imp fun j c b hj hR =>
            hcongr j c b w _ (hothers j (by omega)) hR)
          refine ⟨.cons (hfate.congr (hbefore i (Nat.lt_succ_self i))) hrow, fun j hj => ?_⟩
          exact (hbefore j (by omega)).trans (hothers j (by omega))

theorem InRow.settleThrough (ts : List Nat)
    (h : InRow (fun j r b => Fated part j r b w) i rs as) :
    InRow (fun j r b => Fated part j r b (settleThrough ts rs w).2) i
      (settleThrough ts rs w).1 as := by
  induction ts generalizing rs w with
  | nil => exact h
  | cons t ts ih =>
      exact ih (InRow.each (R := fun w j r b => Fated part j r b w)
        (fun _ _ _ _ _ hpart hfate => hfate.congr hpart)
        (fun _ _ _ _ hfate => hfate.settleAt t) h).1

theorem InRow.answers (h : InRow (fun j r b => Fated part j r b w) i rs as) :
    rs.map (fun r => (r.settle w).1) = as := by
  induction h with
  | nil => rfl
  | cons hfirst _ ih => rw [List.map_cons, hfirst.answer w rfl, ih]

section Start

variable {ctx : Context} {time : Span} {s : Scene σ} {idle : α} {op : Option (Operation σ α)}

/-- A piece of work that keeps to its part of the world is bound from its start to come to what it
comes to alone. -/
theorem start_fated (hop : ∀ o, op = some o → KeepsTo part s.now i o)
    (hpart : part i w = part i s.world) :
    Fated part i (start ctx time s.now idle op w).1 (alone ctx time idle s op)
        (start ctx time s.now idle op w).2 ∧
      ∀ j, j ≠ i → part j (start ctx time s.now idle op w).2 = part j w := by
  cases op with
  | none => exact ⟨.finished .., fun _ _ => rfl⟩
  | some op =>
      have hkeeps := hop op rfl
      have hlag := hkeeps.lag _ _ hpart
      have halone := run_limited ctx time op s
      cases hdone : (ctx.limited s.now time).error? s.now with
      | some cause =>
          have hskipped : start ctx time s.now idle (some op) w =
              (finished s.now (.error cause), w) := by
            simp only [start, hdone]
          simp only [run, hdone] at halone
          rw [hskipped, alone, ← Option.some.inj halone]
          exact ⟨.finished .., fun _ _ => rfl⟩
      | none =>
          simp only [run, hdone, ← hlag] at halone
          cases hend : (ctx.limited s.now time).ending s.now (op s.now w).lag with
          | none => simp [hend] at halone
          | some e =>
              obtain ⟨stop, cause⟩ := e
              simp only [hend, Option.map_some] at halone
              have hbegun : Fated part i (begun (op s.now w) stop cause)
                  (alone ctx time idle s (some op)) (op s.now w).world := by
                simp only [alone, ← Option.some.inj halone]
                cases cause with
                | some cause => exact ⟨fun _ _ => rfl, fun _ _ _ => rfl⟩
                | none =>
                    refine ⟨fun v hv => congrArg Except.ok ?_,
                      fun j v hj => hkeeps.end_others j w v hj⟩
                    exact hkeeps.answer _ _ _ _ hpart (hv.trans (hkeeps.world _ _ hpart))
              obtain ⟨hfate, hothers⟩ := hbegun.settleAt s.now
              simp only [start, hdone, hend]
              exact ⟨hfate, fun j hj => (hothers j hj).trans (hkeeps.start_others j w hj)⟩

end Start

/-- **Pieces of work that keep to parts of the world of their own** come to just what each of them
comes to alone, whatever the order in which they end. -/
theorem together_apart (ctx : Context) (time : Span) (idle : α) {s : Scene σ}
    {ops : List (Option (Operation σ α))}
    (hops : ∀ i op, ops[i]? = some (some op) → KeepsTo part s.now i op) :
    (together ctx time idle ops s).1 = ops.map (alone ctx time idle s) := by
  have hrow : InRow (fun j op b => (∀ o, op = some o → KeepsTo part s.now j o) ∧
      part j s.world = part j s.world ∧ b = alone ctx time idle s op) 0 ops
      (ops.map (alone ctx time idle s)) := by
    refine .map fun k op hop => ⟨?_, rfl, rfl⟩
    rintro o rfl
    rw [Nat.zero_add]
    exact hops k o hop
  -- Nothing that is started before a piece of work has changed its part of the world.
  have hstarted := (InRow.each (R := fun w j op b =>
    (∀ o, op = some o → KeepsTo part s.now j o) ∧ part j w = part j s.world ∧
      b = alone ctx time idle s op)
    (fun j op b w w' hpart h => ⟨h.1, hpart.trans h.2.1, h.2.2⟩)
    (fun j op b w h => h.2.2 ▸ start_fated h.1 h.2.1) hrow).1
  exact (hstarted.settleThrough _).answers

end Apart

end OutOfBand.Client
