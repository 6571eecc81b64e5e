import OutOfBand.Context

/-!
# When contexts end

A context ends at its cancellation or, as the timers of the clock see it, at the first whole
millisecond that is not before its deadline, whichever comes first: `Context.stop`. Work that runs
under a context ends there too, unless it is ready before (`ending_cases`). A context that is not
done at an instant at which work is ready was not done before, and is done from its stop on.
-/

namespace OutOfBand

namespace Clock

/-- The whole milliseconds, at which timers fire. -/
def Whole (t : Nat) : Prop := 1000000 ∣ t

theorem whole_tick (t : Nat) : Whole (tick t) := ⟨_, Nat.mul_comm _ _⟩

theorem whole_millis (ms : Nat) : Whole (ms * 1000000) := ⟨_, Nat.mul_comm _ _⟩

theorem tick_le_iff {t u : Nat} (h : Whole u) : tick t ≤ u ↔ t ≤ u := by
  unfold Whole at h
  unfold tick
  omega

theorem tick_eq {t : Nat} (h : Whole t) : tick t = t := by
  unfold Whole at h
  unfold tick
  omega

/-- Between whole milliseconds timers are exact. -/
theorem timer_eq {now : Nat} {time : Span} (h : Whole now) (htime : Whole time.ns) :
    timer now time = time := by
  rw [timer, tick_eq (Nat.dvd_add h htime), Nat.add_sub_cancel_left]

theorem tick_min (s t : Nat) : tick (min s t) = min (tick s) (tick t) := by
  unfold tick
  omega

end Clock

namespace Context

open Clock

/-! ## Contexts that are done -/

theorem reached_eq_false_iff {t : Nat} {at? : Option Nat} :
    reached t at? = false ↔ ∀ u, at? = some u → t < u := by
  cases at? with
  | none => simp [reached]
  | some u => simp [reached]

theorem error?_eq_none_iff {ctx : Context} {t : Nat} :
    ctx.error? t = none ↔ (∀ u, ctx.cancelAt = some u → t < u) ∧
      (∀ u, ctx.deadline = some u → t < u) := by
  rw [← reached_eq_false_iff, ← reached_eq_false_iff, error?]
  cases reached t ctx.cancelAt <;> cases reached t ctx.deadline <;> simp

theorem error?_eq_canceled_iff {ctx : Context} {t : Nat} :
    ctx.error? t = some .canceled ↔ reached t ctx.cancelAt = true := by
  rw [error?]
  cases reached t ctx.cancelAt <;> cases reached t ctx.deadline <;> simp

theorem error?_eq_deadlineExceeded_iff {ctx : Context} {t : Nat} :
    ctx.error? t = some .deadlineExceeded ↔
      reached t ctx.cancelAt = false ∧ reached t ctx.deadline = true := by
  rw [error?]
  cases reached t ctx.cancelAt <;> cases reached t ctx.deadline <;> simp

theorem isDone_iff {ctx : Context} {t : Nat} :
    ctx.isDone t = true ↔ reached t ctx.cancelAt = true ∨ reached t ctx.deadline = true := by
  rw [isDone, error?]
  cases reached t ctx.cancelAt <;> cases reached t ctx.deadline <;> simp

theorem reached_earlier (t : Nat) (a b : Option Nat) :
    reached t (earlier a b) = (reached t a || reached t b) := by
  cases a with
  | none => rfl
  | some u =>
      cases b with
      | none => simp [reached, earlier]
      | some v =>
          have hmin : min u v ≤ t ↔ u ≤ t ∨ v ≤ t := by omega
          simp [reached, earlier, hmin]

/-- An instant that has come stays in the past. -/
theorem reached_of_le {s t : Nat} (h : s ≤ t) {at? : Option Nat} (hs : reached s at? = true) :
    reached t at? = true := by
  cases at? with
  | none => exact hs
  | some u =>
      rw [reached, Option.any_some, decide_eq_true_eq] at hs ⊢
      exact Nat.le_trans hs h

/-- A context that is not done was not done before. -/
theorem error?_eq_none_of_le {ctx : Context} {s t : Nat} (h : s ≤ t) (ht : ctx.error? t = none) :
    ctx.error? s = none := by
  rw [error?_eq_none_iff] at ht ⊢
  exact ⟨fun u hu => Nat.lt_of_le_of_lt h (ht.1 u hu), fun u hu => Nat.lt_of_le_of_lt h (ht.2 u hu)⟩

theorem isDone_eq_false_iff {ctx : Context} {t : Nat} :
    ctx.isDone t = false ↔ ctx.error? t = none := by
  simp [isDone]

/-! ## The stop of a context -/

/-- The instant at which a context ends, as timers see it. -/
def stop (ctx : Context) : Option Nat := earlier ctx.cancelAt (ctx.deadline.map tick)

theorem stop_of_deadline {ctx : Context} {d : Nat} (hdeadline : ctx.deadline = some d)
    (hwhole : Whole d) (hcancel : ctx.cancelAt = none) : ctx.stop = some d := by
  rw [stop, hcancel, hdeadline, Option.map_some, tick_eq hwhole, earlier]

theorem lt_stop_iff {ctx : Context} {t : Nat} :
    (∀ u, ctx.stop = some u → t < u) ↔ (∀ u, ctx.cancelAt = some u → t < u) ∧
      (∀ u, ctx.deadline = some u → t < tick u) := by
  rw [stop]
  cases ctx.cancelAt <;> cases ctx.deadline <;>
    simp only [earlier, Option.map_none, Option.map_some, Option.some.injEq, forall_eq', reduceCtorEq,
      false_implies, implies_true, true_and, and_true]
  omega

/-- At the instants at which work can be ready, a context is done from its stop on. -/
theorem error?_eq_none_iff_lt_stop {ctx : Context} {t : Nat} (h : Whole t) :
    ctx.error? t = none ↔ ∀ u, ctx.stop = some u → t < u := by
  rw [error?_eq_none_iff, lt_stop_iff]
  refine and_congr_right fun _ => forall_congr' fun u => imp_congr_right fun _ => ?_
  have := tick_le_iff (t := u) h
  omega

theorem lt_stop_of_error?_eq_none {ctx : Context} {t : Nat} (h : ctx.error? t = none) :
    ∀ u, ctx.stop = some u → t < u := by
  rw [error?_eq_none_iff] at h
  rw [lt_stop_iff]
  exact ⟨h.1, fun u hu => Nat.lt_of_lt_of_le (h.2 u hu) (le_tick u)⟩

theorem error?_stop {ctx : Context} {t : Nat} (h : ctx.stop = some t) :
    ∃ cause, ctx.error? t = some cause := by
  cases he : ctx.error? t with
  | some cause => exact ⟨cause, rfl⟩
  | none => exact absurd (lt_stop_of_error?_eq_none he t h) (Nat.lt_irrefl t)

/-! ## Ready work -/

theorem le_ready (now : Nat) (time : Span) : now ≤ ready now time := by
  unfold ready
  split
  · exact Nat.le_refl now
  · exact Nat.le_trans (Nat.le_add_right ..) (le_tick _)

/-- Work is ready when it is started or at a whole millisecond. -/
theorem ready_eq_or_whole (now : Nat) (time : Span) :
    ready now time = now ∨ Whole (ready now time) := by
  unfold ready
  split
  · exact .inl rfl
  · exact .inr (whole_tick _)

theorem whole_ready {now : Nat} (h : Whole now) (time : Span) : Whole (ready now time) := by
  rcases ready_eq_or_whole now time with heq | hwhole
  · rwa [heq]
  · exact hwhole

/-- A timer fires at the first whole millisecond at which its time is up, and that is when work is
ready that waits for it. -/
theorem ready_timer (now : Nat) (time : Span) :
    ready now (timer now time) = tick (now + time.ns) := by
  have hle : now ≤ tick (now + time.ns) := Nat.le_trans (Nat.le_add_right ..) (le_tick _)
  unfold ready timer
  split
  · next hzero => exact Nat.le_antisymm hle (Nat.le_of_sub_eq_zero hzero)
  · rw [Nat.add_sub_cancel' hle, tick_eq (whole_tick _)]

/-- A context that is not done when work is started is not done when it is ready before the stop. -/
theorem error?_ready {ctx : Context} {now : Nat} {time : Span} (alive : ctx.error? now = none)
    (h : ∀ u, ctx.stop = some u → ready now time < u) : ctx.error? (ready now time) = none := by
  rcases ready_eq_or_whole now time with heq | hwhole
  · rwa [heq]
  · exact (error?_eq_none_iff_lt_stop hwhole).mpr h

/-! ## The end of work -/

theorem sooner_assoc (a b c : Option (Nat × α)) :
    sooner a (sooner b c) = sooner (sooner a b) c := by
  cases a <;> cases b <;> cases c <;> simp only [sooner]
  · grind [sooner]
  · grind [sooner]

theorem error?_cancelAt {ctx : Context} {c : Nat} (h : ctx.cancelAt = some c) :
    ctx.error? c = some .canceled := by
  have hc : reached c ctx.cancelAt = true := by simp [reached, h]
  rw [error?, hc, if_pos rfl]

theorem error?_deadline {ctx : Context} {d t : Nat} (h : ctx.deadline = some d) (hle : d ≤ t)
    (hlt : ∀ c, ctx.cancelAt = some c → t < c) : ctx.error? t = some .deadlineExceeded := by
  have hd : reached t ctx.deadline = true := by simp [reached, h, hle]
  simp [error?, reached_eq_false_iff.mpr hlt, hd]

/-- What ends a context is over at the stop, and is what the context then says of itself. -/
theorem sooner_cancel_deadline (ctx : Context) :
    sooner (ctx.cancelAt.map (·, some .canceled))
      (ctx.deadline.map (tick ·, some .deadlineExceeded)) =
      ctx.stop.map fun t => (t, ctx.error? t) := by
  rw [stop]
  cases hd : ctx.deadline with
  | none =>
      cases hc : ctx.cancelAt with
      | none => simp [sooner, earlier]
      | some c => simp [sooner, earlier, error?_cancelAt hc]
  | some d =>
      have herr := error?_deadline hd (le_tick d)
      simp only [Option.map_some]
      -- From here on nobody need know that the timer fires at a whole millisecond.
      generalize tick d = e at herr ⊢
      cases hc : ctx.cancelAt with
      | none => simp [sooner, earlier, herr (by simp [hc])]
      | some c =>
          rcases Nat.lt_or_ge e c with h | h
          · have hmin : min c e = e := Nat.min_eq_right (Nat.le_of_lt h)
            simp [sooner, earlier, hmin, Nat.not_le.mpr h, herr (by simp [hc, h])]
          · simp [sooner, earlier, h, error?_cancelAt hc]

/-- **The end of work** under a context that is not done: the stop of the context, if there is one
and the work is not ready before; else the instant at which the work is ready; else none. -/
theorem ending_cases (ctx : Context) (now : Nat) (lag : Option Span) :
    (∃ t, ctx.stop = some t ∧ (∀ l, lag = some l → t ≤ ready now l) ∧
      ctx.ending now lag = some (t, ctx.error? t)) ∨
    (∃ l, lag = some l ∧ (∀ u, ctx.stop = some u → ready now l < u) ∧
      ctx.ending now lag = some (ready now l, none)) ∨
    (lag = none ∧ ctx.stop = none ∧ ctx.ending now lag = none) := by
  unfold ending
  rw [sooner_assoc, sooner_cancel_deadline]
  cases ctx.stop with
  | none => cases lag <;> simp [sooner]
  | some t =>
      cases lag with
      | none => simp [sooner]
      | some l =>
          rcases Nat.lt_or_ge (ready now l) t with h | h
          · simp [sooner, h, Nat.not_le.mpr h]
          · simp [sooner, h]

/-- All that can come of work that is run under a context. -/
inductive RunWent (ctx : Context) (op : Operation σ α) (s : Scene σ) :
    Except Interruption α → Scene σ → Prop
  /-- The context is done, so the work is not started. -/
  | done {cause} : ctx.error? s.now = some cause → RunWent ctx op s (.error cause) s
  /-- The context ends before the work is ready. -/
  | cut {t cause} : ctx.error? s.now = none → ctx.stop = some t → ctx.error? t = some cause →
      (∀ l, (op s.now s.world).lag = some l → t ≤ ready s.now l) →
      RunWent ctx op s (.error cause) ⟨t, (op s.now s.world).world⟩
  | ended {l a w} : ctx.error? s.now = none → (op s.now s.world).lag = some l →
      (∀ u, ctx.stop = some u → ready s.now l < u) →
      (op s.now s.world).finish (op s.now s.world).world = (a, w) →
      RunWent ctx op s (.ok a) ⟨ready s.now l, w⟩

theorem run_went {ctx : Context} {op : Operation σ α} {s s' : Scene σ} {r : Except Interruption α}
    (h : ctx.run op s = some (r, s')) : RunWent ctx op s r s' := by
  unfold run at h
  cases hs : ctx.error? s.now with
  | some cause =>
      simp only [hs] at h
      cases h
      exact .done hs
  | none =>
      simp only [hs] at h
      rcases ending_cases ctx s.now (op s.now s.world).lag with
        ⟨t, hstop, hlag, hend⟩ | ⟨l, hlag, hready, hend⟩ | ⟨-, -, hend⟩
      · obtain ⟨cause, hcause⟩ := error?_stop hstop
        rw [hend, hcause] at h
        cases h
        exact .cut hs hstop hcause hlag
      · rw [hend] at h
        cases h
        exact .ended hs hlag hready rfl
      · rw [hend] at h
        cases h

/-- Work comes to an answer only under a context that is not done. -/
theorem alive_of_run {ctx : Context} {op : Operation σ α} {s s' : Scene σ} {a : α}
    (h : ctx.run op s = some (.ok a, s')) : ctx.error? s.now = none := by
  cases run_went h with
  | ended alive _ _ _ => exact alive

/-! ## Work without delay, and pauses -/

/-- A pause leaves the world as it is. -/
theorem sleep_world {ctx : Context} {time : Span} {s s' : Scene σ} {r : Except Interruption Unit}
    (h : ctx.sleep time s = some (r, s')) : s'.world = s.world := by
  cases run_went h with
  | done | cut => rfl
  | ended _ _ _ hfinish =>
      cases hfinish
      rfl

theorem run_instantly {ctx : Context} {op : Operation σ α} {s : Scene σ} {a : α} {w : σ}
    (alive : ctx.error? s.now = none) (hlag : (op s.now s.world).lag = some .zero)
    (hfinish : (op s.now s.world).finish (op s.now s.world).world = (a, w)) :
    ctx.run op s = some (.ok a, ⟨s.now, w⟩) := by
  have hready : ready s.now .zero = s.now := if_pos rfl
  simp only [run, alive, hlag]
  rcases ending_cases ctx s.now (some .zero) with ⟨t, ht, hle, -⟩ | ⟨l, hl, -, hend⟩ | ⟨hl, -⟩
  · -- The context cannot stop at an instant at which it is not done.
    have hlt := lt_stop_of_error?_eq_none alive t ht
    have hge := hle _ rfl
    omega
  · cases hl
    rw [hend, hready]
    simp [settle, hfinish]
  · cases hl

theorem sleep_alive {ctx : Context} {time : Span} {s : Scene σ}
    (alive : ctx.error? (tick (s.now + time.ns)) = none) :
    ctx.sleep time s = some (.ok (), ⟨tick (s.now + time.ns), s.world⟩) := by
  rw [← ready_timer] at alive ⊢
  have hnow : ctx.error? s.now = none := error?_eq_none_of_le (le_ready s.now _) alive
  simp only [sleep, run, hnow]
  rcases ending_cases ctx s.now (some (timer s.now time)) with
    ⟨t, ht, hle, -⟩ | ⟨l, hl, -, hend⟩ | ⟨hl, -⟩
  · have hlt := lt_stop_of_error?_eq_none alive t ht
    have hge := hle _ rfl
    omega
  · cases hl
    rw [hend]
    rfl
  · cases hl

end Context

end OutOfBand
