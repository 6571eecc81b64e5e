import OutOfBand.Proofs.Ending
import OutOfBand.Proofs.Watch

/-!
# The turn of a driver

When its turn comes, a driver has so much time, under a context that is not done. `Trial` says how
the turn can end, in terms of three instants only: when the work is ready, when the driver's time is
up, and when the context ends. An answer counts only if it is ready before the two others; of those
two the context comes first where they coincide. A driver that gets no time at all is not started.

`attempt_trial` shows that an attempt is such a turn, and what a log tells of it.
-/

namespace OutOfBand.Client

open Context

/-- How the turn of a driver ends. -/
inductive Verdict (α : Type) where
  | accepted (a : α)
  /-- The driver failed in time, or said that the order was not carried out. -/
  | refused (f : Fault)
  /-- The driver's time was up. -/
  | timedOut
  /-- There was no time for the driver, so it was not started. -/
  | skipped
  | cut (cause : Interruption)

namespace Verdict

/-- Whether the call goes on after the turn. -/
def passed : Verdict α → Bool
  | refused _ | timedOut | skipped => true
  | accepted _ | cut _ => false

/-- What the attempt comes to whose turn ends so. -/
def Shows : Verdict α → Except Interruption (Except Fault α) → Prop
  | accepted a, r => r = .ok (.ok a)
  | refused f, r => r = .ok (.error f)
  | timedOut, r | skipped, r | cut _, r => ∃ cause, r = .error cause

end Verdict

/-- The instant at which the time of a driver is up that is started at the instant `now`. -/
def expiry (now : Nat) (time : Span) : Nat := Clock.tick (now + time.ns)

/-- Work that is ready before the driver's time is up and before the context ends. -/
def InTime (ctx : Context) (time : Span) (now : Nat) (lag : Span) : Prop :=
  ready now lag < expiry now time ∧ ∀ u, ctx.stop = some u → ready now lag < u

/-- The turn of a driver that does the work `op` in a scene, how it ends, and the scene after it. -/
inductive Trial (ctx : Context) (time : Span) (op : Operation σ (Except Fault α)) (s : Scene σ) :
    Verdict α → Scene σ → Prop
  | accepted {lag a w} : 0 < time.ns → (op s.now s.world).lag = some lag →
      InTime ctx time s.now lag →
      (op s.now s.world).finish (op s.now s.world).world = (.ok a, w) →
      Trial ctx time op s (.accepted a) ⟨ready s.now lag, w⟩
  | refused {lag f w} : 0 < time.ns → (op s.now s.world).lag = some lag →
      InTime ctx time s.now lag →
      (op s.now s.world).finish (op s.now s.world).world = (.error f, w) →
      Trial ctx time op s (.refused f) ⟨ready s.now lag, w⟩
  | timedOut : 0 < time.ns →
      (∀ lag, (op s.now s.world).lag = some lag → expiry s.now time ≤ ready s.now lag) →
      (∀ u, ctx.stop = some u → expiry s.now time < u) →
      Trial ctx time op s .timedOut ⟨expiry s.now time, (op s.now s.world).world⟩
  | cut {t cause} : 0 < time.ns → ctx.stop = some t → ctx.error? t = some cause →
      (∀ lag, (op s.now s.world).lag = some lag → t ≤ ready s.now lag) →
      t ≤ expiry s.now time →
      Trial ctx time op s (.cut cause) ⟨t, (op s.now s.world).world⟩
  | skipped : time.ns = 0 → Trial ctx time op s .skipped s

/-! ## An attempt is a turn -/

theorem le_expiry (now : Nat) (time : Span) : now ≤ expiry now time :=
  Nat.le_trans (Nat.le_add_right ..) (Clock.le_tick _)

theorem expiry_of_whole {now : Nat} (h : Clock.Whole now) (time : Span) :
    expiry now time = now + Clock.tick time.ns := by
  unfold Clock.Whole at h
  unfold expiry Clock.tick
  omega

theorem stop_limited (ctx : Context) (now : Nat) (time : Span) :
    (ctx.limited now time).stop = earlier ctx.stop (some (expiry now time)) := by
  cases hc : ctx.cancelAt <;> cases hd : ctx.deadline <;>
    simp [stop, limited, earlier, expiry, hc, hd, Clock.tick_min, Nat.min_assoc]

theorem error?_limited {ctx : Context} {now : Nat} {time : Span} (alive : ctx.error? now = none) :
    (ctx.limited now time).error? now = none ↔ 0 < time.ns := by
  rw [error?_eq_none_iff] at alive ⊢
  cases hd : ctx.deadline with
  | none => simp [limited, earlier, hd]; exact fun _ => alive.1
  | some d =>
      have hlt := alive.2 d hd
      simp [limited, earlier, hd]
      exact ⟨fun h => by omega, fun h => ⟨alive.1, by omega⟩⟩

theorem inTime_of_lt_stop_limited {ctx : Context} {time : Span} {now : Nat} {lag : Span}
    (h : ∀ u, (ctx.limited now time).stop = some u → ready now lag < u) :
    InTime ctx time now lag := by
  rw [stop_limited] at h
  cases hu : ctx.stop with
  | none =>
      rw [hu] at h
      exact ⟨h _ rfl, by simp [hu]⟩
  | some u =>
      rw [hu] at h
      have hlt : ready now lag < min u (expiry now time) := h _ rfl
      exact ⟨by omega, fun u' hu' => by cases hu.symm.trans hu'; omega⟩

/-- The limited context stops where the turn is cut or the driver's time is up. -/
theorem stop_limited_cases {ctx : Context} {time : Span} {now t : Nat}
    (h : (ctx.limited now time).stop = some t) :
    (ctx.stop = some t ∧ t ≤ expiry now time) ∨
    (t = expiry now time ∧ ∀ u, ctx.stop = some u → expiry now time < u) := by
  rw [stop_limited] at h
  cases hu : ctx.stop with
  | none =>
      rw [hu] at h
      exact .inr ⟨(Option.some.inj h).symm, by simp⟩
  | some u =>
      rw [hu] at h
      have hmin : min u (expiry now time) = t := Option.some.inj h
      rcases Nat.lt_or_ge (expiry now time) u with hlt | hge
      · refine .inr ⟨by omega, fun u' hu' => ?_⟩
        cases hu'
        exact hlt
      · exact .inl ⟨by rw [← hmin, Nat.min_eq_left hge], by omega⟩

/-- **An attempt is a turn.** Under a context that is not done, an attempt comes to what the turn of
the driver shows, and leaves the scene that the turn leaves. -/
theorem attempt_trial {ctx : Context} {time : Span} (op : Operation σ (Except Fault α))
    {s : Scene σ} (alive : ctx.error? s.now = none) :
    ∃ v, Trial ctx time op s v (ctx.attempt time op s).2 ∧ v.Shows (ctx.attempt time op s).1 := by
  have hrun := run_limited ctx time op s
  generalize ctx.attempt time op s = p at hrun ⊢
  obtain ⟨r, m⟩ := p
  cases run_went hrun with
  | @done cause hsub =>
      have hzero : ¬0 < time.ns := by simp [← error?_limited alive, hsub]
      exact ⟨.skipped, .skipped (by omega), cause, rfl⟩
  | @cut t cause hsub hstop _ hlag =>
      -- The driver is stopped: by the call, or because its own time is up.
      have hpos := (error?_limited alive).mp hsub
      rcases stop_limited_cases hstop with ⟨hu, hle⟩ | ⟨rfl, hlater⟩
      · obtain ⟨cause', hcause'⟩ := error?_stop hu
        exact ⟨.cut cause', .cut hpos hu hcause' hlag hle, cause, rfl⟩
      · exact ⟨.timedOut, .timedOut hpos hlag hlater, cause, rfl⟩
  | @ended lag answer w hsub hlag hready hfinish =>
      have hpos := (error?_limited alive).mp hsub
      have hin := inTime_of_lt_stop_limited hready
      cases answer with
      | ok a => exact ⟨.accepted a, .accepted hpos hlag hin hfinish, rfl⟩
      | error f => exact ⟨.refused f, .refused hpos hlag hin hfinish, rfl⟩

/-! ## After a turn -/

/-- The call is not over if the driver has answered or has been passed over. -/
theorem Trial.alive {ctx : Context} {time : Span} {op : Operation σ (Except Fault α)}
    {s s' : Scene σ} {v : Verdict α} (h : Trial ctx time op s v s')
    (alive : ctx.error? s.now = none) (hv : ∀ cause, v ≠ .cut cause) :
    ctx.error? s'.now = none := by
  cases h with
  | accepted _ _ hin _ => exact error?_ready alive hin.2
  | refused _ _ hin _ => exact error?_ready alive hin.2
  | timedOut _ _ hlater => exact (error?_eq_none_iff_lt_stop (Clock.whole_tick _)).mpr hlater
  | cut => exact absurd rfl (hv _)
  | skipped => exact alive

theorem Trial.error?_of_cut {ctx : Context} {time : Span} {op : Operation σ (Except Fault α)}
    {s s' : Scene σ} {cause : Interruption} (h : Trial ctx time op s (.cut cause) s') :
    ctx.error? s'.now = some cause := by
  cases h with
  | cut _ _ hcause _ _ => exact hcause

end OutOfBand.Client
