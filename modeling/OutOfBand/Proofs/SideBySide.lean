import OutOfBand.Proofs.Dispatch.Trial

/-!
# Work side by side

Pieces of work that go on side by side are all started at one instant, in order, unless their common
context is done, and are over when it ends at the latest. Watched, they answer and leave the world
as they do by themselves, and enter their starts in the log in the order in which they are given;
in what order they end does not show in the starts (`together_watched`).
-/

namespace OutOfBand.Client

open Context

/-! ## Watching -/

namespace Running

/-- The same work in a watched world, where its end enters `more` in the log. -/
def watched (r : Running σ α) (more : List (Event σ)) : Running (Watched σ) α where
  stop := r.stop
  settle w := let (a, v) := r.settle w.world; (a, ⟨v, w.log ++ more⟩)

@[simp] theorem watched_stop (r : Running σ α) (more : List (Event σ)) :
    (r.watched more).stop = r.stop := rfl

@[simp] theorem watched_settle (r : Running σ α) (more : List (Event σ)) (w : Watched σ) :
    (r.watched more).settle w = ((r.settle w.world).1, ⟨(r.settle w.world).2, w.log ++ more⟩) := rfl

/-- Work with what its end enters in the log, which is no start. -/
def Quiet (ps : List (Running σ α × List (Event σ))) : Prop := ∀ p ∈ ps, Event.starts p.2 = []

/-- Watched work that goes on side by side. -/
def allWatched (ps : List (Running σ α × List (Event σ))) : List (Running (Watched σ) α) :=
  ps.map fun p => p.1.watched p.2

theorem finished_watched (now : Nat) (result : Except Interruption α) :
    (finished now result : Running (Watched σ) α) = (finished now result).watched [] := by
  simp [finished, watched]

theorem begun_watched (d : Driver σ) (deed : Deed) (op : Operation σ α) (now stop : Nat)
    (cause : Option Interruption) (w : Watched σ) :
    ∃ more, Event.starts more = [] ∧
      begun (op.watched d deed now w) stop cause =
        (begun (op now w.world) stop cause).watched more := by
  cases cause with
  | some cause => exact ⟨[], rfl, by simp [begun, watched]⟩
  | none => exact ⟨[.ended ⟨d, deed, now⟩], rfl, rfl⟩

theorem settleAt_watched (t : Nat) (r : Running σ α) {more : List (Event σ)}
    (hmore : Event.starts more = []) (w : Watched σ) :
    ∃ rest log, Event.starts rest = [] ∧ Event.starts log = [] ∧
      settleAt t (r.watched more) w =
        ((settleAt t r w.world).1.watched rest, ⟨(settleAt t r w.world).2, w.log ++ log⟩) := by
  by_cases h : r.stop = t
  · exact ⟨[], more, rfl, hmore, by simp [settleAt, watched, finished, h]⟩
  · exact ⟨more, [], hmore, rfl, by simp [settleAt, watched, h]⟩

/-- What a log tells of a start under a context that is done or not. -/
def startOf (done : Bool) (now : Nat) (d : Driver σ) (deed : Deed) (op : Option (Operation σ α)) :
    List (Entry σ) :=
  if done = true ∨ op.isNone = true then [] else [⟨d, deed, now⟩]

theorem start_watched (ctx : Context) (time : Span) (now : Nat) (idle : α) (d : Driver σ)
    (deed : Deed) (op : Option (Operation σ α)) (w : Watched σ) :
    ∃ more log, Event.starts more = [] ∧
      Event.starts log = startOf ((ctx.limited now time).isDone now) now d deed op ∧
      start ctx time now idle (op.map (Operation.watched d deed)) w =
        ((start ctx time now idle op w.world).1.watched more,
          ⟨(start ctx time now idle op w.world).2, w.log ++ log⟩) := by
  cases op with
  | none => exact ⟨[], [], rfl, by simp [startOf], by simp [start, finished_watched]⟩
  | some op =>
      cases hdone : (ctx.limited now time).error? now with
      | some cause =>
          refine ⟨[], [], rfl, by simp [startOf, isDone, hdone], ?_⟩
          simp [start, hdone, finished_watched]
      | none =>
          have hlag : (op.watched d deed now w).lag = (op now w.world).lag := rfl
          have hworld : (op.watched d deed now w).world =
              ⟨(op now w.world).world, w.log ++ [.started ⟨d, deed, now⟩]⟩ := rfl
          cases hend : (ctx.limited now time).ending now (op now w.world).lag with
          | none =>
              refine ⟨[], [.started ⟨d, deed, now⟩], rfl, by simp [startOf, isDone, hdone], ?_⟩
              simp [start, hdone, hlag, hend, hworld, finished_watched]
          | some e =>
              obtain ⟨stop, cause⟩ := e
              obtain ⟨more, hmore, hbegun⟩ := begun_watched d deed op now stop cause w
              obtain ⟨rest, log, hrest, hlog, hsettle⟩ := settleAt_watched now
                (begun (op now w.world) stop cause) hmore
                ⟨(op now w.world).world, w.log ++ [.started ⟨d, deed, now⟩]⟩
              refine ⟨rest, .started ⟨d, deed, now⟩ :: log, hrest,
                by simp [startOf, isDone, hdone, hlog], ?_⟩
              simp [start, hdone, hlag, hend, hworld, hbegun, hsettle]

theorem each_map {α₀ : Type} (f : α → σ → Running σ β × σ) (g : α₀ → α) (as : List α₀) (w : σ) :
    each f (as.map g) w = each (fun a => f (g a)) as w := by
  induction as generalizing w with
  | nil => rfl
  | cons a as ih => simp [each, ih]

/-- What holds of each piece of watched work holds of all. -/
theorem each_watched {f : α → Watched σ → Running (Watched σ) β × Watched σ}
    {f₀ : α → σ → Running σ β × σ} {E : α → List (Entry σ)} {as : List α}
    (h : ∀ a ∈ as, ∀ w, ∃ more log, Event.starts more = [] ∧ Event.starts log = E a ∧
      f a w = ((f₀ a w.world).1.watched more, ⟨(f₀ a w.world).2, w.log ++ log⟩))
    (w : Watched σ) :
    ∃ ps log, Quiet ps ∧ ps.map Prod.fst = (each f₀ as w.world).1 ∧
      Event.starts log = as.flatMap E ∧
      each f as w = (allWatched ps, ⟨(each f₀ as w.world).2, w.log ++ log⟩) := by
  induction as generalizing w with
  | nil => exact ⟨[], [], by simp [Quiet], rfl, rfl, by simp [each, allWatched]⟩
  | cons a as ih =>
      obtain ⟨more, log, hmore, hlog, ha⟩ := h a List.mem_cons_self w
      obtain ⟨ps, rest, hps, hfst, hrest, has⟩ := ih (fun b hb => h b (List.mem_cons_of_mem _ hb))
        ⟨(f₀ a w.world).2, w.log ++ log⟩
      refine ⟨((f₀ a w.world).1, more) :: ps, log ++ rest, ?_, ?_, ?_, ?_⟩
      · simpa [Quiet, hmore] using hps
      · simp [each, hfst]
      · simp [hlog, hrest]
      · simp [each, ha, has, allWatched]

theorem settleEach_watched (t : Nat) {ps : List (Running σ α × List (Event σ))} (hps : Quiet ps)
    (w : Watched σ) :
    ∃ qs log, Quiet qs ∧ qs.map Prod.fst = (each (settleAt t) (ps.map Prod.fst) w.world).1 ∧
      Event.starts log = [] ∧ each (settleAt t) (allWatched ps) w =
        (allWatched qs, ⟨(each (settleAt t) (ps.map Prod.fst) w.world).2, w.log ++ log⟩) := by
  rw [allWatched, each_map, each_map]
  obtain ⟨qs, log, hqs, hfst, hlog, h⟩ := each_watched (E := fun _ => [])
    (fun p hp w => settleAt_watched t p.1 (hps p hp) w) w
  exact ⟨qs, log, hqs, hfst, hlog.trans (List.flatMap_eq_nil_iff.mpr fun _ _ => rfl), h⟩

theorem settleThrough_watched (ts : List Nat) {ps : List (Running σ α × List (Event σ))}
    (hps : Quiet ps) (w : Watched σ) :
    ∃ qs log, qs.map Prod.fst = (settleThrough ts (ps.map Prod.fst) w.world).1 ∧
      Event.starts log = [] ∧ settleThrough ts (allWatched ps) w =
        (allWatched qs, ⟨(settleThrough ts (ps.map Prod.fst) w.world).2, w.log ++ log⟩) := by
  induction ts generalizing ps w with
  | nil => exact ⟨ps, [], rfl, rfl, by simp [settleThrough]⟩
  | cons t ts ih =>
      obtain ⟨qs, log, hqs, hfst, hlog, h⟩ := settleEach_watched t hps w
      obtain ⟨rs, rest, hrs, hrest, h'⟩ := ih hqs
        ⟨(each (settleAt t) (ps.map Prod.fst) w.world).2, w.log ++ log⟩
      refine ⟨rs, log ++ rest, ?_, by simp [hlog, hrest], ?_⟩
      · simp [settleThrough, hrs, hfst]
      · simp [settleThrough, h, h', hfst]

theorem stops_watched (ps : List (Running σ α × List (Event σ))) :
    stops (allWatched ps) = stops (ps.map Prod.fst) := by
  simp [stops, allWatched, Function.comp_def]

theorem lastStop_watched (now : Nat) (ps : List (Running σ α × List (Event σ))) :
    lastStop now (allWatched ps) = lastStop now (ps.map Prod.fst) := by
  simp [lastStop, allWatched, List.foldl_map]

end Running

open Running

/-- **Watched work side by side** is the work itself. All of it is started at once, in order, unless
there is no time for it. -/
theorem together_watched (ctx : Context) (time : Span) (idle : α) (drivers : List (Driver σ))
    (deed : Deed) (op? : Driver σ → Option (Operation σ α)) (s : Scene (Watched σ)) :
    ∃ log, Event.starts log = drivers.flatMap (fun d =>
        startOf ((ctx.limited s.now time).isDone s.now) s.now d deed (op? d)) ∧
      together ctx time idle (drivers.map fun d => (op? d).map (Operation.watched d deed)) s =
        ((together ctx time idle (drivers.map op?) s.plain).1,
          (together ctx time idle (drivers.map op?) s.plain).2.watched (s.log ++ log)) := by
  obtain ⟨ps, log, hps, hfst, hlog, hstarts⟩ := each_watched
    (fun d (_ : d ∈ drivers) w => start_watched ctx time s.now idle d deed (op? d) w) s.world
  obtain ⟨qs, rest, hqs, hrest, hsettle⟩ := settleThrough_watched (stops (allWatched ps)) hps
    ⟨(each (fun d => start ctx time s.now idle (op? d)) drivers s.world.world).2,
      s.world.log ++ log⟩
  refine ⟨log ++ rest, by simp [hlog, hrest], ?_⟩
  have hanswers : ∀ v more, (allWatched qs).map (fun r => (r.settle ⟨v, more⟩).1) =
      (qs.map Prod.fst).map fun r => (r.settle v).1 := by
    intro v more
    simp [allWatched, Function.comp_def]
  simp only [together, each_map, hstarts, hsettle, hanswers, lastStop_watched]
  simp only [Scene.plain, Scene.watched, Scene.log, ← hfst, ← stops_watched, hqs, List.append_assoc]

/-! ## Instants -/

namespace Running

@[simp] theorem settleAt_stop (t : Nat) (r : Running σ α) (w : σ) :
    (settleAt t r w).1.stop = r.stop := by
  unfold settleAt
  split
  · exact ‹r.stop = t›.symm
  · rfl

/-- When work ends that was started: at once if there is no time for it, else when its context ends
at the latest. -/
theorem stop_start (ctx : Context) (time : Span) (now : Nat) (idle : α)
    (op : Option (Operation σ α)) (w : σ) :
    now ≤ (start ctx time now idle op w).1.stop ∧
      (∀ u, (ctx.limited now time).stop = some u → (ctx.limited now time).error? now = none →
        (start ctx time now idle op w).1.stop ≤ u) ∧
      ((ctx.limited now time).error? now ≠ none → (start ctx time now idle op w).1.stop = now) := by
  cases op with
  | none => exact ⟨Nat.le_refl now, fun u hu halive =>
      Nat.le_of_lt (lt_stop_of_error?_eq_none halive u hu), fun _ => rfl⟩
  | some op =>
      cases hdone : (ctx.limited now time).error? now with
      | some cause => simp [start, hdone, finished]
      | none =>
          have hlt := lt_stop_of_error?_eq_none hdone
          have hbegun : ∀ stop cause, (begun (op now w) stop cause).stop = stop := by
            intro stop cause
            cases cause <;> rfl
          rcases ending_cases (ctx.limited now time) now (op now w).lag with
            ⟨t, hstop, -, hend⟩ | ⟨lag, -, hready, hend⟩ | ⟨-, -, hend⟩
          · simp [start, hdone, hend, hbegun, hstop, Nat.le_of_lt (hlt t hstop)]
          · simp only [start, hdone, hend, settleAt_stop, hbegun]
            exact ⟨le_ready now lag, fun u hu _ => Nat.le_of_lt (hready u hu), by simp⟩
          · simp only [start, hdone, hend, finished]
            exact ⟨Nat.le_refl now, fun u hu _ => Nat.le_of_lt (hlt u hu), by simp⟩

/-- What holds of each instant at which work ends that was started holds of all of them. -/
theorem each_start_stop {ctx : Context} {time : Span} {now : Nat} {idle : α} {P : Nat → Prop}
    (h : ∀ op w, P (start ctx time now idle (op : Option (Operation σ α)) w).1.stop)
    (ops : List (Option (Operation σ α))) (w : σ) :
    ∀ r ∈ (each (start ctx time now idle) ops w).1, P r.stop := by
  induction ops generalizing w with
  | nil => simp [each]
  | cons op ops ih => simpa [each] using ⟨h op w, ih _⟩

theorem le_lastStop (now : Nat) (rs : List (Running σ α)) : now ≤ lastStop now rs := by
  unfold lastStop
  induction rs generalizing now with
  | nil => exact Nat.le_refl now
  | cons r rs ih => exact Nat.le_trans (Nat.le_max_left ..) (ih (max now r.stop))

theorem lastStop_le {now b : Nat} {rs : List (Running σ α)} (hnow : now ≤ b)
    (h : ∀ r ∈ rs, r.stop ≤ b) : lastStop now rs ≤ b := by
  unfold lastStop
  induction rs generalizing now with
  | nil => exact hnow
  | cons r rs ih =>
      exact ih (Nat.max_le.mpr ⟨hnow, h r List.mem_cons_self⟩) fun r' hr' =>
        h r' (List.mem_cons_of_mem _ hr')

end Running

/-- Work side by side is over when the context ends that all of it has. -/
theorem together_now (ctx : Context) (time : Span) (idle : α) (ops : List (Option (Operation σ α)))
    (s : Scene σ) :
    s.now ≤ (together ctx time idle ops s).2.now ∧
      (∀ u, (ctx.limited s.now time).stop = some u → (ctx.limited s.now time).error? s.now = none →
        (together ctx time idle ops s).2.now ≤ u) ∧
      ((ctx.limited s.now time).error? s.now ≠ none →
        (together ctx time idle ops s).2.now = s.now) := by
  refine ⟨le_lastStop .., fun u hu halive => ?_, fun hdone => ?_⟩
  · refine lastStop_le (Nat.le_of_lt (lt_stop_of_error?_eq_none halive u hu)) ?_
    exact each_start_stop (P := (· ≤ u))
      (fun op w => (stop_start ctx time s.now idle op w).2.1 u hu halive) ops s.world
  · refine Nat.le_antisymm (lastStop_le (Nat.le_refl _) ?_) (le_lastStop ..)
    exact each_start_stop (P := (· ≤ s.now))
      (fun op w => Nat.le_of_eq ((stop_start ctx time s.now idle op w).2.2 hdone)) ops s.world

end OutOfBand.Client
