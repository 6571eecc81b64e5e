import OutOfBand.Proofs.Dispatch.Course
import OutOfBand.Proofs.SideBySide

/-!
# Obedience to a context

Work obeys a context if it is over by the time at which the context ends, takes no time at all under
a context that is done, and starts nothing at an instant at which the context is done (`Obeys`).
Work that obeys may follow work that obeys, so it is enough to look at the pieces: single pieces of
work, attempts, pauses, the loop over the drivers of a dispatch, and work side by side.
-/

namespace OutOfBand

open Context

/-! ## Instants -/

/-- Something goes on from the instant `t` until the instant `t'`, as a context lets it. -/
structure Timely (ctx : Context) (t t' : Nat) : Prop where
  later : t ≤ t'
  inTime : ctx.error? t = none → ∀ u, ctx.stop = some u → t' ≤ u
  still : ctx.error? t ≠ none → t' = t

namespace Timely

variable {ctx : Context} {t t' t'' : Nat}

theorem refl (ctx : Context) (t : Nat) : Timely ctx t t where
  later := Nat.le_refl t
  inTime halive u hu := Nat.le_of_lt (lt_stop_of_error?_eq_none halive u hu)
  still _ := rfl

theorem trans (h : Timely ctx t t') (h' : Timely ctx t' t'') : Timely ctx t t'' where
  later := Nat.le_trans h.later h'.later
  inTime halive u hu := by
    by_cases hmid : ctx.error? t' = none
    · exact h'.inTime hmid u hu
    · exact h'.still hmid ▸ h.inTime halive u hu
  still hdone := by
    have hmid := h.still hdone
    rw [← hmid] at hdone
    rw [h'.still hdone, hmid]

end Timely

theorem Context.error?_eq_none_of_limited {ctx : Context} {now t : Nat} {time : Span}
    (h : (ctx.limited now time).error? t = none) : ctx.error? t = none := by
  rw [error?_eq_none_iff] at h ⊢
  refine ⟨h.1, fun d hd => ?_⟩
  have hlt := h.2 (min d (now + time.ns)) (by simp [limited, earlier, hd])
  omega

/-- What keeps to a part of the time keeps to all of it. -/
theorem Timely.of_limited {ctx : Context} {t t' : Nat} {time : Span}
    (h : Timely (ctx.limited t time) t t') : Timely ctx t t' where
  later := h.later
  inTime halive u hu := by
    by_cases hpos : 0 < time.ns
    · have hstop : (ctx.limited t time).stop = some (min u (Client.expiry t time)) := by
        rw [Client.stop_limited, hu, earlier]
      have hle := h.inTime ((Client.error?_limited halive).mpr hpos) _ hstop
      omega
    · rw [h.still fun hnone => hpos ((Client.error?_limited halive).mp hnone)]
      exact (Timely.refl ctx t).inTime halive u hu
  still hdone := h.still fun hnone => hdone (error?_eq_none_of_limited hnone)

theorem run_timely {ctx : Context} {op : Operation σ α} {s s' : Scene σ} {r : Except Interruption α}
    (h : ctx.run op s = some (r, s')) : Timely ctx s.now s'.now := by
  cases run_went h with
  | done => exact .refl ctx s.now
  | @cut t cause alive hstop _ _ =>
      have hle := Nat.le_of_lt (lt_stop_of_error?_eq_none alive t hstop)
      refine ⟨hle, fun _ u hu => ?_, fun hdone => absurd alive hdone⟩
      cases hstop.symm.trans hu
      exact Nat.le_refl _
  | ended alive _ hready _ =>
      exact ⟨le_ready _ _, fun _ u hu => Nat.le_of_lt (hready u hu),
        fun hdone => absurd alive hdone⟩

/-- Work that is run has an end if its context has one. -/
theorem run_ne_none {ctx : Context} (hstop : ctx.stop ≠ none) (op : Operation σ α) (s : Scene σ) :
    ctx.run op s ≠ none := by
  unfold Context.run
  cases ctx.error? s.now with
  | some cause => simp
  | none =>
      rcases ending_cases ctx s.now (op s.now s.world).lag with
        ⟨t, -, -, h⟩ | ⟨lag, -, -, h⟩ | ⟨-, hnone, -⟩
      · simp [h]
      · simp [h]
      · exact absurd hnone hstop

/-! ## Obedience -/

/-- From the scene `s` to the scene `s'`, what was done obeyed a context. -/
structure Obeys (ctx : Context) (s s' : Scene (Watched σ)) : Prop where
  timely : Timely ctx s.now s'.now
  starts : ∃ log, s'.log = s.log ++ log ∧ ∀ e ∈ Event.starts log, ctx.error? e.start = none

namespace Obeys

variable {ctx : Context} {s m s' : Scene (Watched σ)}

theorem of_quiet (htimely : Timely ctx s.now s'.now) (hlog : s'.log = s.log) : Obeys ctx s s' :=
  ⟨htimely, [], by simp [hlog], by simp⟩

theorem refl (ctx : Context) (s : Scene (Watched σ)) : Obeys ctx s s :=
  .of_quiet (.refl ctx s.now) rfl

theorem trans (h : Obeys ctx s m) (h' : Obeys ctx m s') : Obeys ctx s s' := by
  obtain ⟨log, hlog, hstarts⟩ := h.starts
  obtain ⟨more, hmore, hstarts'⟩ := h'.starts
  refine ⟨h.timely.trans h'.timely, log ++ more, by rw [hmore, hlog, List.append_assoc], ?_⟩
  rw [Event.starts_append]
  exact fun e he => (List.mem_append.mp he).elim (hstarts e) (hstarts' e)

theorem of_limited {time : Span} (h : Obeys (ctx.limited s.now time) s s') : Obeys ctx s s' := by
  obtain ⟨log, hlog, hstarts⟩ := h.starts
  exact ⟨h.timely.of_limited, log, hlog, fun e he => error?_eq_none_of_limited (hstarts e he)⟩

end Obeys

section Pieces

variable {ctx : Context} {s s' : Scene (Watched σ)}

theorem run_obeys {d : Driver σ} {deed : Deed} {op : Operation σ α} {r : Except Interruption α}
    (h : ctx.run (op.watched d deed) s = some (r, s')) : Obeys ctx s s' := by
  refine ⟨run_timely h, ?_⟩
  rw [run_watched] at h
  obtain ⟨⟨r', m⟩, -, hpair⟩ := Option.map_eq_some_iff.mp h
  cases hpair
  refine ⟨_, rfl, fun e he => ?_⟩
  -- Under a context that is done the log is left as it was.
  cases hdone : ctx.isDone s.now with
  | true => cases r <;> simp [Entry.heard, hdone] at he
  | false =>
      have hentry : e = ⟨d, deed, s.now⟩ := by
        cases r <;> simpa [Entry.heard, hdone] using he
      rw [hentry]
      exact isDone_eq_false_iff.mp hdone

theorem attempt_obeys (time : Span) (d : Driver σ) (deed : Deed) (op : Operation σ α) :
    Obeys ctx s (ctx.attempt time (op.watched d deed) s).2 :=
  .of_limited (run_obeys (run_limited ctx time (op.watched d deed) s))

theorem sleep_obeys {time : Span} {r : Except Interruption Unit}
    (h : ctx.sleep time s = some (r, s')) : Obeys ctx s s' :=
  .of_quiet (run_timely h) (congrArg Watched.log (sleep_world h))

namespace Client

theorem tryEach_obeys (operation : String) (time : Span) (c : Call) (drivers : List (Driver σ))
    (failures : List Failure) (record : Metadata) :
    Obeys ctx s (Dispatched.tryEach ctx operation time
      (drivers.map fun d => ⟨d.name, work d.watched c⟩) failures record s).scene := by
  induction drivers generalizing failures record s with
  | nil => exact .refl ctx s
  | cons d ds ih =>
      have hturn : Obeys ctx s (ctx.attempt time (work d.watched c) s).2 :=
        attempt_obeys time d (.call c) (work d c)
      simp only [List.map_cons, Dispatched.tryEach]
      cases h : ctx.attempt time (work d.watched c) s with
      | mk r m =>
          rw [h] at hturn
          rcases r with cause | ⟨f | answer⟩
          · simp only
            cases ctx.error? m.now with
            | some cause => exact hturn
            | none => exact hturn.trans (ih _ _)
          · exact hturn.trans (ih _ _)
          · exact hturn

theorem dispatch_obeys (registry : List (Driver σ)) (client : Option Span) (c : Call) :
    Obeys ctx s (dispatch ctx (registry.map Driver.watched) client c s).scene := by
  unfold dispatch
  cases ctx.error? s.now with
  | some cause => exact .refl ctx s
  | none =>
      rw [eligible_watched]
      cases eligible registry c with
      | nil => exact .refl ctx s
      | cons d ds =>
          have hloop : Obeys ctx s _ := tryEach_obeys c.feature.tag
            (Budget.perDriver ctx s.now (d :: ds).length client) c (d :: ds) [] {}
          simpa [List.map_map, Function.comp_def] using hloop

theorem together_obeys (time : Span) (idle : α) (drivers : List (Driver σ)) (deed : Deed)
    (op? : Driver σ → Option (Operation σ α)) :
    Obeys ctx s (together ctx time idle
      (drivers.map fun d => (op? d).map (Operation.watched d deed)) s).2 := by
  obtain ⟨log, hstarts, h⟩ := together_watched ctx time idle drivers deed op? s
  obtain ⟨hlater, hinTime, hstill⟩ := together_now ctx time idle
    (drivers.map fun d => (op? d).map (Operation.watched d deed)) s
  refine .of_limited ⟨⟨hlater, fun halive u hu => hinTime u hu halive, hstill⟩, log, ?_,
    fun e he => ?_⟩
  · rw [h]
    rfl
  · rw [hstarts] at he
    obtain ⟨d, -, hd⟩ := List.mem_flatMap.mp he
    unfold Running.startOf at hd
    split at hd
    · cases hd
    · next hcan =>
        cases List.mem_singleton.mp hd
        exact isDone_eq_false_iff.mp (by simpa using fun h => hcan (.inl h))

end Client

end Pieces

end OutOfBand
