import OutOfBand.Proofs.Install.Poll
import OutOfBand.Proofs.Ending

/-!
# The rounds of a wait

A wait for a task goes in rounds: a poll that decides nothing, and the pause after it (`Rounds`).
From every stage that it reaches, a wait goes on like one that begins there (`Rounds.await_eq`). A
wait that has an end is some rounds and a last one (`await_eq_some_iff`); one that has none either
goes on in rounds for ever or hangs in a poll (`await_eq_none_iff`).
-/

namespace OutOfBand

theorem Context.sleep_ne_none (ctx : Context) (time : Span) (s : Scene σ) :
    ctx.sleep time s ≠ none := by
  unfold sleep run
  cases ctx.error? s.now with
  | some cause => simp
  | none =>
      rcases ending_cases ctx s.now (some (Clock.timer s.now time)) with
        ⟨t, -, -, h⟩ | ⟨l, -, -, h⟩ | ⟨h, -⟩
      · simp [h]
      · simp [h]
      · cases h

namespace Client.Installer

open Firmware

/-- A stage of a wait: what a poll begins with. -/
structure Stage (σ : Type) where
  /-- Whether the session was just opened since it had expired. -/
  reopened : Bool
  report : Report
  scene : Scene σ

/-- A number of rounds of a wait, from a stage to a stage. -/
inductive Rounds (i : Installer σ) (ctx : Context) (step : Step)
    (question : Operation σ (Except Fault Status)) : Nat → Stage σ → Stage σ → Prop
  | refl (x : Stage σ) : Rounds i ctx step question 0 x x
  | next {n : Nat} {x y : Stage σ} {report after reopened m m'} :
      i.poll ctx step question x.reopened x.report x.scene =
        some (.again report after reopened, m) →
      ctx.sleep after m = some (.ok (), m') →
      Rounds i ctx step question n ⟨reopened, report, m'⟩ y →
      Rounds i ctx step question (n + 1) x y

/-- The last round of a wait, from a stage to its result. -/
inductive LastRound (i : Installer σ) (ctx : Context) (step : Step)
    (question : Operation σ (Except Fault Status)) :
    Stage σ → Except InstallError Report → Scene σ → Prop
  | decided {x : Stage σ} {result s} :
      i.poll ctx step question x.reopened x.report x.scene = some (.finish result, s) →
      LastRound i ctx step question x result s
  | interrupted {x : Stage σ} {report after reopened m cause s} :
      i.poll ctx step question x.reopened x.report x.scene =
        some (.again report after reopened, m) →
      ctx.sleep after m = some (.error cause, s) →
      LastRound i ctx step question x (.error (.interrupted step cause report.lastStatus)) s

section Rounds

variable {i : Installer σ} {ctx : Context} {step : Step}
  {question : Operation σ (Except Fault Status)} {n : Nat} {x y z : Stage σ}

/-- **A wait goes on from each stage like one that begins there.** -/
theorem Rounds.await_eq (h : Rounds i ctx step question n x y) :
    i.await ctx step question x.reopened x.report x.scene =
      i.await ctx step question y.reopened y.report y.scene := by
  induction h with
  | refl => rfl
  | next hpoll hsleep _ ih =>
      rw [await, hpoll]
      simp only [hsleep]
      exact ih

theorem LastRound.await_eq {result : Except InstallError Report} {s : Scene σ}
    (h : LastRound i ctx step question x result s) :
    i.await ctx step question x.reopened x.report x.scene = some (result, s) := by
  cases h with
  | decided hpoll => rw [await, hpoll]
  | interrupted hpoll hsleep =>
      rw [await, hpoll]
      simp only [hsleep]

theorem Rounds.unique (h : Rounds i ctx step question n x y) (h' : Rounds i ctx step question n x z) :
    y = z := by
  induction h with
  | refl =>
      cases h'
      rfl
  | next hpoll hsleep _ ih =>
      cases h' with
      | next hpoll' hsleep' hrest =>
          cases hpoll.symm.trans hpoll'
          cases hsleep.symm.trans hsleep'
          exact ih hrest

theorem Rounds.trans {k : Nat} (h : Rounds i ctx step question n x y)
    (h' : Rounds i ctx step question k y z) : Rounds i ctx step question (n + k) x z := by
  induction h with
  | refl => rwa [Nat.zero_add]
  | next hpoll hsleep _ ih =>
      rw [Nat.succ_add]
      exact .next hpoll hsleep (ih h')

theorem Rounds.split {k : Nat} (h : Rounds i ctx step question (n + k) x z) :
    ∃ y, Rounds i ctx step question n x y ∧ Rounds i ctx step question k y z := by
  induction n generalizing x with
  | zero =>
      rw [Nat.zero_add] at h
      exact ⟨x, .refl x, h⟩
  | succ n ih =>
      rw [Nat.succ_add] at h
      cases h with
      | next hpoll hsleep hrest =>
          obtain ⟨y, hfirst, hmore⟩ := ih hrest
          exact ⟨y, .next hpoll hsleep hfirst, hmore⟩

theorem LastRound.not_rounds {result : Except InstallError Report} {s : Scene σ}
    (h : LastRound i ctx step question x result s) : ¬ Rounds i ctx step question (n + 1) x y := by
  intro h'
  cases h' with
  | next hpoll' hsleep' _ =>
      cases h with
      | decided hpoll => cases hpoll.symm.trans hpoll'
      | interrupted hpoll hsleep =>
          cases hpoll.symm.trans hpoll'
          cases hsleep.symm.trans hsleep'

/-- **A wait that has an end** is some rounds and a last one. -/
theorem await_eq_some_iff {result : Except InstallError Report} {s : Scene σ} :
    i.await ctx step question x.reopened x.report x.scene = some (result, s) ↔
      ∃ n y, Rounds i ctx step question n x y ∧ LastRound i ctx step question y result s := by
  constructor
  · -- A fixed point gives an answer only by giving it after finitely many rounds.
    refine await.partial_correctness i ctx step question
      (fun reopened report s r => ∃ n y, Rounds i ctx step question n ⟨reopened, report, s⟩ y ∧
        LastRound i ctx step question y r.1 r.2) ?_ x.reopened x.report x.scene (result, s)
    rintro wait ih reopened report s ⟨result, s'⟩ h
    cases hpoll : i.poll ctx step question reopened report s with
    | none => simp [hpoll] at h
    | some turn =>
        obtain ⟨⟨result'⟩ | ⟨report', after, reopened'⟩, m⟩ := turn
        · simp only [hpoll] at h
          cases h
          exact ⟨0, _, .refl _, .decided hpoll⟩
        · simp only [hpoll] at h
          cases hsleep : ctx.sleep after m with
          | none => exact absurd hsleep (ctx.sleep_ne_none after m)
          | some pause =>
              obtain ⟨cause | _, m'⟩ := pause
              · simp only [hsleep] at h
                cases h
                exact ⟨0, _, .refl _, .interrupted hpoll hsleep⟩
              · simp only [hsleep] at h
                obtain ⟨n, y, hrounds, hlast⟩ := ih _ _ _ _ h
                exact ⟨n + 1, y, .next hpoll hsleep hrounds, hlast⟩
  · rintro ⟨n, y, hrounds, hlast⟩
    rw [hrounds.await_eq, hlast.await_eq]

/-- **A wait that has no end** goes on in rounds for ever, or hangs in the poll after some. -/
theorem await_eq_none_iff :
    i.await ctx step question x.reopened x.report x.scene = none ↔
      (∀ n, ∃ y, Rounds i ctx step question n x y) ∨
      ∃ n y, Rounds i ctx step question n x y ∧
        i.poll ctx step question y.reopened y.report y.scene = none := by
  constructor
  · intro hnone
    by_cases hhang : ∃ n y, Rounds i ctx step question n x y ∧
        i.poll ctx step question y.reopened y.report y.scene = none
    · exact .inr hhang
    refine .inl fun n => ?_
    -- As long as the wait has no end and no poll hangs, there is one round more.
    induction n with
    | zero => exact ⟨x, .refl x⟩
    | succ n ih =>
        obtain ⟨y, hrounds⟩ := ih
        rw [hrounds.await_eq] at hnone
        cases hpoll : i.poll ctx step question y.reopened y.report y.scene with
        | none => exact absurd ⟨n, y, hrounds, hpoll⟩ hhang
        | some turn =>
            obtain ⟨⟨result⟩ | ⟨report, after, reopened⟩, m⟩ := turn
            · rw [(LastRound.decided hpoll).await_eq] at hnone
              cases hnone
            · cases hsleep : ctx.sleep after m with
              | none => exact absurd hsleep (ctx.sleep_ne_none after m)
              | some pause =>
                  obtain ⟨cause | _, m'⟩ := pause
                  · rw [(LastRound.interrupted hpoll hsleep).await_eq] at hnone
                    cases hnone
                  · exact ⟨_, hrounds.trans (.next hpoll hsleep (.refl _))⟩
  · rintro (hforever | ⟨n, y, hrounds, hpoll⟩)
    · cases hend : i.await ctx step question x.reopened x.report x.scene with
      | none => rfl
      | some r =>
          -- An end comes after some rounds, but there is one round more than that.
          obtain ⟨n, y, hrounds, hlast⟩ := await_eq_some_iff.mp hend
          obtain ⟨z, hmore⟩ := hforever (n + 1)
          obtain ⟨y', hrounds', hround⟩ := hmore.split
          cases hrounds.unique hrounds'
          exact absurd hround hlast.not_rounds
    · rw [hrounds.await_eq, await, hpoll]

end Rounds

end Client.Installer

end OutOfBand
