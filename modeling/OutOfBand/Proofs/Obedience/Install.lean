import OutOfBand.Proofs.Install.Plain
import OutOfBand.Proofs.Obedience.Pieces

/-!
# Installs obey their context

Every part of an install obeys its context, waits included, since each round of a wait does. Under a
context that has an end an install comes to one too: each round of a wait takes some time, since it
ends with a pause, and there is only so much time until the context ends (`await_ne_none`).
-/

namespace OutOfBand.Client

open Context Firmware

variable {i : Installer σ} {ctx : Context} {step : Step} {report : Report}
  {s s' : Scene (Watched σ)}

/-! ## Parts of a round -/

theorem perform_obeys {d : Driver σ} {deed : Deed} {op : Operation σ (Except Fault α)}
    {result : Except InstallError α}
    (h : Installer.perform ctx step report (op.watched d deed) s = some (result, s')) :
    Obeys ctx s s' := by
  obtain ⟨⟨r, m⟩, hrun, hpair⟩ := Option.map_eq_some_iff.mp h
  rcases r with cause | ⟨f | a⟩ <;> cases hpair <;> exact run_obeys hrun

theorem order_obeys (c : Call) {note : c.Answer → Report} {result : Except InstallError Report}
    (h : (i.watched.require ctx step report c s).map (fun (r, s) => (r.map note, s)) =
      some (result, s')) : Obeys ctx s s' := by
  obtain ⟨r, hwent, -⟩ := Installer.order_went h
  cases hwent with
  | missing => exact .refl ctx s
  | performed hperform => exact perform_obeys hperform

theorem control_obeys (c : Call) : Obeys ctx s (i.watched.control ctx step report c s).2 := by
  have h : Obeys ctx s (dispatch ctx (i.host.registry.map Driver.watched)
      i.host.config.perProvider c s).scene := dispatch_obeys _ _ c
  unfold Installer.control
  simp only [Installer.watched, Client.watched]
  split <;> exact h

theorem reopen_obeys {expired : Fault} {turn : Installer.Turn}
    (h : ReopenWent i.watched ctx step report expired s turn s') : Obeys ctx s s' := by
  -- A session of a watched driver is one of the driver's, watched.
  have hlogin : ∀ {k r}, i.watched.driver.capabilities.connection = some k →
      ctx.run k.login s = some (r, s') → Obeys ctx s s' := by
    intro k r hk hrun
    obtain ⟨connection, -, rfl⟩ := Option.map_eq_some_iff.mp hk
    exact run_obeys hrun
  cases h with
  | disconnected => exact .refl ctx s
  | opened hk hrun | unreachable hk hrun _ | refused hk hrun _ | interrupted hk hrun =>
      exact hlogin hk hrun

theorem obey_obeys {status : Status} {turn : Installer.Turn}
    (h : ObeyWent i.watched ctx step report status s turn s') : Obeys ctx s s' := by
  cases h with
  | complete | failed | pending => exact .refl ctx s
  | @controlled c r m _ hcontrol =>
      have hobeys : Obeys ctx s
          (i.watched.control ctx step { report with last := some status } c s).2 :=
        control_obeys c
      rw [hcontrol] at hobeys
      exact hobeys

/-! ## Waits -/

section Wait

variable {question : Call} {op : Operation σ (Except Fault Status)}

theorem poll_obeys {reopened : Bool} {turn : Installer.Turn}
    (h : i.watched.poll ctx step (op.watched i.driver (.call question)) reopened report s =
      some (turn, s')) : Obeys ctx s s' := by
  cases poll_went h with
  | interrupted hrun | unreachable hrun _ | refused hrun _ _ => exact run_obeys hrun
  | answered hrun hobey => exact (run_obeys hrun).trans (obey_obeys hobey)
  | expired hrun _ _ hreopen => exact (run_obeys hrun).trans (reopen_obeys hreopen)

theorem rounds_obeys {n : Nat} {x y : Installer.Stage (Watched σ)}
    (h : i.watched.Rounds ctx step (op.watched i.driver (.call question)) n x y) :
    Obeys ctx x.scene y.scene := by
  induction h with
  | refl x => exact .refl ctx x.scene
  | next hpoll hsleep _ ih => exact (poll_obeys hpoll).trans ((sleep_obeys hsleep).trans ih)

theorem lastRound_obeys {x : Installer.Stage (Watched σ)} {result : Except InstallError Report}
    (h : i.watched.LastRound ctx step (op.watched i.driver (.call question)) x result s') :
    Obeys ctx x.scene s' := by
  cases h with
  | decided hpoll => exact poll_obeys hpoll
  | interrupted hpoll hsleep => exact (poll_obeys hpoll).trans (sleep_obeys hsleep)

/-! ### Ends of waits -/

/-- A wait goes on after one of the two times that its pacing knows. -/
theorem after_of_poll {i : Installer σ} {s s' : Scene σ}
    {question : Operation σ (Except Fault Status)} {reopened reopened' : Bool} {report' : Report}
    {after : Span}
    (h : i.poll ctx step question reopened report s = some (.again report' after reopened', s')) :
    after = i.pacing.interval ∨ after = i.pacing.backoff := by
  cases poll_went h with
  | unreachable => exact .inr rfl
  | answered _ hobey =>
      cases hobey with
      | pending => exact .inl rfl
  | expired _ _ _ hreopen =>
      cases hreopen with
      | opened => exact .inl rfl
      | unreachable => exact .inr rfl

/-- A pause that is not cut short takes some time and leaves the context alive. -/
theorem lt_of_sleep {time : Span} (hpos : 0 < time.ns)
    (h : ctx.sleep time s = some (.ok (), s')) :
    s.now < s'.now ∧ ∀ u, ctx.stop = some u → s'.now < u := by
  cases run_went h with
  | ended _ hlag hready _ =>
      cases hlag
      rw [ready_timer] at hready ⊢
      have hlater : s.now < Clock.tick (s.now + time.ns) :=
        Nat.lt_of_lt_of_le (Nat.lt_add_of_pos_right hpos) (Clock.le_tick _)
      exact ⟨hlater, hready⟩

/-- Rounds take some time each, and all of them are over before the context ends. -/
theorem rounds_now {n : Nat} {x y : Installer.Stage (Watched σ)}
    (hinterval : 0 < i.pacing.interval.ns) (hbackoff : 0 < i.pacing.backoff.ns)
    (h : i.watched.Rounds ctx step (op.watched i.driver (.call question)) n x y) :
    x.scene.now + n ≤ y.scene.now ∧ (0 < n → ∀ u, ctx.stop = some u → y.scene.now < u) := by
  induction h with
  | refl x => exact ⟨Nat.le_refl _, fun h => absurd h (Nat.lt_irrefl 0)⟩
  | @next n x y report after reopened m m' hpoll hsleep hrest ih =>
      have hpos : 0 < after.ns := by
        rcases after_of_poll hpoll with rfl | rfl
        · exact hinterval
        · exact hbackoff
      obtain ⟨hlater, hbefore⟩ := lt_of_sleep hpos hsleep
      have hpolled := (poll_obeys hpoll).timely.later
      refine ⟨by have := ih.1; simp only at this; omega, fun _ => ?_⟩
      cases hrest with
      | refl => exact hbefore
      | next hpoll' hsleep' hrest' => exact ih.2 (Nat.succ_pos _)

/-- A single poll hangs only under a context without an end. -/
theorem poll_ne_none (hstop : ctx.stop ≠ none) {reopened : Bool} :
    i.watched.poll ctx step (op.watched i.driver (.call question)) reopened report s ≠ none := by
  intro h
  unfold Installer.poll at h
  cases hrun : ctx.run (op.watched i.driver (.call question)) s with
  | none => exact run_ne_none hstop _ s hrun
  | some p =>
      obtain ⟨r, m⟩ := p
      rcases r with cause | ⟨f | status⟩ <;> simp only [hrun] at h
      · cases h
      · split at h
        · cases h
        · split at h
          · unfold Installer.reopen at h
            cases hconnection : i.watched.driver.capabilities.connection with
            | none => simp [hconnection] at h
            | some connection =>
                simp only [hconnection] at h
                exact run_ne_none hstop _ m (Option.map_eq_none_iff.mp h)
          · cases h
      · cases h

/-- **A wait under a context that has an end** comes to one: as many rounds as the context has
nanoseconds take all of its time. -/
theorem await_ne_none (hstop : ctx.stop ≠ none) (hinterval : 0 < i.pacing.interval.ns)
    (hbackoff : 0 < i.pacing.backoff.ns) {reopened : Bool} :
    i.watched.await ctx step (op.watched i.driver (.call question)) reopened report s ≠ none := by
  intro h
  obtain ⟨u, hu⟩ := Option.ne_none_iff_exists'.mp hstop
  rcases (Installer.await_eq_none_iff (x := ⟨reopened, report, s⟩)).mp h with
    hforever | ⟨n, y, -, hpoll⟩
  · obtain ⟨y, hrounds⟩ := hforever (u + 1)
    obtain ⟨hlong, hbefore⟩ := rounds_now hinterval hbackoff hrounds
    have := hbefore (Nat.succ_pos u) u hu
    omega
  · exact poll_ne_none hstop hpoll

end Wait

/-! ## Steps -/

theorem awaitTask_obeys {kind : TaskKind} {task : String} {result : Except InstallError Report}
    (h : i.watched.awaitTask ctx step kind task report s = some (result, s')) :
    Obeys ctx s s' := by
  cases Installer.awaitTask_went h with
  | missing => exact .refl ctx s
  | waited _ hquestion hrounds hlast =>
      subst hquestion
      exact (rounds_obeys hrounds).trans (lastRound_obeys hlast)

theorem step_obeys {result : Except InstallError Report}
    (h : i.watched.step ctx report s step = some (result, s')) : Obeys ctx s s' := by
  cases step with
  | upload => exact order_obeys (.firmwareUpload _ _) h
  | uploadAndInitiateInstall => exact order_obeys (.firmwareUploadAndInitiate _ _) h
  | install => exact order_obeys (.firmwareInstall _ _ _ _) h
  | installFromUploaded => exact order_obeys (.firmwareInstallUploaded _ _) h
  | uploadStatus => exact awaitTask_obeys h
  | installStatus => exact awaitTask_obeys h
  | powerOffHost =>
      cases h
      exact control_obeys (.powerSet .off)
  | resetBmcPostInstall =>
      cases h
      exact control_obeys (.bmcReset .warm)
  | resetBmcOnFailure =>
      cases h
      exact .refl ctx _

theorem runSteps_obeys (steps : List Step) {result : Except InstallError Report}
    (h : i.watched.runSteps ctx steps report s = some (result, s')) : Obeys ctx s s' := by
  induction steps generalizing report s with
  | nil =>
      cases h
      exact .refl ctx _
  | cons step steps ih =>
      rw [Installer.runSteps] at h
      cases hstep : i.watched.step ctx report s step with
      | none => simp [hstep] at h
      | some p =>
          obtain ⟨e | next, m⟩ := p <;> simp only [hstep] at h
          · cases h
            exact step_obeys hstep
          · exact (step_obeys hstep).trans (ih h)

theorem resetAfterFailure_obeys : Obeys ctx s (i.watched.resetAfterFailure ctx s) := by
  unfold Installer.resetAfterFailure
  split
  · exact .refl ctx s
  · exact dispatch_obeys i.host.registry i.host.config.perProvider (.bmcReset .warm)

theorem runListed_obeys {steps : List Step} {result : Except InstallError Report}
    (h : i.watched.runListed ctx steps s = some (result, s')) : Obeys ctx s s' := by
  obtain ⟨⟨r, m⟩, hrun, hpair⟩ := Option.map_eq_some_iff.mp h
  cases r with
  | ok report =>
      cases hpair
      exact runSteps_obeys _ hrun
  | error e =>
      cases hpair
      split
      · exact (runSteps_obeys _ hrun).trans resetAfterFailure_obeys
      · exact runSteps_obeys _ hrun

theorem installer_obeys {result : Except ClientError Report}
    (h : i.watched.install ctx s = some (result, s')) : Obeys ctx s s' := by
  have hasked : ∀ {r m}, ctx.run i.watched.listing s = some (r, m) → Obeys ctx s m := run_obeys
  cases Installer.install_went h with
  | interrupted hlisting | unlisted hlisting | noSteps hlisting => exact hasked hlisting
  | listed hlisting _ hrun => exact (hasked hlisting).trans (runListed_obeys hrun)

/-! ## Ends of installs -/

section Ends

variable (hstop : ctx.stop ≠ none) (hinterval : 0 < i.pacing.interval.ns)
  (hbackoff : 0 < i.pacing.backoff.ns)
include hstop

omit hstop in
theorem eq_none_of_noting {note : String → Report} {p : Progress (Watched σ) String}
    (h : Installer.noting note p = none) : p = none := Option.map_eq_none_iff.mp h

theorem require_ne_none (c : Call) : i.watched.require ctx step report c s ≠ none := by
  unfold Installer.require
  split
  · exact fun h => run_ne_none hstop _ s (Option.map_eq_none_iff.mp h)
  · simp

include hinterval hbackoff

theorem awaitTask_ne_none {kind : TaskKind} {task : String} :
    i.watched.awaitTask ctx step kind task report s ≠ none := by
  unfold Installer.awaitTask
  simp only
  split
  · exact await_ne_none hstop hinterval hbackoff
  · simp

theorem step_ne_none : i.watched.step ctx report s step ≠ none := by
  cases step with
  | upload | uploadAndInitiateInstall | install | installFromUploaded =>
      rw [Installer.step]
      intro h
      exact require_ne_none hstop _ (eq_none_of_noting h)
  | uploadStatus | installStatus =>
      rw [Installer.step]
      exact awaitTask_ne_none hstop hinterval hbackoff
  | powerOffHost | resetBmcPostInstall | resetBmcOnFailure => simp [Installer.step]

theorem runSteps_ne_none (steps : List Step) : i.watched.runSteps ctx steps report s ≠ none := by
  induction steps generalizing report s with
  | nil => simp [Installer.runSteps]
  | cons step steps ih =>
      rw [Installer.runSteps]
      cases hstep : i.watched.step ctx report s step with
      | none => exact absurd hstep (step_ne_none hstop hinterval hbackoff)
      | some p =>
          obtain ⟨e | next, m⟩ := p
          · simp
          · exact ih

theorem installer_ne_none : i.watched.install ctx s ≠ none := by
  intro h
  rcases Installer.install_eq_none h with hlisting | ⟨declared, m, -, hlisted⟩
  · exact run_ne_none hstop _ s hlisting
  · exact runSteps_ne_none hstop hinterval hbackoff _ (Option.map_eq_none_iff.mp hlisted)

end Ends

end OutOfBand.Client
