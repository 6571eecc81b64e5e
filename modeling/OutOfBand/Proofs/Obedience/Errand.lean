import OutOfBand.Client.Errand
import OutOfBand.Proofs.Install.Account
import OutOfBand.Proofs.Obedience.Install
import OutOfBand.Proofs.Sessions.Watched

/-!
# Whatever a client is asked to do

Whatever a client is asked to do obeys the context that it is given (`carryOut_obeys`): nothing is
started at an instant at which the context is done, and where the context ends while the client is
at work, the client is done at that very instant. In particular whatever has a deadline comes to an
end, hanging drivers or not.
-/

namespace OutOfBand.Client

open Context

variable {client : Client σ} {ctx : Context} {run : Run (Watched σ)}

/-! ## Watching -/

/-- **Watching changes nothing** about what a client leaves, nor whether there is an end to it. -/
theorem carryOut_plain (client : Client σ) (ctx : Context) (run : Run (Watched σ))
    (errand : Errand) :
    (client.watched.carryOut ctx run errand).map (fun p => p.2.plain) =
        (client.carryOut ctx run.plain errand).map Prod.snd ∧
      (client.watched.carryOut ctx run errand).map Prod.fst =
        (client.carryOut ctx run.plain errand).map fun p => p.1.watched := by
  cases errand with
  | call c =>
      have hrun : (client.watched.call ctx c run).2.plain = (client.call ctx c run.plain).2 :=
        congrArg Prod.snd (call_plain client ctx c run)
      exact ⟨congrArg some hrun, rfl⟩
  | openAll =>
      obtain ⟨log, -, h⟩ := openAll_watched client ctx run
      simp [carryOut, h]
  | closeAll =>
      obtain ⟨log, -, h⟩ := closeAll_watched client ctx run
      simp [carryOut, h]
  | keepCompatible =>
      obtain ⟨log, -, h⟩ := keepCompatible_watched client ctx run
      simp [carryOut, h]
  | install job =>
      have h := install_plain client ctx job run
      simp only [carryOut, ← h, Option.map_map, Function.comp_def]
      exact ⟨trivial, trivial⟩

/-! ## Obedience -/

theorem sessions_obeys (act : ∀ {τ : Type}, Connection τ → Operation τ (Except Fault Unit))
    (deed : Deed)
    (hact : ∀ (d : Driver σ) (k : Connection σ), act (k.watched d) = (act k).watched d deed)
    (note : Metadata → String → Metadata) (s : Scene (Watched σ)) :
    Obeys ctx s (client.watched.sessions ctx act note s).2 := by
  have h : Obeys ctx s _ := together_obeys (client.sessionTime ctx s.now) (.ok ())
    client.registry deed fun d => d.capabilities.connection.map act
  rw [← watched_acts hact] at h
  exact h

theorem openAll_obeys : Obeys ctx run.toScene (client.watched.openAll ctx run).2.2.toScene := by
  have h : Obeys ctx run.toScene (client.watched.sessions ctx Connection.login
      Metadata.sessionOpened run.toScene).2 :=
    sessions_obeys Connection.login .login Connection.login_watched Metadata.sessionOpened
      run.toScene
  unfold openAll
  split
  · exact .refl ctx run.toScene
  · simp only
    split <;> exact h

theorem closeAll_obeys : Obeys ctx run.toScene (client.watched.closeAll ctx run).2.toScene :=
  sessions_obeys Connection.logout .logout Connection.logout_watched Metadata.sessionClosed
    run.toScene

theorem keepCompatible_obeys :
    Obeys ctx run.toScene (client.watched.keepCompatible ctx run).2.toScene := by
  have h : Obeys ctx run.toScene _ := together_obeys (client.sessionTime ctx run.now) true
    client.registry .probe fun d => d.capabilities.connection.map Connection.probe
  rw [← watched_acts Connection.probe_watched] at h
  exact h

theorem install_obeys {job : Job} {result : Except ClientError Report} {run' : Run (Watched σ)}
    (h : Client.install client.watched ctx job run = some (result, run')) :
    Obeys ctx run.toScene run'.toScene := by
  cases hs : ctx.error? run.now with
  | some cause =>
      cases (install_done hs).symm.trans h
      exact .refl ctx run.toScene
  | none =>
      cases hd : installing? client with
      | none =>
          cases (install_larger_nobody (L := watching) hs hd).symm.trans h
          exact .refl ctx run.toScene
      | some d =>
          obtain ⟨⟨r, s⟩, hinstall, hpair⟩ :=
            Option.map_eq_some_iff.mp ((install_eq hd hs).symm.trans h)
          have hrun : run'.toScene = s := by
            cases r <;> cases hpair <;> rfl
          rw [hrun]
          exact installer_obeys hinstall

theorem install_ne_none (hstop : ctx.stop ≠ none) {job : Job}
    (hinterval : 0 < client.config.firmware.interval.ns)
    (hbackoff : 0 < client.config.firmware.backoff.ns) :
    Client.install client.watched ctx job run ≠ none := by
  intro h
  cases hs : ctx.error? run.now with
  | some cause => cases (install_done hs).symm.trans h
  | none =>
      cases hd : installing? client with
      | none => cases (install_larger_nobody (L := watching) hs hd).symm.trans h
      | some d =>
          have hnone := Option.map_eq_none_iff.mp ((install_eq hd hs).symm.trans h)
          exact installer_ne_none (i := installer client job d) hstop hinterval hbackoff hnone

theorem errand_obeys {errand : Errand} {client' : Client (Watched σ)} {run' : Run (Watched σ)}
    (h : client.watched.carryOut ctx run errand = some (client', run')) :
    Obeys ctx run.toScene run'.toScene := by
  cases errand with
  | call c =>
      cases h
      exact dispatch_obeys client.registry client.config.perProvider c
  | openAll =>
      have hrun : (client.watched.openAll ctx run).2.2 = run' :=
        congrArg Prod.snd (Option.some.inj h)
      rw [← hrun]
      exact openAll_obeys
  | closeAll =>
      cases h
      exact closeAll_obeys
  | keepCompatible =>
      have hrun : (client.watched.keepCompatible ctx run).2 = run' :=
        congrArg Prod.snd (Option.some.inj h)
      rw [← hrun]
      exact keepCompatible_obeys
  | install job =>
      obtain ⟨⟨result, run''⟩, hinstall, hpair⟩ := Option.map_eq_some_iff.mp h
      cases hpair
      exact install_obeys hinstall

theorem errand_ne_none (hstop : ctx.stop ≠ none) {errand : Errand}
    (hpacing : ∀ job, errand = .install job →
      0 < client.config.firmware.interval.ns ∧ 0 < client.config.firmware.backoff.ns) :
    client.watched.carryOut ctx run errand ≠ none := by
  cases errand with
  | install job =>
      obtain ⟨hinterval, hbackoff⟩ := hpacing job rfl
      exact fun h => install_ne_none hstop hinterval hbackoff (Option.map_eq_none_iff.mp h)
  | _ => simp [carryOut]

theorem stop_ne_none {ctx : Context} (h : ctx.deadline ≠ none ∨ ctx.cancelAt ≠ none) :
    ctx.stop ≠ none := by
  rw [stop]
  cases hc : ctx.cancelAt <;> cases hd : ctx.deadline <;> simp_all [earlier]

/-- **Whatever a client is asked to do obeys the context**, however its drivers behave. Nothing is
started at an instant at which the context is done. Under a context that is done it takes no time;
under one that is not, it is over by the instant at which the context ends, as timers see it. And if
the context ends at all there is an end to it, provided that installs pause between their
questions. -/
theorem carryOut_obeys (client : Client σ) (ctx : Context) (run : Run σ) (errand : Errand)
    (hpacing : ∀ job, errand = .install job →
      0 < client.config.firmware.interval.ns ∧ 0 < client.config.firmware.backoff.ns) :
    (∀ client' run', client.carryOut ctx run errand = some (client', run') →
      (∃ log, client.watched.carryOut ctx (run.watched []) errand =
          some (client'.watched, run'.watched log) ∧
        ∀ e ∈ Event.starts log, ctx.error? e.start = none) ∧
      run.now ≤ run'.now ∧
      (ctx.error? run.now = none → ∀ u, ctx.stop = some u → run'.now ≤ u) ∧
      (ctx.error? run.now ≠ none → run'.now = run.now)) ∧
    (ctx.deadline ≠ none ∨ ctx.cancelAt ≠ none → client.carryOut ctx run errand ≠ none) := by
  obtain ⟨hrun, hclient⟩ := carryOut_plain client ctx (run.watched []) errand
  rw [Run.plain_watched] at hrun hclient
  refine ⟨fun client' run' h => ?_, fun hends hnone => ?_⟩
  · rw [h] at hrun hclient
    obtain ⟨⟨client'', run''⟩, hwatched, rfl⟩ := Option.map_eq_some_iff.mp hrun
    rw [hwatched] at hclient
    have hclient' : client'' = client'.watched := Option.some.inj hclient
    have hobeys := errand_obeys hwatched
    obtain ⟨log, hlog, hstarts⟩ := hobeys.starts
    have hlog' : run''.log = log := hlog
    refine ⟨⟨log, ?_, hstarts⟩, hobeys.timely.later, hobeys.timely.inTime, hobeys.timely.still⟩
    rw [hwatched, hclient', ← hlog']
    rfl
  · rw [hnone] at hrun
    exact errand_ne_none (stop_ne_none hends) hpacing (Option.map_eq_none_iff.mp hrun)

/-- An install by a driver that never answers, under a deadline between two milliseconds. -/
theorem carryOut_obeys_of_hung_driver :
    let client := mockClient { name := "a", behavior := .hang, steps := [.upload] }
    let ctx : Context := { deadline := some 3000001 }
    let job : Job := { component := "bios", image := [] }
    let run : Run Mock.State := { now := 0, world := {} }
    ∃ client' run', client.carryOut ctx run (.install job) = some (client', run') ∧
      run'.now = 4000000 ∧ ∃ log, client.watched.carryOut ctx (run.watched []) (.install job) =
        some (client'.watched, run'.watched log) := by
  intro client ctx job run
  obtain ⟨hobeys, hends⟩ := carryOut_obeys client ctx run (.install job)
    (fun _ _ => ⟨by decide, by decide⟩)
  obtain ⟨⟨client', run'⟩, h⟩ := Option.ne_none_iff_exists'.mp (hends (.inl (by decide)))
  have hnow : (client.carryOut ctx run (.install job)).map (fun p => p.2.now) = some 4000000 := by
    decide +kernel
  rw [h] at hnow
  obtain ⟨⟨log, hlog, -⟩, -⟩ := hobeys client' run' h
  exact ⟨client', run', h, Option.some.inj hnow, log, hlog⟩

end OutOfBand.Client
