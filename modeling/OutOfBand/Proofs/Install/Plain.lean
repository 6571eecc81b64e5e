import OutOfBand.Proofs.Dispatch.Course
import OutOfBand.Proofs.Install.Larger

/-!
# Watching changes nothing

A log is kept beside the world, so a call or an install that is watched returns what it returns by
itself, and leaves the same world.
-/

namespace OutOfBand

/-- Something and a scene, without the log of the scene. -/
def Scene.unwatch (p : α × Scene (Watched σ)) : α × Scene σ := (p.1, p.2.plain)

/-- A run without the log of its scene. -/
def Run.plain (run : Run (Watched σ)) : Run σ := ⟨run.toScene.plain, run.record⟩

/-- Something and a run, without the log of its scene. -/
def Run.unwatch (p : α × Run (Watched σ)) : α × Run σ := (p.1, p.2.plain)

namespace Client

def Installer.watched (i : Installer σ) : Installer (Watched σ) where
  driver := i.driver.watched
  host := i.host.watched
  pacing := i.pacing
  job := i.job

@[simp] theorem Installer.watched_pacing (i : Installer σ) : i.watched.pacing = i.pacing := rfl

theorem step_plain {i : Installer σ} {ctx : Context} {step : Firmware.Step} {report : Report}
    {s : Scene (Watched σ)} : (i.watched.step ctx report s step).map Scene.unwatch =
      i.step ctx report s.plain step :=
  step_larger (L := watching)

theorem installing?_watched (client : Client σ) :
    installing? client.watched = (installing? client).map Driver.watched :=
  installing?_larger watching client

/-- **Watching changes no call.** -/
theorem call_plain (client : Client σ) (ctx : Context) (c : Call) (run : Run (Watched σ)) :
    Run.unwatch (client.watched.call ctx c run) = client.call ctx c run.plain := by
  have hscene : run.plain.toScene = run.toScene.plain := rfl
  simp only [call]
  rw [hscene, ← dispatch_plain ctx client.registry client.config.perProvider c run.toScene]
  rfl

/-- **Watching changes no install.** -/
theorem install_plain (client : Client σ) (ctx : Context) (job : Job) (run : Run (Watched σ)) :
    (install client.watched ctx job run).map (fun (result, run) => (result, run.plain)) =
      install client ctx job run.plain :=
  install_larger watching client ctx job run

end Client

end OutOfBand
