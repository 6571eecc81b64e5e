import OutOfBand.Client.Install

/-!
# Larger worlds

A world may be a part of a larger one, where something is kept beside it, such as a log. If drivers
do in the larger world what they do in the part (`Larger`), then whatever is done with them comes to
the same there, at the same instant, and leaves the same part: what is kept beside the part makes no
difference to the part.
-/

namespace OutOfBand

/-- The work `op'` in a larger world does in the part of it what `op` does. -/
structure Operation.Extends (part : τ → σ) (op' : Operation τ α) (op : Operation σ α) : Prop where
  world : ∀ now w, part (op' now w).world = (op now (part w)).world
  lag : ∀ now w, (op' now w).lag = (op now (part w)).lag
  finish : ∀ now w v, Prod.map id part ((op' now w).finish v) = (op now (part w)).finish (part v)

structure Connection.Extends (part : τ → σ) (k' : Connection τ) (k : Connection σ) : Prop where
  login : k'.login.Extends part k.login
  logout : k'.logout.Extends part k.logout
  probe : k'.probe.Extends part k.probe

/-- A world `τ` with a part `σ`, and for each driver of the part one that does the same there. -/
structure Larger (σ τ : Type) where
  part : τ → σ
  driver : Driver σ → Driver τ
  offer : ∀ d, (driver d).offer = d.offer
  backs : ∀ d, (driver d).capabilities.backs = d.capabilities.backs
  connection : ∀ d, Option.Rel (Connection.Extends part) (driver d).capabilities.connection
    d.capabilities.connection
  handle : ∀ d c, ((driver d).capabilities.handle c).Extends part (d.capabilities.handle c)

theorem Operation.Extends.map {part : τ → σ} {op' : Operation τ α} {op : Operation σ α}
    (h : op'.Extends part op) (f : α → β) : (op'.map f).Extends part (op.map f) where
  world := h.world
  lag := h.lag
  finish now w v := by
    have hfinish := h.finish now w v
    simp only [Operation.map, Pending.map, ← hfinish]
    rfl

/-- Work on a part of a larger world does in the part what it does. -/
theorem Operation.extends_within {get : τ → σ} {put : σ → τ → τ}
    (hput : ∀ w v, get (put w v) = w) (op : Operation σ α) :
    (op.within get put).Extends get op where
  world now w := hput _ _
  lag _ _ := rfl
  finish now w v := by
    simp only [Operation.within, Prod.map, hput]
    rfl

/-- The part of a scene in a larger world. -/
def Scene.part (part : τ → σ) (s : Scene τ) : Scene σ := ⟨s.now, part s.world⟩

/-- Something and the part of a scene. -/
def Scene.inPart (part : τ → σ) (p : α × Scene τ) : α × Scene σ := (p.1, p.2.part part)

section Context

variable {part : τ → σ} {op' : Operation τ α} {op : Operation σ α}

theorem run_larger (h : op'.Extends part op) (ctx : Context) (s : Scene τ) :
    (ctx.run op' s).map (Scene.inPart part) = ctx.run op (s.part part) := by
  obtain ⟨now, w⟩ := s
  unfold Context.run
  simp only [Scene.part]
  cases ctx.error? now with
  | some cause => rfl
  | none =>
      simp only [h.lag, Option.map_map]
      congr 1
      funext p
      obtain ⟨stop, cause⟩ := p
      cases cause with
      | some cause => simp [Context.settle, Scene.inPart, Scene.part, h.world]
      | none =>
          have hfinish := h.finish now w (op' now w).world
          rw [h.world] at hfinish
          simp [Context.settle, Scene.inPart, Scene.part, ← hfinish]

theorem sleep_larger (part : τ → σ) (ctx : Context) (time : Span) (s : Scene τ) :
    (ctx.sleep time s).map (Scene.inPart part) = ctx.sleep time (s.part part) := by
  unfold Context.sleep
  refine run_larger ?_ ctx s
  exact ⟨fun _ _ => rfl, fun _ _ => rfl, fun _ _ _ => rfl⟩

theorem attempt_larger (h : op'.Extends part op) (ctx : Context) (time : Span) (s : Scene τ) :
    Scene.inPart part (ctx.attempt time op' s) = ctx.attempt time op (s.part part) := by
  have hrun := run_larger h (ctx.limited s.now time) s
  have hpart := Context.run_limited ctx time op (s.part part)
  rw [Context.run_limited] at hrun
  exact Option.some.inj (hrun.trans hpart)

end Context

/-! ## Clients -/

section View

open Registry

/-- Views look at nothing but what entries say of themselves. -/
theorem View.apply_map [Offering α] [Offering β] {f : α → β}
    (hf : ∀ a, Offering.offer (f a) = Offering.offer a) (v : View) (registry : List α) :
    v.apply (registry.map f) = (v.apply registry).map f := by
  have hname : ∀ a, nameOf (f a) = nameOf a := fun a => by rw [nameOf, hf, nameOf]
  have hprotocol : ∀ a, protocolOf (f a) = protocolOf a := fun a => by
    rw [protocolOf, hf, protocolOf]
  have hfeatures : ∀ a, featuresOf (f a) = featuresOf a := fun a => by
    rw [featuresOf, hf, featuresOf]
  cases v with
  | forDriver name => simp [apply, List.filter_map, Function.comp_def, hname]
  | speaking protocol => simp [apply, List.filter_map, Function.comp_def, hprotocol]
  | supports features => simp [apply, List.filter_map, Function.comp_def, hfeatures]
  | preferDriver name => simp [apply, toFront, List.filter_map, Function.comp_def, hname]
  | preferProtocol protocols =>
      -- One protocol after another takes its entries out of those that are left.
      simp only [apply]
      induction protocols generalizing registry with
      | nil => rfl
      | cons p ps ih => simp [byProtocol, List.filter_map, Function.comp_def, hprotocol, ih]

end View

/-- The client in a larger world. -/
def Client.larger (L : Larger σ τ) (client : Client σ) : Client τ where
  registry := client.registry.map L.driver
  config := client.config

/-- The part of what a client works in. -/
def Run.part (part : τ → σ) (run : Run τ) : Run σ := ⟨run.toScene.part part, run.record⟩

namespace Larger

theorem driver_name (L : Larger σ τ) (d : Driver σ) : (L.driver d).name = d.name :=
  congrArg Offer.name (L.offer d)

theorem driver_backs (L : Larger σ τ) (d : Driver σ) (f : Feature) :
    (L.driver d).backs f = d.backs f := by
  rw [Driver.backs, L.backs, Driver.backs]

end Larger

namespace Client

theorem view_larger (L : Larger σ τ) (client : Client σ) (v : View) :
    (client.larger L).view v = (client.view v).larger L := by
  simp only [Client.view, Client.larger]
  rw [View.apply_map L.offer]

theorem eligible_larger (L : Larger σ τ) (registry : List (Driver σ)) (c : Call) :
    eligible (registry.map L.driver) c = (eligible registry c).map L.driver := by
  rw [eligible, List.filter_map]
  simp only [Function.comp_def, L.driver_backs]
  rfl

/-- The part of what comes of a call. -/
def Dispatched.part (part : τ → σ) (D : Dispatched τ α) : Dispatched σ α :=
  ⟨D.result, D.metadata, D.scene.part part⟩

theorem tryEach_larger (L : Larger σ τ) (ctx : Context) (operation : String) (time : Span)
    (c : Call) (drivers : List (Driver σ)) (failures : List Failure) (record : Metadata)
    (s : Scene τ) :
    (Dispatched.tryEach ctx operation time
      ((drivers.map L.driver).map fun d => ⟨d.name, work d c⟩) failures record s).part L.part =
      Dispatched.tryEach ctx operation time
        (drivers.map fun d => ⟨d.name, work d c⟩) failures record (s.part L.part) := by
  induction drivers generalizing failures record s with
  | nil => rfl
  | cons d ds ih =>
      have hattempt := attempt_larger ((L.handle d c).map fun answer => answer.bind c.accept) ctx
        time s
      simp only [List.map_cons, Dispatched.tryEach, work, L.driver_name, ← hattempt]
      cases ctx.attempt time (((L.driver d).capabilities.handle c).map
        fun answer => answer.bind c.accept) s with
      | mk r s' =>
          rcases r with cause | ⟨f | a⟩
          · simp only [Scene.inPart, Scene.part]
            cases ctx.error? s'.now with
            | none => exact ih _ _ _
            | some cause => rfl
          · exact ih _ _ _
          · rfl

/-- **What is kept beside the part makes no difference to a dispatch.** -/
theorem dispatch_larger (L : Larger σ τ) (ctx : Context) (registry : List (Driver σ))
    (client : Option Span) (c : Call) (s : Scene τ) :
    (dispatch ctx (registry.map L.driver) client c s).part L.part =
      dispatch ctx registry client c (s.part L.part) := by
  unfold dispatch
  rw [eligible_larger]
  have hnow : (s.part L.part).now = s.now := rfl
  cases h : ctx.error? s.now with
  | some cause => simp [h, hnow, Dispatched.part]
  | none =>
      simp only [hnow, h]
      cases eligible registry c with
      | nil => rfl
      | cons d ds =>
          have hloop := tryEach_larger L ctx c.feature.tag
            (Budget.perDriver ctx s.now (d :: ds).length client) c (d :: ds) [] {} s
          simpa using hloop

end Client

end OutOfBand
