import OutOfBand.Client.Operations

/-!
# Descriptors and calls

The features of a descriptor, its entries and the operations of clients are lists of their own, with
one line for each feature or each kind of call. They fit together: a descriptor backs the features
that its driver backs (`descriptor_supports`), every descriptor is that of a driver
(`capabilities_descriptor`), and each operation of a client is the dispatch of its call, with the
feature of the call (`operate_eq_call`).
-/

namespace OutOfBand

variable {σ α κ : Type}

/-! ## Descriptors of drivers -/

namespace Capabilities

theorem isSome_entry (caps : Capabilities σ) (f : Feature) (deed : α) :
    (caps.entry f deed).isSome = caps.backs.has f := by
  unfold entry
  cases caps.backs.has f <;> rfl

/-- **The features of a descriptor are those that the driver backs.** -/
@[simp] theorem descriptor_supports (caps : Capabilities σ) (f : Feature) :
    caps.descriptor.supports f = caps.backs.has f := by
  cases f <;> exact caps.isSome_entry _ _

end Capabilities

namespace Descriptor

@[simp] theorem has_features (d : Descriptor σ) (f : Feature) :
    d.features.has f = d.supports f := by
  rw [features, Features.has_ofList, Bool.eq_iff_iff, List.contains_iff_mem, List.mem_filter]
  exact ⟨fun h => h.2, fun h => ⟨f.mem_all, h⟩⟩

theorem entry_getD (o : Option α) (a : α) :
    (bif o.isSome then some (o.getD a) else none) = o := by
  cases o <;> rfl

/-- **Every descriptor is that of a driver.** -/
theorem capabilities_descriptor (d : Descriptor σ) : d.capabilities.descriptor = d := by
  simp only [Capabilities.descriptor, Capabilities.entry, capabilities, supports, entry_getD]

end Descriptor

/-- A driver that advertises what it can do advertises what its descriptor tells. -/
theorem Driver.features_ofCapabilities (name protocol : String) (caps : Capabilities σ) :
    (ofCapabilities name protocol caps).offer.features = caps.descriptor.features := by
  have hhas : caps.backs.has = caps.descriptor.features.has := by
    funext f
    rw [Descriptor.has_features, Capabilities.descriptor_supports]
  exact congrArg Features.mk hhas

/-! ## Operations and calls -/

namespace Client

theorem map_bind_ok (op : Operation σ (Except Fault α)) :
    (op.map fun answer => answer.bind Except.ok) = op := by
  have hid : (fun answer : Except Fault α => answer.bind Except.ok) = id := by
    funext answer
    cases answer <;> rfl
  rw [hid]
  rfl

theorem normalized_eq (op : Operation σ (Except Fault String)) :
    normalized op = op.map fun answer => answer.bind fun task =>
      .ok (Firmware.TaskId.normalize task) := by
  unfold normalized
  refine congrArg op.map (funext fun answer => ?_)
  cases answer <;> rfl

/-- The drivers in whose descriptors an entry for the feature of a call is found are those that can
carry out the call. -/
theorem filterMap_entry (c : Call) (op : Capabilities σ → κ) (candidate : Driver σ → κ → α)
    (registry : List (Driver σ)) :
    (registry.filterMap fun d =>
      (d.capabilities.entry c.feature (op d.capabilities)).map (candidate d)) =
      (eligible registry c).map fun d => candidate d (op d.capabilities) := by
  induction registry with
  | nil => rfl
  | cons d registry ih =>
      simp only [eligible, Capabilities.entry, Driver.backs] at ih ⊢
      cases hd : d.capabilities.backs.has c.feature with
      | true => simp [hd, ih]
      | false => simp [hd, ih]

/-- An operation that looks for the entry of the call's feature, and makes of it what the call makes
of it, is the dispatch of the call. -/
theorem dispatched_eq_call {c : Call} {select : Descriptor σ → Option κ}
    {invoke : κ → Operation σ (Except Fault c.Outcome)} {op : Capabilities σ → κ}
    (hselect : ∀ caps : Capabilities σ, select caps.descriptor = caps.entry c.feature (op caps))
    (hinvoke : ∀ d, invoke (op d.capabilities) = work d c) (client : Client σ) (ctx : Context)
    (run : Run σ) :
    client.dispatched ctx run c.feature select invoke = client.call ctx c run := by
  have hdispatch : dispatchTo ctx client.registry client.config.perProvider c.feature select invoke
      run.toScene = dispatch ctx client.registry client.config.perProvider c run.toScene := by
    unfold dispatchTo dispatch
    simp only [hselect, filterMap_entry c op fun d entry => Candidate.mk d.name (invoke entry),
      hinvoke]
    cases ctx.error? run.now with
    | some cause => rfl
    | none =>
        cases eligible client.registry c with
        | nil => rfl
        | cons d ds => simp
  simp only [dispatched, call, hdispatch]

/-- **Each operation is the dispatch of its call.** -/
theorem operate_eq_call (client : Client σ) (ctx : Context) (run : Run σ) (c : Call) :
    client.operate ctx run c = client.call ctx c run := by
  -- Operations differ in what becomes of the answers: orders that count as faults when they were
  -- not carried out, tasks whose identifiers are normalized, and answers that are handed on.
  cases c with
  | powerSet _ | bootDeviceSet _ _ | userCreate _ _ _ | userUpdate _ _ _ | userDelete _
  | bmcReset _ | virtualMedia _ _ =>
      exact dispatched_eq_call (fun _ => rfl) (fun _ => rfl) client ctx run
  | firmwareInstall _ _ _ _ | firmwareUpload _ _ | firmwareUploadAndInitiate _ _
  | firmwareInstallUploaded _ _ =>
      exact dispatched_eq_call (fun _ => rfl) (fun _ => normalized_eq _) client ctx run
  | powerState | users | firmwareInstallStatus _ _ _ | firmwareTaskStatus _ _ _ _
  | firmwareInstallSteps _ | screenshot | eventLog | clearEventLog | inventory | sensors =>
      exact dispatched_eq_call (fun _ => rfl) (fun _ => (map_bind_ok _).symm) client ctx run

end Client

end OutOfBand
