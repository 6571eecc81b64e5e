import Mathlib.Data.List.Induction
import Mathlib.Data.List.Nodup
import OutOfBand.Proofs.Dispatch.Bystanders
import OutOfBand.Proofs.Readiness

/-!
# From registrations to calls

Drivers are registered one after another, and a catalog stays as it is when one is refused
(`Catalog.enter`). So the names in a catalog differ, and a name stands for the registration that
came first under it (`KeepsFirst`). When a catalog is set up for a target, every registration is
accounted for once: by the driver that comes of it, or by an error that names it and says why none
does (`Accounted`).

What a driver advertises and what its descriptor backs are told in different places. A driver of a
catalog backs all that it advertises. So the drivers that a client finds through the filter by a
feature are just those that it tries when it calls for that feature (`CallsAllShown`).
-/

namespace OutOfBand

open Registry

variable {σ : Type}

/-! ## What can be called -/

theorem Call.exists_feature_eq (f : Feature) : ∃ c : Call, c.feature = f := by
  cases f with
  | powerState => exact ⟨.powerState, rfl⟩
  | powerSet => exact ⟨.powerSet .on, rfl⟩
  | bootDeviceSet => exact ⟨.bootDeviceSet .none ⟨false, false⟩, rfl⟩
  | userCreate => exact ⟨.userCreate "" "" .user, rfl⟩
  | userUpdate => exact ⟨.userUpdate "" "" .user, rfl⟩
  | userDelete => exact ⟨.userDelete "", rfl⟩
  | userRead => exact ⟨.users, rfl⟩
  | bmcReset => exact ⟨.bmcReset .warm, rfl⟩
  | virtualMedia => exact ⟨.virtualMedia .cd "", rfl⟩
  | firmwareInstall => exact ⟨.firmwareInstall "" .immediate false default, rfl⟩
  | firmwareInstallStatus => exact ⟨.firmwareInstallStatus "" "" "", rfl⟩
  | firmwareUpload => exact ⟨.firmwareUpload "" default, rfl⟩
  | firmwareUploadInitiateInstall => exact ⟨.firmwareUploadAndInitiate "" default, rfl⟩
  | firmwareInstallUploaded => exact ⟨.firmwareInstallUploaded "" "", rfl⟩
  | firmwareTaskStatus => exact ⟨.firmwareTaskStatus .upload "" "" "", rfl⟩
  | firmwareInstallSteps => exact ⟨.firmwareInstallSteps "", rfl⟩
  | screenshot => exact ⟨.screenshot, rfl⟩
  | getSystemEventLog => exact ⟨.eventLog, rfl⟩
  | clearSystemEventLog => exact ⟨.clearEventLog, rfl⟩
  | inventoryRead => exact ⟨.inventory, rfl⟩
  | sensorRead => exact ⟨.sensors, rfl⟩

/-- A client that looks at its drivers through the filter by a feature tries all that it sees when
it calls for the feature. -/
structure Client.CallsAllShown (client : Client σ) (f : Feature) : Prop where
  /-- There is something to call. -/
  called : ∃ c : Call, c.feature = f
  eligible_eq : ∀ c : Call, c.feature = f →
    eligible (client.view (.supports [f])).registry c = (client.view (.supports [f])).registry
  /-- The feature is told to be missing just if nothing is shown, in a call that begins in time. -/
  notImplemented_iff : ∀ c : Call, c.feature = f → ∀ (ctx : Context) (run : Run σ) (g : Feature),
    ((client.view (.supports [f])).operate ctx run c).1 = .error (.notImplemented g) ↔
      g = f ∧ ctx.error? run.now = none ∧ (client.view (.supports [f])).registry = []

theorem Client.callsAllShown {client : Client σ} {f : Feature}
    (h : ∀ d ∈ client.registry,
      d.offer.features.has f = true → d.capabilities.descriptor.supports f = true) :
    client.CallsAllShown f := by
  have hshown : ∀ d ∈ (client.view (.supports [f])).registry,
      d.capabilities.descriptor.supports f = true := by
    intro d (hd : d ∈ (View.supports [f]).apply client.registry)
    obtain ⟨hmem, hkeeps⟩ := View.mem_apply.mp hd
    exact h d hmem (Features.includes_iff.mp hkeeps f List.mem_cons_self)
  have heligible : ∀ c : Call, c.feature = f →
      eligible (client.view (.supports [f])).registry c =
        (client.view (.supports [f])).registry := by
    rintro c rfl
    refine List.filter_eq_self.mpr fun d hd => ?_
    rw [backs_eq]
    exact hshown d hd
  refine ⟨Call.exists_feature_eq f, heligible, fun c hc ctx run g => ?_⟩
  rw [operate_eq_call, call_notImplemented_iff, ← eligible_eq_nil_iff, heligible c hc, hc]

namespace Catalog

/-! ## Registering -/

/-- Asks for one more driver to be registered: the catalog then, and the error if it is refused. -/
def enter (catalog : Catalog σ) (r : Registration σ) : Catalog σ × Option RegistryError :=
  match catalog.register r with
  | .ok catalog => (catalog, none)
  | .error e => (catalog, some e)

/-- The catalog of all that are not refused, when drivers are registered one after another. -/
def ofAttempts (rs : List (Registration σ)) : Catalog σ :=
  rs.foldl (fun catalog r => (enter catalog r).1) []

theorem ofAttempts_concat (rs : List (Registration σ)) (r : Registration σ) :
    ofAttempts (rs ++ [r]) = (enter (ofAttempts rs) r).1 :=
  List.foldl_concat ..

/-- A registration is refused just if its name is taken, and then nothing changes. -/
theorem enter_eq (catalog : Catalog σ) (r : Registration σ) :
    catalog.enter r =
      if r.offer.name ∈ names catalog then (catalog, some (.duplicate r.offer.name))
      else (catalog ++ [r], none) := by
  have hcontains : Registry.contains catalog r.offer.name = true ↔
      r.offer.name ∈ names catalog := by
    simp [Registry.contains, names]
  simp only [enter, register, hcontains]
  split_ifs <;> rfl

/-- A catalog has the registrations that came first under their names, and no others. -/
structure KeepsFirst (rs : List (Registration σ)) (catalog : Catalog σ) : Prop where
  distinct : (names catalog).Nodup
  sublist : catalog.Sublist rs
  get?_eq : ∀ name, get? catalog name = get? rs name

theorem get?_eq_none_iff {rs : List (Registration σ)} {name : String} :
    get? rs name = none ↔ name ∉ names rs := by
  simp [get?, names]

/-- **One more attempt.** -/
theorem KeepsFirst.enter {rs : List (Registration σ)} {catalog : Catalog σ}
    (h : KeepsFirst rs catalog) (r : Registration σ) :
    KeepsFirst (rs ++ [r]) (catalog.enter r).1 := by
  have hattempts (name : String) :
      get? (rs ++ [r]) name = (get? rs name).or (get? [r] name) := List.find?_append
  rw [enter_eq]
  split_ifs with hname
  · refine ⟨h.distinct, h.sublist.trans (List.sublist_append_left rs [r]), fun name => ?_⟩
    rw [hattempts, ← h.get?_eq]
    cases hget : get? catalog name with
    | some first => rfl
    | none =>
      have hother : name ∉ names [r] := by
        intro hr
        exact get?_eq_none_iff.mp hget (List.mem_singleton.mp hr ▸ hname)
      exact (get?_eq_none_iff.mpr hother).symm
  · refine ⟨?_, h.sublist.append_right [r], fun name => ?_⟩
    · have hnames : names (catalog ++ [r]) = names catalog ++ [r.offer.name] :=
        List.map_append ..
      rw [hnames]
      exact h.distinct.append (List.nodup_singleton _) (List.disjoint_singleton.mpr hname)
    · have hcatalog : get? (catalog ++ [r]) name = (get? catalog name).or (get? [r] name) :=
        List.find?_append
      rw [hattempts, hcatalog, h.get?_eq]

/-- **All attempts.** -/
theorem keepsFirst_ofAttempts (rs : List (Registration σ)) : KeepsFirst rs (ofAttempts rs) := by
  induction rs using List.reverseRecOn with
  | nil => exact ⟨List.nodup_nil, List.Sublist.refl _, fun _ => rfl⟩
  | append_singleton rs r ih =>
    rw [ofAttempts_concat]
    exact ih.enter r

/-! ## Setting up -/

/-- Every registration of a catalog is accounted for once, by a driver or by an error. -/
inductive Accounted (target : Target) :
    Catalog σ → List (Driver σ) → List RegistryError → Prop where
  | nil : Accounted target [] [] []
  | ready {rest : Catalog σ} {drivers : List (Driver σ)} {errors : List RegistryError}
      {r : Registration σ} {caps : Capabilities σ} (hinit : r.init target = .ok caps)
      (hbacked : ∀ f, r.offer.features.has f = true → caps.descriptor.supports f = true)
      (h : Accounted target rest drivers errors) :
      Accounted target (r :: rest) (⟨r.offer, caps⟩ :: drivers) errors
  | declined {rest : Catalog σ} {drivers : List (Driver σ)} {errors : List RegistryError}
      {r : Registration σ} {cause : Fault} (hinit : r.init target = .error cause)
      (h : Accounted target rest drivers errors) :
      Accounted target (r :: rest) drivers (.init r.offer.name cause :: errors)
  /-- The error tells the first of the features that are advertised and not backed. -/
  | lacking {rest : Catalog σ} {drivers : List (Driver σ)} {errors : List RegistryError}
      {r : Registration σ} {caps : Capabilities σ} {f : Feature} {before after : List Feature}
      (hinit : r.init target = .ok caps)
      (hfeatures : r.offer.features.toList = before ++ f :: after)
      (hbefore : ∀ g ∈ before, caps.descriptor.supports g = true)
      (hlacks : caps.descriptor.supports f = false)
      (h : Accounted target rest drivers errors) :
      Accounted target (r :: rest) drivers (.missingCapability r.offer.name f :: errors)

theorem accounted_instantiate (catalog : Catalog σ) (target : Target) :
    Accounted target catalog (catalog.instantiate target).1 (catalog.instantiate target).2 := by
  induction catalog with
  | nil => exact .nil
  | cons r rest ih =>
    cases hinit : r.init target with
    | error cause =>
      have hr : r.instantiate target = .error (.init r.offer.name cause) := by
        simp only [Registration.instantiate, hinit]
      simp only [instantiate, hr]
      exact .declined hinit ih
    | ok caps =>
      cases hlacks : r.offer.features.toList.find? fun f => !caps.backs.has f with
      | none =>
        have hr : r.instantiate target = .ok ⟨r.offer, caps⟩ := by
          simp only [Registration.instantiate, hinit, hlacks]
        simp only [instantiate, hr]
        refine .ready hinit (fun f hf => ?_) ih
        simpa using List.find?_eq_none.mp hlacks f (Features.mem_toList.mpr hf)
      | some f =>
        have hr : r.instantiate target = .error (.missingCapability r.offer.name f) := by
          simp only [Registration.instantiate, hinit, hlacks]
        simp only [instantiate, hr]
        obtain ⟨hf, before, after, hfeatures, hbefore⟩ := List.find?_eq_some_iff_append.mp hlacks
        refine .lacking hinit hfeatures (fun g hg => ?_) (by simpa using hf) ih
        simpa using hbefore g hg

namespace Accounted

variable {target : Target} {catalog : Catalog σ} {drivers : List (Driver σ)}
  {errors : List RegistryError}

/-- The drivers stand in the order of the catalog. -/
theorem names_sublist (h : Accounted target catalog drivers errors) :
    (names drivers).Sublist (names catalog) := by
  induction h with
  | nil => exact .slnil
  | ready _ _ _ ih => exact ih.cons_cons _
  | declined _ _ ih => exact ih.cons _
  | lacking _ _ _ _ _ ih => exact ih.cons _

/-- The errors stand in the order of the catalog. -/
theorem errors_sublist (h : Accounted target catalog drivers errors) :
    (errors.map RegistryError.driver).Sublist (names catalog) := by
  induction h with
  | nil => exact .slnil
  | ready _ _ _ ih => exact ih.cons _
  | declined _ _ ih => exact ih.cons_cons _
  | lacking _ _ _ _ _ ih => exact ih.cons_cons _

/-- Together they name everything that is in the catalog, each as often as it is there. -/
theorem names_perm (h : Accounted target catalog drivers errors) :
    (names drivers ++ errors.map RegistryError.driver).Perm (names catalog) := by
  induction h with
  | nil => exact .nil
  | ready _ _ _ ih => exact ih.cons _
  | declined _ _ ih => exact List.perm_middle.trans (ih.cons _)
  | lacking _ _ _ _ _ ih => exact List.perm_middle.trans (ih.cons _)

/-- A driver backs all that it advertises. -/
theorem supports_of_mem (h : Accounted target catalog drivers errors) {d : Driver σ}
    (hd : d ∈ drivers) {f : Feature} (hf : d.offer.features.has f = true) :
    d.capabilities.descriptor.supports f = true := by
  induction h with
  | nil => cases hd
  | ready _ hbacked _ ih =>
    obtain rfl | hd := List.mem_cons.mp hd
    · exact hbacked f hf
    · exact ih hd
  | declined _ _ ih => exact ih hd
  | lacking _ _ _ _ _ ih => exact ih hd

/-- A driver is what its registration made for the target. -/
theorem of_driver_mem (h : Accounted target catalog drivers errors) {d : Driver σ}
    (hd : d ∈ drivers) : ∃ r ∈ catalog, d.offer = r.offer ∧ r.init target = .ok d.capabilities := by
  induction h with
  | nil => cases hd
  | ready hinit _ _ ih =>
    obtain rfl | hd := List.mem_cons.mp hd
    · exact ⟨_, List.mem_cons_self, rfl, hinit⟩
    · obtain ⟨r, hr, hmade⟩ := ih hd
      exact ⟨r, List.mem_cons_of_mem _ hr, hmade⟩
  | declined _ _ ih =>
    obtain ⟨r, hr, hmade⟩ := ih hd
    exact ⟨r, List.mem_cons_of_mem _ hr, hmade⟩
  | lacking _ _ _ _ _ ih =>
    obtain ⟨r, hr, hmade⟩ := ih hd
    exact ⟨r, List.mem_cons_of_mem _ hr, hmade⟩

/-- An error tells that a registration declines the target, or lacks what it advertises. -/
theorem of_error_mem (h : Accounted target catalog drivers errors) {e : RegistryError}
    (he : e ∈ errors) : ∃ r ∈ catalog,
      (∃ cause, r.init target = .error cause ∧ e = .init r.offer.name cause) ∨
      ∃ caps f, r.init target = .ok caps ∧ r.offer.features.has f = true ∧
        caps.descriptor.supports f = false ∧ e = .missingCapability r.offer.name f := by
  induction h with
  | nil => cases he
  | ready _ _ _ ih =>
    obtain ⟨r, hr, htold⟩ := ih he
    exact ⟨r, List.mem_cons_of_mem _ hr, htold⟩
  | declined hinit _ ih =>
    obtain rfl | he := List.mem_cons.mp he
    · exact ⟨_, List.mem_cons_self, .inl ⟨_, hinit, rfl⟩⟩
    · obtain ⟨r, hr, htold⟩ := ih he
      exact ⟨r, List.mem_cons_of_mem _ hr, htold⟩
  | lacking hinit hfeatures _ hlacks _ ih =>
    obtain rfl | he := List.mem_cons.mp he
    · refine ⟨_, List.mem_cons_self, .inr ⟨_, _, hinit, ?_, hlacks, rfl⟩⟩
      exact Features.mem_toList.mp (hfeatures ▸ List.mem_append_right _ List.mem_cons_self)
    · obtain ⟨r, hr, htold⟩ := ih he
      exact ⟨r, List.mem_cons_of_mem _ hr, htold⟩

end Accounted

/-- **A catalog tells the truth.** However drivers were registered, the catalog has the first
registration under each name, and a further one either is refused and changes nothing, or stands at
the end. For any target every registration is accounted for once, by a driver or by an error that
names it, both in the order of the catalog. A driver backs all that it advertises. So a client of
these drivers tries all that it sees through the filter by a feature, and tells that the feature is
missing only if it sees none. -/
theorem registered_drivers (rs : List (Registration σ)) (target : Target) (config : Config) :
    let catalog := ofAttempts rs
    let drivers := (catalog.instantiate target).1
    let errors := (catalog.instantiate target).2
    KeepsFirst rs catalog ∧
      (∀ r, catalog.enter r =
        if r.offer.name ∈ names catalog then (catalog, some (.duplicate r.offer.name))
        else (catalog ++ [r], none)) ∧
      Accounted target catalog drivers errors ∧
      (names drivers).Sublist (names catalog) ∧
      (errors.map RegistryError.driver).Sublist (names catalog) ∧
      (names drivers ++ errors.map RegistryError.driver).Perm (names catalog) ∧
      (∀ d ∈ drivers, ∀ f, d.offer.features.has f = true →
        d.capabilities.descriptor.supports f = true) ∧
      ∀ f, ({ registry := drivers, config } : Client σ).CallsAllShown f := by
  intro catalog drivers errors
  have haccounted : Accounted target catalog drivers errors :=
    accounted_instantiate catalog target
  have hbacks : ∀ d ∈ drivers, ∀ f, d.offer.features.has f = true →
      d.capabilities.descriptor.supports f = true := fun d hd f => haccounted.supports_of_mem hd
  exact ⟨keepsFirst_ofAttempts rs, catalog.enter_eq, haccounted, haccounted.names_sublist,
    haccounted.errors_sublist, haccounted.names_perm, hbacks,
    fun f => Client.callsAllShown fun d hd => hbacks d hd f⟩

/-- A driver that declines the target and one that lacks a feature are left out and reported. -/
example (target : Target) :
    let offer (name : String) : Offer := ⟨name, "mock", .ofList [.powerState, .powerSet]⟩
    let ready (name : String) : Registration Mock.State :=
      ⟨offer name, fun _ => .ok (Mock.capabilities { name })⟩
    let declining : Registration Mock.State :=
      ⟨offer "b", fun _ => .error (.unsupported "no such host")⟩
    let lacking : Registration Mock.State :=
      ⟨offer "c", fun _ => .ok ((Mock.capabilities { name := "c" }).limit [.powerState])⟩
    let catalog := ofAttempts [ready "a", declining, ready "a", lacking, ready "d"]
    names (catalog.instantiate target).1 = ["a", "d"] ∧
      (catalog.instantiate target).2 =
        [.init "b" (.unsupported "no such host"), .missingCapability "c" .powerSet] :=
  ⟨rfl, rfl⟩

end Catalog

end OutOfBand
