import OutOfBand.Builtin
import OutOfBand.Proofs.Catalogs

/-!
# The built-in drivers of a target

Each built-in driver looks at the target for what it needs (`IsReady`), and tells what is missing
when it declines (`Declined`). What it is to back is told twice, by the features that it advertises
and by those that it sets up, and the two agree (`Judged`). So for every target the drivers that are
ready are set up, in the order of the catalog, and each of the others is reported once, with the
reason that it gives (`builtin_drivers`).
-/

namespace OutOfBand.Builtin

open Registry

variable {σ : Type} {reach : Reach σ} {target : Target} {name text : String}

/-- The target has what the driver of that name needs. -/
def IsReady (target : Target) : String → Prop
  | "rpc" => ∃ options, target.options.rpc = some options ∧ options.consumerUrl ≠ "" ∧
      options.secrets ≠ []
  | "redfish" | "ipmitool" => target.host ≠ ""
  | "wol" => ∃ options, target.options.wake = some options
  | _ => False

/-- What the driver of that name says when it declines the target. -/
inductive Declined (target : Target) : String → String → Prop where
  | noConsumer (hoptions : target.options.rpc = none) :
      Declined target "rpc" "rpc: no consumer configured"
  | noUrl {options : RpcOptions} (hoptions : target.options.rpc = some options)
      (hurl : options.consumerUrl = "") : Declined target "rpc" "rpc: consumer_url is required"
  | noSecret {options : RpcOptions} (hoptions : target.options.rpc = some options)
      (hurl : options.consumerUrl ≠ "") (hsecrets : options.secrets = []) :
      Declined target "rpc" "rpc: at least one secret is required"
  | noWebHost (hhost : target.host = "") : Declined target "redfish" "redfish: host is required"
  | noToolHost (hhost : target.host = "") : Declined target "ipmitool" "ipmi: host is required"
  | noMac (hoptions : target.options.wake = none) :
      Declined target "wol" "wol: no MAC address configured"

theorem Declined.not_isReady (h : Declined target name text) : ¬IsReady target name := by
  cases h with
  | noConsumer hnone =>
      rintro ⟨options, hoptions, -⟩
      cases hnone.symm.trans hoptions
  | noUrl hoptions hempty =>
      rintro ⟨options, hoptions', hurl, -⟩
      cases hoptions.symm.trans hoptions'
      exact hurl hempty
  | noSecret hoptions _ hempty =>
      rintro ⟨options, hoptions', -, hsecrets⟩
      cases hoptions.symm.trans hoptions'
      exact hsecrets hempty
  | noWebHost hempty => exact fun hhost => hhost hempty
  | noToolHost hempty => exact fun hhost => hhost hempty
  | noMac hnone =>
      rintro ⟨options, hoptions⟩
      cases hnone.symm.trans hoptions

/-! ## Each driver -/

/-- What comes of a registration: a driver that backs what it advertises, or the reason why there
is none. -/
inductive Judged (target : Target) (r : Registration σ) : Prop where
  | ready {caps : Capabilities σ} (hready : IsReady target r.offer.name)
      (hinit : r.init target = .ok caps)
      (hbacks : ∀ f, caps.descriptor.supports f = r.offer.features.has f)
  | declined {text : String} (hdeclined : Declined target r.offer.name text)
      (hinit : r.init target = .error (.invalidConfig text))

theorem judged_rpc : Judged target (registration Rpc.name Rpc.name Rpc.features fun target =>
    (Rpc.init target reach.stamp reach.web).map outside) := by
  cases hoptions : target.options.rpc with
  | none =>
      refine .declined (.noConsumer hoptions) ?_
      simp [registration, Rpc.init, hoptions, Except.map]
  | some options =>
      by_cases hurl : options.consumerUrl = ""
      · refine .declined (.noUrl hoptions hurl) ?_
        simp [registration, Rpc.init, hoptions, hurl, Except.map]
      · by_cases hsecrets : options.secrets = []
        · refine .declined (.noSecret hoptions hurl hsecrets) ?_
          simp [registration, Rpc.init, hoptions, hurl, hsecrets, Except.map]
        · refine .ready ⟨options, hoptions, hurl, hsecrets⟩ (by
            simp [registration, Rpc.init, hoptions, hurl, hsecrets, Except.map]
            rfl) fun f => ?_
          cases f <;> rfl

theorem judged_redfish : Judged target (registration Redfish.name Redfish.name Redfish.features
    fun target => Redfish.init target reach.web) := by
  by_cases hhost : target.host = ""
  · refine .declined (.noWebHost hhost) ?_
    simp [registration, Redfish.init, hhost]
  · refine .ready hhost (by simp [registration, Redfish.init, hhost]; rfl) fun f => ?_
    cases f <;> rfl

theorem judged_ipmitool : Judged target (registration Ipmi.name Ipmi.protocol Ipmi.features
    fun target => (Ipmi.init target reach.tool).map outside) := by
  by_cases hhost : target.host = ""
  · refine .declined (.noToolHost hhost) ?_
    simp [registration, Ipmi.init, hhost, Except.map]
  · refine .ready hhost (by simp [registration, Ipmi.init, hhost, Except.map]; rfl) fun f => ?_
    cases f <;> rfl

theorem judged_wol : Judged target (registration Wake.name Wake.name Wake.features
    fun target => (Wake.init target reach.packet).map outside) := by
  cases hoptions : target.options.wake with
  | none =>
      refine .declined (.noMac hoptions) ?_
      simp [registration, Wake.init, hoptions, Except.map]
  | some options =>
      refine .ready ⟨options, hoptions⟩
        (by simp [registration, Wake.init, hoptions, Except.map]; rfl) fun f => ?_
      cases f <;> rfl

theorem judged_of_mem {r : Registration (Site σ)} (h : r ∈ catalog reach) : Judged target r := by
  simp only [catalog, List.mem_cons, List.not_mem_nil, or_false] at h
  obtain rfl | rfl | rfl | rfl := h
  · exact judged_rpc
  · exact judged_redfish
  · exact judged_ipmitool
  · exact judged_wol

/-! ## The catalog -/

theorem names_catalog (reach : Reach σ) :
    names (catalog reach) = ["rpc", "redfish", "ipmitool", "wol"] := rfl

theorem mem_names_of_isReady (h : IsReady target name) : name ∈ names (catalog reach) := by
  rw [names_catalog]
  unfold IsReady at h
  split at h <;> simp_all

theorem Judged.of_init_ok {r : Registration σ} {caps : Capabilities σ} (h : Judged target r)
    (hinit : r.init target = .ok caps) : IsReady target r.offer.name ∧
      ∀ f, caps.descriptor.supports f = r.offer.features.has f := by
  cases h with
  | ready hready hinit' hbacks =>
      cases hinit.symm.trans hinit'
      exact ⟨hready, hbacks⟩
  | declined _ hinit' => cases hinit.symm.trans hinit'

theorem Judged.of_init_error {r : Registration σ} {cause : Fault} (h : Judged target r)
    (hinit : r.init target = .error cause) :
    ∃ text, Declined target r.offer.name text ∧ cause = .invalidConfig text := by
  cases h with
  | ready _ hinit' _ => cases hinit.symm.trans hinit'
  | declined hdeclined hinit' =>
      cases hinit.symm.trans hinit'
      exact ⟨_, hdeclined, rfl⟩

/-- **The built-in drivers of a target.** None is refused when they are registered. For every target
the drivers that come of it are those for which the target has what they need, in the order of the
catalog; each of the others is reported once, in this order too, as declining the target with the
reason that it gives. A driver backs just the features that it advertises. -/
theorem builtin_drivers (reach : Reach σ) (target : Target) :
    let drivers := ((catalog reach).instantiate target).1
    let errors := ((catalog reach).instantiate target).2
    Catalog.ofAttempts (catalog reach) = catalog reach ∧
      names (catalog reach) = ["rpc", "redfish", "ipmitool", "wol"] ∧
      (names drivers).Sublist (names (catalog reach)) ∧
      (∀ name, name ∈ names drivers ↔ IsReady target name) ∧
      (errors.map RegistryError.driver).Sublist (names (catalog reach)) ∧
      (∀ name, name ∈ errors.map RegistryError.driver ↔
        name ∈ names (catalog reach) ∧ ¬IsReady target name) ∧
      (∀ e ∈ errors, ∃ text, Declined target e.driver text ∧
        e = .init e.driver (.invalidConfig text)) ∧
      ∀ d ∈ drivers,
        (∃ r ∈ catalog reach, d.offer = r.offer ∧ r.init target = .ok d.capabilities) ∧
          ∀ f, d.capabilities.descriptor.supports f = d.offer.features.has f := by
  intro drivers errors
  have haccounted : Catalog.Accounted target (catalog reach) drivers errors :=
    Catalog.accounted_instantiate _ target
  have hdrivers : ∀ d ∈ drivers,
      (∃ r ∈ catalog reach, d.offer = r.offer ∧ r.init target = .ok d.capabilities) ∧
        IsReady target d.name ∧
        ∀ f, d.capabilities.descriptor.supports f = d.offer.features.has f := by
    intro d hd
    obtain ⟨r, hr, hoffer, hinit⟩ := haccounted.of_driver_mem hd
    have hjudged := (judged_of_mem hr).of_init_ok hinit
    exact ⟨⟨r, hr, hoffer, hinit⟩, by rwa [Driver.name, hoffer]⟩
  have herrors : ∀ e ∈ errors, ∃ text, Declined target e.driver text ∧
      e = .init e.driver (.invalidConfig text) := by
    intro e he
    obtain ⟨r, hr, ⟨cause, hinit, rfl⟩ | ⟨caps, f, hinit, hhas, hlacks, -⟩⟩ :=
      haccounted.of_error_mem he
    · obtain ⟨text, hdeclined, rfl⟩ := (judged_of_mem hr).of_init_error hinit
      exact ⟨text, hdeclined, rfl⟩
    · -- What is advertised is backed, so nothing is lacking.
      rw [((judged_of_mem hr).of_init_ok hinit).2, hhas] at hlacks
      cases hlacks
  have hready : ∀ name ∈ names drivers, IsReady target name := by
    intro name hname
    obtain ⟨d, hd, rfl⟩ := List.mem_map.mp hname
    exact (hdrivers d hd).2.1
  have hdeclined : ∀ name ∈ errors.map RegistryError.driver, ¬IsReady target name := by
    intro name hname
    obtain ⟨e, he, rfl⟩ := List.mem_map.mp hname
    obtain ⟨text, hdeclined, -⟩ := herrors e he
    exact hdeclined.not_isReady
  have heither : ∀ name ∈ names (catalog reach),
      name ∈ names drivers ∨ name ∈ errors.map RegistryError.driver := fun name hname =>
    List.mem_append.mp (haccounted.names_perm.mem_iff.mpr hname)
  refine ⟨rfl, rfl, haccounted.names_sublist, fun name => ⟨hready name, fun h => ?_⟩,
    haccounted.errors_sublist, fun name => ⟨fun h => ?_, fun ⟨hname, hnot⟩ => ?_⟩, herrors,
    fun d hd => ⟨(hdrivers d hd).1, (hdrivers d hd).2.2⟩⟩
  · exact (heither name (mem_names_of_isReady h)).resolve_right fun hname => hdeclined name hname h
  · exact ⟨haccounted.errors_sublist.subset h, hdeclined name h⟩
  · exact (heither name hname).resolve_left fun h => hnot (hready name h)

/-- With nothing but a host, two of them are ready. -/
example (reach : Reach σ) :
    let target : Target := { host := "10.0.0.5", username := "admin", password := "secret" }
    names ((catalog reach).instantiate target).1 = ["redfish", "ipmitool"] ∧
      ((catalog reach).instantiate target).2 =
        [.init "rpc" (.invalidConfig "rpc: no consumer configured"),
          .init "wol" (.invalidConfig "wol: no MAC address configured")] :=
  ⟨rfl, rfl⟩

end OutOfBand.Builtin
