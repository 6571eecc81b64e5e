import OutOfBand.Proofs.Dispatch.Account
import OutOfBand.Proofs.Dispatch.Descriptors

/-!
# Bystanders

A driver whose descriptor does not back the feature of a call is a bystander of the call: it may be
put into the registry or left out of it, anywhere and together with any number of others
(`SameBut`), and nothing tells. That goes for the result and the record, for what other drivers are
asked to do and when, and so for the time that each of them gets, which is a share of what is left
(`Alike`). A client that looks at its registry through the filter by the feature leaves out none
but bystanders, if its drivers advertise what they can do.
-/

namespace OutOfBand.Client

variable {σ : Type}

/-- Two registries that differ only in drivers whose descriptors do not back a feature. -/
inductive SameBut (f : Feature) : List (Driver σ) → List (Driver σ) → Prop where
  | nil : SameBut f [] []
  | both {l l' : List (Driver σ)} (d : Driver σ) (h : SameBut f l l') :
      SameBut f (d :: l) (d :: l')
  | putIn {l l' : List (Driver σ)} {d : Driver σ}
      (hd : d.capabilities.descriptor.supports f = false) (h : SameBut f l l') :
      SameBut f l (d :: l')
  | leftOut {l l' : List (Driver σ)} {d : Driver σ}
      (hd : d.capabilities.descriptor.supports f = false) (h : SameBut f l l') :
      SameBut f (d :: l) l'

/-- An operation comes to the same with two clients. -/
structure Alike (client other : Client σ) (ctx : Context) (c : Call) : Prop where
  /-- The results and the records are the same, the instants at which it is over, and the worlds
  that it leaves. -/
  operate : ∀ run, other.operate ctx run c = client.operate ctx run c
  /-- Drivers are asked to do the same, at the same instants, and come to their answers alike. -/
  watched : ∀ run, other.watched.operate ctx run c = client.watched.operate ctx run c

/-! ## Which drivers matter -/

variable {f : Feature} {c : Call} {registry other : List (Driver σ)}

theorem backs_eq (d : Driver σ) (f : Feature) :
    d.backs f = d.capabilities.descriptor.supports f :=
  (d.capabilities.descriptor_supports f).symm

theorem eligible_eq_nil_iff :
    eligible registry c = [] ↔
      ∀ d ∈ registry, d.capabilities.descriptor.supports c.feature = false := by
  simp only [eligible, backs_eq, List.filter_eq_nil_iff, Bool.not_eq_true]

theorem SameBut.eligible_eq (h : SameBut c.feature registry other) :
    eligible other c = eligible registry c := by
  simp only [eligible, backs_eq]
  induction h with
  | nil => rfl
  | both d _ ih => rw [List.filter_cons, List.filter_cons, ih]
  | putIn hd _ ih => rw [List.filter_cons_of_neg (by simp [hd]), ih]
  | leftOut hd _ ih => rw [List.filter_cons_of_neg (by simp [hd]), ih]

/-- A test that all drivers with the feature pass leaves out bystanders only. -/
theorem SameBut.filter {p : Driver σ → Bool}
    (h : ∀ d ∈ registry, d.capabilities.descriptor.supports f = true → p d = true) :
    SameBut f registry (registry.filter p) := by
  induction registry with
  | nil => exact .nil
  | cons d registry ih =>
      have hrest := ih fun e he => h e (List.mem_cons_of_mem d he)
      by_cases hd : p d = true
      · rw [List.filter_cons_of_pos hd]
        exact .both d hrest
      · rw [List.filter_cons_of_neg hd]
        refine .leftOut (Bool.eq_false_iff.mpr fun hsupports => ?_) hrest
        exact hd (h d List.mem_cons_self hsupports)

/-- The filter by a feature leaves out bystanders only, if drivers advertise what they can do. -/
theorem SameBut.supports
    (h : ∀ d ∈ registry, ∃ name protocol caps, d = .ofCapabilities name protocol caps) :
    SameBut f registry ((View.supports [f]).apply registry) := by
  refine .filter fun d hd hsupports => ?_
  obtain ⟨name, protocol, caps, rfl⟩ := h d hd
  refine Features.includes_iff.mpr fun g hg => ?_
  rw [List.mem_singleton.mp hg]
  show (Driver.ofCapabilities name protocol caps).offer.features.has f = true
  rw [Driver.features_ofCapabilities, Descriptor.has_features]
  exact hsupports

/-! ## Nothing but them matters -/

/-- A call depends on the drivers that can carry it out, and on no others. -/
theorem call_congr {client other : Client σ} (hconfig : other.config = client.config)
    (h : eligible other.registry c = eligible client.registry c) (ctx : Context) (run : Run σ) :
    other.call ctx c run = client.call ctx c run := by
  simp only [call, dispatch, h, hconfig]

theorem SameBut.alike {client other : Client σ}
    (h : SameBut c.feature client.registry other.registry) (hconfig : other.config = client.config)
    (ctx : Context) : Alike client other ctx c where
  operate run := by
    rw [operate_eq_call, operate_eq_call]
    exact call_congr hconfig h.eligible_eq ctx run
  watched run := by
    rw [operate_eq_call, operate_eq_call]
    have hwatched : other.watched.config = client.watched.config := hconfig
    refine call_congr hwatched ?_ ctx run
    show eligible (other.registry.map Driver.watched) c =
      eligible (client.registry.map Driver.watched) c
    rw [eligible_watched, eligible_watched, h.eligible_eq]

/-- A call tells of a feature that no driver implements just when it is begun in time and all
drivers are bystanders; the feature is the call's. -/
theorem call_notImplemented_iff (client : Client σ) (ctx : Context) (c : Call) (run : Run σ)
    (f : Feature) : (client.call ctx c run).1 = .error (.notImplemented f) ↔
      f = c.feature ∧ ctx.error? run.now = none ∧
        ∀ d ∈ client.registry, d.capabilities.descriptor.supports c.feature = false := by
  rw [← eligible_eq_nil_iff]
  show (dispatch ctx client.registry client.config.perProvider c run.toScene).result = _ ↔ _
  cases hnow : ctx.error? run.now with
  | some cause => simp [dispatch_done hnow]
  | none =>
      by_cases hnobody : eligible client.registry c = []
      · simp [dispatch_nobody hnow hnobody, hnobody, eq_comm]
      · obtain ⟨turns, rest, -, -, hfinish, -⟩ :=
          dispatch_course_plain hnow hnobody client.config.perProvider
        simp [hfinish.ne_notImplemented f, hnobody]

/-- **Bystanders are invisible.** Drivers whose descriptors do not back the feature of a call may be
put into the registry or left out of it: the operation of the call comes to the same. So a client
whose drivers advertise what they can do may as well look at its registry through the filter by the
feature. Each operation, with the descriptor entries and the feature that it names, is the dispatch
of its call; the feature is the one that it tells when it finds bystanders only. -/
theorem bystanders_invisible {client other : Client σ}
    (hconfig : other.config = client.config)
    (hsame : SameBut c.feature client.registry other.registry) (ctx : Context) :
    Alike client other ctx c ∧
      ((∀ d ∈ client.registry, ∃ name protocol caps, d = .ofCapabilities name protocol caps) →
        Alike client (client.view (.supports [c.feature])) ctx c) ∧
      (∀ run, client.operate ctx run c = client.call ctx c run) ∧
      ∀ run f, (client.operate ctx run c).1 = .error (.notImplemented f) ↔
        f = c.feature ∧ ctx.error? run.now = none ∧
          ∀ d ∈ client.registry, d.capabilities.descriptor.supports c.feature = false := by
  refine ⟨hsame.alike hconfig ctx, fun hown => ?_, fun run => client.operate_eq_call ctx run c,
    fun run f => ?_⟩
  · have hview : SameBut c.feature client.registry
        (client.view (.supports [c.feature])).registry := .supports hown
    exact hview.alike rfl ctx
  · rw [operate_eq_call]
    exact client.call_notImplemented_iff ctx c run f

/-- Among drivers that can do nothing, one that never answers still gets half of the time. -/
theorem bystanders_invisible_of_idle_drivers :
    let hung := mockDriver { name := "a", behavior := .hang }
    let ready := mockDriver { name := "b" }
    let idle : Driver Mock.State := .ofCapabilities "c" "mock" .none
    let client : Client Mock.State := { registry := [hung, ready] }
    let other : Client Mock.State := { registry := [idle, hung, idle, idle, ready] }
    let ctx : Context := { deadline := some 4000000000 }
    let start : Run Mock.State := { now := 0, world := {} }
    SameBut .powerState client.registry other.registry ∧ Alike client other ctx .powerState ∧
      Alike client (client.view (.supports [.powerState])) ctx .powerState ∧
      (other.operate ctx start .powerState).2.now = 2000000000 := by
  intro hung ready idle client other ctx start
  have hidle : idle.capabilities.descriptor.supports .powerState = false := rfl
  have hsame : SameBut Call.powerState.feature client.registry other.registry :=
    .putIn hidle (.both hung (.putIn hidle (.putIn hidle (.both ready .nil))))
  have hown : ∀ d ∈ client.registry,
      ∃ name protocol caps, d = .ofCapabilities name protocol caps := by
    intro d hd
    simp only [client, List.mem_cons, List.not_mem_nil, or_false] at hd
    obtain rfl | rfl := hd <;> exact ⟨_, _, _, rfl⟩
  have hconfig : other.config = client.config := rfl
  obtain ⟨halike, hview, -, -⟩ := bystanders_invisible hconfig hsame ctx
  exact ⟨hsame, halike, hview hown, by decide⟩

end OutOfBand.Client
