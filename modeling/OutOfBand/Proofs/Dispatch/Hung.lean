import OutOfBand.Proofs.Dispatch.Share

/-!
# Drivers that hang

Where no driver ever answers, the clock alone says how a dispatch goes: each turn takes a whole share
of the time (`Trial.hung`), so the turns begin one share after another (`Course.hung`). Only the end
of the last turn can meet the deadline, and it does so just if the shares are the whole of the time
that was left. Then the last driver is cut off by the deadline; if not, its time is up before it.
-/

namespace OutOfBand.Client

open Context

/-- Work that never comes to an answer. -/
def Hangs (op : Operation σ α) : Prop := ∀ now w, (op now w).lag = none

/-- How the turn of a driver that hangs ends, at the instant `t`. -/
def hungVerdict (deadline t : Nat) : Verdict α :=
  if t < deadline then .timedOut else .cut .deadlineExceeded

section Hung

variable {ctx : Context} {share deadline : Nat}

/-- **A driver that hangs uses up its share.** -/
theorem Trial.hung {op : Operation σ (Except Fault α)} {s s' : Scene σ} {v : Verdict α}
    (h : Trial ctx (.ofMillis share) op s v s') (hangs : Hangs op) (whole : Clock.Whole s.now)
    (hstop : ctx.stop = some deadline) (hcause : ctx.error? deadline = some .deadlineExceeded)
    (hshare : 1 ≤ share) (hleft : s.now + share * 1000000 ≤ deadline) :
    s'.now = s.now + share * 1000000 ∧ v = hungVerdict deadline s'.now := by
  have hlag := hangs s.now s.world
  have hexpiry := expiry_ofMillis whole share
  cases h with
  | accepted _ hlag' => cases hlag.symm.trans hlag'
  | refused _ hlag' => cases hlag.symm.trans hlag'
  | timedOut _ _ hlater => exact ⟨hexpiry, (if_pos (hlater deadline hstop)).symm⟩
  | @cut t cause _ hu hcause' _ hle =>
      -- The deadline cuts the turn off at the very instant at which the share is over.
      cases hstop.symm.trans hu
      cases hcause.symm.trans hcause'
      exact ⟨Nat.le_antisymm (hexpiry ▸ hle) hleft, (if_neg (Nat.lt_irrefl _)).symm⟩
  | skipped hzero =>
      have hns : share * 1000000 = 0 := hzero
      omega

/-- **The turns of drivers that hang begin one share after another**, and each ends as the clock
says. -/
theorem Course.hung {c : Call} {s s' : Scene σ} {turns : List (Turn σ c.Outcome)}
    (h : Course ctx (.ofMillis share) c s turns s') (hangs : ∀ t ∈ turns, Hangs (work t.driver c))
    (whole : Clock.Whole s.now) (hstop : ctx.stop = some deadline)
    (hcause : ctx.error? deadline = some .deadlineExceeded) (hshare : 1 ≤ share)
    (hleft : s.now + turns.length * (share * 1000000) ≤ deadline) :
    s'.now = s.now + turns.length * (share * 1000000) ∧
      turns.map (Turn.entry c) = (turns.map Turn.driver).zipIdx.map (fun p =>
        ⟨p.1, .call c, s.now + p.2 * (share * 1000000)⟩) ∧
      ∀ t ∈ turns, t.verdict = hungVerdict deadline (t.start + share * 1000000) := by
  induction h with
  | nil => simp
  | @cons s m s'' d v turns _ htrial _ ih =>
      rw [List.length_cons, Nat.add_mul, Nat.one_mul] at hleft
      obtain ⟨hm, hv⟩ := htrial.hung (hangs _ List.mem_cons_self) whole hstop hcause hshare
        (by omega)
      have hwhole : Clock.Whole m.now := hm ▸ Nat.dvd_add whole (Clock.whole_millis share)
      obtain ⟨hend, hentries, hverdicts⟩ := ih (fun t ht => hangs t (List.mem_cons_of_mem _ ht))
        hwhole (by omega)
      refine ⟨?_, ?_, ?_⟩
      · rw [hend, hm, List.length_cons, Nat.add_mul, Nat.one_mul]
        omega
      · rw [List.map_cons, List.map_cons, hentries, List.zipIdx_cons', List.map_cons, List.map_map]
        refine List.cons_eq_cons.mpr ⟨by simp [Turn.entry], List.map_congr_left fun p _ => ?_⟩
        simp only [Function.comp, hm, Prod.map, id, Nat.add_mul, Nat.one_mul]
        congr 1
        omega
      · simp only [List.mem_cons, forall_eq_or_imp]
        exact ⟨by rw [hv, hm], hverdicts⟩

end Hung

/-! ## A whole dispatch -/

/-- The reasons why drivers failed whose time was up. -/
def timeouts (drivers : List (Driver σ)) (time : Span) : List Failure :=
  drivers.map fun d => ⟨d.name, .timedOut time⟩

theorem Turn.Passed.eq_timeouts {time : Span} {turns : List (Turn σ α)} {reasons : List Failure}
    (h : Turn.Passed time turns reasons) (hall : ∀ t ∈ turns, t.verdict = .timedOut) :
    reasons = timeouts (turns.map Turn.driver) time := by
  have hsome : reasons.map some = (timeouts (turns.map Turn.driver) time).map some := by
    rw [← h, timeouts, List.map_map, List.map_map]
    refine List.map_congr_left fun t ht => ?_
    simp [failure?, hall t ht]
  exact (List.map_inj_right fun _ _ => Option.some.inj).mp hsome

theorem hungVerdict_of_passed {deadline t : Nat}
    (h : (hungVerdict deadline t : Verdict α).passed = true) :
    (hungVerdict deadline t : Verdict α) = .timedOut := by
  unfold hungVerdict at h ⊢
  split at h <;> simp_all [Verdict.passed]

/-- After turns of drivers that hang, the call either has tried all drivers or is over. -/
theorem Finish.hung {ctx : Context} {operation : String} {time : Span} {c : Call} {s s' : Scene σ}
    {turns : List (Turn σ c.Outcome)} {rest : List (Driver σ)} {result : Except CallError c.Outcome}
    {deadline : Nat} {ending : Turn σ c.Outcome → Nat} (h : Finish operation time [] turns rest result)
    (hcourse : Course ctx time c s turns s') (alive : ctx.error? s.now = none)
    (hverdicts : ∀ t ∈ turns, t.verdict = hungVerdict deadline (ending t)) :
    (rest = [] ∧ ctx.error? s'.now = none ∧
      result = .error (.exhausted operation (timeouts (turns.map Turn.driver) time))) ∨
    (ctx.error? s'.now ≠ none ∧ result = .error (.context .deadlineExceeded
      (timeouts (turns.map Turn.driver).dropLast time))) := by
  have htimedOut : ∀ ts reasons, Turn.Passed time ts reasons → (∀ t ∈ ts, t ∈ turns) →
      reasons = timeouts (ts.map Turn.driver) time := fun ts reasons hpassed hmem =>
    hpassed.eq_timeouts fun t ht => by
      have hv := hverdicts t (hmem t ht)
      rw [hv, hungVerdict_of_passed (hv ▸ hpassed.passed t ht)]
  cases h with
  | @accepted earlier reasons d start a _ _ =>
      have hlast := hverdicts ⟨d, start, .accepted a⟩ (by simp)
      unfold hungVerdict at hlast
      split at hlast <;> cases hlast
  | exhausted hpassed =>
      rw [htimedOut _ _ hpassed fun _ => id, List.nil_append]
      exact .inl ⟨rfl, hcourse.alive alive hpassed.ne_cut, rfl⟩
  | @cut earlier reasons d start cause _ hpassed =>
      have hlast := hverdicts ⟨d, start, .cut cause⟩ (by simp)
      have hcause : cause = .deadlineExceeded := by
        unfold hungVerdict at hlast
        split at hlast <;> cases hlast
        rfl
      refine .inr ⟨by simp [hcourse.error?_of_cut rfl], ?_⟩
      rw [htimedOut _ _ hpassed fun _ => List.mem_append_left _, hcause, List.nil_append,
        List.map_append, List.map_singleton, List.dropLast_concat]

/-- What a dispatch `D` comes to that begins `r` milliseconds before its deadline, if the drivers all
hang and each gets `share` milliseconds. -/
structure AllHung (drivers : List (Driver σ)) (c : Call) (share r : Nat) (s : Scene (Watched σ))
    (D : Dispatched (Watched σ) c.Outcome) : Prop where
  attempted : D.metadata.attempted = drivers.map Driver.name
  /-- Every driver is started, one share after the other. -/
  started : Event.starts D.scene.log = Event.starts s.log ++ drivers.zipIdx.map fun p =>
    ⟨p.1, .call c, s.now + p.2 * (share * 1000000)⟩
  /-- If the shares are all the time there is, the deadline cuts the last driver off. -/
  cut : drivers.length * share = r → D.scene.now = s.now + r * 1000000 ∧
    D.result = .error (.context .deadlineExceeded (timeouts drivers.dropLast (.ofMillis share)))
  /-- If not, the time of all drivers is up before the deadline. -/
  exhausted : drivers.length * share ≠ r →
    D.scene.now = s.now + drivers.length * (share * 1000000) ∧
    D.scene.now < s.now + r * 1000000 ∧
    D.result = .error (.exhausted c.feature.tag (timeouts drivers (.ofMillis share)))

theorem Ran.allHung {ctx : Context} {share r : Nat} {c : Call} {s : Scene (Watched σ)}
    {turns : List (Turn σ c.Outcome)} {drivers rest : List (Driver σ)}
    {D : Dispatched (Watched σ) c.Outcome}
    (h : Ran ctx c.feature.tag (.ofMillis share) c [] {} s turns rest D)
    (hdrivers : drivers = turns.map Turn.driver ++ rest)
    (hangs : ∀ d ∈ drivers, Hangs (work d c)) (whole : Clock.Whole s.now)
    (hdeadline : ctx.deadline = some (s.now + r * 1000000)) (hcancel : ctx.cancelAt = none)
    (alive : ctx.error? s.now = none) (hshare : 1 ≤ share) (hshares : drivers.length * share ≤ r) :
    AllHung drivers c share r s D := by
  have hwhole : Clock.Whole (s.now + r * 1000000) := Nat.dvd_add whole (Clock.whole_millis r)
  have hcause := error?_deadline hdeadline (Nat.le_refl _) (by simp [hcancel])
  have hlength : turns.length ≤ drivers.length := by simp [hdrivers]
  have hleft : turns.length * share ≤ r := Nat.le_trans (Nat.mul_le_mul_right _ hlength) hshares
  obtain ⟨hend, hentries, hverdicts⟩ := h.course.hung
    (fun t ht => hangs _ (hdrivers ▸ List.mem_append_left _ (List.mem_map_of_mem ht))) whole
    (stop_of_deadline hdeadline hwhole hcancel) hcause hshare
    (by rw [← Nat.mul_assoc]; exact Nat.add_le_add_left (Nat.mul_le_mul_right _ hleft) _)
  have hfinish := h.finish.hung h.course alive hverdicts
  rw [← Nat.mul_assoc] at hend
  have halive : ctx.error? D.scene.plain.now = none ↔ turns.length * share < r := by
    rw [error?_eq_none_iff, hend]
    simp [hcancel, hdeadline]
  -- Were there drivers left over, so were their shares, and the call would have gone on.
  have hall : turns.length = drivers.length := by
    rcases hfinish with ⟨rfl, -, -⟩ | ⟨hdone, -⟩
    · simp [hdrivers]
    · have hover : r ≤ turns.length * share := Nat.le_of_not_lt fun hlt => hdone (halive.mpr hlt)
      exact Nat.le_antisymm hlength (Nat.le_of_mul_le_mul_right (Nat.le_trans hshares hover) hshare)
  have hturns : turns.map Turn.driver = drivers := by
    rw [hdrivers]
    refine List.IsPrefix.eq_of_length (List.prefix_append ..) ?_
    rw [← hdrivers, List.length_map, hall]
  rw [hturns] at hfinish hentries
  rw [hall] at halive hend
  exact {
    attempted := by
      rw [h.metadata, attempted_foldl_note, ← hturns, List.map_map]
      rfl
    started := by
      have hstarts := starts_events (c := c)
        (h.course.ne_skipped (Nat.mul_pos hshare (by decide)))
      rw [h.log, Event.starts_append, hstarts, hentries]
      rfl
    cut := fun heq => by
      rcases hfinish with ⟨-, hgoes, -⟩ | ⟨-, hresult⟩
      · exact absurd (halive.mp hgoes) (heq ▸ Nat.lt_irrefl _)
      · exact ⟨heq ▸ hend, hresult⟩
    exhausted := fun hne => by
      have hlt : drivers.length * share < r := Nat.lt_of_le_of_ne hshares hne
      have hnow : D.scene.now = s.now + drivers.length * share * 1000000 := hend
      rcases hfinish with ⟨-, -, hresult⟩ | ⟨hdone, -⟩
      · exact ⟨by rw [hnow, Nat.mul_assoc], by omega, hresult⟩
      · exact absurd (halive.mpr hlt) hdone }

/-- **A dispatch whose drivers all hang.** Let the call begin at a whole millisecond, `r` whole
milliseconds before its deadline, at least one for each driver, with nobody to cancel it and nothing
said of the time of a driver. Then every driver is started, and whether the call ends with the last
driver or at the deadline depends on whether their even shares are all of the time. The shares
are, unless they take more than 64 bits, just if the number of drivers divides `r`. -/
theorem dispatch_hung {ctx : Context} {registry : List (Driver σ)} {c : Call}
    {s : Scene (Watched σ)} {r : Nat} (whole : Clock.Whole s.now)
    (deadline : ctx.deadline = some (s.now + r * 1000000)) (uncancelled : ctx.cancelAt = none)
    (override : ctx.perDriver = none) (somebody : eligible registry c ≠ [])
    (enough : (eligible registry c).length ≤ r)
    (hangs : ∀ d ∈ eligible registry c, Hangs (work d c)) :
    let count := (eligible registry c).length
    let share := evenShare r count
    let D := dispatch ctx (registry.map Driver.watched) none c s
    D.plain = dispatch ctx registry none c s.plain ∧ AllHung (eligible registry c) c share r s D ∧
    (r / count < UInt64.size → share = r / count ∧ (count * share = r ↔ count ∣ r)) := by
  intro count share D
  have hcount : 0 < count := List.length_pos_iff.mpr somebody
  have hshare : 1 ≤ share := Nat.le_min.mpr ⟨Nat.div_pos enough hcount, by decide⟩
  have alive : ctx.error? s.now = none := by
    rw [error?_eq_none_iff]
    simp [uncancelled, deadline]
    omega
  refine ⟨dispatch_plain ctx registry none c s, ?_, fun hsize => ?_⟩
  · obtain ⟨turns, rest, hdrivers, hran⟩ := dispatch_course alive somebody none
    rw [perDriver_eq_evenShare deadline override hcount] at hran
    exact hran.allHung hdrivers hangs whole deadline uncancelled alive hshare
      (mul_evenShare_le r count)
  · have hquotient : share = r / count := Nat.min_eq_left (Nat.le_sub_one_of_lt hsize)
    rw [hquotient]
    exact ⟨rfl, ⟨fun h => ⟨_, h.symm⟩, Nat.mul_div_cancel'⟩⟩

/-- A mock that never answers. -/
def hungMock (name : String) : Driver Mock.State := mockDriver { name, behavior := .hang }

theorem hangs_hungMock (name : String) : Hangs (work (hungMock name) .powerState) := fun _ _ => rfl

/-- Seven milliseconds for three drivers that hang: two for each, and one is left over. -/
theorem dispatch_hung_of_three :
    let registry := [hungMock "a", hungMock "b", hungMock "c"]
    let ctx : Context := { deadline := some 7000000 }
    let s : Scene (Watched Mock.State) := ⟨0, {}, []⟩
    let D := dispatch ctx (registry.map Driver.watched) none .powerState s
    AllHung registry .powerState 2 7 s D ∧ ¬3 ∣ 7 ∧
      D.scene.now = 6000000 ∧ D.result = .error (.exhausted "powerstate"
        (["a", "b", "c"].map fun name => ⟨name, .timedOut (.ofMillis 2)⟩)) := by
  intro registry ctx s D
  have hdeadline : ctx.deadline = some (s.now + 7 * 1000000) := by decide
  have hsomebody : eligible registry .powerState ≠ [] := by decide
  have henough : (eligible registry .powerState).length ≤ 7 := by decide
  have hhangs : ∀ d ∈ eligible registry .powerState, Hangs (work d .powerState) := by
    intro d hd
    obtain ⟨name, -, rfl⟩ : ∃ name ∈ ["a", "b", "c"], hungMock name = d :=
      List.mem_map.mp (List.mem_filter.mp hd).1
    exact hangs_hungMock name
  have h := (dispatch_hung ⟨0, rfl⟩ hdeadline rfl rfl hsomebody henough hhangs).2.1
  have hshare : evenShare 7 (eligible registry .powerState).length = 2 := by decide
  have heligible : eligible registry .powerState = registry := List.filter_eq_self.mpr (by decide)
  rw [hshare, heligible] at h
  obtain ⟨hnow, -, hresult⟩ := h.exhausted (by decide)
  exact ⟨h, by decide, hnow.trans (by decide), hresult⟩

/-- A deadline so distant that the milliseconds until then take more than 64 bits. -/
def distant : Context := { deadline := some (18446744073709551616 * 1000000) }

/-- **A share of more than 64 bits is cut**, so a driver that hangs and has all the time there is does
not reach the deadline. -/
theorem exhausted_before_distant_deadline :
    let D := dispatch distant [hungMock "a"] none .powerState (⟨0, {}⟩ : Scene Mock.State)
    (eligible [hungMock "a"] .powerState).length ∣ 18446744073709551616 ∧
    D.scene.now = 18446744073709551615 * 1000000 ∧
    D.result = .error (.exhausted "powerstate"
      [⟨"a", .timedOut (.ofMillis 18446744073709551615)⟩]) :=
  ⟨by decide, by decide +kernel, by rw [dispatch]; rfl⟩

end OutOfBand.Client
