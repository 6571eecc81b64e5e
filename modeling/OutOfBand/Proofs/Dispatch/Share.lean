import OutOfBand.Proofs.Dispatch.Account

/-!
# Even shares

Where nobody says how much time a driver gets, the drivers of a dispatch share the time until the
deadline evenly, in whole milliseconds. No driver then uses up what belongs to another: the `k`-th
turn begins before `k` shares are over (`Course.onTime`), so each has its whole share before the
deadline, and a driver that needs less than its share is reached if no other has succeeded before.
A share is a number of 64 bits, though: of a time that is longer the drivers get only so much
(`exhausted_despite_prompt`).
-/

namespace OutOfBand.Client

open Context

/-- Work that succeeds after some whole milliseconds, fewer than `share`. -/
def Prompt (op : Operation σ (Except Fault α)) (share : Nat) (s : Scene σ) : Prop :=
  ∃ ms a w, ms < share ∧ (op s.now s.world).lag = some (.ofMillis ms) ∧
    (op s.now s.world).finish (op s.now s.world).world = (.ok a, w)

/-- The milliseconds of an even share of `ms` milliseconds among `count` drivers: the quotient, or
the greatest number of 64 bits if that is less. -/
def evenShare (ms count : Nat) : Nat := min (ms / count) (UInt64.size - 1)

theorem perDriver_eq_evenShare {ctx : Context} {now ms count : Nat}
    (hdeadline : ctx.deadline = some (now + ms * 1000000)) (hoverride : ctx.perDriver = none)
    (hcount : 0 < count) :
    Budget.perDriver ctx now count none = .ofMillis (evenShare ms count) := by
  have hleft : now + ms * 1000000 - now = ms * 1000000 := Nat.add_sub_cancel_left ..
  have hmillis : ms * 1000000 / 1000000 = ms := Nat.mul_div_cancel _ (by decide)
  have hmax : max count 1 = count := Nat.max_eq_left hcount
  simp [Budget.perDriver, Budget.allocate, hoverride, remaining, hdeadline, Budget.share,
    Span.millis, hleft, hmillis, hmax, evenShare]

theorem mul_evenShare_le (ms count : Nat) : count * evenShare ms count ≤ ms :=
  Nat.le_trans (Nat.mul_le_mul_left count (Nat.min_le_left ..)) (Nat.mul_div_le ms count)

/-- Shares that are no more than there are drivers are over by the deadline. -/
theorem shares_le (start ms : Nat) {k count : Nat} (hk : k ≤ count) :
    start + k * (evenShare ms count * 1000000) ≤ start + ms * 1000000 := by
  have hle : k * evenShare ms count ≤ ms :=
    Nat.le_trans (Nat.mul_le_mul_right _ hk) (mul_evenShare_le ms count)
  have hns := Nat.mul_le_mul_right 1000000 hle
  rw [Nat.mul_assoc] at hns
  omega

/-! ## Turns in time -/

/-- Whole milliseconds at which no more than `turns` shares are over since the instant `start`. -/
def OnTime (start share turns t : Nat) : Prop :=
  Clock.Whole t ∧ t ≤ start + turns * (share * 1000000)

theorem expiry_ofMillis {t : Nat} (h : Clock.Whole t) (share : Nat) :
    expiry t (.ofMillis share) = t + share * 1000000 := by
  rw [expiry_of_whole h, Span.ofMillis, Clock.tick_eq (Clock.whole_millis share)]

section Share

variable {ctx : Context} {share : Nat} {start deadline : Nat}

theorem Trial.onTime {op : Operation σ (Except Fault α)} {s s' : Scene σ} {v : Verdict α} {k : Nat}
    (h : Trial ctx (.ofMillis share) op s v s') (hstop : ∀ u, ctx.stop = some u → Clock.Whole u)
    (hs : OnTime start share k s.now) : OnTime start share (k + 1) s'.now := by
  have hexpiry : expiry s.now (.ofMillis share) ≤ start + (k + 1) * (share * 1000000) := by
    have hbegin := hs.2
    rw [expiry_ofMillis hs.1, Nat.add_mul, Nat.one_mul]
    generalize k * (share * 1000000) = begun at hbegin
    omega
  cases h with
  | accepted _ _ hin _ =>
      exact ⟨whole_ready hs.1 _, Nat.le_trans (Nat.le_of_lt hin.1) hexpiry⟩
  | refused _ _ hin _ =>
      exact ⟨whole_ready hs.1 _, Nat.le_trans (Nat.le_of_lt hin.1) hexpiry⟩
  | timedOut => exact ⟨Clock.whole_tick _, hexpiry⟩
  | cut _ hu _ _ hle => exact ⟨hstop _ hu, Nat.le_trans hle hexpiry⟩
  | skipped => exact ⟨hs.1, Nat.le_trans hs.2 (Nat.add_le_add_left
      (Nat.mul_le_mul_right _ (Nat.le_succ k)) start)⟩

/-- **Turns take no more than a share each.** -/
theorem Course.onTime {c : Call} {s s' : Scene σ} {turns : List (Turn σ c.Outcome)} {k : Nat}
    (h : Course ctx (.ofMillis share) c s turns s')
    (hstop : ∀ u, ctx.stop = some u → Clock.Whole u) (hs : OnTime start share k s.now) :
    OnTime start share (k + turns.length) s'.now ∧
      ∀ t ∈ turns, t.start + share * 1000000 ≤
        start + (k + turns.length) * (share * 1000000) := by
  -- A turn that begins before `k` shares are over ends before `k + 1` are.
  induction h generalizing k with
  | nil => exact ⟨hs, by simp⟩
  | @cons s m s'' d v turns _ htrial _ ih =>
      obtain ⟨hend, hturns⟩ := ih (htrial.onTime hstop hs)
      have hlen : k + 1 + turns.length = k + (turns.length + 1) := by omega
      rw [hlen] at hend hturns
      refine ⟨hend, ?_⟩
      simp only [List.mem_cons, forall_eq_or_imp, List.length_cons]
      refine ⟨?_, hturns⟩
      have hle : (k + 1) * (share * 1000000) ≤ (k + (turns.length + 1)) * (share * 1000000) :=
        Nat.mul_le_mul_right _ (by omega)
      have hfirst := hs.2
      rw [Nat.add_mul, Nat.one_mul] at hle
      generalize k * (share * 1000000) = begun at hle hfirst
      omega

/-- A turn of prompt work that has a whole share before the deadline succeeds. -/
theorem Trial.accepted_of_prompt {op : Operation σ (Except Fault α)} {s s' : Scene σ}
    {v : Verdict α} (h : Trial ctx (.ofMillis share) op s v s') (hs : Clock.Whole s.now)
    (hstop : ∀ u, ctx.stop = some u → s.now + share * 1000000 ≤ u) (hprompt : Prompt op share s) :
    ∃ a, v = .accepted a := by
  obtain ⟨ms, a, w, hms, hlag, hfinish⟩ := hprompt
  have hexpiry := expiry_ofMillis hs share
  have hready : ready s.now (.ofMillis ms) < s.now + share * 1000000 := by
    unfold ready
    split
    · exact Nat.lt_add_of_pos_right (by omega)
    · have hwhole : Clock.Whole (s.now + ms * 1000000) := Nat.dvd_add hs (Clock.whole_millis ms)
      rw [Span.ofMillis, Clock.tick_eq hwhole]
      omega
  cases h with
  | @accepted _ a' _ _ _ _ _ => exact ⟨a', rfl⟩
  | refused _ _ _ hfinish' => rw [hfinish] at hfinish'; cases hfinish'
  | timedOut _ hlate => have := hlate _ hlag; omega
  | cut _ hu _ hlate => have := hlate _ hlag; have := hstop _ hu; omega
  | skipped hzero => simp only [Span.ofMillis] at hzero; omega

end Share

/-! ## Nobody starves -/

theorem Course.reached {ctx : Context} {time : Span} {c : Call} {s s' : Scene σ} {d : Driver σ}
    {turns : List (Turn σ c.Outcome)} {rest earlier later : List (Driver σ)}
    (h : Course ctx time c s turns s')
    (hdrivers : turns.map Turn.driver ++ rest = earlier ++ d :: later)
    (hlen : earlier.length < turns.length) :
    ∃ before m v m' after, turns = before ++ ⟨d, m.now, v⟩ :: after ∧
      before.map Turn.driver = earlier ∧ Course ctx time c s before m ∧
      Trial ctx time (work d c) m v m' := by
  have hbefore : (turns.take earlier.length).map Turn.driver = earlier := by
    have htake := congrArg (List.take earlier.length) hdrivers
    rwa [List.take_append_of_le_length (by simp; omega), List.take_left', ← List.map_take] at htake
    rfl
  have hsplit := List.take_append_drop earlier.length turns
  cases hdrop : turns.drop earlier.length with
  | nil =>
      have := List.drop_eq_nil_iff.mp hdrop
      omega
  | cons t after =>
      rw [hdrop] at hsplit
      rw [← hsplit] at h hdrivers
      obtain ⟨m, hfirst, hmore⟩ := Course.append_iff.mp h
      cases hmore with
      | @cons _ m' _ d' v _ _ htrial _ =>
          rw [List.map_append, hbefore, List.append_assoc] at hdrivers
          obtain ⟨rfl, -⟩ := List.cons.inj (List.append_cancel_left hdrivers)
          exact ⟨_, m, v, m', after, hsplit.symm, hbefore, hfirst, htrial⟩

section Finish

variable {ctx : Context} {operation : String} {time : Span} {c : Call} {s s' : Scene σ}
  {turns : List (Turn σ c.Outcome)} {rest : List (Driver σ)} {result : Except CallError c.Outcome}

theorem Finish.isOk_of_accepted (h : Finish operation time [] turns rest result)
    {t : Turn σ c.Outcome} {a : c.Outcome} (ht : t ∈ turns) (hv : t.verdict = .accepted a) :
    ∃ a, result = .ok a := by
  have hok := h.accepted_iff.mpr ⟨t, ht, a, hv⟩
  cases result with
  | ok a => exact ⟨a, rfl⟩
  | error e => cases hok

theorem Finish.isOk_of_early (h : Finish operation time [] turns rest result)
    (hcourse : Course ctx time c s turns s') (hrest : rest ≠ []) (hend : ctx.error? s'.now = none) :
    ∃ a, result = .ok a := by
  cases h with
  | accepted => exact ⟨_, rfl⟩
  | exhausted => exact absurd rfl hrest
  | cut =>
      rw [hcourse.error?_of_cut rfl] at hend
      cases hend

/-- A call that came to a value has it from its last turn, and that driver is on record. -/
theorem Finish.told_by_last (h : Finish operation time [] turns rest result) {a : c.Outcome}
    (hresult : result = .ok a) :
    ∃ before last, turns = before ++ [last] ∧ last.verdict = .accepted a ∧
      (∀ t ∈ before, t.verdict.passed = true) ∧
      (turns.foldl (Turn.note time) {}).successful = some last.driver.name := by
  obtain ⟨before, last, hturns, hlast, hpassed⟩ := (h.ok_iff a).mp hresult
  refine ⟨before, last, hturns, hlast, hpassed, ?_⟩
  rw [h.successful rfl, hresult, hturns, List.getLast?_concat]
  rfl

end Finish

section Reach

variable {ctx : Context} {share deadline : Nat} {c : Call} {s s' : Scene σ}
  {turns : List (Turn σ c.Outcome)}

/-- A row of turns uses up no more than their shares. -/
theorem Course.inShares (h : Course ctx (.ofMillis share) c s turns s') (hs : Clock.Whole s.now)
    (hstop : ctx.stop = some deadline) (hwhole : Clock.Whole deadline) :
    OnTime s.now share turns.length s'.now ∧ ∀ t ∈ turns,
      t.start + share * 1000000 ≤ s.now + turns.length * (share * 1000000) := by
  have hstops : ∀ u, ctx.stop = some u → Clock.Whole u := fun u hu => by
    cases hstop.symm.trans hu
    exact hwhole
  have hstart : OnTime s.now share 0 s.now := ⟨hs, Nat.le_add_right ..⟩
  have hshares := h.onTime hstops hstart
  rwa [Nat.zero_add] at hshares

/-- A row of turns after which there is a share left does not end with the context. -/
theorem Course.alive_of_left (h : Course ctx (.ofMillis share) c s turns s')
    (hs : Clock.Whole s.now) (hstop : ctx.stop = some deadline) (hwhole : Clock.Whole deadline)
    (hshare : 1 ≤ share) (hleft : s.now + (turns.length + 1) * (share * 1000000) ≤ deadline) :
    ctx.error? s'.now = none := by
  obtain ⟨⟨hend, hlate⟩, -⟩ := h.inShares hs hstop hwhole
  rw [error?_eq_none_iff_lt_stop hend]
  intro u hu
  cases hstop.symm.trans hu
  rw [Nat.add_mul, Nat.one_mul] at hleft
  have hpos : 0 < share * 1000000 := by omega
  omega

/-- A driver that is prompt succeeds if its turn comes and there is a share left for it. -/
theorem Course.isOk_of_prompt {operation : String} {time : Span}
    {rest earlier later : List (Driver σ)} {d : Driver σ} {result : Except CallError c.Outcome}
    (h : Course ctx (.ofMillis share) c s turns s')
    (hfinish : Finish operation time [] turns rest result)
    (hdrivers : turns.map Turn.driver ++ rest = earlier ++ d :: later)
    (hreached : earlier.length < turns.length) (hs : Clock.Whole s.now)
    (hstop : ctx.stop = some deadline) (hwhole : Clock.Whole deadline)
    (hleft : s.now + (earlier.length + 1) * (share * 1000000) ≤ deadline)
    (hprompt : ∀ before m, before.map Turn.driver = earlier →
      Course ctx (.ofMillis share) c s before m → Prompt (work d c) share m) :
    ∃ a, result = .ok a := by
  obtain ⟨before, m, v, m', after, rfl, rfl, hfirst, htrial⟩ := h.reached hdrivers hreached
  obtain ⟨⟨hm, hbegin⟩, -⟩ := hfirst.inShares hs hstop hwhole
  have hshareful : ∀ u, ctx.stop = some u → m.now + share * 1000000 ≤ u := by
    intro u hu
    cases hstop.symm.trans hu
    rw [List.length_map, Nat.add_mul, Nat.one_mul] at hleft
    omega
  obtain ⟨a, rfl⟩ := htrial.accepted_of_prompt hm hshareful (hprompt before m rfl hfirst)
  exact hfinish.isOk_of_accepted (List.mem_append_right _ List.mem_cons_self) rfl

/-- Where there is a share for each driver before the deadline, it is enough that one of them would
be prompt. -/
theorem Course.isOk_of_shares {operation : String} {drivers rest earlier later : List (Driver σ)}
    {d : Driver σ} {result : Except CallError c.Outcome}
    (h : Course ctx (.ofMillis share) c s turns s')
    (hfinish : Finish operation (.ofMillis share) [] turns rest result)
    (hdrivers : drivers = turns.map Turn.driver ++ rest) (hs : Clock.Whole s.now)
    (hstop : ctx.stop = some deadline) (hwhole : Clock.Whole deadline) (hshare : 1 ≤ share)
    (hfit : ∀ k, k ≤ drivers.length → s.now + k * (share * 1000000) ≤ deadline)
    (hd : drivers = earlier ++ d :: later)
    (hprompt : ∀ before m, before.map Turn.driver = earlier →
      Course ctx (.ofMillis share) c s before m → Prompt (work d c) share m) :
    ∃ a, result = .ok a := by
  have hearlier : earlier.length + 1 ≤ drivers.length := by
    rw [hd, List.length_append, List.length_cons]
    omega
  rcases Nat.lt_or_ge earlier.length turns.length with hreached | hbefore
  · exact h.isOk_of_prompt hfinish (hdrivers.symm.trans hd) hreached hs hstop hwhole
      (hfit _ hearlier) hprompt
  · -- The row ended before the turn of the driver, and too early for the context to have ended it.
    have hleft := hfit (turns.length + 1) (by omega)
    refine hfinish.isOk_of_early h ?_ (h.alive_of_left hs hstop hwhole hshare hleft)
    rintro rfl
    rw [List.append_nil] at hdrivers
    rw [hdrivers, List.length_map] at hearlier
    omega

end Reach

/-- **No driver starves.** Let the call begin at a whole millisecond, `r` whole milliseconds before
its deadline, with nobody to cancel it and nothing said of the time of a driver. Then every driver
that is tried has a whole even share before the deadline, which is the quotient of `r` by their
number unless that takes more than 64 bits. And if the work of one of them would be prompt when its
turn comes, the dispatch succeeds, whatever the others do: it has the answer of the last driver that
was tried, which is on record for it, after turns that were passed over. -/
theorem dispatch_isOk_of_prompt {ctx : Context} {registry : List (Driver σ)} {c : Call}
    {s : Scene σ} {r : Nat} (whole : Clock.Whole s.now)
    (deadline : ctx.deadline = some (s.now + r * 1000000)) (uncancelled : ctx.cancelAt = none)
    (override : ctx.perDriver = none) (enough : 1 ≤ r / (eligible registry c).length) :
    let share := evenShare r (eligible registry c).length
    let D := dispatch ctx registry none c s
    (r / (eligible registry c).length < UInt64.size → share = r / (eligible registry c).length) ∧
    ∃ turns, turns.map Turn.driver <+: eligible registry c ∧
      D.metadata.attempted = turns.map (fun t => t.driver.name) ∧
      Course ctx (.ofMillis share) c s turns D.scene ∧
      (∀ t ∈ turns, (ctx.limited t.start (.ofMillis share)).deadline =
        some (t.start + share * 1000000)) ∧
      ((∃ earlier d later, eligible registry c = earlier ++ d :: later ∧
        ∀ row m, row.map Turn.driver = earlier → Course ctx (.ofMillis share) c s row m →
          Prompt (work d c) share m) →
        ∃ before last a, turns = before ++ [last] ∧ last.verdict = .accepted a ∧
          (∀ t ∈ before, t.verdict.passed = true) ∧ D.result = .ok a ∧
          D.metadata.successful = some last.driver.name) := by
  intro share D
  have hcount : 0 < (eligible registry c).length :=
    Nat.pos_of_ne_zero fun hzero => by simp [hzero] at enough
  have hshare : 1 ≤ share := Nat.le_min.mpr ⟨enough, by decide⟩
  have hwhole : Clock.Whole (s.now + r * 1000000) := Nat.dvd_add whole (Clock.whole_millis r)
  have hstop : ctx.stop = some (s.now + r * 1000000) := stop_of_deadline deadline hwhole uncancelled
  have alive : ctx.error? s.now = none := by
    have hr : 1 ≤ r := Nat.le_trans enough (Nat.div_le_self ..)
    rw [error?_eq_none_iff]
    simp [uncancelled, deadline]
    omega
  obtain ⟨turns, rest, hdrivers, hcourse, hfinish, hmetadata⟩ :=
    dispatch_course_plain alive (List.length_pos_iff.mp hcount) none
  rw [perDriver_eq_evenShare deadline override hcount] at hcourse hfinish hmetadata
  have hfit : ∀ k, k ≤ (eligible registry c).length →
      s.now + k * (share * 1000000) ≤ s.now + r * 1000000 := fun k => shares_le s.now r
  refine ⟨fun hsize => Nat.min_eq_left (Nat.le_sub_one_of_lt hsize),
    turns, ⟨rest, hdrivers.symm⟩, ?_, hcourse, fun t ht => ?_, ?_⟩
  · rw [hmetadata, attempted_foldl_note]
    rfl
  · have hlength : turns.length ≤ (eligible registry c).length := by
      rw [hdrivers]
      simp
    have hturns := (hcourse.inShares whole hstop hwhole).2
    have hle := Nat.le_trans (hturns t ht) (hfit _ hlength)
    simp [limited, earlier, deadline, Span.ofMillis]
    omega
  rintro ⟨earlier, d, later, heligible, hprompt⟩
  obtain ⟨a, hresult⟩ := hcourse.isOk_of_shares hfinish hdrivers whole hstop hwhole hshare hfit
    heligible hprompt
  obtain ⟨before, last, hturns, hlast, hpassed, hsuccessful⟩ := hfinish.told_by_last hresult
  exact ⟨before, last, a, hturns, hlast, hpassed, hresult, hmetadata ▸ hsuccessful⟩

/-- Four seconds for a driver that never answers and one that needs almost two. -/
theorem dispatch_isOk_of_prompt_after_hung :
    let hung := mockDriver { name := "a", behavior := .hang }
    let prompt := mockDriver { name := "b", behavior := .delay (.ofMillis 1999) }
    let ctx : Context := { deadline := some 4000000000 }
    let D := dispatch ctx [hung, prompt] none .powerState (⟨0, {}⟩ : Scene Mock.State)
    1 ≤ 4000 / (eligible [hung, prompt] .powerState).length ∧
      (∃ a, D.result = .ok a) ∧ D.metadata.successful = some "b" := by
  intro hung prompt ctx D
  have hdeadline : ctx.deadline = some (0 + 4000 * 1000000) := by simp [ctx]
  have henough : 1 ≤ 4000 / (eligible [hung, prompt] .powerState).length := by decide
  have hstop : ctx.stop = some (4000 * 1000000) := by decide
  have hprompt : let share := evenShare 4000 (eligible [hung, prompt] .powerState).length
      ∀ row m, row.map Turn.driver = [hung] →
        Course ctx (.ofMillis share) .powerState ⟨0, {}⟩ row m →
        Prompt (work prompt .powerState) share m := by
    intro share row m _ hrow
    -- Turns end at whole milliseconds, so the driver takes just as long as it is told to.
    have hm := (hrow.inShares ⟨0, rfl⟩ hstop (Clock.whole_millis 4000)).1.1
    have hlag := Clock.timer_eq hm (Clock.whole_millis 1999)
    exact ⟨1999, m.world.power, m.world.note "power_state", by decide, congrArg some hlag, rfl⟩
  obtain ⟨-, turns, -, -, -, -, hreached⟩ :=
    dispatch_isOk_of_prompt (s := ⟨0, {}⟩) ⟨0, rfl⟩ hdeadline rfl rfl henough
  obtain ⟨-, -, a, -, -, -, hresult, -⟩ := hreached ⟨[hung], prompt, [], rfl, hprompt⟩
  exact ⟨henough, ⟨a, hresult⟩, by decide +kernel⟩

/-- A mock that takes as many milliseconds as 64 bits cannot count. -/
def slowMock : Driver Mock.State :=
  mockDriver { name := "b", behavior := .delay (.ofMillis 18446744073709551616) }

/-- A deadline a millisecond later. -/
def deadlineAfterSlow : Context := { deadline := some (18446744073709551617 * 1000000) }

/-- **Shares are cut to 64 bits.** A driver that has all the time until the deadline to itself, and
would be done a millisecond before, starves where that time takes more than 64 bits. -/
theorem exhausted_despite_prompt :
    (eligible [slowMock] .powerState).length = 1 ∧
      Prompt (work slowMock .powerState) (18446744073709551617 / 1) ⟨0, {}⟩ ∧
      (dispatch deadlineAfterSlow [slowMock] none .powerState ⟨0, {}⟩).result =
        .error (.exhausted "powerstate" [⟨"b", .timedOut (.ofMillis 18446744073709551615)⟩]) := by
  have hstart : Clock.Whole 0 := ⟨0, rfl⟩
  have hlag := Clock.timer_eq hstart (Clock.whole_millis 18446744073709551616)
  have hprompt : Prompt (work slowMock .powerState) (18446744073709551617 / 1) ⟨0, {}⟩ :=
    ⟨18446744073709551616, .off, .note {} "power_state", by decide, congrArg some hlag, rfl⟩
  refine ⟨by decide, hprompt, ?_⟩
  rw [dispatch]
  rfl

end OutOfBand.Client
