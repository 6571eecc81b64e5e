import Mathlib.Data.List.Induction
import OutOfBand.Client.Office
import OutOfBand.Proofs.Family.Tokens
import OutOfBand.Proofs.Install.Account

/-!
# What is on record

A client can be asked what its latest call did. What it answers depends on that call alone
(`carryOut_forgets`), and not on who made it, as long as it was one of its kin: a client that is
derived from the same as itself (`Kin`). So nothing of an earlier call is left on record, and nothing
comes in from clients that are not kin (`Office.latest_call`).
-/

namespace OutOfBand

open Client

/-! ## The record of an errand -/

namespace Client

/-- Whether an errand is taken down. To find out which drivers are compatible is not. -/
def Errand.recorded : Errand → Bool
  | call _ | openAll | closeAll | install _ => true
  | keepCompatible => false

section Errand

variable {client client' : Client σ} {ctx : Context} {run run' : Run σ}

/-- The record of an install that began at an instant and came to that result. -/
structure InstallRecord (client : Client σ) (ctx : Context) (now : Nat)
    (result : Except ClientError Report) (record : Metadata) : Prop where
  nobody : ctx.error? now ≠ none ∨ installing? client = none → record = {}
  done : ∀ d report, ctx.error? now = none → installing? client = some d → result = .ok report →
    record = { attempted := [d.name], successful := some d.name }
  failed : ∀ d e, ctx.error? now = none → installing? client = some d → result = .error e →
    record = { attempted := [d.name], failures := [(d.name, e.message)] }

theorem install_record {job : Job} {result : Except ClientError Report}
    (h : Client.install client ctx job run = some (result, run')) :
    InstallRecord client ctx run.now result run'.record := by
  cases hs : ctx.error? run.now with
  | some cause =>
      rw [install_done hs] at h
      cases h
      exact ⟨fun _ => rfl, by simp [hs], by simp [hs]⟩
  | none =>
      cases hd : installing? client with
      | none =>
          rw [install_nobody hs hd] at h
          cases h
          exact ⟨fun _ => rfl, by simp [hd], by simp [hd]⟩
      | some d =>
          rw [install_by hs hd] at h
          obtain ⟨⟨r, s⟩, -, hpair⟩ := Option.map_eq_some_iff.mp h
          refine ⟨by simp [hs, hd], ?_, ?_⟩
          · rintro d' report - hd' rfl
            cases hd.symm.trans hd'
            cases r <;> cases hpair
            rfl
          · rintro d' e - hd' rfl
            cases hd.symm.trans hd'
            cases r <;> cases hpair
            rfl

/-- **What is left on record does not depend on what was there before**, nor does anything else. -/
theorem carryOut_forgets {errand : Errand} (h : errand.recorded = true) (client : Client σ)
    (ctx : Context) (run : Run σ) :
    client.carryOut ctx run errand = client.carryOut ctx { toScene := run.toScene } errand := by
  cases errand with
  | call c => rfl
  | openAll => rfl
  | closeAll => rfl
  | install job => rfl
  | keepCompatible => cases h

theorem carryOut_keeps {errand : Errand} (hrecorded : errand.recorded = false)
    (h : client.carryOut ctx run errand = some (client', run')) : run'.record = run.record := by
  cases errand with
  | keepCompatible =>
      cases h
      rfl
  | call | openAll | closeAll | install => cases hrecorded

end Errand

end Client

/-! ## Who shares a record -/

namespace Office

open Family (Origin Founder Planted filterMap_concat getElem?_of_prefix)

/-- Where the slot of a client comes from that is there after a move, if it was not there before. -/
def Move.origin? : Move σ → Option Origin
  | .hire _ => some .own
  | .view original _ | .copy original => some (.shared original)
  | .send .. | .wait _ => none

def origins (moves : List (Move σ)) : List Origin := moves.filterMap Move.origin?

/-- The clients at `j` and at `k` are derived from one that was hired. -/
def Kin (moves : List (Move σ)) (j k : Nat) : Prop :=
  ∃ f, Founder (origins moves) j f ∧ Founder (origins moves) k f

/-- The slots of the clients in their places; a slot is a token that nothing is derived from. -/
def slotsOf (office : Office σ) : List Token := office.handles.map fun h => [h.slot]

/-- Slots fit the clients that share them. -/
def Staffed (moves : List (Move σ)) (office : Office σ) : Prop :=
  Planted (origins moves) office.slotsOf office.slots.length

section Staffed

variable {moves : List (Move σ)} {office office' : Office σ} {j k : Nat} {h h' : Handle σ}

theorem getElem?_slotsOf (hk : office.handles[k]? = some h) :
    office.slotsOf[k]? = some [h.slot] := by
  rw [slotsOf, List.getElem?_map, hk, Option.map_some]

theorem Staffed.lt_length (hstaffed : Staffed moves office) (hk : office.handles[k]? = some h) :
    h.slot < office.slots.length :=
  Planted.bound hstaffed _ (List.mem_of_getElem? (getElem?_slotsOf hk)) _ List.mem_cons_self

/-- **Clients share a slot just if they are kin.** -/
theorem Staffed.kin_iff (hstaffed : Staffed moves office) (hj : office.handles[j]? = some h)
    (hk : office.handles[k]? = some h') : Kin moves j k ↔ h.slot = h'.slot := by
  have hj := getElem?_slotsOf hj
  have hk := getElem?_slotsOf hk
  constructor
  · rintro ⟨f, hjf, hkf⟩
    have heq := (Planted.founder hstaffed hj hjf).2.symm.trans (Planted.founder hstaffed hk hkf).2
    exact (List.singleton_inj.mp (Option.some.inj heq))
  · intro heq
    rw [← heq] at hk
    obtain ⟨f, hf⟩ := Planted.exists_founder hstaffed hj
    obtain ⟨g, hg⟩ := Planted.exists_founder hstaffed hk
    exact ⟨f, hf, Planted.founder_eq hstaffed hk hj hg hf ▸ hg⟩

theorem Staffed.place (hstaffed : Staffed moves office) (hkin : Kin moves j k) :
    ∃ h, office.handles[j]? = some h := by
  obtain ⟨f, hf, -⟩ := hkin
  have hlt := hf.lt_length
  rw [← Planted.length hstaffed, slotsOf, List.length_map] at hlt
  exact ⟨office.handles[j], List.getElem?_eq_getElem hlt⟩

/-- A client that works stays in its place and keeps its slot. -/
theorem slotsOf_leave (hk : office.handles[k]? = some h) (client : Client σ) (run : Run σ) :
    (office.leave k h client run).slotsOf = office.slotsOf := by
  obtain ⟨hlt, rfl⟩ := List.getElem?_eq_some_iff.mp hk
  rw [slotsOf, leave, slotsOf, List.map_set]
  have hlt' : k < (office.handles.map fun h => [h.slot]).length := by simpa using hlt
  have hslot : (office.handles.map fun h => [h.slot])[k] = [office.handles[k].slot] :=
    List.getElem_map ..
  rw [← hslot]
  exact List.set_getElem_self hlt'

theorem slotsOf_add (office : Office σ) (h : Handle σ) :
    (office.add h).slotsOf = office.slotsOf ++ [[h.slot]] := by
  rw [slotsOf, add, List.map_append]
  rfl

/-- One more client, with the slot of another. -/
theorem Staffed.add (hstaffed : Staffed moves office) (hk : office.handles[k]? = some h)
    (hslot : h'.slot = h.slot) :
    Planted (origins moves ++ [.shared k]) (office.add h').slotsOf office.slots.length := by
  rw [slotsOf_add, hslot]
  exact Planted.share hstaffed (getElem?_slotsOf hk)

theorem Staffed.moved {m : Move σ} (hstaffed : Staffed moves office)
    (hm : office.move m = some office') : Staffed (moves ++ [m]) office' := by
  unfold Staffed
  rw [origins, filterMap_concat]
  cases m with
  | hire client =>
      cases hm
      have hslots : (office.hire client).slots.length = office.slots.length + 1 := by simp [hire]
      have hslotsOf : (office.hire client).slotsOf = office.slotsOf ++ [[office.slots.length]] :=
        slotsOf_add ..
      rw [hslots, hslotsOf]
      exact Planted.fresh hstaffed [] ⟨_, rfl⟩ (by simp)
  | view original v =>
      obtain ⟨h, hh, rfl⟩ := Option.map_eq_some_iff.mp hm
      exact hstaffed.add hh rfl
  | copy original =>
      obtain ⟨h, hh, rfl⟩ := Option.map_eq_some_iff.mp hm
      exact hstaffed.add hh rfl
  | send which ctx errand =>
      obtain ⟨h, hh, hsent⟩ := Option.bind_eq_some_iff.mp hm
      obtain ⟨⟨client, run⟩, -, rfl⟩ := Option.map_eq_some_iff.mp hsent
      have hslots : (office.leave which h client run).slots.length = office.slots.length :=
        List.length_set
      rw [slotsOf_leave hh, hslots]
      exact (List.append_nil (origins moves)).symm ▸ hstaffed
  | wait time =>
      cases hm
      exact (List.append_nil (origins moves)).symm ▸ hstaffed

end Staffed

/-! ## What goes on in an office -/

section Moves

variable {moves more : List (Move σ)} {office office' : Office σ} {m : Move σ} {j k : Nat}
  {h : Handle σ} {record : Metadata}

theorem follow_append : follow office (moves ++ more) =
    (follow office moves).bind fun office' => follow office' more := by
  simp [follow, List.foldlM_append]

theorem follow_cons : follow office (m :: moves) =
    (office.move m).bind fun office' => follow office' moves := rfl

theorem follow_staffed {scene : Scene σ} (hfollow : follow { scene } moves = some office) :
    Staffed moves office := by
  induction moves using List.reverseRecOn generalizing office with
  | nil =>
      cases hfollow
      exact .nil
  | append_singleton moves m ih =>
      rw [follow_append] at hfollow
      obtain ⟨before, hmoves, hm⟩ := Option.bind_eq_some_iff.mp hfollow
      exact (ih hmoves).moved (by simpa [follow] using hm)

/-- A client stays in its place and keeps its slot. -/
theorem move_slotsOf (hm : office.move m = some office') :
    office.slotsOf <+: office'.slotsOf := by
  cases m with
  | hire client =>
      cases hm
      exact slotsOf_add .. ▸ List.prefix_append ..
  | view original v =>
      obtain ⟨h, -, rfl⟩ := Option.map_eq_some_iff.mp hm
      exact slotsOf_add .. ▸ List.prefix_append ..
  | copy original =>
      obtain ⟨h, -, rfl⟩ := Option.map_eq_some_iff.mp hm
      exact slotsOf_add .. ▸ List.prefix_append ..
  | send which ctx errand =>
      obtain ⟨h, hh, hsent⟩ := Option.bind_eq_some_iff.mp hm
      obtain ⟨⟨client, run⟩, -, rfl⟩ := Option.map_eq_some_iff.mp hsent
      exact slotsOf_leave hh client run ▸ List.prefix_rfl
  | wait time =>
      cases hm
      exact List.prefix_rfl

theorem follow_slotsOf (hfollow : follow office moves = some office') :
    office.slotsOf <+: office'.slotsOf := by
  induction moves generalizing office with
  | nil =>
      cases hfollow
      exact List.prefix_rfl
  | cons m moves ih =>
      obtain ⟨next, hm, hmoves⟩ := Option.bind_eq_some_iff.mp (follow_cons ▸ hfollow)
      exact (move_slotsOf hm).trans (ih hmoves)

/-- A record stays as it is, but for the errands of those who share it. -/
theorem move_slot {slot : Nat} (hm : office.move m = some office')
    (hrecord : office.slots[slot]? = some record)
    (hquiet : ∀ which ctx errand, m = .send which ctx errand → errand.recorded = true →
      office.slotsOf[which]? ≠ some [slot]) :
    office'.slots[slot]? = some record := by
  have hlt := (List.getElem?_eq_some_iff.mp hrecord).1
  cases m with
  | hire client =>
      cases hm
      exact List.getElem?_append_left hlt ▸ hrecord
  | view original v =>
      obtain ⟨h, -, rfl⟩ := Option.map_eq_some_iff.mp hm
      exact hrecord
  | copy original =>
      obtain ⟨h, -, rfl⟩ := Option.map_eq_some_iff.mp hm
      exact hrecord
  | send which ctx errand =>
      obtain ⟨h, hh, hsent⟩ := Option.bind_eq_some_iff.mp hm
      obtain ⟨⟨client, run⟩, hcarry, rfl⟩ := Option.map_eq_some_iff.mp hsent
      change (office.slots.set h.slot run.record)[slot]? = some record
      rcases Decidable.em (h.slot = slot) with rfl | hne
      · -- The client shares the slot, so its errand is one that is not taken down.
        have hkeeps : run.record = (office.run h).record := by
          cases hrecorded : errand.recorded with
          | true => exact absurd (getElem?_slotsOf hh) (hquiet which ctx errand rfl hrecorded)
          | false => exact carryOut_keeps hrecorded hcarry
        have hrun : (office.run h).record = record := by rw [Office.run, hrecord, Option.getD_some]
        rw [List.getElem?_set_self hlt, hkeeps, hrun]
      · rw [List.getElem?_set_ne hne, hrecord]
  | wait time =>
      cases hm
      exact hrecord

theorem follow_slot {slot : Nat} (hfollow : follow office moves = some office')
    (hrecord : office.slots[slot]? = some record)
    (hquiet : ∀ which ctx errand, .send which ctx errand ∈ moves → errand.recorded = true →
      office'.slotsOf[which]? ≠ some [slot]) :
    office'.slots[slot]? = some record := by
  induction moves generalizing office with
  | nil =>
      cases hfollow
      exact hrecord
  | cons m moves ih =>
      obtain ⟨next, hm, hmoves⟩ := Option.bind_eq_some_iff.mp (follow_cons ▸ hfollow)
      refine ih hmoves (move_slot hm hrecord ?_) fun which ctx errand hmem =>
        hquiet which ctx errand (List.mem_cons_of_mem _ hmem)
      rintro which ctx errand rfl hrecorded hslot
      -- Whoever shares the slot now shares it in the end.
      refine hquiet which ctx errand List.mem_cons_self hrecorded ?_
      exact getElem?_of_prefix ((move_slotsOf hm).trans (follow_slotsOf hmoves)) hslot

/-- What would be on record of a client that is hired for an errand and does nothing else. -/
def alone (office : Office σ) (client : Client σ) (ctx : Context) (errand : Errand) :
    Option Metadata :=
  (follow office [.hire client, .send office.handles.length ctx errand]).bind
    (·.metadata office.handles.length)

theorem alone_eq (office : Office σ) (client : Client σ) (ctx : Context) (errand : Errand) :
    office.alone client ctx errand =
      (client.carryOut ctx { toScene := office.scene } errand).map fun p => p.2.record := by
  have hhandle : (office.hire client).handles[office.handles.length]? =
      some ⟨client, office.slots.length⟩ := List.getElem?_concat_length ..
  have hrun : (office.hire client).run ⟨client, office.slots.length⟩ =
      { toScene := office.scene } := by
    have hslot : (office.hire client).slots[office.slots.length]? = some {} :=
      List.getElem?_concat_length ..
    rw [Office.run, hslot]
    rfl
  have hsend : (office.hire client).move (.send office.handles.length ctx errand) =
      (client.carryOut ctx { toScene := office.scene } errand).map fun p =>
        (office.hire client).leave office.handles.length ⟨client, office.slots.length⟩ p.1 p.2 := by
    rw [move, hhandle, Option.bind_some, hrun]
  have hmetadata : ∀ (client' : Client σ) (run : Run σ),
      ((office.hire client).leave office.handles.length ⟨client, office.slots.length⟩ client'
        run).metadata office.handles.length = some run.record := by
    intro client' run
    simp [metadata, leave, hire, Office.add]
  have hfollow : follow office [.hire client, .send office.handles.length ctx errand] =
      (office.hire client).move (.send office.handles.length ctx errand) := by
    rw [follow_cons, move, Option.bind_some, follow_cons]
    exact Option.bind_fun_some _
  rw [alone, hfollow, hsend]
  cases client.carryOut ctx { toScene := office.scene } errand with
  | none => rfl
  | some p => exact hmetadata p.1 p.2

/-- The client that was sent on an errand has its record in its slot. -/
theorem move_send {ctx : Context} {errand : Errand} (hstaffed : Staffed moves office)
    (hrecorded : errand.recorded = true) (hm : office.move (.send k ctx errand) = some office') :
    ∃ h client run, office.handles[k]? = some h ∧
      h.client.carryOut ctx { toScene := office.scene } errand = some (client, run) ∧
      office'.slots[h.slot]? = some run.record := by
  obtain ⟨h, hh, hsent⟩ := Option.bind_eq_some_iff.mp hm
  obtain ⟨⟨client, run⟩, hcarry, rfl⟩ := Option.map_eq_some_iff.mp hsent
  rw [carryOut_forgets hrecorded] at hcarry
  exact ⟨h, client, run, hh, hcarry, List.getElem?_set_self (hstaffed.lt_length hh)⟩

/-- **What is on record is the latest errand of one's kin**, as if the client that ran it had been
hired for it and had done nothing before. What was on record earlier does not matter, nor do clients
that are not kin. An install names the driver that installs and nobody else. -/
theorem latest_call {scene : Scene σ} {before after : List (Move σ)} {ctx : Context}
    {errand : Errand}
    (hfollow : follow { scene } (before ++ .send k ctx errand :: after) = some office)
    (hrecorded : errand.recorded = true)
    (hquiet : ∀ j ctx' errand', .send j ctx' errand' ∈ after → errand'.recorded = true →
      ¬Kin (before ++ .send k ctx errand :: after) j k) :
    ∃ earlier h, follow { scene } before = some earlier ∧ earlier.handles[k]? = some h ∧
      ∀ j, Kin (before ++ .send k ctx errand :: after) j k → ∃ record,
        office.metadata j = some record ∧ earlier.alone h.client ctx errand = some record ∧
        ∀ job result run, errand = .install job →
          Client.install h.client ctx job (earlier.run h) = some (result, run) →
          InstallRecord h.client ctx earlier.scene.now result record := by
  have hstaffed := follow_staffed hfollow
  rw [follow_append] at hfollow
  obtain ⟨earlier, hbefore, hrest⟩ := Option.bind_eq_some_iff.mp hfollow
  obtain ⟨sent, hsend, hafter⟩ := Option.bind_eq_some_iff.mp (follow_cons ▸ hrest)
  obtain ⟨h, client, run, hh, hcarry, hslot⟩ := move_send (follow_staffed hbefore) hrecorded hsend
  -- The client that ran the errand is still there, with its slot.
  have hkept : office.slotsOf[k]? = some [h.slot] :=
    getElem?_of_prefix ((move_slotsOf hsend).trans (follow_slotsOf hafter)) (getElem?_slotsOf hh)
  obtain ⟨h', hh', hslot'⟩ : ∃ h', office.handles[k]? = some h' ∧ [h'.slot] = [h.slot] := by
    rwa [slotsOf, List.getElem?_map, Option.map_eq_some_iff] at hkept
  have hkin : ∀ j hj, office.handles[j]? = some hj →
      (Kin (before ++ .send k ctx errand :: after) j k ↔ hj.slot = h.slot) := by
    intro j hj hjk
    rw [hstaffed.kin_iff hjk hh', List.singleton_inj.mp hslot']
  have hrecord : office.slots[h.slot]? = some run.record := by
    refine follow_slot hafter hslot fun which ctx' errand' hmem hrec hshare => ?_
    rw [slotsOf, List.getElem?_map, Option.map_eq_some_iff] at hshare
    obtain ⟨hj, hwhich, heq⟩ := hshare
    exact hquiet which ctx' errand' hmem hrec
      ((hkin which hj hwhich).mpr (List.singleton_inj.mp heq))
  refine ⟨earlier, h, hbefore, hh, fun j hjk => ⟨run.record, ?_, ?_, ?_⟩⟩
  · obtain ⟨hj, hget⟩ := hstaffed.place hjk
    rw [metadata, hget, Option.bind_some, (hkin j hj hget).mp hjk, hrecord]
  · rw [alone_eq, hcarry]
    rfl
  · rintro job result run' rfl hinstall
    have hforget := carryOut_forgets hrecorded h.client ctx (earlier.run h)
    have hsame : (earlier.run h).toScene = earlier.scene := rfl
    rw [hsame, hcarry, carryOut, hinstall, Option.map_some] at hforget
    obtain ⟨-, rfl⟩ := Prod.mk.inj (Option.some.inj hforget)
    exact install_record hinstall

end Moves

/-- A driver that fails at switching the host, and installs, and one that does not fail. -/
def twoDrivers : Client Mock.State where
  registry := [mockDriver { name := "a", behavior := .fail, steps := [.powerOffHost] },
    mockDriver { name := "b" }]

/-- A question to both, an install, and after that a look at the drivers through a copy of a view. -/
def sharedErrands : List (Move Mock.State) :=
  [.hire twoDrivers, .view 0 (.forDriver "b"), .send 0 .background (.call .powerState)] ++
    .send 0 .background (.install { component := "bios", image := [] }) ::
      [.copy 1, .wait (.ofSecs 1), .send 2 .background .keepCompatible]

/-- Neither that the first driver failed at the question is on record in the end, nor that it could
not switch off the host, which the second driver did for it. -/
theorem latest_call_of_install :
    ∃ office earlier : Office Mock.State,
      follow { scene := ⟨0, {}⟩ } sharedErrands = some office ∧
      follow { scene := ⟨0, {}⟩ } (sharedErrands.take 3) = some earlier ∧
      (earlier.metadata 1).map (·.failures.map Prod.fst) = some ["a"] ∧
      Kin sharedErrands 2 0 ∧ office.metadata 2 = some { attempted := ["a"], successful := some "a" } ∧
      ∃ client, office.metadata 2 = earlier.alone client .background
        (.install { component := "bios", image := [] }) := by
  have hends : (follow { scene := ⟨0, {}⟩ } sharedErrands).isSome = true := by decide +kernel
  obtain ⟨office, hoffice⟩ := Option.isSome_iff_exists.mp hends
  have hkin : Kin sharedErrands 2 0 :=
    ⟨0, .shared rfl (.shared rfl (.new rfl rfl)), .new rfl rfl⟩
  obtain ⟨earlier, h, hbefore, -, hlatest⟩ := latest_call hoffice rfl (by
    intro j ctx errand hmem hrecorded
    simp only [List.mem_cons, reduceCtorEq, Move.send.injEq, List.not_mem_nil, or_false,
      false_or] at hmem
    obtain ⟨-, -, rfl⟩ := hmem
    cases hrecorded)
  obtain ⟨record, hrecord, halone, -⟩ := hlatest 2 hkin
  have hfailures : (follow { scene := ⟨0, {}⟩ } (sharedErrands.take 3)).bind (fun earlier =>
      (earlier.metadata 1).map (·.failures.map Prod.fst)) = some ["a"] := by decide +kernel
  have hmetadata : (follow { scene := ⟨0, {}⟩ } sharedErrands).bind (·.metadata 2) =
      some { attempted := ["a"], successful := some "a" } := by decide +kernel
  have hbefore : follow { scene := ⟨0, {}⟩ } (sharedErrands.take 3) = some earlier := hbefore
  rw [hbefore] at hfailures
  rw [hoffice] at hmetadata
  exact ⟨office, earlier, hoffice, hbefore, hfailures, hkin, hmetadata, h.client,
    hrecord.trans halone.symm⟩

end Office

end OutOfBand
