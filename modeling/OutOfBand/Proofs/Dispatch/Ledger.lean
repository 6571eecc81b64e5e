import OutOfBand.Proofs.Dispatch.Started
import OutOfBand.Proofs.Sorted

/-!
# The ledger of a dispatch

A dispatch says twice why drivers failed: in the list that its error carries, with a text for all of
them, and in the details of its record, under the name of each. Both are filled turn by turn. Where
no two drivers share a name they agree (`Ledger`): nobody who failed is missing from the record, and
only the driver whose turn the context cut is missing from the list.
-/

namespace OutOfBand.Client

open Json

/-! ## Texts that stand in a text -/

/-- The texts stand in a text, one after another and apart from each other. -/
inductive InOrder : List String → String → Prop
  | nil (whole : String) : InOrder [] whole
  | cons {t : String} {ts : List String} {rest : String} (before : String) : InOrder ts rest →
      InOrder (t :: ts) (before ++ t ++ rest)

namespace InOrder

variable {ts : List String} {whole : String}

theorem after (before : String) (h : InOrder ts whole) : InOrder ts (before ++ whole) := by
  cases h with
  | nil => exact .nil _
  | cons lead hrest =>
      rw [← String.append_assoc, ← String.append_assoc]
      exact .cons (before ++ lead) hrest

theorem intercalate (separator : String) (ts : List String) :
    InOrder ts (separator.intercalate ts) := by
  induction ts with
  | nil => exact .nil _
  | cons t ts ih =>
      cases ts with
      | nil => simpa using InOrder.cons (t := t) "" (.nil "")
      | cons u us =>
          rw [String.intercalate_cons_cons, String.append_assoc]
          simpa using InOrder.cons (t := t) "" (ih.after separator)

end InOrder

/-- **The text of an error tells of every failure**, in order. -/
theorem CallError.message_tells (e : CallError) :
    InOrder (e.failures.map Failure.message) e.message := by
  have hlisting : ∀ fs, InOrder (fs.map Failure.message) (Failure.listing fs) :=
    fun fs => .intercalate "; " _
  cases e with
  | notImplemented feature => exact .nil _
  | exhausted operation fs => exact (hlisting fs).after _
  | incomplete operation fs => exact (hlisting fs).after _
  | context cause fs =>
      cases fs with
      | nil => exact .nil _
      | cons f fs => exact (hlisting (f :: fs)).after _

/-! ## The details of a record -/

/-- What the record says under the name of a driver that failed. -/
def Failure.detail (f : Failure) : String × String := (f.driver, f.cause.message)

/-- What the record says of a turn under the name of its driver, if it came to nothing. -/
def Turn.detail? (time : Span) (t : Turn σ α) : Option (String × String) :=
  match t.verdict with
  | .accepted _ => none
  | .refused f => some (t.driver.name, f.message)
  | .timedOut | .skipped => some (t.driver.name, (Cause.timedOut time).message)
  | .cut cause => some (t.driver.name, cause.message)

theorem failures_foldl_note (time : Span) (turns : List (Turn σ α)) :
    (turns.foldl (Turn.note time) {}).failures = sorted (turns.filterMap (Turn.detail? time)) := by
  induction turns using List.reverseRecOn with
  | nil => rfl
  | append_singleton turns t ih =>
      rw [List.foldl_append, List.filterMap_append]
      cases hv : t.verdict <;>
        simp [Turn.note, Turn.detail?, hv, Metadata.attempt, Metadata.success, Metadata.failure, ih,
          sorted_append_singleton]

theorem Turn.detail?_of_failure? {time : Span} {t : Turn σ α} {f : Failure}
    (h : t.failure? time = some f) : t.detail? time = some f.detail := by
  cases hv : t.verdict <;> simp only [Turn.failure?, hv, Option.some.injEq, reduceCtorEq] at h <;>
    subst h <;> simp only [Turn.detail?, hv] <;> rfl

/-- The reasons for which a call went on are what its record says of the turns. -/
theorem Turn.Passed.details {time : Span} {turns : List (Turn σ α)} {reasons : List Failure}
    (h : Turn.Passed time turns reasons) :
    turns.filterMap (Turn.detail? time) = reasons.map Failure.detail := by
  induction turns generalizing reasons with
  | nil =>
      cases reasons with
      | nil => rfl
      | cons => cases h
  | cons t ts ih =>
      cases reasons with
      | nil => cases h
      | cons f fs =>
          obtain ⟨hfirst, hrest⟩ := List.cons.inj h
          rw [List.filterMap_cons_some (Turn.detail?_of_failure? hfirst), ih hrest, List.map_cons]

/-! ## The ledger -/

/-- What the list of failures and the record of a dispatch have to do with each other, if no driver
has its turn twice. -/
structure Ledger (D : Dispatched σ α) : Prop where
  once : D.metadata.attempted.Nodup
  /-- There is one text at most under a name. -/
  ordered : Ordered D.metadata.failures
  /-- The record says why of everybody who was tried and did not answer the call, and of nobody
  else. -/
  keys : ∀ name, name ∈ D.metadata.failures.map Prod.fst ↔
    name ∈ D.metadata.attempted ∧ D.metadata.successful ≠ some name
  /-- It says the same of them as the list does. -/
  details : ∀ e, D.result = .error e →
    ∀ f ∈ e.failures, (f.driver, f.cause.message) ∈ D.metadata.failures
  /-- So does the text of the error, one after another. -/
  told : ∀ e, D.result = .error e →
    InOrder (e.failures.map fun f => s!"provider {f.driver}: {f.cause.message}") e.message
  /-- Nobody is missing from the list but the driver whose turn the context cut. -/
  missing : ∀ e, D.result = .error e →
    D.metadata.attempted = e.failures.map Failure.driver ∨
    ∃ cause name, e = .context cause e.failures ∧
      D.metadata.attempted = e.failures.map Failure.driver ++ [name] ∧
      (name, cause.message) ∈ D.metadata.failures

/-- A dispatch that tried nobody. -/
theorem Ledger.nobody {e : CallError} (h : e.failures = []) (s : Scene σ) :
    Ledger (⟨.error e, {}, s⟩ : Dispatched σ α) where
  once := List.nodup_nil
  ordered := .nil
  keys := by simp
  details := by
    rintro _ ⟨⟩
    simp [h]
  told := fun e _ => e.message_tells
  missing := by
    rintro _ ⟨⟩
    simp [h]

section Finish

variable {operation : String} {time : Span} {c : Call} {turns : List (Turn σ c.Outcome)}
  {rest : List (Driver σ)} {reasons : List Failure}

theorem details_sublist (time : Span) (turns : List (Turn σ c.Outcome)) :
    List.Sublist ((turns.filterMap (Turn.detail? time)).map Prod.fst)
      (turns.map fun t => t.driver.name) := by
  induction turns with
  | nil => exact .slnil
  | cons t ts ih =>
      rw [List.filterMap_cons, List.map_cons]
      cases hv : t.verdict <;> simp only [Turn.detail?, hv]
      all_goals first | exact ih.cons_cons _ | exact ih.cons _

theorem Turn.Passed.names (h : Turn.Passed time turns reasons) :
    (turns.filterMap (Turn.detail? time)).map Prod.fst = turns.map fun t => t.driver.name := by
  rw [h.details, ← h.drivers, List.map_map]
  rfl

/-- **A row of turns keeps the ledger**, however it ends, if no driver has its turn twice. -/
theorem Finish.ledger {result : Except CallError c.Outcome}
    (h : Finish operation time [] turns rest result)
    (distinct : (turns.map fun t => t.driver.name).Nodup) (s : Scene σ) :
    Ledger ⟨result, turns.foldl (Turn.note time) {}, s⟩ := by
  have hattempted : (turns.foldl (Turn.note time) {}).attempted =
      turns.map fun t => t.driver.name := attempted_foldl_note time {} turns
  have hsuccessful : (turns.foldl (Turn.note time) {}).successful = _ := h.successful rfl
  have hmem : ∀ m, m ∈ (turns.foldl (Turn.note time) {}).failures ↔
      m ∈ turns.filterMap (Turn.detail? time) := by
    intro m
    rw [failures_foldl_note]
    exact mem_sorted_of_nodup (distinct.sublist (details_sublist time turns))
  have hkeys : ∀ name, name ∈ (turns.foldl (Turn.note time) {}).failures.map Prod.fst ↔
      name ∈ (turns.filterMap (Turn.detail? time)).map Prod.fst := by
    intro name
    simp only [List.mem_map, hmem]
  refine ⟨hattempted ▸ distinct, failures_foldl_note time turns ▸ ordered_sorted _, ?_, ?_,
    fun e _ => e.message_tells, ?_⟩
  · intro name
    rw [hkeys, hattempted, hsuccessful]
    cases h with
    | @accepted earlier reasons d start a _ hpassed =>
        -- The last driver is nobody of those before it.
        rw [List.map_append, List.nodup_append] at distinct
        have hlast : ∀ n ∈ earlier.map fun t => t.driver.name, n ≠ d.name :=
          fun n hn => distinct.2.2 n hn _ List.mem_cons_self
        have hothers : (name ∈ earlier.map fun t => t.driver.name) ↔
            name ∈ (earlier.map fun t => t.driver.name) ++ [d.name] ∧ some d.name ≠ some name := by
          grind
        rw [List.filterMap_append, List.map_append, hpassed.names]
        simpa [Turn.detail?, Except.isOk, Except.toBool] using hothers
    | exhausted hpassed => simp [hpassed.names, Except.isOk, Except.toBool]
    | cut hpassed =>
        rw [List.filterMap_append, List.map_append, hpassed.names]
        simp [Turn.detail?, Except.isOk, Except.toBool]
  · rintro e he f hf
    rw [hmem]
    cases h with
    | accepted => cases he
    | exhausted hpassed =>
        cases he
        rw [hpassed.details]
        exact List.mem_map_of_mem hf
    | cut hpassed =>
        cases he
        rw [List.filterMap_append, hpassed.details]
        exact List.mem_append_left _ (List.mem_map_of_mem hf)
  · rintro e he
    rw [hattempted]
    cases h with
    | accepted => cases he
    | exhausted hpassed =>
        cases he
        exact .inl hpassed.drivers.symm
    | @cut earlier reasons d start cause _ hpassed =>
        cases he
        refine .inr ⟨cause, d.name, rfl, ?_, ?_⟩
        · rw [CallError.failures, List.nil_append, hpassed.drivers, List.map_append]
          rfl
        · rw [hmem, List.filterMap_append]
          exact List.mem_append_right _ (by simp [Turn.detail?])

end Finish

/-- **Every dispatch keeps the ledger**, if no two drivers of the registry share a name. -/
theorem dispatch_ledger (ctx : Context) (registry : List (Driver σ)) (client : Option Span)
    (c : Call) (s : Scene σ) (distinct : (registry.map Driver.name).Nodup) :
    Ledger (dispatch ctx registry client c s) := by
  cases hs : ctx.error? s.now with
  | some cause =>
      rw [dispatch_done hs]
      exact .nobody rfl s
  | none =>
      by_cases hnobody : eligible registry c = []
      · rw [dispatch_nobody hs hnobody]
        exact .nobody rfl s
      · obtain ⟨turns, rest, hdrivers, -, hfinish, hmetadata⟩ :=
          dispatch_course_plain hs hnobody client
        have hturns : (turns.map fun t => t.driver.name).Nodup := by
          have heligible : ((eligible registry c).map Driver.name).Nodup :=
            distinct.sublist (List.filter_sublist.map Driver.name)
          rw [hdrivers, List.map_append, List.map_map] at heligible
          exact (List.nodup_append.mp heligible).1
        have hledger := hfinish.ledger hturns (dispatch ctx registry client c s).scene
        rwa [← hmetadata] at hledger

/-- A driver that fails, one that never answers and one whose turn never comes: the first is in the
list and in the record, the second only in the record, as the context ends in its turn. -/
theorem dispatch_ledger_of_cut_call :
    let registry := [mockDriver { name := "a", behavior := .fail },
      mockDriver { name := "b", behavior := .hang }, mockDriver { name := "c" }]
    let ctx : Context := { deadline := some 3000000, perDriver := some (.ofMillis 5) }
    let D := dispatch ctx registry none .powerState ⟨0, {}⟩
    (registry.map Driver.name).Nodup ∧ D.metadata.attempted = ["a", "b"] ∧ Ledger D := by
  intro registry ctx D
  have distinct : (registry.map Driver.name).Nodup := by decide
  exact ⟨distinct, by decide +kernel, dispatch_ledger ctx registry none .powerState _ distinct⟩

end OutOfBand.Client
