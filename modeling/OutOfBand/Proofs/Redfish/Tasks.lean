import OutOfBand.Proofs.Redfish.Asking
import OutOfBand.Proofs.Redfish.Confinement
import OutOfBand.Proofs.Web.PlainPath

/-!
# The task of a push

A push of firmware starts a task, which the reply names: in its header for locations, or in its body
(`Names`). The driver takes the identifier out of the reply (`taskOf_of_names`), and asks for the
task below the collection of tasks (`taskPath`). Such a path leads where all paths of the driver
lead, and its URL is usable if theirs are, unless it is too long (`usableUrl_taskPath`).
-/

namespace OutOfBand.Redfish

open Web (IsPlain isPlainChar)

variable {target : Target} {s s' : State} {xs : List Exchange} {id : String}

/-! ## Identifiers -/

theorem not_slash_of_isPlain (hid : IsPlain id) : ∀ c ∈ id.toList, (c != '/') = true := by
  intro c hc
  rw [bne_iff_ne]
  rintro rfl
  cases hid.not_isSlash _ hc

/-- **The identifier of a location** is what stands after the last slash, but for slashes at its
end. -/
theorem taskAt_location (front : String) (hid : IsPlain id) (slashes : Nat) :
    taskAt (front ++ "/" ++ id ++ String.ofList (List.replicate slashes '/')) = id := by
  have hne : id.toList ≠ [] := fun h => hid.nonempty (String.toList_eq_nil_iff.mp h)
  obtain ⟨init, last, hlast⟩ := (List.eq_nil_or_concat id.toList).resolve_left hne
  have hslashes : Text.dropEndWhile (· == '/') (List.replicate slashes '/') = [] := by
    simp [Text.dropEndWhile]
  have hpath : Text.dropEndWhile (· == '/')
      (front ++ "/" ++ id ++ String.ofList (List.replicate slashes '/')).toList =
      front.toList ++ '/' :: id.toList := by
    have hend : (last == '/') = false := by
      simpa using not_slash_of_isPlain hid last (by simp [hlast])
    have h := Web.Url.dropEndWhile_append_cons (p := (· == '/')) (c := last)
      (front.toList ++ '/' :: init) (List.replicate slashes '/') hend
    rw [hslashes] at h
    simpa [hlast] using h
  have hreverse : (front.toList ++ '/' :: id.toList).reverse =
      id.toList.reverse ++ '/' :: front.toList.reverse := by simp
  rw [taskAt, hpath, hreverse, List.takeWhile_append_of_pos
    (by simpa using fun c hc => bne_iff_ne.mp (not_slash_of_isPlain hid c hc))]
  simp

theorem normalize_of_isPlain (hid : IsPlain id) : Firmware.TaskId.normalize id = id := by
  have hblank : ∀ c ∈ id.toList, Text.isBlank c = false := by
    intro c hc
    have h := Web.of_isPlainChar (P := fun c => !Text.isBlank c) (by decide) (hid.plain c hc)
    simpa using h
  rw [Firmware.TaskId.normalize, Text.trim_of_none hblank, if_neg]
  simpa using hid.nonempty

/-- Whether a character is printed, as the blank is too. -/
def isVisible (c : Char) : Bool := 0x20 ≤ c.toNat && c.toNat < 0x7f

theorem isVisible_of_isPlainChar {c : Char} (h : isPlainChar c = true) : isVisible c = true :=
  Web.of_isPlainChar (P := isVisible) (by decide) h

/-- A header of visible characters can be read. -/
theorem header?_of_visible {reply : Web.Reply} {name found value : String}
    (hfound : reply.headers.find? (fun h => Text.sameName h.1 name) = some (found, value))
    (hvisible : ∀ c ∈ value.toList, isVisible c = true) : reply.header? name = some value := by
  show (reply.headers.find? fun h => Text.sameName h.1 name).bind _ = some value
  rw [hfound]
  refine if_pos (List.all_eq_true.mpr fun c hc => ?_)
  have h := hvisible c hc
  rw [isVisible] at h
  rw [h, Bool.or_true]

/-- The reply names the task: at the end of its location, or in its body if it has no location. -/
inductive Names (reply : Web.Reply) (id : String) : Prop
  | location {name front : String} {slashes : Nat}
      (hfound : reply.headers.find? (fun h => Text.sameName h.1 "Location") =
        some (name, front ++ "/" ++ id ++ String.ofList (List.replicate slashes '/')))
      (hvisible : ∀ c ∈ front.toList, isVisible c = true)
  | body {j : Json} (hnone : reply.headers.find? (fun h => Text.sameName h.1 "Location") = none)
      (hbody : reply.decoded Json = .ok j) (hid : (j.get "Id").str? = some id)

/-- **What the driver takes for the task** is the one that the reply names. -/
theorem taskOf_of_names {reply : Web.Reply} (hid : IsPlain id) (h : Names reply id) :
    taskOf reply = id := by
  cases h with
  | @location name front slashes hfound hvisible =>
      have hheader := header?_of_visible hfound (by
        intro c hc
        simp only [String.toList_append, String.toList_ofList, List.mem_append] at hc
        rcases hc with ((hc | hc) | hc) | hc
        · exact hvisible c hc
        · obtain rfl := List.mem_singleton.mp hc
          decide
        · exact isVisible_of_isPlainChar (hid.plain c hc)
        · obtain rfl := List.eq_of_mem_replicate hc
          decide)
      rw [taskOf, hheader]
      show Firmware.TaskId.normalize (taskAt _) = id
      rw [taskAt_location front hid, normalize_of_isPlain hid]
  | @body j hnone hbody hj =>
      have hheader : reply.header? "Location" = none := by
        show (reply.headers.find? fun h => Text.sameName h.1 "Location").bind _ = none
        rw [hnone]
        rfl
      rw [taskOf, hheader]
      show Firmware.TaskId.normalize _ = id
      rw [hbody]
      show Firmware.TaskId.normalize (textAt j "Id") = id
      rw [textAt, hj]
      exact normalize_of_isPlain hid

/-! ## The path of a task -/

/-- Where a task stands below the collection of tasks. -/
def taskPath (id : String) : String := tasksPath ++ "/" ++ id

def taskSegments (id : String) : List String := ["redfish", "v1", "TaskService", "Tasks", id]

def updateSegments : List String := ["redfish", "v1", "UpdateService"]

theorem taskPath_eq (id : String) : taskPath id = Web.Path.text .web (taskSegments id) := by
  rw [← String.toList_inj]
  simp [taskPath, tasksPath, Web.Path.text, taskSegments, String.intercalate_cons_cons]

theorem updatePath_eq : updatePath = Web.Path.text .web updateSegments := by
  decide +kernel

theorem isPlain_updateSegments : ∀ s ∈ updateSegments, IsPlain s := by decide +kernel

theorem isPlain_taskSegments (hid : IsPlain id) : ∀ s ∈ taskSegments id, IsPlain s := by
  have hfront : ∀ s ∈ ["redfish", "v1", "TaskService", "Tasks"], IsPlain s := by decide +kernel
  intro s hs
  rcases List.mem_append.mp (show s ∈ ["redfish", "v1", "TaskService", "Tasks"] ++ [id] from hs)
    with hs | hs
  · exact hfront s hs
  · rwa [List.mem_singleton.mp hs]

/-- A path of segments stands behind the base URL. -/
theorem urlOf_text (target : Target) (segments : List String) :
    urlOf target (Web.Path.text .web segments) =
      target.options.redfish.baseUrl target.host ++ Web.Path.text .web segments :=
  urlOf_of_not_isAbsolute target (not_isAbsolute_of_slash (Web.toList_text segments))

/-- A URL that is usable without headers has a host to which requests can be sent, and is not too
long. -/
theorem of_usableUrl_nil {url : String} {u : Web.Url} (h : Web.usableUrl url [] = .ok u) :
    Web.Url.parse? url = some u ∧ u.hasHost = true ∧ u.isWeb = true ∧ u.isSendable = true := by
  obtain ⟨hparse, hweb⟩ := of_usableUrl h
  unfold Web.usableUrl at h
  cases hhost : u.hasHost <;> cases hsend : u.isSendable <;>
    simp [hparse, hhost, hsend, hweb] at h ⊢

/-- Of two URLs with one origin of which one is usable, the other one is usable too unless it is too
long. -/
theorem usableUrl_of_origin {url url' : String} {u v : Web.Url}
    (h : Web.usableUrl url [] = .ok v) (hparse : Web.Url.parse? url' = some u)
    (horigin : v.origin = u.origin) :
    Web.usableUrl url' [] = if u.text.utf8ByteSize ≤ Web.Url.longest then .ok u
      else .error (.networkError s!"builder error for url ({u.text})") := by
  obtain ⟨-, hhost, hweb, hsend⟩ := of_usableUrl_nil h
  obtain ⟨hscheme, hplace⟩ : v.scheme = u.scheme ∧ v.host = u.host := by
    simp only [Web.Url.origin, Prod.mk.injEq] at horigin
    exact ⟨horigin.1, horigin.2.1⟩
  have hhost' : u.hasHost = true := by
    rwa [Web.Url.hasHost, hplace] at hhost
  have hweb' : u.isWeb = true := by
    rwa [Web.Url.isWeb, hscheme] at hweb
  have hsend' : u.isSendable = decide (u.text.utf8ByteSize ≤ Web.Url.longest) := by
    rw [Web.Url.isSendable, hplace, Bool.and_eq_true] at hsend
    rw [Web.Url.isSendable, hsend.2, Bool.and_true]
  by_cases hshort : u.text.utf8ByteSize ≤ Web.Url.longest
  · simp [Web.usableUrl, hparse, hhost', hweb', hsend', hshort]
  · simp [Web.usableUrl, hparse, hhost', hweb', hsend', hshort]

/-- **The URL of a task** leads where the URL of the update service leads, so if that one is usable,
this one is too unless it is too long. -/
theorem usableUrl_taskPath (hid : IsPlain id) {v : Web.Url}
    (h : Web.usableUrl (urlOf target updatePath) [] = .ok v) :
    ∃ u, Web.Url.parse? (urlOf target (taskPath id)) = some u ∧
      Web.usableUrl (urlOf target (taskPath id)) [] =
        if u.text.utf8ByteSize ≤ Web.Url.longest then .ok u
        else .error (.networkError s!"builder error for url ({u.text})") := by
  obtain ⟨hparse, -, hweb, -⟩ := of_usableUrl_nil h
  rw [updatePath_eq, urlOf_text] at hparse
  obtain ⟨u, hu, horigin⟩ :=
    Web.Url.origin_of_plain_paths isPlain_updateSegments (isPlain_taskSegments hid) hparse hweb
  rw [← urlOf_text, ← taskPath_eq] at hu
  exact ⟨u, hu, usableUrl_of_origin h hu horigin⟩

theorem path_of_task {u : Web.Url} (hid : IsPlain id)
    (hparse : Web.Url.parse? (urlOf target (taskPath id)) = some u)
    (hhost : Web.Url.IsPlainHost target.host)
    (hscheme : target.options.redfish.scheme = "http" ∨ target.options.redfish.scheme = "https") :
    u.path = taskPath id ∧ u.query = none ∧ u.fragment = none := by
  rw [taskPath_eq, urlOf_text] at hparse
  rw [taskPath_eq]
  exact Web.Url.path_of_plain hhost hscheme (List.cons_ne_nil _ _) (isPlain_taskSegments hid) hparse

/-- A task with a path that is longer than any URL has a URL that is too long. -/
theorem longest_lt_of_task {u : Web.Url} (hpath : u.path = taskPath id)
    (hlong : Web.Url.longest < id.toList.length) : Web.Url.longest < u.text.utf8ByteSize := by
  have hid : id.toList.length ≤ id.utf8ByteSize := by
    simpa using Web.Url.length_le_utf8ByteSize id.toList
  have htext := Web.Url.path_le_text u
  rw [hpath, taskPath, String.utf8ByteSize_append] at htext
  omega

/-! ## Pushing and asking -/

variable {component : String} {applyTime : Firmware.ApplyTime} {force : Bool} {image : Image}

/-- Something was posted in the exchange, and the reply says that it was a success. -/
structure Accepts (x : Exchange) (reply : Web.Reply) : Prop where
  method : x.1.method = .post
  answered : x.2 = .answered reply
  success : reply.isSuccess = true

/-- **A push that is accepted** gives the task of the reply. It comes after a look at the update
service, so the URL of that is usable. -/
theorem Goes.of_accepted {r : Except Fault String} {x : Exchange} {reply : Web.Reply}
    (h : Goes (firmwareInstall target component applyTime force image) s xs r s') (hx : x ∈ xs)
    (haccepts : Accepts x reply) :
    s' = s ∧ r = .ok (taskOf reply) ∧
      ∃ v, Web.usableUrl (urlOf target updatePath) [] = .ok v := by
  have hpost : ∀ {u credentials outcome}, x ≠ (⟨.get, u, credentials, [], .none⟩, outcome) := by
    rintro u credentials outcome rfl
    cases haccepts.method
  -- The look at the service is a GET, so what was posted is in the rest.
  rcases goes_bind_iff.mp h with ⟨e, hget, -⟩ | ⟨service, m, ys, zs, rfl, hget, hrest⟩
  · obtain ⟨rfl, ⟨f, -, rfl, -⟩ | ⟨u, outcome, -, rfl, -⟩⟩ := hget.heard_of_getJson
    · cases hx
    · exact absurd (List.mem_singleton.mp hx) hpost
  · obtain ⟨rfl, ⟨f, -, -, hr⟩ | ⟨v, outcome, hurl, rfl, -⟩⟩ := hget.heard_of_getJson
    · cases hr
    have hpushed : x ∈ zs := (List.mem_cons.mp hx).resolve_left hpost
    split at hrest
    · obtain ⟨rfl, -⟩ := goes_throw_iff.mp hrest
      cases hpushed
    · rcases goes_bind_iff.mp hrest with ⟨e, hsend, -⟩ | ⟨reply', m, us, vs, rfl, hsend, hpure⟩
      · obtain ⟨-, ⟨f, -, rfl, -⟩ | ⟨u, outcome, -, rfl, hr⟩⟩ := hsend.heard_of_send
        · cases hpushed
        · -- What was accepted is heard, and so is no fault.
          obtain rfl := List.mem_singleton.mp hpushed
          rw [heard_eq_ok_iff.mpr ⟨haccepts.answered, haccepts.success⟩] at hr
          cases hr
      · obtain ⟨rfl, rfl, rfl⟩ := goes_pure_iff.mp hpure
        obtain ⟨rfl, ⟨f, -, -, hr⟩ | ⟨u, outcome, -, rfl, hr⟩⟩ := hsend.heard_of_send
        · cases hr
        · obtain rfl := List.mem_singleton.mp hpushed
          rw [heard_eq_ok_iff.mpr ⟨haccepts.answered, haccepts.success⟩] at hr
          cases hr
          exact ⟨rfl, rfl, v, hurl⟩

/-- **Asking for a task** is one request for the resource of the task, if its URL is usable. -/
theorem Goes.of_taskStatus {r : Except Fault Firmware.Status}
    (h : Goes (taskStatus target id) s xs r s') : s' = s ∧
      ((∃ f, Web.usableUrl (urlOf target (taskPath id)) [] = .error f ∧ xs = [] ∧ r = .error f) ∨
        ∃ u outcome, Web.usableUrl (urlOf target (taskPath id)) [] = .ok u ∧
          xs = [(⟨.get, u, credentials target s, [], .none⟩, outcome)]) := by
  have hpath : taskPath id = s!"{tasksPath}/{id}" := rfl
  rw [hpath]
  rcases goes_bind_iff.mp h with ⟨e, hget, rfl⟩ | ⟨j, m, ys, zs, rfl, hget, hpure⟩
  · obtain ⟨rfl, ⟨f, hurl, rfl, hr⟩ | ⟨u, outcome, hurl, rfl, -⟩⟩ := hget.heard_of_getJson
    · cases hr
      exact ⟨rfl, .inl ⟨e, hurl, rfl, rfl⟩⟩
    · exact ⟨rfl, .inr ⟨u, outcome, hurl, rfl⟩⟩
  · obtain ⟨rfl, rfl, rfl⟩ := goes_pure_iff.mp hpure
    obtain ⟨rfl, ⟨f, -, -, hr⟩ | ⟨u, outcome, hurl, rfl, -⟩⟩ := hget.heard_of_getJson
    · cases hr
    · exact ⟨rfl, .inr ⟨u, outcome, hurl, rfl⟩⟩

end OutOfBand.Redfish
