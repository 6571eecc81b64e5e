import OutOfBand.Proofs.Rpc.Verifying

/-!
# What a signature says of the time

Every request tells when it was sent, in a header of its own (`Timed`). Whether that is signed is for
the options to say. It is where they name the header among those to be signed, unless it is the one
for the type of the body, of which the first value counts (`CoversTime`). Then nobody can change the
time of a request without another signature; otherwise the signatures of a request do not depend on
its time (`Sends.signedIn_eq_iff`).
-/

namespace OutOfBand.Rpc

open Json

variable {σ : Type} {options : RpcOptions} {host : String} {stamp : Stamp} {c : Call}
  {q : Web.Request}

/-! ## Bytes -/

/-- The header of the time is among those to be signed, and is not the one for the type of the
body. -/
structure CoversTime (options : RpcOptions) : Prop where
  named : ∃ name ∈ options.signedHeaders, Text.sameName options.timestampHeader name = true
  apart : Text.sameName options.timestampHeader "Content-Type" = false

/-- The header for the type of the body is another one than that of the time. -/
theorem CoversTime.notJson {name : String} (h : CoversTime options)
    (hname : Text.sameName options.timestampHeader name = true) :
    Text.sameName "Content-Type" name = false := by
  rw [Text.sameName_comm, ← Text.sameName_congr hname, h.apart]

/-- The time is in the bytes that are signed, after the body. -/
theorem CoversTime.signedBytes (h : CoversTime options) (body : String) (stamp : Stamp) :
    ∃ before after, signedBytes options body (headersFor options stamp) =
      Text.Utf8.encode body ++ (before ++ (Text.Utf8.encode stamp.time ++ after)) := by
  obtain ⟨name, hmem, hname⟩ := h.named
  obtain ⟨names, names', hnames⟩ := List.append_of_mem hmem
  have hjson := h.notJson hname
  rw [Rpc.signedBytes, hnames, List.flatMap_append, List.flatMap_cons]
  simp only [headersFor, Web.jsonContent, List.find?_cons, hjson, hname]
  exact ⟨_, _, rfl⟩

/-- Bytes that do not cover the time are the same at all times. -/
theorem signedBytes_of_not_coversTime (h : ¬ CoversTime options) (body : String) (s t : Stamp) :
    signedBytes options body (headersFor options s) =
      signedBytes options body (headersFor options t) := by
  rw [signedBytes, signedBytes]
  apply congrArg (Text.Utf8.encode body ++ ·)
  apply List.flatMap_congr
  intro name hmem
  cases hjson : Text.sameName "Content-Type" name with
  | true => simp [headersFor, Web.jsonContent, hjson]
  | false =>
      have htime : Text.sameName options.timestampHeader name = false := by
        by_contra hname
        rw [Bool.not_eq_false] at hname
        refine h ⟨⟨name, hmem, hname⟩, ?_⟩
        rw [Text.sameName_congr hname, Text.sameName_comm, hjson]
      simp [headersFor, Web.jsonContent, hjson, htime]

/-- **The bytes that are signed for a body tell the time** just if they cover it. -/
theorem signedBytes_eq_iff (body : String) (s t : Stamp) :
    signedBytes options body (headersFor options s) =
        signedBytes options body (headersFor options t) ↔
      (CoversTime options → s.time = t.time) := by
  constructor
  · intro h hcovers
    rw [signedBytes_eq hcovers.apart, signedBytes_eq hcovers.apart] at h
    have htext := congrArg String.toList (Text.Utf8.encode_injective h)
    rw [String.toList_append, String.toList_append, List.append_cancel_left_eq] at htext
    exact String.toList_inj.mp (values_inj _ _ hcovers.named (by simpa [signedValues] using htext))
  · intro h
    by_cases hcovers : CoversTime options
    · rw [headersFor, headersFor, h hcovers]
    · exact signedBytes_of_not_coversTime hcovers body s t

/-! ## Requests -/

/-- **Two requests with one body have the same bytes signed** just if they are of the same time, or
the time is not covered. -/
theorem Sends.signedIn_eq_iff {host₁ host₂ : String} {s t : Stamp} {c₁ c₂ : Call}
    {q₁ q₂ : Web.Request} (h₁ : Sends options host₁ s c₁ q₁) (h₂ : Sends options host₂ t c₂ q₂)
    (hbody : q₁.body = q₂.body) :
    signedIn options q₁ = signedIn options q₂ ↔ (CoversTime options → s.time = t.time) := by
  obtain ⟨m₁, ps₁, u₁, -, rfl⟩ := h₁.eq_posted
  obtain ⟨m₂, ps₂, u₂, -, rfl⟩ := h₂.eq_posted
  have htext : (json (requestFor host₁ s m₁ (.object ps₁))).render =
      (json (requestFor host₂ t m₂ (.object ps₂))).render := by simpa [posted] using hbody
  show signedBytes options (json _).render (headersFor options s) =
    signedBytes options (json _).render (headersFor options t) ↔ _
  rw [htext]
  exact signedBytes_eq_iff _ s t

/-- A request tells when it was sent, and is signed by each secret. -/
structure Timed (options : RpcOptions) (time : String) (q : Web.Request) : Prop where
  carried : (options.timestampHeader, time) ∈ q.headers
  signed : ∃ signatures, (options.signatureHeader, signatures) ∈ q.headers ∧
    Text.splitOn ',' signatures =
      options.secrets.map fun secret => options.algorithm.sign secret (signedIn options q)
  /-- What is signed is the body and something with the time in it, if it covers the time. -/
  covered : CoversTime options → ∃ body before after, q.body = .text body ∧
    signedIn options q =
      Text.Utf8.encode body ++ (before ++ (Text.Utf8.encode time ++ after))

theorem Sends.timed (h : Sends options host stamp c q) (hsecrets : options.secrets ≠ []) :
    Timed options stamp.time q where
  carried := by
    obtain ⟨method, params, url, -, rfl⟩ := h.eq_posted
    simp [posted, signedHeaders, headersFor]
  signed := ⟨_, List.mem_of_head? h.signed, splitOn_signature hsecrets _⟩
  covered := by
    intro hcovers
    obtain ⟨method, params, url, -, rfl⟩ := h.eq_posted
    obtain ⟨before, after, hbytes⟩ :=
      hcovers.signedBytes (json (requestFor host stamp method (.object params))).render stamp
    exact ⟨_, before, after, rfl, hbytes⟩

variable {stamps : Nat → σ → Stamp × σ} {peer : Web.Request → σ → Web.Outcome × σ}

/-- **Every request tells when it was sent, and its signatures say so** just if the options cover the
time: if they do, then no request with the same body has the same bytes signed at another time, and
if they do not, then all requests with that body have. -/
theorem sent_requests_timed {target : Target}
    {caps : Capabilities (σ × List (Web.Request × Web.Outcome))}
    (hoptions : target.options.rpc = some options)
    (hinit : init target (stampsBeside stamps) (Dialog.noting peer) = .ok caps)
    (c : Call) (now : Nat) (w : σ) :
    ∀ x ∈ ((caps.handle c).outcome now (w, [])).2.2,
      Sends options target.host (stamps now w).1 c x.1 ∧
      Timed options (stamps now w).1.time x.1 ∧
      ∀ host stamp c' q, Sends options host stamp c' q → q.body = x.1.body →
        (signedIn options q = signedIn options x.1 ↔
          (CoversTime options → stamp.time = (stamps now w).1.time)) := by
  rw [init, hoptions] at hinit
  dsimp only at hinit
  split at hinit
  · cases hinit
  · split at hinit
    · cases hinit
    · next hsecrets =>
        cases hinit
        intro x hx
        have hsent := handle_sends c now w x hx
        refine ⟨hsent, hsent.timed (by simpa using hsecrets), ?_⟩
        intro host stamp c' q hq hbody
        exact hq.signedIn_eq_iff hsent hbody

/-- What can be sent can be sent at any other time. -/
theorem usableUrl_headersFor {s t : Stamp} (hs : Web.isHeaderValue s.time = true)
    (ht : Web.isHeaderValue t.time = true) (url : String) :
    Web.usableUrl url (headersFor options s) = Web.usableUrl url (headersFor options t) := by
  simp only [Web.usableUrl, headersFor, List.all_cons, List.all_nil, hs, ht]

variable (options host) in
/-- An order to power a host on is sent although nobody answers it. -/
theorem powerOn_sent {stamps : Nat → Unit → Stamp × Unit} {now : Nat} {url : Web.Url}
    (hheader : Web.isHeaderName options.signatureHeader = true)
    (hurl : Web.usableUrl options.consumerUrl (headersFor options (stamps now ()).1) = .ok url) :
    ∃ x ∈ (((capabilities options host (stampsBeside stamps) (Dialog.noting nobody)).handle
        (.powerSet .on)).outcome now ((), [])).2.2,
      x.1 = posted options (stamps now ()).1 url (requestFor host (stamps now ()).1 "setPowerState"
        (.object [("state", .str PowerAction.on.name)])) := by
  obtain ⟨f, hcall⟩ := call_went hheader hurl host "setPowerState"
    (.object [("state", .str PowerAction.on.name)])
  have hwent : (talk options host (stamps now ()).1 (.powerSet .on)).run.Went _ _ :=
    hcall.bindRun_error _
  rw [handle_outcome, hwent.play_noting (.cons (.nil _)) []]
  exact ⟨_, List.mem_cons_self, rfl⟩

/-- The same number is drawn at noon and ever after. -/
def unlucky (now : Nat) (w : Unit) : Stamp × Unit :=
  (if now = 0 then noon else { noon with time := "2024-05-02T12:00:00+00:00" }, w)

theorem rolloverOptions_usable_unlucky (now : Nat) : ∃ url, Web.usableUrl rolloverOptions.consumerUrl
    (headersFor rolloverOptions (unlucky now ()).1) = .ok url := by
  obtain ⟨url, hurl⟩ := rolloverOptions_usable
  have htime : Web.isHeaderValue (unlucky now ()).1.time = true := by
    by_cases hnow : now = 0
    · rw [unlucky, if_pos hnow]
      decide
    · rw [unlucky, if_neg hnow]
      decide
  exact ⟨url, (usableUrl_headersFor htime (by decide) _).trans hurl⟩

def unluckyTarget (options : RpcOptions) : Target :=
  ⟨"10.0.0.9", "root", "root", { rpc := some options }⟩

/-- The signatures of an order to power a host on say when it was sent: on two days they are of
different bytes, though the bodies are the same. -/
theorem sent_requests_timed_of_power_on :
    ∃ (caps : Capabilities (Unit × List (Web.Request × Web.Outcome)))
      (x y : Web.Request × Web.Outcome), CoversTime rolloverOptions ∧
      init (unluckyTarget rolloverOptions) (stampsBeside unlucky) (Dialog.noting nobody) = .ok caps ∧
      x ∈ ((caps.handle (.powerSet .on)).outcome 0 ((), [])).2.2 ∧
      y ∈ ((caps.handle (.powerSet .on)).outcome 1 ((), [])).2.2 ∧
      Timed rolloverOptions noon.time x.1 ∧ y.1.body = x.1.body ∧
      signedIn rolloverOptions y.1 ≠ signedIn rolloverOptions x.1 := by
  obtain ⟨url, hurl⟩ := rolloverOptions_usable_unlucky 0
  obtain ⟨url', hurl'⟩ := rolloverOptions_usable_unlucky 1
  obtain ⟨x, hx, hxposted⟩ := powerOn_sent rolloverOptions "10.0.0.9" (by decide) hurl
  obtain ⟨y, hy, hyposted⟩ := powerOn_sent rolloverOptions "10.0.0.9" (by decide) hurl'
  have hinit : init (unluckyTarget rolloverOptions) (stampsBeside unlucky) (Dialog.noting nobody) =
      .ok (capabilities rolloverOptions "10.0.0.9" _ _) := rfl
  have hcovers : CoversTime rolloverOptions := ⟨by decide, by decide⟩
  have hbody : y.1.body = x.1.body := by
    rw [hxposted, hyposted]
    rfl
  obtain ⟨-, htimed, hbytes⟩ := sent_requests_timed rfl hinit (.powerSet .on) 0 () x hx
  refine ⟨_, x, y, hcovers, hinit, hx, hy, htimed, hbody, ?_⟩
  intro hsame
  have htime := (hbytes _ _ _ y.1 (handle_sends _ 1 () y hy) hbody).mp hsame hcovers
  revert htime
  decide

/-- Options under which only the bodies are signed. -/
def bareOptions : RpcOptions := { rolloverOptions with signedHeaders := [] }

/-- Under these an order has the same bytes signed on two days. -/
theorem time_not_signed :
    ∃ (caps : Capabilities (Unit × List (Web.Request × Web.Outcome)))
      (x y : Web.Request × Web.Outcome),
      init (unluckyTarget bareOptions) (stampsBeside unlucky) (Dialog.noting nobody) = .ok caps ∧
      x ∈ ((caps.handle (.powerSet .on)).outcome 0 ((), [])).2.2 ∧
      y ∈ ((caps.handle (.powerSet .on)).outcome 1 ((), [])).2.2 ∧
      y.1.body = x.1.body ∧ (unlucky 1 ()).1.time ≠ (unlucky 0 ()).1.time ∧
      signedIn bareOptions y.1 = signedIn bareOptions x.1 := by
  obtain ⟨url, hurl⟩ := rolloverOptions_usable_unlucky 0
  obtain ⟨url', hurl'⟩ := rolloverOptions_usable_unlucky 1
  obtain ⟨x, hx, hxposted⟩ := powerOn_sent bareOptions "10.0.0.9" (by decide) hurl
  obtain ⟨y, hy, hyposted⟩ := powerOn_sent bareOptions "10.0.0.9" (by decide) hurl'
  have hnot : ¬ CoversTime bareOptions := by
    intro h
    obtain ⟨name, hname, -⟩ := h.named
    cases hname
  refine ⟨_, x, y, rfl, hx, hy, ?_, by decide, ?_⟩
  · rw [hxposted, hyposted]
    rfl
  · rw [hxposted, hyposted]
    exact signedBytes_of_not_coversTime hnot _ _ _

end OutOfBand.Rpc
