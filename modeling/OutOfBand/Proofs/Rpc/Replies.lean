import OutOfBand.Proofs.Json.Parts
import OutOfBand.Proofs.Json.Skipping
import OutOfBand.Proofs.Rpc.Freshness

/-!
# Replies of a consumer

A call sends one request at most, and what comes of it is settled by the reply (`Asks.talk_run`).
The reply is an answer if its status is one of success, its body is an envelope with the number of
the request, and the envelope reports no error (`Answers`). Any other reply is a fault, and there is
one for each of these reasons, of which the first counts (`Faulted`).

An envelope may be written in many ways. What is read from it are its parts (`Response.Reads`): an
error is reported unless its part is absent, or is null, or has neither a code nor a message. A body
is taken as the bytes that it is: what is read of it must be UTF-8, and what nobody reads need not
be (`Json.Document.ofBytes_alike`).
-/

namespace OutOfBand

open Json

theorem Web.Reply.decoded_eq_ok_iff {α : Type} [FromDoc α] {reply : Web.Reply} {a : α} :
    reply.decoded α = .ok a ↔ decodeBytes α reply.body = .ok a := mapError_eq_ok_iff

theorem Web.Reply.decoded_eq_error {α : Type} [FromDoc α] {reply : Web.Reply} {f : Fault}
    (h : reply.decoded α = .error f) : f = .protocol "error decoding response body" := by
  obtain ⟨-, -, rfl⟩ := mapError_eq_error_iff.mp h
  rfl

namespace Rpc

/-! ## Envelopes -/

/-- What the parts of a document tell of an error. -/
structure ResponseError.Reads (d : Doc) (e : ResponseError) : Prop where
  record : d.IsRecord
  code : d.part? 0 "code" = none ∧ e.code = 0 ∨
    ∃ numeral, d.part? 0 "code" = some (.num numeral) ∧ numeral.value = some (.int e.code.toInt)
  message : d.part? 1 "message" = none ∧ e.message = "" ∨
    d.part? 1 "message" = some (.text (.ok e.message))

/-- What the parts of a document tell of an answer. -/
structure Response.Reads (d : Doc) (r : Response) : Prop where
  record : d.IsRecord
  id : ∃ numeral, d.part? 0 "id" = some (.num numeral) ∧ numeral.value = some (.int r.id.toInt)
  host : d.part? 1 "host" = none ∧ r.host = "" ∨ d.part? 1 "host" = some (.text (.ok r.host))
  result : d.part? 2 "result" = none ∧ r.result = .null ∨
    ∃ part, d.part? 2 "result" = some part ∧ part.free = .ok r.result
  error : (d.part? 3 "error" = none ∨ d.part? 3 "error" = some .null) ∧ r.error = none ∨
    ∃ part e, d.part? 3 "error" = some part ∧ ResponseError.Reads part e ∧ r.error = some e

theorem ResponseError.reads_of_read {d : Doc} {e : ResponseError} (h : FromDoc.read d = .ok e) :
    Reads d e := by
  obtain ⟨found, hmembers, h⟩ := bind_eq_ok_iff.mp h
  obtain ⟨code, hcode, h⟩ := bind_eq_ok_iff.mp h
  obtain ⟨message, hmessage, h⟩ := bind_eq_ok_iff.mp h
  obtain rfl := pure_eq_ok_iff.mp h
  refine ⟨Doc.members_isRecord hmembers, ?_, ?_⟩
  · obtain hnone | ⟨part, hpart, hread⟩ :=
      Doc.Slot.of_defaulted 0 hmembers (by decide) rfl hcode
    · exact .inl hnone
    · obtain ⟨numeral, rfl, hvalue⟩ := Doc.read_int64_eq_ok hread
      exact .inr ⟨numeral, hpart, hvalue⟩
  · obtain hnone | ⟨part, hpart, hread⟩ :=
      Doc.Slot.of_defaulted 1 hmembers (by decide) rfl hmessage
    · exact .inl hnone
    · obtain rfl := Doc.read_string_eq_ok hread
      exact .inr hpart

/-- **An envelope is read from its parts.** -/
theorem Response.reads_of_read {d : Doc} {r : Response} (h : FromDoc.read d = .ok r) :
    Reads d r := by
  obtain ⟨found, hmembers, h⟩ := bind_eq_ok_iff.mp h
  obtain ⟨id, hid, h⟩ := bind_eq_ok_iff.mp h
  obtain ⟨host, hhost, h⟩ := bind_eq_ok_iff.mp h
  obtain ⟨result, hresult, h⟩ := bind_eq_ok_iff.mp h
  obtain ⟨error, herror, h⟩ := bind_eq_ok_iff.mp h
  obtain rfl := pure_eq_ok_iff.mp h
  refine ⟨Doc.members_isRecord hmembers, ?_, ?_, ?_, ?_⟩
  · obtain ⟨-, habsent⟩ | ⟨part, hpart, hread⟩ :=
      (Doc.Slot.of_eq_ok_iff 0 hmembers (by decide) rfl).mp hid
    · cases habsent
    · obtain ⟨numeral, rfl, hvalue⟩ := Doc.read_int64_eq_ok hread
      exact ⟨numeral, hpart, hvalue⟩
  · obtain hnone | ⟨part, hpart, hread⟩ :=
      Doc.Slot.of_defaulted 1 hmembers (by decide) rfl hhost
    · exact .inl hnone
    · obtain rfl := Doc.read_string_eq_ok hread
      exact .inr hpart
  · exact Doc.Slot.of_defaulted 2 hmembers (by decide) rfl hresult
  · obtain ⟨hnone, rfl⟩ | ⟨part, hpart, hread⟩ :=
      Doc.Slot.of_defaulted 3 hmembers (by decide) rfl herror
    · exact .inl ⟨.inl hnone, rfl⟩
    · obtain ⟨rfl, rfl⟩ | ⟨e, he, rfl⟩ := Doc.option_eq_ok hread
      · exact .inl ⟨.inr hpart, rfl⟩
      · exact .inr ⟨part, e, hpart, ResponseError.reads_of_read he, rfl⟩

/-! ## What a reply amounts to -/

theorem ResponseError.isVoid_iff {e : ResponseError} :
    e.isVoid = true ↔ e.code = 0 ∧ e.message = "" := by
  simp [isVoid]

/-- A reply is an answer to the request numbered `id`, and this is its envelope. -/
structure Answers (id : Int64) (reply : Web.Reply) (response : Response) : Prop where
  success : reply.isSuccess = true
  decoded : reply.decoded Response = .ok response
  id_eq : response.id = id
  silent : ∀ e, response.error = some e → e.code = 0 ∧ e.message = ""

/-- What is wrong with a reply that is no answer to the request numbered `id`. -/
inductive Faulted (id : Int64) (reply : Web.Reply) : Fault → Prop
  | failed (h : reply.isSuccess = false) :
      Faulted id reply
        (.commandFailed s!"rpc consumer returned {reply.status}: {Text.trim reply.text}")
  | illegible (hsuccess : reply.isSuccess = true)
      (h : ∀ response, reply.decoded Response ≠ .ok response) :
      Faulted id reply (.protocol "error decoding response body")
  /-- The envelope is that of another answer, whatever error it reports. -/
  | foreign {response : Response} (hsuccess : reply.isSuccess = true)
      (hdecoded : reply.decoded Response = .ok response) (h : response.id ≠ id) :
      Faulted id reply
        (.protocol s!"rpc response id {response.id} does not match request id {id}")
  | reported {response : Response} {e : ResponseError} (hsuccess : reply.isSuccess = true)
      (hdecoded : reply.decoded Response = .ok response) (hid : response.id = id)
      (herror : response.error = some e) (h : ¬(e.code = 0 ∧ e.message = "")) :
      Faulted id reply (.rpc e.code.toInt e.message)

section

variable {id : Int64} {reply : Web.Reply}

theorem Answers.resultOf_eq {response : Response} (h : Answers id reply response) :
    resultOf id reply = .ok response.result := by
  simp only [resultOf, h.success, h.decoded, h.id_eq, Bool.not_true, bne_self_eq_false,
    Bool.false_eq_true, if_false]
  cases herror : response.error with
  | none => rfl
  | some e => simp only [ResponseError.isVoid_iff.mpr (h.silent e herror), if_true]

theorem Faulted.resultOf_eq {f : Fault} (h : Faulted id reply f) :
    resultOf id reply = .error f := by
  cases h with
  | failed h => simp only [resultOf, h, Bool.not_false, if_true]
  | illegible hsuccess h =>
    cases hdecoded : reply.decoded Response with
    | ok response => exact absurd hdecoded (h response)
    | error f =>
      obtain rfl := Web.Reply.decoded_eq_error hdecoded
      simp only [resultOf, hsuccess, hdecoded, Bool.not_true, Bool.false_eq_true, if_false]
  | foreign hsuccess hdecoded h =>
    simp only [resultOf, hsuccess, hdecoded, bne_iff_ne.mpr h, Bool.not_true, Bool.false_eq_true,
      if_false, if_true]
  | reported hsuccess hdecoded hid herror h =>
    have hvoid := Bool.eq_false_iff.mpr (mt ResponseError.isVoid_iff.mp h)
    simp only [resultOf, hsuccess, hdecoded, hid, herror, hvoid, bne_self_eq_false, Bool.not_true,
      Bool.false_eq_true, if_false]

/-- A reply is an answer or there is something wrong with it. -/
theorem answers_or_faulted (id : Int64) (reply : Web.Reply) :
    (∃ response, Answers id reply response) ∨ ∃ f, Faulted id reply f := by
  cases hsuccess : reply.isSuccess with
  | false => exact .inr ⟨_, .failed hsuccess⟩
  | true =>
    cases hdecoded : reply.decoded Response with
    | error f =>
      refine .inr ⟨_, .illegible hsuccess fun response h => ?_⟩
      rw [hdecoded] at h
      cases h
    | ok response =>
      by_cases hid : response.id = id
      · cases herror : response.error with
        | none =>
          refine .inl ⟨response, hsuccess, hdecoded, hid, fun e h => ?_⟩
          rw [herror] at h
          cases h
        | some e =>
          by_cases hvoid : e.code = 0 ∧ e.message = ""
          · refine .inl ⟨response, hsuccess, hdecoded, hid, fun e' h => ?_⟩
            rw [herror] at h
            cases h
            exact hvoid
          · exact .inr ⟨_, .reported hsuccess hdecoded hid herror hvoid⟩
      · exact .inr ⟨_, .foreign hsuccess hdecoded hid⟩

theorem resultOf_eq_ok_iff {result : Json} :
    resultOf id reply = .ok result ↔ ∃ response, Answers id reply response ∧
      response.result = result := by
  constructor
  · intro h
    obtain ⟨response, hanswers⟩ | ⟨f, hfaulted⟩ := answers_or_faulted id reply
    · rw [hanswers.resultOf_eq] at h
      exact ⟨response, hanswers, Except.ok.inj h⟩
    · rw [hfaulted.resultOf_eq] at h
      cases h
  · rintro ⟨response, hanswers, rfl⟩
    exact hanswers.resultOf_eq

theorem resultOf_eq_error_iff {f : Fault} :
    resultOf id reply = .error f ↔ Faulted id reply f := by
  constructor
  · intro h
    obtain ⟨response, hanswers⟩ | ⟨f', hfaulted⟩ := answers_or_faulted id reply
    · rw [hanswers.resultOf_eq] at h
      cases h
    · rw [hfaulted.resultOf_eq] at h
      cases h
      exact hfaulted
  · exact Faulted.resultOf_eq

/-- A reply is an answer although a part of it that nobody reads is not UTF-8. -/
example : resultOf 7 ⟨200, [], Text.Utf8.encode "\x7b\"id\":7,\"note\":\"" ++ [0xff] ++
    Text.Utf8.encode "\",\"result\":\"on\"\x7d"⟩ = .ok (.str "on") := by
  rw [Text.Utf8.encode_eq, Text.Utf8.encode_eq]
  rfl

end

/-! ## What a call comes to -/

/-- What a call has for its answer if the consumer has carried it out with a result: the power that
the result tells, and otherwise that it was carried out. -/
inductive Tells (result : Json) : (c : Call) → c.Answer → Prop
  | powerState : Tells result .powerState (powerOf result)
  | powerSet (action : PowerAction) : Tells result (.powerSet action) true
  | bootDeviceSet (device : BootDevice) (boot : BootOptions) :
      Tells result (.bootDeviceSet device boot) true
  | virtualMedia (kind : MediaKind) (url : String) : Tells result (.virtualMedia kind url) true

section

variable {options : RpcOptions} {host method : String} {stamp : Stamp} {c : Call}
  {q : Web.Request} {params : List (String × Json)}

theorem run_bind_pure {α β : Type} (talk : Web.Talk α) (f : α → β) :
    (talk >>= fun a => pure (f a)).run = talk.run.bind fun r => .done (r.map f) := by
  refine congrArg (Dialog.bind talk.run) (funext fun r => ?_)
  cases r <;> rfl

/-- **What comes of a call** is settled by what comes of its request. -/
theorem Asks.talk_run (options : RpcOptions) (host : String) (stamp : Stamp)
    (h : Asks c method params) :
    ∃ conclude : Json → c.Answer, (∀ result a, Tells result c a ↔ conclude result = a) ∧
      (talk options host stamp c).run =
        (call options host stamp method (.object params)).run.bind fun r =>
          .done (r.map conclude) := by
  cases h with
  | powerState =>
    exact ⟨powerOf, fun result a => ⟨by rintro ⟨⟩; rfl, by rintro rfl; constructor⟩,
      run_bind_pure _ _⟩
  | powerSet _ | bootDeviceSet _ _ | virtualMedia _ _ =>
    exact ⟨fun _ => true, fun result a => ⟨by rintro ⟨⟩; rfl, by rintro rfl; constructor⟩,
      run_bind_pure _ _⟩

/-- What comes of a call when the consumer has replied to the request numbered `id`. -/
structure Judged (c : Call) (id : Int64) (reply : Web.Reply) (result : Except Fault c.Answer) :
    Prop where
  ok_iff : ∀ a, result = .ok a ↔
    ∃ response, Answers id reply response ∧ Tells response.result c a
  error_iff : ∀ f, result = .error f ↔ Faulted id reply f

theorem judged_map {id : Int64} {reply : Web.Reply} {conclude : Json → c.Answer}
    (h : ∀ result a, Tells result c a ↔ conclude result = a) :
    Judged c id reply ((resultOf id reply).map conclude) where
  ok_iff a := by
    rw [map_eq_ok_iff]
    simp only [resultOf_eq_ok_iff, h]
    constructor
    · rintro ⟨_, ⟨response, hanswers, rfl⟩, ha⟩
      exact ⟨response, hanswers, ha⟩
    · rintro ⟨response, hanswers, ha⟩
      exact ⟨_, ⟨response, hanswers, rfl⟩, ha⟩
  error_iff f := by
    rw [← resultOf_eq_error_iff]
    cases resultOf id reply <;> simp [Except.map]

/-- **A reply settles the call.** There is one request only, and it is numbered as it should be. -/
theorem talk_judged {xs : List (Web.Request × Web.Outcome)} {r : Except Fault c.Answer}
    {reply : Web.Reply} (hwent : (talk options host stamp c).run.Went xs r)
    (hmem : (q, .answered reply) ∈ xs) :
    xs = [(q, .answered reply)] ∧ Sends options host stamp c q ∧
      Judged c (Int64.ofNat stamp.id.toNat) reply r := by
  have hsends : Sends options host stamp c q := ⟨xs, r, _, hwent, hmem⟩
  obtain ⟨method, params, url, hasks, rfl⟩ := hsends.eq_posted
  obtain ⟨conclude, hconclude, hrun⟩ := hasks.talk_run options host stamp
  rw [hrun] at hwent
  cases hurl : Web.usableUrl options.consumerUrl (signedHeaders options stamp
      (json (requestFor host stamp method (.object params))).render) with
  | error f =>
    -- Nothing is asked where the request cannot be made.
    have hcall : (call options host stamp method (.object params)).run = .done (.error f) := by
      rw [call, Web.send, hurl]
      rfl
    rw [hcall] at hwent
    obtain ⟨rfl, -⟩ := Dialog.went_done_iff.mp hwent
    cases hmem
  | ok url' =>
    rw [call_run hurl] at hwent
    cases hwent with
    | ask hwent =>
      obtain ⟨rfl, rfl⟩ := Dialog.went_done_iff.mp hwent
      cases List.mem_singleton.mp hmem
      exact ⟨rfl, hsends, judged_map hconclude⟩

end

/-! ## What the driver makes of replies -/

variable {σ : Type} {stamps : Nat → σ → Stamp × σ} {peer : Web.Request → σ → Web.Outcome × σ}

theorem eq_capabilities_of_init {target : Target} {stamps : Nat → σ → Stamp × σ}
    {caps : Capabilities σ} (h : init target stamps peer = .ok caps) :
    ∃ options, caps = capabilities options target.host stamps peer := by
  unfold init at h
  split at h
  · cases h
  · next options _ =>
    split at h
    · cases h
    · split at h
      · cases h
      · cases h
        exact ⟨options, rfl⟩

/-- **A reply counts only for its own request.** Where a request with a number is replied to, it is
the only one of its call, and the call succeeds just if the status is one of success, the body is an
envelope with that number, and the envelope reports no error; what it comes to is then what the
result tells. Otherwise the call fails, for the first of these that is not so. An envelope is what
its parts say. -/
theorem replies_judged {target : Target}
    {caps : Capabilities (σ × List (Web.Request × Web.Outcome))}
    (hinit : init target (stampsBeside stamps) (Dialog.noting peer) = .ok caps)
    (c : Call) (now : Nat) (w : σ) :
    let outcome := (caps.handle c).outcome now (w, [])
    let id := Int64.ofNat (stamps now w).1.id.toNat
    ∀ q reply, (q, Web.Outcome.answered reply) ∈ outcome.2.2 →
      outcome.2.2 = [(q, .answered reply)] ∧
      (∃ e : Request, e.id = id ∧ e.host = target.host ∧ q.body = .text (json e).render) ∧
      Judged c id reply outcome.1 ∧
      ∀ response, reply.decoded Response = .ok response →
        Response.Reads (Document.ofBytes reply.body).root response ∧
          (Document.ofBytes reply.body).trailing = false := by
  obtain ⟨options, rfl⟩ := eq_capabilities_of_init hinit
  intro outcome id q reply hmem
  obtain ⟨xs, hwent, -, hplay⟩ := Dialog.play_noting peer
    (talk options target.host (stamps now w).1 c).run (stamps now w).2
  have houtcome : outcome = (_, _, [] ++ xs) := (handle_outcome c now w []).trans (hplay [])
  rw [houtcome, List.nil_append] at hmem ⊢
  obtain ⟨hxs, hsends, hjudged⟩ := talk_judged hwent hmem
  refine ⟨hxs, ?_, hjudged, fun response hdecoded => ?_⟩
  · obtain ⟨method, params, url, -, rfl⟩ := hsends.eq_posted
    exact ⟨requestFor target.host (stamps now w).1 method (.object params), rfl, rfl, rfl⟩
  · obtain ⟨hread, htrailing⟩ :=
      Document.value_eq_ok_iff.mp (Web.Reply.decoded_eq_ok_iff.mp hdecoded)
    exact ⟨Response.reads_of_read hread, htrailing⟩

/-- The error of an order that was given to another host. -/
def strayResponse : Response := ⟨8, "10.0.0.8", .bool false, some ⟨5, "no such host"⟩⟩

def strayReply : Web.Reply := ⟨200, [], Text.Utf8.encode (json strayResponse).render⟩

theorem strayReply_decoded : strayReply.decoded Response = .ok strayResponse := by
  have hsound : Stored.Sound strayResponse := by
    simp [Stored.Sound, StoredField.of, Response.fields, ResponseError.fields, strayResponse]
  have hplain : Stored.Plain strayResponse := by
    simp [Stored.Plain, StoredField.of, Response.fields, ResponseError.fields, strayResponse]
  apply Web.Reply.decoded_eq_ok_iff.mpr
  rw [strayReply, decodeBytes, ofBytes_encode]
  exact decode_render hsound hplain (by decide)

/-- Somebody who replies to every request with that. -/
def stray (_ : Web.Request) (w : Unit) : Web.Outcome × Unit := (.answered strayReply, w)

/-- An error that belongs to another order is not taken for the answer to this one. -/
theorem replies_judged_of_stray_error :
    ∃ (caps : Capabilities (Unit × List (Web.Request × Web.Outcome))) (q : Web.Request),
      init (unluckyTarget rolloverOptions) (stampsBeside unlucky) (Dialog.noting stray) = .ok caps ∧
      (q, Web.Outcome.answered strayReply) ∈
        ((caps.handle (.powerSet .on)).outcome 0 ((), [])).2.2 ∧
      ((caps.handle (.powerSet .on)).outcome 0 ((), [])).1 =
        .error (.protocol "rpc response id 8 does not match request id 7") := by
  obtain ⟨url, husable⟩ := rolloverOptions_usable_unlucky 0
  have hurl : Web.usableUrl rolloverOptions.consumerUrl (signedHeaders rolloverOptions
      (unlucky 0 ()).1 (json (requestFor "10.0.0.9" (unlucky 0 ()).1 "setPowerState"
        (.object [("state", .str PowerAction.on.name)]))).render) = .ok url :=
    (usableUrl_signedHeaders (by decide) _ _).trans husable
  obtain ⟨conclude, -, hrun⟩ :=
    (Asks.powerSet .on).talk_run rolloverOptions "10.0.0.9" (unlucky 0 ()).1
  have hinit : init (unluckyTarget rolloverOptions) (stampsBeside unlucky) (Dialog.noting stray) =
      .ok (capabilities rolloverOptions "10.0.0.9" _ _) := rfl
  obtain ⟨q, hq⟩ : ∃ q, (q, Web.Outcome.answered strayReply) ∈ (((capabilities rolloverOptions
      "10.0.0.9" (stampsBeside unlucky) (Dialog.noting stray)).handle (.powerSet .on)).outcome 0
      ((), [])).2.2 := by
    rw [handle_outcome, hrun, call_run hurl]
    exact ⟨_, List.mem_singleton_self _⟩
  obtain ⟨-, -, hjudged, -⟩ := replies_judged hinit (.powerSet .on) 0 () q strayReply hq
  exact ⟨_, q, hinit, hq,
    (hjudged.error_iff _).mpr (.foreign (by decide) strayReply_decoded (by decide))⟩

end Rpc

end OutOfBand
