import OutOfBand.Proofs.Rpc.Requests
import OutOfBand.Proofs.Text.Utf8

/-!
# What is signed tells what is sent

The driver signs the body of a request followed by the values of some of its headers, with nothing
between them. The signed bytes tell the request nevertheless (`signed_requests_eq`): the text of the
body, an object, tells where it ends, and is read back as the envelope; the values that follow are
the same for all requests but for the time, which stands in the same places in all of them.
-/

namespace OutOfBand

namespace Text

theorem sameName_self (s : String) : sameName s s = true := beq_self_eq_true _

theorem sameName_comm (s t : String) : sameName s t = sameName t s := BEq.comm

theorem sameName_congr {s t : String} (h : sameName s t = true) (u : String) :
    sameName s u = sameName t u := by
  rw [sameName, show lower s = lower t from eq_of_beq h, sameName]

end Text

namespace Rpc

open Json

variable {options : RpcOptions} {host method : String} {stamp : Stamp} {c : Call}
  {q : Web.Request} {params : List (String × Json)}

/-! ## Envelopes -/

/-- Parameters are texts and truth values. -/
theorem Asks.flat (h : Asks c method params) :
    ∀ m ∈ params, IsSound m.2 ∧ IsPlain m.2 ∧ m.2.depth = 0 := by
  cases h <;> simp [depth]

variable (host stamp) in
/-- An envelope is one that is read back. -/
theorem Asks.lasting (h : Asks c method params) :
    Stored.Sound (requestFor host stamp method (.object params)) ∧
      Stored.Plain (requestFor host stamp method (.object params)) ∧
      (json (requestFor host stamp method (.object params))).depth ≤ maxDepth := by
  have hflat : ∀ m ∈ sorted params, IsSound m.2 ∧ IsPlain m.2 ∧ m.2.depth = 0 :=
    fun m hm => h.flat m (mem_of_mem_sorted hm)
  refine ⟨Request.sound_iff.mpr (isSound_object fun m hm => (h.flat m hm).1),
    Request.plain_iff.mpr (isPlain_obj_iff.mpr fun m hm => (hflat m hm).2.1), ?_⟩
  have hparams : (Json.object params).depth ≤ 1 :=
    Nat.succ_le_succ (memberDepth_le fun m hm => Nat.le_of_eq (hflat m hm).2.2)
  simp only [json, requestFor, depth, memberDepth, Json.int, maxDepth]
  omega

/-- The text of an envelope tells where it ends, and is read back. -/
theorem envelope_inj {e₁ e₂ : Request} {cs₁ cs₂ : List Char} (hsound₁ : Stored.Sound e₁)
    (hplain₁ : Stored.Plain e₁) (hdepth₁ : (json e₁).depth ≤ maxDepth)
    (hsound₂ : Stored.Sound e₂) (hplain₂ : Stored.Plain e₂) (hdepth₂ : (json e₂).depth ≤ maxDepth)
    (h : (json e₁).chars ++ cs₁ = (json e₂).chars ++ cs₂) : e₁ = e₂ ∧ cs₁ = cs₂ := by
  obtain ⟨hdoc, hrest⟩ := chars_obj_append_inj (Lasting.faithful.exact hsound₁ hplain₁)
    (Lasting.faithful.exact hsound₂ hplain₂) hdepth₁ hdepth₂ h
  have hread₁ := Lasting.faithful.reads hsound₁ hplain₁
  have hread₂ := Lasting.faithful.reads hsound₂ hplain₂
  rw [show (json e₁).doc = (json e₂).doc from hdoc, hread₂] at hread₁
  exact ⟨(Except.ok.inj hread₁).symm, hrest⟩

theorem stamp_ext {s t : Stamp} (hid : Int64.ofNat s.id.toNat = Int64.ofNat t.id.toNat)
    (htime : s.time = t.time) : s = t := by
  have hvalue := congrArg Int64.toInt hid
  have hs := s.id.toNat_lt
  have ht := t.id.toNat_lt
  rw [Int64.toInt_ofNat_of_lt (by omega), Int64.toInt_ofNat_of_lt (by omega)] at hvalue
  cases s
  cases t
  cases UInt32.toNat_inj.mp (Int.ofNat_inj.mp hvalue)
  cases htime
  rfl

/-! ## Header values -/

section Values

variable (isTime : String → Bool) (other : String → List Char)

/-- The time in one place, and something that does not depend on it in the others. -/
def valueAt (t : List Char) (name : String) : List Char := if isTime name then t else other name

/-- Values differ in length by as much as the times do, once for each place. -/
theorem length_values (t u : List Char) (names : List String) :
    (names.flatMap (valueAt isTime other t)).length + names.countP isTime * u.length =
      (names.flatMap (valueAt isTime other u)).length + names.countP isTime * t.length := by
  induction names with
  | nil => simp
  | cons name names ih =>
      rw [List.flatMap_cons, List.flatMap_cons, List.length_append, List.length_append]
      by_cases hname : isTime name
      · rw [List.countP_cons_of_pos hname, Nat.succ_mul, Nat.succ_mul]
        simp only [valueAt, if_pos hname] at ih ⊢
        omega
      · rw [List.countP_cons_of_neg hname]
        simp only [valueAt, if_neg hname] at ih ⊢
        omega

/-- **Values tell the time**, if it is among them at all. -/
theorem values_inj {t u : List Char} {names : List String}
    (htime : ∃ name ∈ names, isTime name = true)
    (h : names.flatMap (valueAt isTime other t) = names.flatMap (valueAt isTime other u)) :
    t = u := by
  -- The values can be told apart only after it is known that both times are equally long.
  have hlength : t.length = u.length := by
    have hvalues := length_values isTime other t u names
    rw [h, Nat.add_left_cancel_iff] at hvalues
    exact (Nat.eq_of_mul_eq_mul_left (List.countP_pos_iff.mpr htime) hvalues).symm
  induction names with
  | nil => simp at htime
  | cons name names ih =>
      rw [List.flatMap_cons, List.flatMap_cons] at h
      by_cases hname : isTime name
      · simp only [valueAt, if_pos hname] at h
        exact (List.append_inj h hlength).1
      · simp only [valueAt, if_neg hname] at h
        refine ih ?_ (List.append_cancel_left h)
        obtain ⟨n, hn, htimes⟩ := htime
        rcases List.mem_cons.mp hn with rfl | hn
        · exact absurd htimes hname
        · exact ⟨n, hn, htimes⟩

end Values

/-- What a header to be signed adds to the body, if it is not the time. -/
def otherValue (name : String) : List Char :=
  if Text.sameName "Content-Type" name then "application/json".toList else []

/-- The values of the headers to be signed. -/
def signedValues (options : RpcOptions) (time : String) : List Char :=
  options.signedHeaders.flatMap
    (valueAt (Text.sameName options.timestampHeader) otherValue time.toList)

/-- **What is signed** is the text of the body with the values after it. -/
theorem signedBytes_eq (hname : Text.sameName options.timestampHeader "Content-Type" = false)
    (body : String) : signedBytes options body (headersFor options stamp) =
      Text.Utf8.encode (body ++ String.ofList (signedValues options stamp.time)) := by
  rw [signedBytes, Text.Utf8.encode_append, signedValues]
  congr 1
  induction options.signedHeaders with
  | nil => simp
  | cons name names ih =>
      rw [List.flatMap_cons, ih, List.flatMap_cons, String.ofList_append, Text.Utf8.encode_append]
      congr 1
      cases htime : Text.sameName options.timestampHeader name with
      | true =>
          have hjson : Text.sameName "Content-Type" name = false := by
            rw [Text.sameName_comm, ← Text.sameName_congr htime, hname]
          simp [headersFor, Web.jsonContent, hjson, htime, valueAt]
      | false =>
          cases hjson : Text.sameName "Content-Type" name <;>
            simp [headersFor, Web.jsonContent, hjson, htime, valueAt, otherValue]

/-! ## Requests -/

/-- The bytes whose signature a request bears: its body, followed by values of the headers after
the signature. -/
def signedIn (options : RpcOptions) (q : Web.Request) : List UInt8 :=
  match q.body with
  | .text body => signedBytes options body q.headers.tail
  | _ => []

/-- A request bears the signature of its body and headers. -/
theorem Sends.signed (h : Sends options host stamp c q) :
    q.headers.head? = some (options.signatureHeader, signature options (signedIn options q)) := by
  obtain ⟨method, params, url, -, rfl⟩ := h.eq_posted
  rfl

/-- **What is signed tells the request.** If the time is among the headers to be signed, and its
header is not the one for the type of the body, then two requests with the same signed bytes have
the same identifier and time, are for the same host, and ask for the same with the same
parameters. -/
theorem signed_requests_eq {host₁ host₂ : String} {stamp₁ stamp₂ : Stamp} {c₁ c₂ : Call}
    {q₁ q₂ : Web.Request}
    (htime : ∃ name ∈ options.signedHeaders, Text.sameName options.timestampHeader name = true)
    (hname : Text.sameName options.timestampHeader "Content-Type" = false)
    (h₁ : Sends options host₁ stamp₁ c₁ q₁) (h₂ : Sends options host₂ stamp₂ c₂ q₂)
    (hbytes : signedIn options q₁ = signedIn options q₂) :
    stamp₁ = stamp₂ ∧ host₁ = host₂ ∧ c₁ = c₂ ∧ ∃ method params,
      q₁.body = .text (json (requestFor host₁ stamp₁ method params)).render ∧
      q₂.body = .text (json (requestFor host₂ stamp₂ method params)).render := by
  obtain ⟨m₁, ps₁, u₁, hasks₁, rfl⟩ := h₁.eq_posted
  obtain ⟨m₂, ps₂, u₂, hasks₂, rfl⟩ := h₂.eq_posted
  obtain ⟨hsound₁, hplain₁, hdepth₁⟩ := hasks₁.lasting host₁ stamp₁
  obtain ⟨hsound₂, hplain₂, hdepth₂⟩ := hasks₂.lasting host₂ stamp₂
  -- What is signed is a text: the envelope first, which tells where the values begin.
  have htext : (json (requestFor host₁ stamp₁ m₁ (.object ps₁))).chars ++
      signedValues options stamp₁.time =
      (json (requestFor host₂ stamp₂ m₂ (.object ps₂))).chars ++
        signedValues options stamp₂.time := by
    have hencoded : signedBytes options _ (headersFor options stamp₁) =
      signedBytes options _ (headersFor options stamp₂) := hbytes
    rw [signedBytes_eq hname, signedBytes_eq hname] at hencoded
    simpa [render] using congrArg String.toList (Text.Utf8.encode_injective hencoded)
  obtain ⟨henvelope, hvalues⟩ :=
    envelope_inj hsound₁ hplain₁ hdepth₁ hsound₂ hplain₂ hdepth₂ htext
  have htimes : stamp₁.time = stamp₂.time := String.toList_inj.mp (values_inj _ _ htime hvalues)
  simp only [requestFor, Request.mk.injEq] at henvelope
  obtain ⟨hid, rfl, rfl, hparams⟩ := henvelope
  obtain rfl := stamp_ext hid htimes
  refine ⟨rfl, rfl, hasks₁.unique hasks₂ rfl hparams, m₁, .object ps₁, rfl, ?_⟩
  rw [hparams]
  rfl

/-- Options under which the type of the body and the time are signed, the time twice. -/
def localOptions : RpcOptions :=
  { RpcOptions.ofConsumer "http://localhost:8800/rpc" "secret" with
    signedHeaders := ["x-bmclib-timestamp", "content-type", "X-BMCLIB-Timestamp"] }

def noon : Stamp := ⟨7, "2024-05-01T12:00:00+00:00"⟩

/-- What is signed of an order to power a host tells the order, and whom it is for. -/
theorem signed_requests_eq_of_power_on :
    ∃ q, Sends localOptions "10.0.0.9" noon (.powerSet .on) q ∧
      (∃ name ∈ localOptions.signedHeaders,
        Text.sameName localOptions.timestampHeader name = true) ∧
      Text.sameName localOptions.timestampHeader "Content-Type" = false ∧ ∃ method params,
        q.body = .text (json (requestFor "10.0.0.9" noon method params)).render := by
  obtain ⟨url, husable⟩ : ∃ url,
      Web.usableUrl localOptions.consumerUrl (headersFor localOptions noon) = .ok url := by
    have hmade : (Web.usableUrl localOptions.consumerUrl (headersFor localOptions noon)).isOk =
        true := by decide +kernel
    cases hurl : Web.usableUrl localOptions.consumerUrl (headersFor localOptions noon) with
    | ok url => exact ⟨url, rfl⟩
    | error f =>
        rw [hurl] at hmade
        cases hmade
  have hsent : Sends localOptions "10.0.0.9" noon (.powerSet .on) _ :=
    (Asks.powerSet .on).sends (by decide) husable
  have htime : ∃ name ∈ localOptions.signedHeaders,
      Text.sameName localOptions.timestampHeader name = true := by decide
  have hname : Text.sameName localOptions.timestampHeader "Content-Type" = false := by decide
  obtain ⟨-, -, -, method, params, hbody, -⟩ := signed_requests_eq htime hname hsent hsent rfl
  exact ⟨_, hsent, htime, hname, method, params, hbody⟩

end Rpc

end OutOfBand
