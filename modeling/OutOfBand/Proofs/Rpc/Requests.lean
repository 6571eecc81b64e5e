import OutOfBand.Proofs.RoundTrip
import OutOfBand.Proofs.Text.Cutting
import OutOfBand.Proofs.Transcript
import OutOfBand.Rpc.Bridge

/-!
# Requests to a consumer

Whatever the consumer answers, the driver sends at most one kind of request for a call: one whose
envelope says what the call asks for (`Sends.eq_posted`), by a method and parameters that tell the
call (`Asks.unique`). It is sent wherever the URL and the headers of the options can be used
(`Asks.sends`); that there are signatures among the headers makes no difference.
-/

namespace OutOfBand

namespace Text

theorem hexDigit_mem : ∀ n < 16, hexDigit n ∈ "0123456789abcdef".toList := by decide

theorem mem_hexOfBytes {bytes : List UInt8} {c : Char} (h : c ∈ (hexOfBytes bytes).toList) :
    c ∈ "0123456789abcdef".toList := by
  rw [hexOfBytes, String.toList_ofList, List.mem_flatMap] at h
  obtain ⟨b, -, hc⟩ := h
  have hb := b.toNat_lt
  simp only [hexOfByte, List.mem_cons, List.not_mem_nil, or_false] at hc
  rcases hc with rfl | rfl <;> exact hexDigit_mem _ (by omega)

end Text

namespace Rpc

open Json

variable {options : RpcOptions} {host method : String} {stamp : Stamp} {c : Call}
  {q : Web.Request} {params : List (String × Json)}

/-! ## What is sent -/

/-- What the driver asks the consumer for a call: a method, and its parameters. -/
inductive Asks : Call → String → List (String × Json) → Prop
  | powerState : Asks .powerState "getPowerState" []
  | powerSet (action : PowerAction) :
      Asks (.powerSet action) "setPowerState" [("state", .str action.name)]
  | bootDeviceSet (device : BootDevice) (boot : BootOptions) :
      Asks (.bootDeviceSet device boot) "setBootDevice"
        [("device", .str device.text), ("persistent", .bool boot.persistent),
          ("efiBoot", .bool boot.efi)]
  | virtualMedia (kind : MediaKind) (url : String) :
      Asks (.virtualMedia kind url) "setVirtualMedia"
        [("mediaUrl", .str url), ("kind", .str kind.text)]

/-- The driver can send the request when it is asked for the call. -/
def Sends (options : RpcOptions) (host : String) (stamp : Stamp) (c : Call) (q : Web.Request) :
    Prop :=
  ∃ xs r outcome, (talk options host stamp c).run.Went xs r ∧ (q, outcome) ∈ xs

/-- The request in which an envelope is sent. -/
def posted (options : RpcOptions) (stamp : Stamp) (url : Web.Url) (e : Request) : Web.Request :=
  ⟨.post, url, .none, signedHeaders options stamp (json e).render, .text (json e).render⟩

theorem call_asksOnly (method : String) (params : Json) :
    Dialog.AsksOnly
      (fun q => ∃ url, q = posted options stamp url (requestFor host stamp method params))
      (call options host stamp method params).run := by
  refine .bindRun ?_ fun _ => .done _
  rw [Web.send]
  split
  · exact .done _
  · next url _ => exact .bind (.question ⟨url, rfl⟩) fun _ => .done _

theorem order_asksOnly (method : String) (params : List (String × Json)) :
    Dialog.AsksOnly
      (fun q => ∃ url, q = posted options stamp url (requestFor host stamp method (.object params)))
      (order options host stamp method params).run :=
  .bindRun (call_asksOnly method _) fun _ => .done _

/-- **Every request says what the call asks for.** -/
theorem Sends.eq_posted (h : Sends options host stamp c q) : ∃ method params url,
    Asks c method params ∧
      q = posted options stamp url (requestFor host stamp method (.object params)) := by
  obtain ⟨xs, r, outcome, hwent, hmem⟩ := h
  cases c with
  | powerState =>
      have hasks : Dialog.AsksOnly _ (talk options host stamp .powerState).run :=
        .bindRun (call_asksOnly "getPowerState" (.object [])) fun _ => .done _
      obtain ⟨url, hq⟩ := hasks xs r hwent _ hmem
      exact ⟨_, _, url, .powerState, hq⟩
  | powerSet action =>
      obtain ⟨url, hq⟩ := order_asksOnly _ _ xs r hwent _ hmem
      exact ⟨_, _, url, .powerSet action, hq⟩
  | bootDeviceSet device boot =>
      obtain ⟨url, hq⟩ := order_asksOnly _ _ xs r hwent _ hmem
      exact ⟨_, _, url, .bootDeviceSet device boot, hq⟩
  | virtualMedia kind url =>
      obtain ⟨u, hq⟩ := order_asksOnly _ _ xs r hwent _ hmem
      exact ⟨_, _, u, .virtualMedia kind url, hq⟩
  | _ =>
      obtain ⟨rfl, -⟩ := Dialog.went_done_iff.mp hwent
      cases hmem

/-! ## What can be sent -/

theorem isHeaderValue_append {s t : String} (hs : Web.isHeaderValue s = true)
    (ht : Web.isHeaderValue t = true) : Web.isHeaderValue (s ++ t) = true := by
  rw [Web.isHeaderValue, String.toList_append, List.all_append, Bool.and_eq_true]
  exact ⟨hs, ht⟩

theorem isHeaderValue_hexOfBytes (bytes : List UInt8) :
    Web.isHeaderValue (Text.hexOfBytes bytes) = true := by
  have hdigits : Web.isHeaderValue "0123456789abcdef" = true := by decide
  exact List.all_eq_true.mpr fun c hc => List.all_eq_true.mp hdigits c (Text.mem_hexOfBytes hc)

theorem isHeaderValue_sign (algorithm : HmacAlgorithm) (secret : String) (message : List UInt8) :
    Web.isHeaderValue (algorithm.sign secret message) = true := by
  refine isHeaderValue_append (isHeaderValue_append ?_ (by decide)) (isHeaderValue_hexOfBytes _)
  cases algorithm <;> decide

theorem isHeaderValue_intercalate {sep : String} {texts : List String}
    (hsep : Web.isHeaderValue sep = true) (h : ∀ s ∈ texts, Web.isHeaderValue s = true) :
    Web.isHeaderValue (String.intercalate sep texts) = true := by
  refine List.all_eq_true.mpr fun c hc => ?_
  rcases Text.mem_intercalate hc with hc | ⟨s, hs, hc⟩
  · exact List.all_eq_true.mp hsep c hc
  · exact List.all_eq_true.mp (h s hs) c hc

/-- Signatures can always be sent. -/
theorem isHeaderValue_signature (message : List UInt8) :
    Web.isHeaderValue (signature options message) = true := by
  refine isHeaderValue_intercalate (by decide) fun s hs => ?_
  obtain ⟨secret, -, rfl⟩ := List.mem_map.mp hs
  exact isHeaderValue_sign _ _ _

theorem usableUrl_cons {url name value : String} {headers : List Web.Header}
    (hname : Web.isHeaderName name = true) (hvalue : Web.isHeaderValue value = true) :
    Web.usableUrl url ((name, value) :: headers) = Web.usableUrl url headers := by
  simp only [Web.usableUrl, List.all_cons, hname, hvalue, Bool.true_and]

/-- Signatures make no difference to what can be sent. -/
theorem usableUrl_signedHeaders (hheader : Web.isHeaderName options.signatureHeader = true)
    (url body : String) : Web.usableUrl url (signedHeaders options stamp body) =
      Web.usableUrl url (headersFor options stamp) :=
  usableUrl_cons hheader (isHeaderValue_signature _)

/-- A request that can be made is sent, and its outcome is all that matters. -/
theorem call_run {url : Web.Url} {params : Json}
    (hurl : Web.usableUrl options.consumerUrl (signedHeaders options stamp
      (json (requestFor host stamp method params)).render) = .ok url) :
    (call options host stamp method params).run =
      .ask (posted options stamp url (requestFor host stamp method params)) fun outcome =>
        .done ((Web.replyOf url outcome).bind
          (resultOf (requestFor host stamp method params).id)) := by
  rw [call, Web.send, hurl]
  refine congrArg (Dialog.ask _) (funext fun outcome => ?_)
  cases outcome <;> rfl

theorem call_went {url : Web.Url} (hheader : Web.isHeaderName options.signatureHeader = true)
    (hurl : Web.usableUrl options.consumerUrl (headersFor options stamp) = .ok url)
    (host method : String) (params : Json) : ∃ f, (call options host stamp method params).run.Went
      [(posted options stamp url (requestFor host stamp method params), .unreachable)]
      (.error f) := by
  rw [call_run ((usableUrl_signedHeaders hheader _ _).trans hurl)]
  exact ⟨_, .ask (.done _)⟩

/-- A request is sent if its other headers can be. -/
theorem Asks.sends {url : Web.Url} (h : Asks c method params)
    (hheader : Web.isHeaderName options.signatureHeader = true)
    (hurl : Web.usableUrl options.consumerUrl (headersFor options stamp) = .ok url) :
    Sends options host stamp c
      (posted options stamp url (requestFor host stamp method (.object params))) := by
  obtain ⟨f, hwent⟩ := call_went hheader hurl host method (.object params)
  cases h <;> exact ⟨_, _, _, hwent.bindRun_error _, List.mem_cons_self⟩

/-! ## Methods and parameters -/

theorem name_action_injective {a b : PowerAction} (h : a.name = b.name) : a = b := by
  have hfound := find?_name a
  rw [show Vocabulary.name a = Vocabulary.name b from h, find?_name] at hfound
  exact (Option.some.inj hfound).symm

theorem text_device_injective : ∀ {a b : BootDevice}, a.text = b.text → a = b := by
  intro a b
  cases a <;> cases b <;> decide

theorem text_kind_injective : ∀ {a b : MediaKind}, a.text = b.text → a = b := by
  intro a b
  cases a <;> cases b <;> decide

theorem Asks.nodup (h : Asks c method params) : (params.map Prod.fst).Nodup := by
  cases h <;> simp

/-- **The method and the parameters tell the call.** -/
theorem Asks.unique {c₁ c₂ : Call} {m₁ m₂ : String} {ps₁ ps₂ : List (String × Json)}
    (h₁ : Asks c₁ m₁ ps₁) (h₂ : Asks c₂ m₂ ps₂) (hmethod : m₁ = m₂)
    (hparams : object ps₁ = object ps₂) : c₁ = c₂ := by
  have hmem : ∀ m ∈ ps₁, m ∈ ps₂ := fun m =>
    (mem_iff_of_sorted_eq h₁.nodup h₂.nodup (Json.obj.inj hparams)).mp
  cases h₁ with
  | powerState =>
      cases h₂ with
      | powerState => rfl
      | _ => simp at hmethod
  | powerSet action =>
      cases h₂ with
      | powerSet action' =>
          have haction : action.name = action'.name := by simpa using hmem
          rw [name_action_injective haction]
      | _ => simp at hmethod
  | bootDeviceSet device boot =>
      cases h₂ with
      | bootDeviceSet device' boot' =>
          obtain ⟨hdevice, hpersistent, hefi⟩ : device.text = device'.text ∧
              boot.persistent = boot'.persistent ∧ boot.efi = boot'.efi := by simpa using hmem
          cases boot
          cases boot'
          cases hpersistent
          cases hefi
          rw [text_device_injective hdevice]
      | _ => simp at hmethod
  | virtualMedia kind url =>
      cases h₂ with
      | virtualMedia kind' url' =>
          obtain ⟨hurl, hkind⟩ : url = url' ∧ kind.text = kind'.text := by simpa using hmem
          rw [hurl, text_kind_injective hkind]
      | _ => simp at hmethod

end Rpc

end OutOfBand
