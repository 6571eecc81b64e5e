import OutOfBand.Proofs.Rpc.Signing
import OutOfBand.Proofs.Text.Cutting

/-!
# The receiver can verify

The driver signs a list of headers before there is a request; whoever receives the request has
nothing but the request. The two agree: what a receiver puts together from the body and the headers
(`received`) is what was signed (`received_posted`), and the header of the signatures falls apart
into one signature for each secret (`splitOn_signature`), for no signature has a comma in it. All
this holds of the requests that are sent, whoever answers them (`sent_requests_verify`).
-/

namespace OutOfBand

namespace Text

theorem length_hexOfBytes (bytes : List UInt8) : (hexOfBytes bytes).length = 2 * bytes.length := by
  rw [hexOfBytes, String.length_ofList]
  induction bytes with
  | nil => rfl
  | cons b bytes ih =>
      rw [List.flatMap_cons, List.length_append, ih, List.length_cons]
      simp only [hexOfByte, List.length_cons, List.length_nil]
      omega

end Text

/-! ## The form of a signature -/

namespace Hash

variable {α : Type}

theorem Variant.length_bigEndian (count n : Nat) : (bigEndian count n).length = count := by
  induction count generalizing n with
  | zero => rfl
  | succ count ih => simp [bigEndian, ih]

theorem Variant.length_hash (v : Variant α) (message : List UInt8) :
    (v.hash message).length = 8 * v.wordBytes := by
  simp only [hash, Words.toList, List.flatMap_cons, List.flatMap_nil, List.length_append,
    length_bigEndian, List.length_nil]
  omega

theorem length_hmac (v : Variant α) (key message : List UInt8) :
    (hmac v key message).length = 8 * v.wordBytes := v.length_hash _

end Hash

namespace HmacAlgorithm

/-- The number of digits in a signature. -/
def digits : HmacAlgorithm → Nat
  | sha256 => 64
  | sha512 => 128

variable (algorithm : HmacAlgorithm)

theorem length_tag (key message : List UInt8) :
    2 * (algorithm.tag key message).length = algorithm.digits := by
  cases algorithm <;> rw [tag, Hash.length_hmac] <;> rfl

/-- A text has the form of a signature: the name of the algorithm, an equals sign, and so many
lower-case hexadecimal digits. -/
def Signs (s : String) : Prop :=
  ∃ hex : String, s = algorithm.name ++ "=" ++ hex ∧ hex.length = algorithm.digits ∧
    ∀ c ∈ hex.toList, c ∈ "0123456789abcdef".toList

theorem signs_sign (secret : String) (message : List UInt8) :
    algorithm.Signs (algorithm.sign secret message) :=
  ⟨_, rfl, (Text.length_hexOfBytes _).trans (algorithm.length_tag _ _),
    fun _ => Text.mem_hexOfBytes⟩

theorem Signs.comma_not_mem {s : String} (h : algorithm.Signs s) : ',' ∉ s.toList := by
  obtain ⟨hex, rfl, -, hhex⟩ := h
  have hname : ',' ∉ (algorithm.name ++ "=").toList := by cases algorithm <;> decide
  have hcomma : ',' ∉ "0123456789abcdef".toList := by decide
  rw [String.toList_append, List.mem_append, not_or]
  exact ⟨hname, fun hmem => hcomma (hhex _ hmem)⟩

end HmacAlgorithm

/-- The values that a request carries under a name. -/
def Web.Request.valuesOf (q : Web.Request) (name : String) : List String :=
  (q.headers.filter fun h => Text.sameName h.1 name).map Prod.snd

theorem Web.Request.valuesOf_congr {q : Web.Request} {s t : String}
    (h : Text.sameName s t = true) : q.valuesOf s = q.valuesOf t := by
  have hsame : Text.lower s = Text.lower t := eq_of_beq h
  simp only [valuesOf, Text.sameName, hsame]

namespace Rpc

open Json

variable {σ : Type} {options : RpcOptions} {host : String} {stamp : Stamp} {c : Call}
  {q : Web.Request}

/-- At a comma the header of the signatures falls apart into one signature for each secret. -/
theorem splitOn_signature (hsecrets : options.secrets ≠ []) (message : List UInt8) :
    Text.splitOn ',' (signature options message) =
      options.secrets.map fun secret => options.algorithm.sign secret message := by
  refine Text.splitOn_intercalate (by simpa using hsecrets) fun s hs => ?_
  obtain ⟨secret, -, rfl⟩ := List.mem_map.mp hs
  exact (options.algorithm.signs_sign secret message).comma_not_mem

/-! ## What a receiver puts together -/

variable (options) in
/-- What a header adds to the body: its value in the request, if it tells the type of the body or
the time, and nothing otherwise. -/
def added (q : Web.Request) (name : String) : List UInt8 :=
  if Text.sameName name "Content-Type" || Text.sameName name options.timestampHeader then
    (q.valuesOf name).flatMap Text.Utf8.encode
  else []

variable (options) in
/-- The bytes that a receiver takes to be signed: the body, and then what each header to be signed
adds to it. -/
def received (q : Web.Request) (body : String) : List UInt8 :=
  Text.Utf8.encode body ++ options.signedHeaders.flatMap (added options q)

variable (options) in
/-- No two of the headers of a request have one name. -/
structure Distinct : Prop where
  time : Text.sameName options.signatureHeader options.timestampHeader = false
  type : Text.sameName options.signatureHeader "Content-Type" = false
  other : Text.sameName options.timestampHeader "Content-Type" = false

variable (options) in
/-- A receiver finds the request to be sent at a time, and to be signed by each secret. -/
structure Verifies (time : String) (q : Web.Request) : Prop where
  type : q.valuesOf "Content-Type" = ["application/json"]
  time : q.valuesOf options.timestampHeader = [time]
  signed : ∃ body signatures, q.body = .text body ∧
    q.valuesOf options.signatureHeader = [signatures] ∧
    Text.splitOn ',' signatures =
      options.secrets.map fun secret => options.algorithm.sign secret (received options q body)
  form : ∀ signatures ∈ q.valuesOf options.signatureHeader,
    ∀ part ∈ Text.splitOn ',' signatures, options.algorithm.Signs part

section Posted

variable (stamp) (url : Web.Url) (e : Request)

/-- A request has three headers, each of which counts for a name if it has that name. -/
theorem valuesOf_posted (name : String) : (posted options stamp url e).valuesOf name =
    (if Text.sameName options.signatureHeader name then
      [signature options (signedBytes options (json e).render (headersFor options stamp))]
      else []) ++
    ((if Text.sameName "Content-Type" name then ["application/json"] else []) ++
      if Text.sameName options.timestampHeader name then [stamp.time] else []) := by
  simp only [Web.Request.valuesOf, posted, signedHeaders, headersFor, Web.jsonContent,
    List.filter_cons, List.filter_nil]
  cases Text.sameName options.signatureHeader name <;>
    cases Text.sameName "Content-Type" name <;>
    cases Text.sameName options.timestampHeader name <;>
    rfl

variable (hnames : Distinct options)
include hnames

theorem valuesOf_signature : (posted options stamp url e).valuesOf options.signatureHeader =
    [signature options (signedBytes options (json e).render (headersFor options stamp))] := by
  rw [valuesOf_posted, Text.sameName_self, Text.sameName_comm "Content-Type", hnames.type,
    Text.sameName_comm options.timestampHeader, hnames.time]
  rfl

theorem valuesOf_type :
    (posted options stamp url e).valuesOf "Content-Type" = ["application/json"] := by
  rw [valuesOf_posted, Text.sameName_self, hnames.type, hnames.other]
  rfl

theorem valuesOf_time :
    (posted options stamp url e).valuesOf options.timestampHeader = [stamp.time] := by
  rw [valuesOf_posted, Text.sameName_self, hnames.time, Text.sameName_comm "Content-Type",
    hnames.other]
  rfl

/-- **What a receiver puts together is what was signed.** -/
theorem received_posted (body : String) : received options (posted options stamp url e) body =
    signedBytes options body (headersFor options stamp) := by
  rw [received, signedBytes]
  congr 2
  funext name
  rw [added, Text.sameName_comm name, Text.sameName_comm name]
  cases hjson : Text.sameName "Content-Type" name with
  | true =>
      rw [← Web.Request.valuesOf_congr hjson, valuesOf_type stamp url e hnames]
      simp [headersFor, Web.jsonContent, hjson]
  | false =>
      cases htime : Text.sameName options.timestampHeader name with
      | true =>
          rw [← Web.Request.valuesOf_congr htime, valuesOf_time stamp url e hnames]
          simp [headersFor, Web.jsonContent, hjson, htime]
      | false => simp [headersFor, Web.jsonContent, hjson, htime]

/-- **A receiver can verify** what is posted. -/
theorem posted_verifies (hsecrets : options.secrets ≠ []) :
    Verifies options stamp.time (posted options stamp url e) where
  type := valuesOf_type stamp url e hnames
  time := valuesOf_time stamp url e hnames
  signed := by
    refine ⟨(json e).render, _, rfl, valuesOf_signature stamp url e hnames, ?_⟩
    rw [splitOn_signature hsecrets, received_posted stamp url e hnames]
  form := by
    rw [valuesOf_signature stamp url e hnames]
    intro signatures hmem part hpart
    obtain rfl := List.mem_singleton.mp hmem
    rw [splitOn_signature hsecrets] at hpart
    obtain ⟨secret, -, rfl⟩ := List.mem_map.mp hpart
    exact options.algorithm.signs_sign secret _

end Posted

/-! ## What is sent -/

/-- Stamps as they are given in a world where somebody takes down what is said. -/
def stampsBeside (stamps : Nat → σ → Stamp × σ) (now : Nat)
    (w : σ × List (Web.Request × Web.Outcome)) :
    Stamp × σ × List (Web.Request × Web.Outcome) :=
  ((stamps now w.1).1, (stamps now w.1).2, w.2)

variable {stamps : Nat → σ → Stamp × σ} {peer : Web.Request → σ → Web.Outcome × σ}

theorem handle_outcome (c : Call) (now : Nat) (w : σ) (log : List (Web.Request × Web.Outcome)) :
    ((capabilities options host (stampsBeside stamps) (Dialog.noting peer)).handle c).outcome now
        (w, log) =
      (talk options host (stamps now w).1 c).run.play (Dialog.noting peer)
        ((stamps now w).2, log) := rfl

/-- What is taken down while a call is handled are requests for it, with the stamp of the call. -/
theorem handle_sends (c : Call) (now : Nat) (w : σ) :
    ∀ x ∈ (((capabilities options host (stampsBeside stamps) (Dialog.noting peer)).handle c).outcome
        now (w, [])).2.2, Sends options host (stamps now w).1 c x.1 := by
  obtain ⟨xs, hwent, -, hplay⟩ := Dialog.play_noting peer
    (talk options host (stamps now w).1 c).run (stamps now w).2
  rw [handle_outcome, hplay, List.nil_append]
  exact fun x hx => ⟨xs, _, x.2, hwent, hx⟩

/-- **The receiver can verify** every request that is sent, whatever the driver is asked for and
whoever answers it. -/
theorem sent_requests_verify {target : Target}
    {caps : Capabilities (σ × List (Web.Request × Web.Outcome))}
    (hoptions : target.options.rpc = some options) (hnames : Distinct options)
    (hinit : init target (stampsBeside stamps) (Dialog.noting peer) = .ok caps)
    (c : Call) (now : Nat) (w : σ) :
    ∀ x ∈ ((caps.handle c).outcome now (w, [])).2.2,
      Verifies options (stamps now w).1.time x.1 := by
  rw [init, hoptions] at hinit
  dsimp only at hinit
  split at hinit
  · cases hinit
  · split at hinit
    · cases hinit
    · next hsecrets =>
        cases hinit
        intro x hx
        obtain ⟨method, params, url, -, hposted⟩ := (handle_sends c now w x hx).eq_posted
        rw [hposted]
        exact posted_verifies _ url _ hnames (by simpa using hsecrets)

/-- Options under which there are two signatures, of the body, its type and the time. -/
def rolloverOptions : RpcOptions := { localOptions with secrets := ["old", "new"] }

theorem rolloverOptions_usable : ∃ url,
    Web.usableUrl rolloverOptions.consumerUrl (headersFor rolloverOptions noon) = .ok url := by
  have hmade : (Web.usableUrl rolloverOptions.consumerUrl
      (headersFor rolloverOptions noon)).isOk = true := by decide +kernel
  cases hurl : Web.usableUrl rolloverOptions.consumerUrl (headersFor rolloverOptions noon) with
  | ok url => exact ⟨url, rfl⟩
  | error f =>
      rw [hurl] at hmade
      cases hmade

/-- Nobody answers. -/
def nobody (_ : Web.Request) (w : Unit) : Web.Outcome × Unit := (.unreachable, w)

/-- A receiver can verify an order to power a host, sent although nobody answers it. -/
theorem sent_requests_verify_of_power_on :
    ∃ (caps : Capabilities (Unit × List (Web.Request × Web.Outcome)))
      (x : Web.Request × Web.Outcome), Distinct rolloverOptions ∧
      init ⟨"10.0.0.9", "root", "root", { rpc := some rolloverOptions }⟩
        (stampsBeside fun _ w => (noon, w)) (Dialog.noting nobody) = .ok caps ∧
      x ∈ ((caps.handle (.powerSet .on)).outcome 0 ((), [])).2.2 ∧
      Verifies rolloverOptions noon.time x.1 := by
  obtain ⟨url, hurl⟩ := rolloverOptions_usable
  obtain ⟨f, hcall⟩ := call_went (by decide) hurl "10.0.0.9" "setPowerState"
    (.object [("state", .str PowerAction.on.name)])
  have hwent : (talk rolloverOptions "10.0.0.9" noon (.powerSet .on)).run.Went _ _ :=
    hcall.bindRun_error _
  obtain ⟨x, hsent⟩ : ∃ x, x ∈ (((capabilities rolloverOptions "10.0.0.9"
      (stampsBeside fun _ w => (noon, w)) (Dialog.noting nobody)).handle (.powerSet .on)).outcome 0
      ((), [])).2.2 := by
    rw [handle_outcome, hwent.play_noting (.cons (.nil ())) []]
    exact ⟨_, List.mem_cons_self⟩
  have hnames : Distinct rolloverOptions := ⟨by decide, by decide, by decide⟩
  have hinit : init ⟨"10.0.0.9", "root", "root", { rpc := some rolloverOptions }⟩
      (stampsBeside fun _ w => (noon, w)) (Dialog.noting nobody) =
      .ok (capabilities rolloverOptions "10.0.0.9" _ _) := rfl
  exact ⟨_, x, hnames, hinit, hsent,
    sent_requests_verify rfl hnames hinit (.powerSet .on) 0 () x hsent⟩

end Rpc

end OutOfBand
