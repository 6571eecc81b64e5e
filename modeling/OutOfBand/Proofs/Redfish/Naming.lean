import OutOfBand.Proofs.Redfish.Confinement
import OutOfBand.Proofs.Web.Uri

/-!
# The host in the URLs of the Redfish driver

The driver writes the host of the target between the scheme and the port as it is given. A host name
or an IPv4 address is read from the URL again, with the scheme, the port and the path
(`namesTarget_of_name`), and so is an IPv6 address that is given between brackets
(`namesTarget_of_literal`). One that is given as it is written everywhere else is not: nothing is
read from the URL, and no request can be sent to it (`unread_of_v6`).
-/

namespace OutOfBand

open IpAddress

variable {c : Char} {target : Target} {path : String} {groups : List Nat}

/-! ## Requests to an address with colons -/

namespace Web.Url

variable {o : RedfishOptions} {host : String} {u : Url}

theorem isOuter_of_isGroupChar (h : isGroupChar c = true) : isOuter c = false := by
  simp only [isGroupChar, Bool.or_eq_true, beq_iff_eq] at h
  rcases h with (hhex | rfl) | rfl
  · have hcode : 0x20 < c.toNat := by
      simp only [isHexDigit, Text.hexValue] at hhex
      by_contra hle
      simp [show ¬ 0x30 ≤ c.toNat by omega, show ¬ 0x61 ≤ c.toNat by omega,
        show ¬ 0x41 ≤ c.toNat by omega] at hhex
    simpa [isOuter] using hcode
  · rfl
  · rfl

theorem ne_of_isGroupChar {d : Char} (h : isGroupChar c = true) (hd : isGroupChar d = false) :
    c ≠ d := by
  rintro rfl
  rw [h] at hd
  cases hd

theorem endsAuthority_of_isGroupChar (h : isGroupChar c = true) : endsAuthority c = false := by
  rw [← Bool.not_eq_true, endsAuthority_iff]
  rintro (rfl | rfl | rfl | rfl) <;> exact absurd h (by decide)

/-- An address with colons and a port are no site: what follows the first colon is no port. -/
theorem site_eq_none_of_v6 (usual : Option Nat) {digits : List Char}
    (hhost : IpAddress.parse? host = some (.v6 groups))
    (hdigits : ∀ c ∈ digits, Decimal.isDigit c = true) :
    site usual (host.toList ++ ':' :: digits) = none := by
  obtain ⟨hchars, hcolons⟩ := chars_of_v6 hhost
  have hcolon : ':' ∈ host.toList := List.count_pos_iff.mp (by omega)
  have hnot : ∀ d, isGroupChar d = false → d ∉ host.toList ++ ':' :: digits := by
    intro d hd hmem
    rcases List.mem_append.mp hmem with hmem | hmem
    · exact ne_of_isGroupChar (hchars d hmem) hd rfl
    · rcases List.mem_cons.mp hmem with rfl | hmem
      · exact absurd hd (by decide)
      · have hgroup : isGroupChar d = true := by
          simp [isGroupChar, isHexDigit_of_isDigit (hdigits d hmem)]
        exact ne_of_isGroupChar hgroup hd rfl
  have hat := hnot '@' (by decide)
  have hslash := hnot '\\' (by decide)
  obtain ⟨front, back, hsplit, hfront⟩ := List.eq_append_cons_of_mem hcolon
  rw [hsplit, List.append_assoc, List.cons_append] at hat hslash ⊢
  have hmarks : ∀ c ∈ front, c ∉ hostMarks := by
    intro c hc hmark
    have hgroup := hchars c (hsplit ▸ List.mem_append_left _ hc)
    simp only [hostMarks, List.mem_cons, List.not_mem_nil, or_false] at hmark
    rcases hmark with rfl | rfl | rfl | rfl | rfl | rfl | rfl
    case inr.inr.inr.inr.inr.inl => exact hfront hc
    all_goals exact absurd hgroup (by decide)
  have hport : readPort (':' :: ([] ++ (back ++ ':' :: digits))) = none :=
    readPort_eq_none (by simp) ⟨':', by simp, by decide⟩ fun hmem => hslash (by simp_all)
  rw [List.nil_append] at hport
  simp [site, splitCredentials_of_notMem hat, splitHost_append hmarks, hport]

/-- **No URL of the web** has an address with colons between its scheme and its port. -/
theorem not_isWeb_of_v6 (hhost : IpAddress.parse? host = some (.v6 groups))
    (hscheme : isScheme o.scheme.toList = true) (hpath : path.toList.head? = some '/')
    (h : parse? (o.baseUrl host ++ path) = some u) : u.isWeb = false := by
  rw [← Bool.not_eq_true]
  intro hweb
  obtain ⟨rest, hrest⟩ := List.head?_eq_some_iff.mp hpath
  have hchars := (chars_of_v6 hhost).1
  have hcleaned := cleaned_baseUrl_append o (fun c hc => isOuter_of_isGroupChar (hchars c hc)) path
  simp only [toList_afterScheme, List.append_assoc, List.cons_append] at hcleaned
  have hcolon : ':' ∉ keptBefore o.scheme := by
    intro hmem
    have hkept := (List.dropWhile_sublist _).subset (List.mem_filter.mp hmem).1
    exact absurd rfl (bne_iff_ne.mp (Uri.ne_colon_of_scheme hscheme ':' hkept))
  obtain ⟨hname, hlower⟩ := scheme_of_parse? hcleaned hcolon h
  have horigin := origin_of_cleaned hcleaned hcolon hname hlower (kindOf_of_isWeb hweb)
  -- The path does not count, since it begins with a slash.
  have hlead : lead (keptAfter path) = [] := by
    have hslash := dropEndWhile_append_cons (p := isOuter) [] rest (by rfl : isOuter '/' = false)
    rw [keptAfter, hrest]
    rw [List.nil_append, List.nil_append] at hslash
    rw [hslash]
    rfl
  have hsite := site_eq_none_of_v6 (usualPort u.scheme) hhost
    fun c => isDigit_of_mem_repr (n := o.port.toNat)
  rw [h, authority_append (fun c hc => endsAuthority_of_isGroupChar (hchars c hc))
    (fun c => isDigit_of_mem_repr), hlead, List.append_nil, hsite] at horigin
  cases horigin

end Web.Url

/-! ## What the URLs of a target name -/

namespace Redfish

open Web

variable {headers : List Header} {u : Uri}

/-- Whether the text is written like a host name: in letters, digits, hyphens, underscores and
points. -/
def IsHostName (host : String) : Prop :=
  host ≠ "" ∧ ∀ c ∈ host.toList, (isPlainChar c || c == '.') = true

instance {host : String} : Decidable (IsHostName host) :=
  @instDecidableAnd _ _ _ (List.decidableBAll _ host.toList)

theorem IsHostName.isUnreserved {host : String} (h : IsHostName host) :
    ∀ c ∈ host.toList, Uri.isUnreserved c = true := by
  intro c hc
  have hchar := h.2 c hc
  simp only [isPlainChar, Bool.or_eq_true, beq_iff_eq] at hchar
  rcases hchar with ((halphanum | rfl) | rfl) | rfl
  · simp [Uri.isUnreserved, halphanum]
  · decide
  · decide
  · decide

/-- An IPv4 address is written like a host name. -/
theorem isHostName_of_v4 {host : String} {octets : List Nat}
    (h : parse? host = some (.v4 octets)) : IsHostName host := by
  obtain ⟨hchars, hpoint⟩ := chars_of_v4 h
  constructor
  · rintro rfl
    cases hpoint
  · intro c hc
    rcases (Bool.or_eq_true _ _).mp (hchars c hc) with hdigit | hpoint
    · have hdecimal : c.isDigit = true := by
        simpa [Char.isDigit, Decimal.isDigit, Char.le_def] using hdigit
      have halphanum : c.isAlphanum = true := Bool.or_eq_true_iff.mpr (.inr hdecimal)
      simp [isPlainChar, halphanum]
    · simp [hpoint]

/-- The URI with the scheme and the port of the target, a host and a resource. -/
def uriOf (target : Target) (host : Uri.Host) (r : Uri.Resource) : Uri :=
  ⟨target.options.redfish.scheme, some ⟨none, host, some target.options.redfish.port.toNat.repr⟩, r⟩

/-- The URL of a path is read with the scheme and the port of the target, the host and the path, and
in no other way. -/
def NamesTarget (target : Target) (host : Uri.Host) (path : String) : Prop :=
  ∀ u, Uri.Reads (urlOf target path) u ↔
    ∃ r : Uri.Resource, r.WellFormed ∧ r.text = path ∧ u = uriOf target host r

/-- Of a path without a query and a fragment the whole is read. -/
theorem NamesTarget.reads_iff {host : Uri.Host} (h : NamesTarget target host path)
    (hpath : Uri.spelled Uri.isPathChar path.toList = true) :
    Uri.Reads (urlOf target path) u ↔ u = uriOf target host ⟨path, none, none⟩ := by
  rw [h u]
  constructor
  · rintro ⟨r, hwell, htext, rfl⟩
    rw [(Uri.Resource.eq_of_text hpath).mp ⟨hwell, htext⟩]
  · rintro rfl
    obtain ⟨hwell, htext⟩ := (Uri.Resource.eq_of_text hpath).mpr rfl
    exact ⟨_, hwell, htext, rfl⟩

theorem isDigit_of_port (target : Target) :
    ∀ c ∈ target.options.redfish.port.toNat.repr.toList, Decimal.isDigit c = true :=
  fun _ => Url.isDigit_of_mem_repr

section Reading

variable (hscheme : Url.isScheme target.options.redfish.scheme.toList = true)
  (hpath : path.toList.head? = some '/')
include hscheme hpath

/-- The URL of a path is read with the scheme of the target, what can be read of the host and the
port, and the path. -/
theorem reads_urlOf_iff (hhost : ∀ c ∈ target.host.toList, Uri.endsAuthority c = false) :
    Uri.Reads (urlOf target path) u ↔ u.scheme = target.options.redfish.scheme ∧
      (∃ a : Uri.Authority, u.authority = some a ∧ a.WellFormed ∧ a.text.toList =
        target.host.toList ++ ':' :: target.options.redfish.port.toNat.repr.toList) ∧
      u.resource.WellFormed ∧ u.resource.text = path := by
  obtain ⟨rest, hrest⟩ := List.head?_eq_some_iff.mp hpath
  have hurl : urlOf target path = target.options.redfish.scheme ++ "://" ++
      (target.host ++ ":" ++ target.options.redfish.port.toNat.repr) ++ path := by
    rw [urlOf_of_not_isAbsolute target (not_isAbsolute_of_slash hrest), Url.baseUrl_eq]
    simp [Url.afterScheme, String.append_assoc]
  have hsite : (target.host ++ ":" ++ target.options.redfish.port.toNat.repr).toList =
      target.host.toList ++ ':' :: target.options.redfish.port.toNat.repr.toList := by simp
  rw [hurl, Uri.reads_iff hscheme ?_ hpath, hsite]
  intro c hc
  rw [hsite, List.mem_append, List.mem_cons] at hc
  rcases hc with hc | rfl | hc
  · exact hhost c hc
  · decide
  · exact Uri.endsAuthority_eq_false (by decide) (isDigit_of_port target c hc)

/-- Where the host and the port are read in one way only, the URL is. -/
theorem namesTarget_of_authority {host : Uri.Host}
    (hhost : ∀ c ∈ target.host.toList, Uri.endsAuthority c = false)
    (hsite : ∀ a : Uri.Authority, (a.WellFormed ∧ a.text.toList =
      target.host.toList ++ ':' :: target.options.redfish.port.toNat.repr.toList) ↔
        a = ⟨none, host, some target.options.redfish.port.toNat.repr⟩) :
    NamesTarget target host path := by
  intro u
  rw [reads_urlOf_iff hscheme hpath hhost]
  constructor
  · rintro ⟨hsame, ⟨a, hauthority, ha⟩, hwell, htext⟩
    obtain ⟨scheme, authority, resource⟩ := u
    cases hsame
    cases hauthority
    cases (hsite a).mp ha
    exact ⟨resource, hwell, htext, rfl⟩
  · rintro ⟨r, hwell, htext, rfl⟩
    exact ⟨rfl, ⟨_, rfl, (hsite _).mpr rfl⟩, hwell, htext⟩

/-- **A host name is read from the URL again.** -/
theorem namesTarget_of_name (hhost : IsHostName target.host) :
    NamesTarget target (.name target.host) path := by
  have hchars := hhost.isUnreserved
  refine namesTarget_of_authority hscheme hpath (fun c hc => ?_) fun a => ?_
  · exact Uri.endsAuthority_eq_false (by decide) (hchars c hc)
  · exact Uri.authority_of_name hchars (isDigit_of_port target)

/-- **An address between brackets is read from the URL again.** -/
theorem namesTarget_of_literal {address : String} (haddress : parse? address = some (.v6 groups))
    (hhost : target.host = "[" ++ address ++ "]") : NamesTarget target (.literal address) path := by
  have hlist : target.host.toList = '[' :: (address.toList ++ [']']) := by simp [hhost]
  refine namesTarget_of_authority hscheme hpath (fun c hc => ?_) fun a => ?_
  · rw [hlist] at hc
    simp only [List.mem_cons, List.mem_append, List.not_mem_nil, or_false] at hc
    rcases hc with rfl | hc | rfl
    · decide
    · exact Uri.endsAuthority_eq_false (by decide) ((chars_of_v6 haddress).1 c hc)
    · decide
  · rw [hlist, ← Uri.authority_of_literal haddress (isDigit_of_port target)]
    simp

/-- **From an IPv6 address without brackets no URL is made**: nothing reads it, and no request can
be sent to it. -/
theorem unread_of_v6 (hhost : parse? target.host = some (.v6 groups)) :
    (∀ u, ¬ Uri.Reads (urlOf target path) u) ∧
      ∀ headers u, usableUrl (urlOf target path) headers ≠ .ok u := by
  have hchars := (chars_of_v6 hhost).1
  constructor
  · intro u hread
    have hends : ∀ c ∈ target.host.toList, Uri.endsAuthority c = false :=
      fun c hc => Uri.endsAuthority_eq_false (by decide) (hchars c hc)
    obtain ⟨-, ⟨a, -, ha, htext⟩, -⟩ := (reads_urlOf_iff hscheme hpath hends).mp hread
    exact Uri.not_authority_of_v6 hhost (isDigit_of_port target) ha htext
  · intro headers u husable
    obtain ⟨hparse, hweb⟩ := of_usableUrl husable
    obtain ⟨rest, hrest⟩ := List.head?_eq_some_iff.mp hpath
    rw [urlOf_of_not_isAbsolute target (not_isAbsolute_of_slash hrest)] at hparse
    rw [Url.not_isWeb_of_v6 hhost hscheme hpath hparse] at hweb
    cases hweb

end Reading

/-- **The URL of a path names the target**, and there a path without a query and a fragment as it
is, if the host is a host name, an IPv4 address, or an IPv6 address between brackets. If it is an
IPv6 address without brackets, there is no such URL. -/
theorem url_names_target (target : Target) (path : String)
    (hscheme : Url.isScheme target.options.redfish.scheme.toList = true)
    (hpath : path.startsWith "/" = true) :
    ((IsHostName target.host ∨ ∃ octets, parse? target.host = some (.v4 octets)) →
      NamesTarget target (.name target.host) path) ∧
    (∀ address groups, parse? address = some (.v6 groups) →
      target.host = "[" ++ address ++ "]" → NamesTarget target (.literal address) path) ∧
    (∀ groups, parse? target.host = some (.v6 groups) →
      (∀ u, ¬ Uri.Reads (urlOf target path) u) ∧
        ∀ headers u, usableUrl (urlOf target path) headers ≠ .ok u) ∧
    (Uri.spelled Uri.isPathChar path.toList = true → ∀ host, NamesTarget target host path →
      ∀ u, Uri.Reads (urlOf target path) u ↔ u = uriOf target host ⟨path, none, none⟩) := by
  have hslash : path.toList.head? = some '/' := by
    obtain ⟨rest, hrest⟩ := (String.startsWith_string_iff ..).mp hpath
    rw [← hrest]
    rfl
  refine ⟨fun hhost => ?_, fun address groups haddress hhost => ?_, fun groups hhost => ?_,
    fun hspelled host hnames u => ?_⟩
  · rcases hhost with hname | ⟨octets, hv4⟩
    · exact namesTarget_of_name hscheme hslash hname
    · exact namesTarget_of_name hscheme hslash (isHostName_of_v4 hv4)
  · exact namesTarget_of_literal hscheme hslash haddress hhost
  · exact unread_of_v6 hscheme hslash hhost
  · exact hnames.reads_iff hspelled

/-- A target of which only the host is of interest. -/
def targetAt (host : String) : Target := { host, username := "admin", password := "secret" }

theorem url_names_target_of_each :
    Uri.Reads (urlOf (targetAt "bmc.local") "/redfish/v1")
      ⟨"https", some ⟨none, .name "bmc.local", some "443"⟩, ⟨"/redfish/v1", none, none⟩⟩ ∧
    Uri.Reads (urlOf (targetAt "10.0.0.9") "/redfish/v1")
      ⟨"https", some ⟨none, .name "10.0.0.9", some "443"⟩, ⟨"/redfish/v1", none, none⟩⟩ ∧
    Uri.Reads (urlOf (targetAt "[fe80::1]") "/redfish/v1")
      ⟨"https", some ⟨none, .literal "fe80::1", some "443"⟩, ⟨"/redfish/v1", none, none⟩⟩ ∧
    ∀ u, ¬ Uri.Reads (urlOf (targetAt "fe80::1") "/redfish/v1") u := by
  have hpath : Uri.spelled Uri.isPathChar "/redfish/v1".toList = true := by decide +kernel
  have hslash : "/redfish/v1".startsWith "/" = true := by decide +kernel
  refine ⟨?_, ?_, ?_, ?_⟩
  · obtain ⟨hname, -, -, hwhole⟩ :=
      url_names_target (targetAt "bmc.local") "/redfish/v1" (by decide) hslash
    exact (hwhole hpath _ (hname (.inl (by decide))) _).mpr rfl
  · obtain ⟨hname, -, -, hwhole⟩ :=
      url_names_target (targetAt "10.0.0.9") "/redfish/v1" (by decide) hslash
    have hv4 : parse? "10.0.0.9" = some (.v4 [10, 0, 0, 9]) := by decide
    exact (hwhole hpath _ (hname (.inr ⟨_, hv4⟩)) _).mpr rfl
  · obtain ⟨-, hliteral, -, hwhole⟩ :=
      url_names_target (targetAt "[fe80::1]") "/redfish/v1" (by decide) hslash
    have hv6 : parse? "fe80::1" = some (.v6 [0xfe80, 0, 0, 0, 0, 0, 0, 1]) := by decide
    exact (hwhole hpath _ (hliteral _ _ hv6 rfl) _).mpr rfl
  · obtain ⟨-, -, hunread, -⟩ :=
      url_names_target (targetAt "fe80::1") "/redfish/v1" (by decide) hslash
    have hv6 : parse? "fe80::1" = some (.v6 [0xfe80, 0, 0, 0, 0, 0, 0, 1]) := by decide
    exact (hunread _ hv6).1

/-- The URL of an IPv6 address as it is written is no URL. -/
theorem url_of_v6_unread : parse? "::1" = some (.v6 [0, 0, 0, 0, 0, 0, 0, 1]) ∧
    urlOf (targetAt "::1") "/redfish/v1" = "https://::1:443/redfish/v1" ∧
    ¬ ∃ u, Uri.Reads "https://::1:443/redfish/v1" u := by
  have hv6 : parse? "::1" = some (.v6 [0, 0, 0, 0, 0, 0, 0, 1]) := by decide
  have hurl : urlOf (targetAt "::1") "/redfish/v1" = "https://::1:443/redfish/v1" := by
    decide +kernel
  refine ⟨hv6, hurl, ?_⟩
  rintro ⟨u, hread⟩
  rw [← hurl] at hread
  exact (unread_of_v6 (by decide) (by decide +kernel) hv6).1 u hread

end Redfish

end OutOfBand
