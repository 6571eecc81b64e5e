import Mathlib.Data.List.TakeWhile
import Mathlib.Data.Option.Basic
import OutOfBand.Proofs.Text.Cutting
import OutOfBand.Target
import OutOfBand.Web.Url

/-!
# Where a URL leads

A URL leads to a host and a port under a scheme: its origin. For a URL of the web all of it is
settled by the text up to the first slash, question mark or number sign after the scheme and its
slashes (`origin_of_cleaned`). So what is put after the base URL of a service leads to the same
origin, unless it still belongs to the host and the port (`origin_of_append_baseUrl`).
-/

namespace OutOfBand.Web.Url

variable {cs ds : List Char} {c : Char}

/-- Where the URL leads. -/
def origin (u : Url) : String × Option String × Option Nat := (u.scheme, u.host, u.port)

/-! ## The authority -/

/-- Whether a character ends the host and the port of a URL of the web. -/
def endsAuthority (c : Char) : Bool := Path.isSlash .web c || c == '?' || c == '#'

/-- What stands at the start of a text before all that ends the host and the port. -/
def lead (cs : List Char) : List Char := cs.takeWhile fun c => !endsAuthority c

/-- The credentials, the host and the port of a URL of the web, from what follows its scheme. -/
def authority (rest : List Char) : List Char := lead (rest.dropWhile (Path.isSlash .web))

theorem endsAuthority_iff : endsAuthority c = true ↔ c = '/' ∨ c = '\\' ∨ c = '?' ∨ c = '#' := by
  simp [endsAuthority, Path.isSlash, or_assoc]

theorem lead_append (h : ∀ c ∈ cs, endsAuthority c = false) : lead (cs ++ ds) = cs ++ lead ds := by
  apply List.takeWhile_append_of_pos
  simpa using h

/-- What follows a character that ends the authority has no part in it. -/
theorem lead_append_cons (cs ds : List Char) (h : endsAuthority c = true) :
    lead (cs ++ c :: ds) = lead cs := by
  induction cs with
  | nil => simp [lead, h]
  | cons b cs ih =>
      simp only [lead, List.cons_append, List.takeWhile_cons] at ih ⊢
      rw [ih]

/-- What is dropped wherever it stands, and never ends an authority, is dropped from the lead. -/
theorem lead_filter {keep : Char → Bool} (hkeep : ∀ c, endsAuthority c = true → keep c = true) :
    lead (cs.filter keep) = (lead cs).filter keep := by
  induction cs with
  | nil => rfl
  | cons b cs ih =>
      cases hends : endsAuthority b with
      | true => simp [lead, hkeep b hends, hends]
      | false =>
          simp only [lead] at ih ⊢
          cases hkept : keep b <;> simp [hkept, hends, ih]

theorem notMem_lead (h : endsAuthority c = true) : c ∉ lead cs := by
  intro hc
  have hends := List.mem_takeWhile_imp hc
  rw [h] at hends
  cases hends

theorem mem_lead_append (h : c ∈ lead cs) : c ∈ lead (cs ++ ds) := by
  rw [lead, List.takeWhile_append]
  split
  · apply List.mem_append_left
    exact (List.takeWhile_prefix _).mem h
  · exact h

theorem mem_of_mem_lead_append (h : c ∈ lead (cs ++ ds)) : c ∈ lead cs ∨ c ∈ ds := by
  rw [lead, List.takeWhile_append] at h
  split at h
  · rename_i hall
    rcases List.mem_append.mp h with h | h
    · rw [← (List.takeWhile_prefix _).eq_of_length hall] at h
      exact .inl h
    · exact .inr ((List.takeWhile_prefix _).mem h)
  · exact .inl h

/-- The authority of a URL of the web is read from what stands before its query and fragment. -/
theorem takeWhile_eq_authority (rest : List Char) :
    ((((rest.takeWhile (· != '#')).takeWhile (· != '?')).dropWhile (Path.isSlash .web)).takeWhile
      fun c => !Path.isSlash .web c) = authority rest := by
  have hsigns : ∀ c, Path.isSlash .web c = true → c ≠ '#' ∧ c ≠ '?' := by
    rintro c hslash
    constructor <;> rintro rfl <;> exact absurd hslash (by decide)
  induction rest with
  | nil => rfl
  | cons b rest ih =>
      cases hslash : Path.isSlash .web b with
      | true => simpa [authority, hslash, hsigns b hslash] using ih
      | false =>
          -- The authority begins here.
          have hall : ∀ cs : List Char, (((cs.takeWhile (· != '#')).takeWhile (· != '?')).takeWhile
              fun c => !Path.isSlash .web c) = lead cs := by
            intro cs
            rw [List.takeWhile_takeWhile, List.takeWhile_takeWhile, lead]
            congr 1
            funext c
            cases hc : Path.isSlash .web c <;> simp [endsAuthority, hc, Bool.beq_eq_decide_eq]
          by_cases hends : b = '#' ∨ b = '?'
          · rcases hends with rfl | rfl <;> rfl
          · obtain ⟨hnumber, hquestion⟩ := not_or.mp hends
            have h := hall (b :: rest)
            simpa [authority, hslash, hnumber, hquestion] using h

/-! ## The origin -/

/-- The host and the port that an authority names under a scheme of the web, the port unless it is
the usual one. -/
def site (usual : Option Nat) (authority : List Char) : Option (String × Option Nat) := do
  let (host, port) := splitHost false (splitCredentials authority).2
  let host ← Host.of? host
  let (port, _) ← readPort port
  return (host, if port == usual then none else port)

theorem cut_of_notMem {scheme rest : List Char} (hcolon : ':' ∉ scheme) :
    cut ':' (scheme ++ ':' :: rest) = (scheme, ':' :: rest) := by
  have hne : ∀ c ∈ scheme, (c != ':') = true := by
    intro c hc
    rw [bne_iff_ne]
    rintro rfl
    exact hcolon hc
  rw [cut, List.takeWhile_append_of_pos hne, List.dropWhile_append_of_pos hne]
  simp

/-- What stands before the first colon of a URL is its scheme. -/
theorem scheme_of_parse? {s : String} {u : Url} {scheme rest : List Char}
    (hs : cleaned s = scheme ++ ':' :: rest) (hcolon : ':' ∉ scheme) (h : parse? s = some u) :
    isScheme scheme = true ∧ u.scheme = String.ofList (scheme.map Char.toLower) := by
  unfold parse? at h
  rw [hs, cut_of_notMem hcolon] at h
  obtain ⟨_, hguard, h⟩ := Option.bind_eq_some_iff.mp h
  have hscheme : isScheme scheme = true := by simpa using (Option.guard_eq_some' _).mp hguard
  refine ⟨hscheme, ?_⟩
  simp only at h
  split at h
  all_goals
    obtain ⟨place, -, h⟩ := Option.bind_eq_some_iff.mp h
    cases h
    rfl

theorem site_of_webPlace (usual : Option Nat) (rest : List Char) :
    (webPlace usual rest).map (fun p => (p.host, p.port)) =
      (site usual (rest.takeWhile fun c => !Path.isSlash .web c)).map fun p => (some p.1, p.2) := by
  obtain ⟨host, port, hparts⟩ : ∃ host port, splitHost false (splitCredentials
      (rest.takeWhile fun c => !Path.isSlash .web c)).2 = (host, port) := ⟨_, _, rfl⟩
  cases hhost : Host.of? host with
  | none => simp [webPlace, site, hparts, hhost]
  | some text => cases hport : readPort port <;> simp [webPlace, site, hparts, hhost, hport]

/-- **The origin of a URL of the web** is settled by its scheme and its authority. -/
theorem origin_of_cleaned {s name : String} {scheme rest : List Char}
    (hs : cleaned s = scheme ++ ':' :: rest) (hcolon : ':' ∉ scheme)
    (hscheme : isScheme scheme = true) (hname : name = String.ofList (scheme.map Char.toLower))
    (hweb : kindOf name = .web) :
    (parse? s).map origin =
      (site (usualPort name) (authority rest)).map fun p => (name, some p.1, p.2) := by
  subst hname
  obtain ⟨before, hbefore⟩ : ∃ before, ((rest.takeWhile (· != '#')).takeWhile
      (· != '?')).dropWhile (Path.isSlash .web) = before := ⟨_, rfl⟩
  have hsite := congrArg (Option.map (String.ofList (scheme.map Char.toLower), ·))
    (site_of_webPlace (usualPort (String.ofList (scheme.map Char.toLower))) before)
  rw [Option.map_map, Option.map_map, ← hbefore, takeWhile_eq_authority, hbefore] at hsite
  refine Eq.trans ?_ hsite
  unfold parse?
  rw [hs, cut_of_notMem hcolon]
  have hguard : guard True = some () := (Option.guard_eq_some' ()).mpr trivial
  cases hplace : webPlace (usualPort (String.ofList (scheme.map Char.toLower))) before with
  | none => simp [hscheme, hweb, cut, hbefore, hplace]
  | some place => simp [hscheme, hweb, cut, hbefore, hguard, hplace, origin]

theorem kindOf_of_isWeb {u : Url} (h : u.isWeb = true) : kindOf u.scheme = .web := by
  rcases (Bool.or_eq_true _ _).mp h with h | h
  · rw [beq_iff_eq.mp h]
    rfl
  · rw [beq_iff_eq.mp h]
    rfl

/-- Two URLs of the web with one scheme and one authority have one origin. -/
theorem origin_congr {s t : String} {u : Url} {scheme rest rest' : List Char}
    (hs : cleaned s = scheme ++ ':' :: rest) (ht : cleaned t = scheme ++ ':' :: rest')
    (hcolon : ':' ∉ scheme) (hu : parse? s = some u) (hweb : u.isWeb = true)
    (hrest : ∀ usual, site usual (authority rest) = none ∨ authority rest = authority rest') :
    ∃ b, parse? t = some b ∧ u.origin = b.origin := by
  obtain ⟨hscheme, hname⟩ := scheme_of_parse? hs hcolon hu
  have hkind := kindOf_of_isWeb hweb
  have hsite := origin_of_cleaned hs hcolon hscheme hname hkind
  rw [hu, Option.map_some] at hsite
  rcases hrest (usualPort u.scheme) with hnone | hsame
  · simp [hnone] at hsite
  · rw [hsame, ← origin_of_cleaned ht hcolon hscheme hname hkind] at hsite
    obtain ⟨b, hb, horigin⟩ := Option.map_eq_some_iff.mp hsite.symm
    exact ⟨b, hb, horigin.symm⟩

/-! ## What is put after a base URL -/

/-- Whether a character is one of the blanks and controls that do not count at the ends of a URL. -/
def isOuter (c : Char) : Bool := c.toNat ≤ 0x20

/-- Whether a character is kept where it stands within a URL. -/
def isInner (c : Char) : Bool := !(c == '\t' || c == '\n' || c == '\r')

theorem isOuter_of_not_isInner (h : isInner c = false) : isOuter c = true := by
  simp only [isInner, Bool.not_eq_false', Bool.or_eq_true, beq_iff_eq] at h
  rcases h with (rfl | rfl) | rfl <;> decide

theorem isInner_of_not_isOuter (h : isOuter c = false) : isInner c = true := by
  cases hinner : isInner c with
  | true => rfl
  | false =>
      rw [isOuter_of_not_isInner hinner] at h
      cases h

theorem isInner_of_endsAuthority (c : Char) (h : endsAuthority c = true) : isInner c = true := by
  rcases endsAuthority_iff.mp h with rfl | rfl | rfl | rfl <;> decide

theorem dropEndWhile_append_cons {p : Char → Bool} (cs ds : List Char) (h : p c = false) :
    Text.dropEndWhile p (cs ++ c :: ds) = cs ++ c :: Text.dropEndWhile p ds := by
  have hreverse : (cs ++ c :: ds).reverse = ds.reverse ++ c :: cs.reverse := by simp
  rw [Text.dropEndWhile, hreverse, Text.dropWhile_append_cons _ _ h]
  simp [Text.dropEndWhile]

/-- What is left of a text with which a URL begins. -/
def keptBefore (front : String) : List Char := (front.toList.dropWhile isOuter).filter isInner

/-- What is left of a text with which a URL ends. -/
def keptAfter (back : String) : List Char :=
  (Text.dropEndWhile isOuter back.toList).filter isInner

/-- What stands between a front and a back, and holds no blanks, is kept in a URL as it is. -/
theorem cleaned_append {front middle back : String}
    (hmiddle : ∀ c ∈ middle.toList, isOuter c = false) (hne : middle ≠ "") :
    cleaned (front ++ middle ++ back) =
      keptBefore front ++ middle.toList ++ keptAfter back := by
  have hkept : middle.toList.filter isInner = middle.toList := by
    rw [List.filter_eq_self]
    intro c hc
    exact isInner_of_not_isOuter (hmiddle c hc)
  have hne' : middle.toList ≠ [] := by simpa using hne
  show (Text.dropEndWhile isOuter ((front ++ middle ++ back).toList.dropWhile isOuter)).filter
    isInner = _
  rw [String.toList_append, String.toList_append]
  -- Blanks are dropped up to the first character of the middle, and from its last one on.
  obtain ⟨c, cs, hfirst⟩ := List.exists_cons_of_ne_nil hne'
  have hstart : (front.toList ++ middle.toList ++ back.toList).dropWhile isOuter =
      front.toList.dropWhile isOuter ++ middle.toList ++ back.toList := by
    rw [hfirst, List.append_assoc, List.append_assoc, List.cons_append,
      Text.dropWhile_append_cons _ _ (hmiddle c (by simp [hfirst]))]
  obtain ⟨ds, d, hlast⟩ := (List.eq_nil_or_concat middle.toList).resolve_left hne'
  have hend : Text.dropEndWhile isOuter
      (front.toList.dropWhile isOuter ++ middle.toList ++ back.toList) =
      front.toList.dropWhile isOuter ++ middle.toList ++ Text.dropEndWhile isOuter back.toList := by
    rw [hlast]
    simpa using dropEndWhile_append_cons (front.toList.dropWhile isOuter ++ ds) back.toList
      (hmiddle d (by simp [hlast]))
  rw [hstart, hend, List.filter_append, List.filter_append, hkept, keptBefore, keptAfter]

/-! ### Hosts and ports -/

/-- The marks that stand at the ends of a host in a URL, or within brackets in one. -/
def hostMarks : List Char := ['/', '\\', '?', '#', '@', ':', '[']

/-- The text is written like a host name or an IPv4 address. -/
def IsPlainHost (host : String) : Prop :=
  ∀ c ∈ host.toList, isOuter c = false ∧ c ∉ hostMarks

instance {host : String} : Decidable (IsPlainHost host) := List.decidableBAll _ host.toList

theorem splitHost_append (h : ∀ c ∈ cs, c ∉ hostMarks) :
    splitHost false (cs ++ ':' :: ds) = (cs, ':' :: ds) := by
  induction cs with
  | nil => rfl
  | cons b cs ih =>
      have hb := h b List.mem_cons_self
      simp only [hostMarks, List.mem_cons, not_or] at hb
      have hbracket : (b == '[') = false := by simp [hb]
      simp [splitHost, hb, hbracket, ih fun c hc => h c (List.mem_cons_of_mem _ hc)]

theorem splitCredentials_of_notMem (h : '@' ∉ cs) : splitCredentials cs = (none, cs) := by
  simp [splitCredentials, h]

/-- What follows the digits of a port and is not made of digits makes it unreadable. -/
theorem readPort_eq_none (hdigits : ∀ c ∈ cs, Decimal.isDigit c = true)
    (hother : ∃ c ∈ ds, Decimal.isDigit c = false) (hslash : '\\' ∉ ds) :
    readPort (':' :: (cs ++ ds)) = none := by
  have hrest : ((cs ++ ds).dropWhile Decimal.isDigit).head?.any (· != '\\') = true := by
    rw [List.dropWhile_append_of_pos hdigits]
    obtain ⟨c, hc, hother⟩ := hother
    cases hdrop : ds.dropWhile Decimal.isDigit with
    | nil =>
        rw [List.dropWhile_eq_nil_iff.mp hdrop c hc] at hother
        cases hother
    | cons d rest =>
        have hd : d ∈ ds := (List.dropWhile_suffix _).mem (hdrop ▸ List.mem_cons_self)
        show (d != '\\') = true
        rw [bne_iff_ne]
        rintro rfl
        exact hslash hd
  simp only [readPort, hrest, Bool.or_true, if_true]

theorem isDigit_of_mem_repr {n : Nat} (h : c ∈ n.repr.toList) : Decimal.isDigit c = true := by
  rw [Nat.toList_repr] at h
  have hdigit : c.isDigit = true := Nat.isDigit_of_mem_toDigits (by decide) (by decide) h
  simpa [Char.isDigit, Decimal.isDigit, Char.le_def] using hdigit

theorem endsAuthority_of_isDigit (h : Decimal.isDigit c = true) : endsAuthority c = false := by
  rw [← Bool.not_eq_true, endsAuthority_iff]
  rintro (rfl | rfl | rfl | rfl) <;> exact absurd h (by decide)

theorem isOuter_of_isDigit (h : Decimal.isDigit c = true) : isOuter c = false := by
  simp only [Decimal.isDigit, Bool.and_eq_true, decide_eq_true_eq] at h
  have hle : '0'.toNat ≤ c.toNat := h.1
  have hlt : 0x20 < c.toNat := Nat.lt_of_lt_of_le (by decide) hle
  simpa [isOuter] using hlt

theorem IsPlainHost.endsAuthority_eq_false {host : String} (h : IsPlainHost host) :
    ∀ c ∈ host.toList, endsAuthority c = false := by
  intro c hc
  rw [← Bool.not_eq_true, endsAuthority_iff]
  rintro (rfl | rfl | rfl | rfl) <;> exact (h _ hc).2 (by decide)

section BaseUrl

variable {o : RedfishOptions} {host path : String} {u : Url}

/-- What the base URL of a host says after its scheme. -/
def afterScheme (o : RedfishOptions) (host : String) : String :=
  "://" ++ host ++ ":" ++ o.port.toNat.repr

theorem baseUrl_eq (o : RedfishOptions) (host : String) :
    o.baseUrl host = o.scheme ++ afterScheme o host := by
  show o.scheme ++ "://" ++ host ++ ":" ++ o.port.toNat.repr = _
  simp only [afterScheme, String.append_assoc]

theorem toList_afterScheme (o : RedfishOptions) (host : String) : (afterScheme o host).toList =
    ':' :: '/' :: '/' :: (host.toList ++ ':' :: o.port.toNat.repr.toList) := by
  simp [afterScheme, String.toList_append]

/-- What is put after a base URL still belongs to its host or to its port: before the first slash,
question mark or number sign there is an at sign, or there are digits and nothing but digits. -/
def IsStray (path : String) : Prop :=
  '@' ∈ lead path.toList ∨ (∃ c ∈ lead path.toList, Decimal.isDigit c = true) ∧
    ∀ c ∈ lead path.toList, Decimal.isDigit c = true ∨ isOuter c = true

/-- What begins with a slash cannot belong to a host or a port. -/
theorem not_isStray_of_slash {path : String} {rest : List Char} (h : path.toList = '/' :: rest) :
    ¬ IsStray path := by
  have hlead : lead path.toList = [] := by rw [h]; rfl
  rintro (hat | ⟨⟨c, hc, -⟩, -⟩)
  · rw [hlead] at hat
    cases hat
  · rw [hlead] at hc
    cases hc

theorem lead_keptAfter_of_not_isStray (h : ¬ IsStray path) :
    '@' ∉ lead (keptAfter path) ∧ (lead (keptAfter path) = [] ∨
      ∃ c ∈ lead (keptAfter path), Decimal.isDigit c = false) := by
  obtain ⟨blanks, hpath, hblanks⟩ : ∃ blanks,
      path.toList = Text.dropEndWhile isOuter path.toList ++ blanks ∧
        ∀ c ∈ blanks, isOuter c = true := by
    refine ⟨(path.toList.reverse.takeWhile isOuter).reverse, ?_, fun c hc => ?_⟩
    · rw [Text.dropEndWhile, ← List.reverse_append, List.takeWhile_append_dropWhile,
        List.reverse_reverse]
    · exact List.mem_takeWhile_imp (List.mem_reverse.mp hc)
  have hlead : lead (keptAfter path) =
      (lead (Text.dropEndWhile isOuter path.toList)).filter isInner :=
    lead_filter isInner_of_endsAuthority
  have hmem : ∀ c ∈ lead (keptAfter path), c ∈ lead path.toList := by
    intro c hc
    rw [hlead] at hc
    rw [hpath]
    exact mem_lead_append (List.mem_filter.mp hc).1
  obtain ⟨hat, hdigits⟩ := not_or.mp h
  refine ⟨fun hc => hat (hmem _ hc), ?_⟩
  cases hcs : lead (keptAfter path) with
  | nil => exact .inl rfl
  | cons c cs =>
      -- If it was all digits, then so would be the whole lead, but for what does not count.
      refine .inr (by_contra fun hnone => ?_)
      have hall : ∀ d ∈ lead (keptAfter path), Decimal.isDigit d = true := by
        intro d hd
        rw [← Bool.not_eq_false]
        intro hother
        exact hnone ⟨d, hcs ▸ hd, hother⟩
      have hc : c ∈ lead (keptAfter path) := hcs ▸ List.mem_cons_self
      refine hdigits ⟨⟨c, hmem c hc, hall c hc⟩, fun d hd => ?_⟩
      rw [hpath] at hd
      rcases mem_of_mem_lead_append hd with hd | hd
      · cases hinner : isInner d with
        | false => exact .inr (isOuter_of_not_isInner hinner)
        | true => exact .inl (hall d (hlead ▸ List.mem_filter.mpr ⟨hd, hinner⟩))
      · exact .inr (hblanks d hd)

theorem cleaned_baseUrl_append (o : RedfishOptions)
    (hhost : ∀ c ∈ host.toList, isOuter c = false) (path : String) :
    cleaned (o.baseUrl host ++ path) =
      keptBefore o.scheme ++ (afterScheme o host).toList ++ keptAfter path := by
  rw [baseUrl_eq]
  refine cleaned_append (fun c hc => ?_) fun hempty => ?_
  · rw [toList_afterScheme] at hc
    simp only [List.mem_cons, List.mem_append] at hc
    rcases hc with rfl | rfl | rfl | hc | rfl | hc
    · rfl
    · rfl
    · rfl
    · exact hhost c hc
    · rfl
    · exact isOuter_of_isDigit (isDigit_of_mem_repr hc)
  · have h := toList_afterScheme o host
    rw [hempty] at h
    cases h

theorem authority_append (hhost : ∀ c ∈ host.toList, endsAuthority c = false)
    {digits : List Char} (hdigits : ∀ c ∈ digits, Decimal.isDigit c = true) (back : List Char) :
    authority ('/' :: '/' :: (host.toList ++ ':' :: (digits ++ back))) =
      host.toList ++ ':' :: (digits ++ lead back) := by
  have hends : ∀ c ∈ host.toList ++ ':' :: digits, endsAuthority c = false := by
    intro c hc
    simp only [List.mem_cons, List.mem_append] at hc
    rcases hc with hc | rfl | hc
    · exact hhost c hc
    · rfl
    · exact endsAuthority_of_isDigit (hdigits c hc)
  have hslashes : ('/' :: '/' :: (host.toList ++ ':' :: (digits ++ back))).dropWhile
      (Path.isSlash .web) = host.toList ++ ':' :: digits ++ back := by
    have hassoc :
        host.toList ++ ':' :: (digits ++ back) = host.toList ++ ':' :: digits ++ back := by simp
    rw [hassoc]
    show (host.toList ++ ':' :: digits ++ back).dropWhile (Path.isSlash .web) = _
    obtain ⟨c, cs, hcs⟩ : ∃ c cs, host.toList ++ ':' :: digits = c :: cs := by
      cases host.toList <;> simp
    rw [hcs] at hends ⊢
    have hc : Path.isSlash .web c = false := by
      have h := hends c List.mem_cons_self
      simp only [endsAuthority, Bool.or_eq_false_iff] at h
      exact h.1.1
    simp [hc]
  rw [authority, hslashes, lead_append hends]
  simp

/-- What follows a colon and a slash has no part in an authority. -/
theorem authority_append_slash (cs ds : List Char) :
    authority (cs ++ ':' :: '/' :: ds) = authority (cs ++ [':']) := by
  rw [authority, authority, Text.dropWhile_append_cons _ _ (by rfl), Text.dropWhile_append_cons _ _ (by rfl)]
  have h := lead_append_cons (cs.dropWhile (Path.isSlash .web) ++ [':']) ds
    (show endsAuthority '/' = true by rfl)
  simpa using h

theorem site_append (usual : Option Nat) (hhost : IsPlainHost host) {digits after : List Char}
    (hdigits : ∀ c ∈ digits, Decimal.isDigit c = true) (hat : '@' ∉ after)
    (hslash : '\\' ∉ after) (hafter : after = [] ∨ ∃ c ∈ after, Decimal.isDigit c = false) :
    site usual (host.toList ++ ':' :: (digits ++ after)) = none ∨ after = [] := by
  apply hafter.symm.imp_left
  intro hother
  have hcredentials : '@' ∉ host.toList ++ ':' :: (digits ++ after) := by
    simp only [List.mem_cons, List.mem_append, not_or]
    refine ⟨?_, by decide, ?_, hat⟩
    · intro hc
      exact (hhost _ hc).2 (by decide)
    · intro hc
      exact absurd (hdigits _ hc) (by decide)
  rw [site, splitCredentials_of_notMem hcredentials,
    splitHost_append fun c hc => (hhost c hc).2]
  simp [readPort_eq_none hdigits hother hslash]

/-- **What is put after the base URL of a host** leads where the base URL leads, unless it still
belongs to the host or to the port. -/
theorem origin_of_append_baseUrl (o : RedfishOptions) (hhost : IsPlainHost host)
    (hpath : ¬ IsStray path) (hu : parse? (o.baseUrl host ++ path) = some u)
    (hweb : u.isWeb = true) : ∃ b, parse? (o.baseUrl host) = some b ∧ u.origin = b.origin := by
  have hcleaned := cleaned_baseUrl_append o fun c hc => (hhost c hc).1
  have hbase : cleaned (o.baseUrl host) =
      keptBefore o.scheme ++ (afterScheme o host).toList ++ keptAfter "" := by
    rw [← hcleaned "", String.append_empty]
  have hfull := hcleaned path
  rw [toList_afterScheme] at hbase hfull
  by_cases hcolon : ':' ∈ keptBefore o.scheme
  · -- The text of the scheme is more than a scheme, and what comes after its colon ends before the
    -- slashes that follow it.
    obtain ⟨scheme, more, hsplit, hnone⟩ := List.eq_append_cons_of_mem hcolon
    rw [hsplit] at hbase hfull
    simp only [List.append_assoc, List.cons_append] at hbase hfull
    apply origin_congr hfull hbase hnone hu hweb
    intro usual
    right
    rw [authority_append_slash, authority_append_slash]
  · have hdigits : ∀ c ∈ o.port.toNat.repr.toList, Decimal.isDigit c = true := by
      intro c hc
      exact isDigit_of_mem_repr hc
    obtain ⟨hat, hafter⟩ := lead_keptAfter_of_not_isStray hpath
    simp only [List.append_assoc, List.cons_append] at hbase hfull
    apply origin_congr hfull hbase hcolon hu hweb
    intro usual
    have hends := hhost.endsAuthority_eq_false
    rw [authority_append hends hdigits, authority_append hends hdigits]
    apply (site_append usual hhost hdigits hat (notMem_lead rfl) hafter).imp_right
    intro hnothing
    rw [hnothing]
    rfl

/-- What still belongs to the port changes it. -/
example : ((parse? ("https://bmc.local:443" ++ "0/redfish")).map origin) =
    some ("https", some "bmc.local", some 4430) := by decide +kernel

end BaseUrl

end OutOfBand.Web.Url
