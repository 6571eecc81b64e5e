import OutOfBand.Proofs.Json.Scalars
import OutOfBand.Proofs.Net.AddressText
import OutOfBand.Proofs.Web.PlainPath

/-!
# The generic grammar of URIs

In the generic grammar a URI is a scheme, an authority with a host and a port in it, and a resource:
a path, a query and a fragment. Each part has its own characters, and the rest is written by percent
signs, so that the signs between the parts tell them apart. A text is read as a URI if that is its
text (`Uri.Reads`). A text that begins like a URL, with a scheme, two slashes, an authority and a
slash, is read as its parts are (`Uri.reads_iff`), and an authority made of a host and a port in one
way only (`Uri.authority_of_name`, `Uri.authority_of_literal`), unless the host is an IPv6 address
without brackets: its colons leave no way to read the authority (`Uri.not_authority_of_v6`).
-/

namespace OutOfBand.Web

namespace Uri

open IpAddress

/-! ## Characters -/

/-- Whether a character has no meaning of its own in any part. -/
def isUnreserved (c : Char) : Bool := c.isAlphanum || "-._~".toList.contains c

/-- Whether a character may set off what a part is made of. -/
def isSubDelimiter (c : Char) : Bool := (Char.ofNat 0x27 :: "!$&()*+,;=".toList).contains c

def isNameChar (c : Char) : Bool := isUnreserved c || isSubDelimiter c

def isUserChar (c : Char) : Bool := isNameChar c || c == ':'

def isPathChar (c : Char) : Bool := isUserChar c || c == '@' || c == '/'

/-- Whether a character may stand in a query or a fragment. -/
def isQueryChar (c : Char) : Bool := isPathChar c || c == '?'

/-- Whether a text is made of characters of a part, and of others that are written as a percent sign
and two hexadecimal digits. -/
def spelled (part : Char → Bool) : List Char → Bool
  | [] => true
  | '%' :: a :: b :: cs => isHexDigit a && isHexDigit b && spelled part cs
  | c :: cs => c != '%' && part c && spelled part cs

/-! ## Parts -/

inductive Host where
  /-- An address between brackets. -/
  | literal (address : String)
  /-- A registered name, or an IPv4 address. -/
  | name (text : String)
  deriving DecidableEq, Repr

structure Authority where
  user : Option String
  host : Host
  port : Option String
  deriving DecidableEq, Repr

structure Resource where
  path : String
  query : Option String
  fragment : Option String
  deriving DecidableEq, Repr

end Uri

structure Uri where
  scheme : String
  authority : Option Uri.Authority
  resource : Uri.Resource
  deriving DecidableEq, Repr

namespace Uri

open IpAddress

/-! ## Texts -/

/-- The text of a part that may be absent, with the sign that stands before it. -/
def after (sign : String) (part : Option String) : String := (part.map (sign ++ ·)).getD ""

def Host.text : Host → String
  | .literal address => "[" ++ address ++ "]"
  | .name s => s

def Authority.text (a : Authority) : String :=
  (a.user.map (· ++ "@")).getD "" ++ a.host.text ++ after ":" a.port

def Resource.text (r : Resource) : String := r.path ++ after "?" r.query ++ after "#" r.fragment

def text (u : Uri) : String :=
  u.scheme ++ ":" ++ after "//" (u.authority.map Authority.text) ++ u.resource.text

/-! ## Well-formed parts -/

/-- The text is an address of a version to come. -/
def IsFuture (address : String) : Prop :=
  ∃ v ∈ ['v', 'V'], ∃ version rest, address.toList = v :: (version ++ '.' :: rest) ∧
    version ≠ [] ∧ rest ≠ [] ∧ version.all isHexDigit = true ∧ rest.all isUserChar = true

def Host.WellFormed : Host → Prop
  | .literal address => (∃ groups, parse? address = some (.v6 groups)) ∨ IsFuture address
  | .name s => spelled isNameChar s.toList = true

structure Authority.WellFormed (a : Authority) : Prop where
  user : ∀ s ∈ a.user, spelled isUserChar s.toList = true
  host : a.host.WellFormed
  port : ∀ s ∈ a.port, ∀ c ∈ s.toList, Decimal.isDigit c = true

structure Resource.WellFormed (r : Resource) : Prop where
  path : spelled isPathChar r.path.toList = true
  query : ∀ s ∈ r.query, spelled isQueryChar s.toList = true
  fragment : ∀ s ∈ r.fragment, spelled isQueryChar s.toList = true

structure WellFormed (u : Uri) : Prop where
  scheme : Url.isScheme u.scheme.toList = true
  authority : ∀ a ∈ u.authority, a.WellFormed
  resource : u.resource.WellFormed
  /-- After an authority a path is empty or begins with a slash. -/
  rooted : u.authority ≠ none → ∀ c ∈ u.resource.path.toList.head?, c = '/'
  /-- Without an authority a path cannot be taken for one. -/
  unrooted : u.authority = none → ∀ cs, u.resource.path.toList ≠ '/' :: '/' :: cs

/-- The text is read as the URI. -/
def Reads (s : String) (u : Uri) : Prop := u.WellFormed ∧ u.text = s

/-! ## Signs

What stands between two parts occurs in neither, so that the parts are told apart. -/

variable {c : Char} {cs ds : List Char} {part : Char → Bool} {s sign : String} {o : Option String}
  {a : Authority} {r : Resource} {u : Uri}

theorem mem_of_spelled (h : spelled part cs = true) (hc : c ∈ cs) :
    part c = true ∨ c = '%' ∨ isHexDigit c = true := by
  fun_induction spelled part cs with
  | case1 => cases hc
  | case2 a b cs ih =>
      simp only [Bool.and_eq_true] at h
      simp only [List.mem_cons] at hc
      rcases hc with rfl | rfl | rfl | hc
      · exact .inr (.inl rfl)
      · exact .inr (.inr h.1.1)
      · exact .inr (.inr h.1.2)
      · exact ih h.2 hc
  | case3 d cs _ ih =>
      simp only [Bool.and_eq_true] at h
      rcases List.mem_cons.mp hc with rfl | hc
      · exact .inl h.1.2
      · exact ih h.2 hc

/-- A sign that is no character of a part, nor a percent sign or a digit, does not occur in it. -/
theorem notMem_of_spelled (h : spelled part cs = true)
    (hc : (part c || c == '%' || isHexDigit c) = false) : c ∉ cs := by
  intro hmem
  simp only [Bool.or_eq_false_iff, beq_eq_false_iff_ne] at hc
  rcases mem_of_spelled h hmem with hpart | hpercent | hhex
  · rw [hc.1.1] at hpart
    cases hpart
  · exact hc.1.2 hpercent
  · rw [hc.2] at hhex
    cases hhex

theorem spelled_of_all (h : ∀ c ∈ cs, part c = true) (hpercent : part '%' = false) :
    spelled part cs = true := by
  fun_induction spelled part cs with
  | case1 => rfl
  | case2 a b cs ih =>
      have hpart := h '%' List.mem_cons_self
      rw [hpercent] at hpart
      cases hpart
  | case3 d cs _ ih =>
      obtain ⟨hd, hcs⟩ := List.forall_mem_cons.mp h
      have hne : d ≠ '%' := by
        rintro rfl
        rw [hpercent] at hd
        cases hd
      simp [hne, hd, ih hcs]

/-- Two texts are split at the same place, if a sign stands there that does not occur before it. -/
theorem append_inj_of_sign {p : Char → Bool} {cs' ds' : List Char} (hcs : ∀ c ∈ cs, p c = true)
    (hds : ∀ c ∈ ds.head?, p c = false) (hcs' : ∀ c ∈ cs', p c = true)
    (hds' : ∀ c ∈ ds'.head?, p c = false) (h : cs ++ ds = cs' ++ ds') : cs = cs' ∧ ds = ds' := by
  have hfront := congrArg (List.takeWhile p) h
  rw [Json.takeWhile_append_of_ends hcs hds, Json.takeWhile_append_of_ends hcs' hds'] at hfront
  subst hfront
  exact ⟨rfl, List.append_cancel_left h⟩

@[simp] theorem after_none : after sign none = "" := rfl

@[simp] theorem after_some : after sign (some s) = sign ++ s := rfl

/-- Whether a character ends an authority. -/
def endsAuthority (c : Char) : Bool := c == '/' || c == '?' || c == '#'

theorem endsAuthority_eq_false {p : Char → Bool} (hp : ['/', '?', '#'].any p = false)
    (h : p c = true) : endsAuthority c = false := by
  rw [← Bool.not_eq_true]
  intro hends
  have hmem : c ∈ ['/', '?', '#'] := by simpa [endsAuthority, or_assoc] using hends
  exact List.any_eq_false.mp hp c hmem h

/-- After its path, a resource goes on with a sign that no path has. -/
theorem Resource.head_tail (r : Resource) :
    ∀ c ∈ (after "?" r.query ++ after "#" r.fragment).toList.head?, c = '?' ∨ c = '#' := by
  intro c hc
  cases hquery : r.query with
  | some q =>
      obtain rfl : '?' = c := by simpa [hquery] using hc
      exact .inl rfl
  | none =>
      cases hfragment : r.fragment with
      | some f =>
          obtain rfl : '#' = c := by simpa [hquery, hfragment] using hc
          exact .inr rfl
      | none => simp [hquery, hfragment] at hc

theorem Resource.toList_text (r : Resource) : r.text.toList =
    r.path.toList ++ (after "?" r.query ++ after "#" r.fragment).toList := by
  simp [Resource.text]

theorem Resource.head_text (h : ∀ c ∈ r.path.toList.head?, c = '/') :
    ∀ c ∈ r.text.toList.head?, endsAuthority c = true := by
  intro c hc
  rw [r.toList_text] at hc
  cases hpath : r.path.toList with
  | nil =>
      rw [hpath, List.nil_append] at hc
      rcases r.head_tail c hc with rfl | rfl <;> decide
  | cons d cs =>
      obtain rfl : d = '/' := h d (by simp [hpath])
      rw [hpath] at hc
      obtain rfl := Option.some.inj hc
      decide

/-- A path of the grammar is no other resource but that path. -/
theorem Resource.eq_of_text {path : String} (hpath : spelled isPathChar path.toList = true) :
    (r.WellFormed ∧ r.text = path) ↔ r = ⟨path, none, none⟩ := by
  constructor
  · rintro ⟨-, htext⟩
    have hsign : ∀ c ∈ (after "?" r.query ++ after "#" r.fragment).toList.head?, False := by
      intro c hc
      have hmem : c ∈ path.toList := by
        rw [← htext, r.toList_text]
        exact List.mem_append_right _ (List.mem_of_mem_head? hc)
      rcases r.head_tail c hc with rfl | rfl
      · exact notMem_of_spelled hpath (by decide) hmem
      · exact notMem_of_spelled hpath (by decide) hmem
    obtain ⟨p, query, fragment⟩ := r
    cases query with
    | some q => exact (hsign '?' (by simp)).elim
    | none =>
        cases fragment with
        | some f => exact (hsign '#' (by simp)).elim
        | none => simpa [Resource.text] using htext
  · rintro rfl
    exact ⟨⟨hpath, by simp, by simp⟩, by simp [Resource.text]⟩

/-! ## Authorities -/

theorem Host.WellFormed.mem_literal {address : String} (h : (Host.literal address).WellFormed)
    (hc : c ∈ address.toList) : isUserChar c = true ∨ isHexDigit c = true := by
  rcases h with ⟨groups, hparse⟩ | ⟨v, hv, version, rest, haddress, -, -, hversion, hrest⟩
  · have hgroup := (chars_of_v6 hparse).1 c hc
    simp only [isGroupChar, Bool.or_eq_true, beq_iff_eq] at hgroup
    rcases hgroup with (hhex | rfl) | rfl
    · exact .inr hhex
    · exact .inl (by decide)
    · exact .inl (by decide)
  · rw [haddress] at hc
    simp only [List.mem_cons, List.mem_append] at hc
    rcases hc with rfl | hc | rfl | hc
    · left
      simp only [List.mem_cons, List.not_mem_nil, or_false] at hv
      rcases hv with rfl | rfl <;> decide
    · exact .inr (List.all_eq_true.mp hversion c hc)
    · exact .inl (by decide)
    · exact .inl (List.all_eq_true.mp hrest c hc)

theorem Authority.toList_text (a : Authority) : a.text.toList =
    ((a.user.map (· ++ "@")).getD "").toList ++ a.host.text.toList ++
      (after ":" a.port).toList := by
  simp [Authority.text]

/-- What an authority is written with. -/
theorem Authority.WellFormed.mem_text (h : a.WellFormed) (hc : c ∈ a.text.toList) :
    isUserChar c = true ∨ c = '%' ∨ isHexDigit c = true ∨ c ∈ ['@', '[', ']'] := by
  obtain ⟨user, host, port⟩ := a
  rw [Authority.toList_text, List.mem_append, List.mem_append] at hc
  rcases hc with (hc | hc) | hc
  · cases user with
    | none => simp at hc
    | some s =>
        simp only [Option.map_some, Option.getD_some, String.toList_append, List.mem_append] at hc
        rcases hc with hc | hc
        · rcases mem_of_spelled (h.user s rfl) hc with hpart | rfl | hhex
          · exact .inl hpart
          · exact .inr (.inl rfl)
          · exact .inr (.inr (.inl hhex))
        · obtain rfl : c = '@' := List.mem_singleton.mp hc
          exact .inr (.inr (.inr (by simp)))
  · cases host with
    | literal address =>
        simp only [Host.text, String.toList_append, List.mem_append] at hc
        rcases hc with (hc | hc) | hc
        · obtain rfl : c = '[' := List.mem_singleton.mp hc
          exact .inr (.inr (.inr (by simp)))
        · rcases Host.WellFormed.mem_literal h.host hc with huser | hhex
          · exact .inl huser
          · exact .inr (.inr (.inl hhex))
        · obtain rfl : c = ']' := List.mem_singleton.mp hc
          exact .inr (.inr (.inr (by simp)))
    | name s =>
        rcases mem_of_spelled h.host hc with hname | rfl | hhex
        · exact .inl (by simp [isUserChar, hname])
        · exact .inr (.inl rfl)
        · exact .inr (.inr (.inl hhex))
  · cases port with
    | none => simp at hc
    | some s =>
        simp only [after_some, String.toList_append, List.mem_append] at hc
        rcases hc with hc | hc
        · obtain rfl : c = ':' := List.mem_singleton.mp hc
          exact .inl (by decide)
        · exact .inr (.inr (.inl (isHexDigit_of_isDigit (h.port s rfl c hc))))

theorem Authority.WellFormed.not_endsAuthority (h : a.WellFormed) :
    ∀ c ∈ a.text.toList, endsAuthority c = false := by
  intro c hc
  rw [← Bool.not_eq_true]
  intro hends
  simp only [endsAuthority, Bool.or_eq_true, beq_iff_eq] at hends
  rcases hends with (rfl | rfl) | rfl <;> exact absurd (h.mem_text hc) (by decide)

section Site

variable {host address digits : String} {port : Option String}

theorem eq_none_of_at (h : '@' ∉ a.text.toList) : a.user = none := by
  obtain ⟨user, host, port⟩ := a
  cases user with
  | none => rfl
  | some s => simp [Authority.text] at h

/-- An authority without credentials and brackets is a name and a port. -/
theorem eq_name_of_signs (hat : '@' ∉ a.text.toList) (hbracket : '[' ∉ a.text.toList) :
    ∃ s port, a = ⟨none, .name s, port⟩ := by
  have huser := eq_none_of_at hat
  obtain ⟨user, host, port⟩ := a
  cases huser
  cases host with
  | literal address => simp [Authority.text, Host.text] at hbracket
  | name s => exact ⟨s, port, rfl⟩

theorem toList_text_name (s : String) (port : Option String) :
    (Authority.mk none (.name s) port).text.toList = s.toList ++ (after ":" port).toList := by
  simp [Authority.text, Host.text]

theorem toList_text_literal (address : String) (port : Option String) :
    (Authority.mk none (.literal address) port).text.toList =
      '[' :: (address.toList ++ ']' :: (after ":" port).toList) := by
  simp [Authority.text, Host.text]

theorem head_after (port : Option String) : ∀ c ∈ (after ":" port).toList.head?, c = ':' := by
  cases port <;> simp

theorem eq_some_of_after (h : (after ":" port).toList = ':' :: digits.toList) :
    port = some digits := by
  cases port with
  | none => cases h
  | some s =>
      rw [after_some, String.toList_append] at h
      exact congrArg some (String.toList_inj.mp (List.cons.inj h).2)

theorem ne_colon_of_name (h : (Host.name s).WellFormed) : ∀ c ∈ s.toList, (c != ':') = true := by
  intro c hc
  rw [bne_iff_ne]
  rintro rfl
  exact notMem_of_spelled h (by decide) hc

/-- Whether a character may stand in a host or a port, as long as there are no brackets. -/
def isSiteChar (c : Char) : Bool := isUserChar c || isHexDigit c

theorem notMem_site (hcs : ∀ c ∈ cs, isSiteChar c = true)
    (hdigits : ∀ c ∈ ds, Decimal.isDigit c = true) (hc : isSiteChar c = false) :
    c ∉ cs ++ ':' :: ds := by
  intro hmem
  have hsite : isSiteChar c = true := by
    rcases List.mem_append.mp hmem with hmem | hmem
    · exact hcs c hmem
    · rcases List.mem_cons.mp hmem with rfl | hmem
      · decide
      · simp [isSiteChar, isHexDigit_of_isDigit (hdigits c hmem)]
  rw [hc] at hsite
  cases hsite

theorem isSiteChar_of_isGroupChar (h : isGroupChar c = true) : isSiteChar c = true := by
  simp only [isGroupChar, Bool.or_eq_true, beq_iff_eq] at h
  rcases h with (hhex | rfl) | rfl
  · simp [isSiteChar, hhex]
  · decide
  · decide

theorem exists_name_of_site (hsite : ∀ c ∈ host.toList, isSiteChar c = true)
    (hdigits : ∀ c ∈ digits.toList, Decimal.isDigit c = true)
    (htext : a.text.toList = host.toList ++ ':' :: digits.toList) :
    ∃ s port, a = ⟨none, .name s, port⟩ ∧
      s.toList ++ (after ":" port).toList = host.toList ++ ':' :: digits.toList := by
  have hsigns : ∀ c, isSiteChar c = false → c ∉ a.text.toList :=
    fun c hc => htext ▸ notMem_site hsite hdigits hc
  obtain ⟨s, port, rfl⟩ := eq_name_of_signs (hsigns '@' (by decide)) (hsigns '[' (by decide))
  exact ⟨s, port, rfl, (toList_text_name s port).symm.trans htext⟩

/-- **A host name and a port** are read as such. -/
theorem authority_of_name (hhost : ∀ c ∈ host.toList, isUnreserved c = true)
    (hdigits : ∀ c ∈ digits.toList, Decimal.isDigit c = true) :
    (a.WellFormed ∧ a.text.toList = host.toList ++ ':' :: digits.toList) ↔
      a = ⟨none, .name host, some digits⟩ := by
  have hname : (Host.name host).WellFormed :=
    spelled_of_all (fun c hc => by simp [isNameChar, hhost c hc]) (by decide)
  have hsite : ∀ c ∈ host.toList, isSiteChar c = true :=
    fun c hc => by simp [isSiteChar, isUserChar, isNameChar, hhost c hc]
  constructor
  · rintro ⟨hwell, htext⟩
    obtain ⟨s, port, rfl, hparts⟩ := exists_name_of_site hsite hdigits htext
    obtain ⟨hs, hport⟩ := append_inj_of_sign (ne_colon_of_name hwell.host)
      (fun c hc => by simp [head_after port c hc]) (ne_colon_of_name hname) (by simp) hparts
    rw [String.toList_inj.mp hs, eq_some_of_after hport]
  · rintro rfl
    exact ⟨⟨by simp, hname, by simpa using hdigits⟩, by simp [toList_text_name]⟩

/-- **An IPv6 address without brackets** and a port are no authority: there are too many colons. -/
theorem not_authority_of_v6 {groups : List Nat} (hhost : parse? host = some (.v6 groups))
    (hdigits : ∀ c ∈ digits.toList, Decimal.isDigit c = true) (hwell : a.WellFormed) :
    a.text.toList ≠ host.toList ++ ':' :: digits.toList := by
  intro htext
  obtain ⟨hchars, hcolons⟩ := chars_of_v6 hhost
  have hsite : ∀ c ∈ host.toList, isSiteChar c = true :=
    fun c hc => isSiteChar_of_isGroupChar (hchars c hc)
  obtain ⟨s, port, rfl, hparts⟩ := exists_name_of_site hsite hdigits htext
  -- A name has no colon, and a port has the one before it.
  have hname : s.toList.count ':' = 0 :=
    List.count_eq_zero.mpr (notMem_of_spelled hwell.host (by decide))
  have hport : (after ":" port).toList.count ':' ≤ 1 := by
    cases port with
    | none => simp
    | some t =>
        have ht : ':' ∉ t.toList := fun hc => absurd (hwell.port t rfl ':' hc) (by decide)
        simp [List.count_eq_zero.mpr ht]
  have hcount := congrArg (List.count ':') hparts
  rw [List.count_append, List.count_append, List.count_cons_self] at hcount
  omega

/-- **An address between brackets and a port** are read as such. -/
theorem authority_of_literal {groups : List Nat} (haddress : parse? address = some (.v6 groups))
    (hdigits : ∀ c ∈ digits.toList, Decimal.isDigit c = true) :
    (a.WellFormed ∧ a.text.toList = '[' :: (address.toList ++ ']' :: ':' :: digits.toList)) ↔
      a = ⟨none, .literal address, some digits⟩ := by
  have hliteral : (Host.literal address).WellFormed := .inl ⟨groups, haddress⟩
  have hbracket : ∀ x : String, (Host.literal x).WellFormed →
      ∀ c ∈ x.toList, (c != ']') = true := by
    intro x hx c hc
    rw [bne_iff_ne]
    rintro rfl
    exact absurd (hx.mem_literal hc) (by decide)
  constructor
  · rintro ⟨hwell, htext⟩
    have huser : a.user = none := by
      refine eq_none_of_at fun hat => ?_
      rw [htext] at hat
      simp only [List.mem_cons, List.mem_append, Char.reduceEq, false_or] at hat
      rcases hat with hat | hat
      · exact absurd (hliteral.mem_literal hat) (by decide)
      · exact absurd (hdigits '@' hat) (by decide)
    obtain ⟨user, host, port⟩ := a
    cases huser
    cases host with
    | name s =>
        have hmem : '[' ∈ s.toList ++ (after ":" port).toList := by
          rw [← toList_text_name, htext]
          exact List.mem_cons_self
        rcases List.mem_append.mp hmem with hmem | hmem
        · exact absurd hmem (notMem_of_spelled hwell.host (by decide))
        · cases port with
          | none => simp at hmem
          | some t =>
              have ht : '[' ∈ t.toList := by simpa using hmem
              exact absurd (hwell.port t rfl '[' ht) (by decide)
    | literal x =>
        rw [toList_text_literal, List.cons.injEq] at htext
        obtain ⟨hx, hport⟩ := append_inj_of_sign (hbracket x hwell.host) (by simp)
          (hbracket address hliteral) (by simp) htext.2
        rw [String.toList_inj.mp hx, eq_some_of_after (List.cons.inj hport).2]
  · rintro rfl
    exact ⟨⟨by simp, hliteral, by simpa using hdigits⟩, by simp [toList_text_literal]⟩

end Site

/-! ## Readings -/

theorem toList_text (u : Uri) : u.text.toList = u.scheme.toList ++
    ':' :: ((after "//" (u.authority.map Authority.text)).toList ++ u.resource.text.toList) := by
  simp [text]

theorem ne_colon_of_scheme {scheme : List Char} (h : Url.isScheme scheme = true) :
    ∀ c ∈ scheme, (c != ':') = true := by
  intro c hc
  rw [bne_iff_ne]
  rintro rfl
  cases scheme with
  | nil => cases hc
  | cons d cs =>
      simp only [Url.isScheme, Bool.and_eq_true, List.all_eq_true] at h
      rcases List.mem_cons.mp hc with rfl | hc
      · exact absurd h.1 (by decide)
      · exact absurd (h.2 ':' hc) (by decide)

/-- Without an authority nothing begins with two slashes after the scheme. -/
theorem WellFormed.not_slashes (h : u.WellFormed) (hnone : u.authority = none) :
    u.resource.text.toList ≠ '/' :: '/' :: cs := by
  intro htext
  rw [Resource.toList_text] at htext
  cases hpath : u.resource.path.toList with
  | nil =>
      rw [hpath, List.nil_append] at htext
      exact absurd (u.resource.head_tail '/' (by rw [htext]; rfl)) (by decide)
  | cons c more =>
      rw [hpath, List.cons_append, List.cons.injEq] at htext
      cases more with
      | nil =>
          rw [List.nil_append] at htext
          exact absurd (u.resource.head_tail '/' (by rw [htext.2]; rfl)) (by decide)
      | cons d more =>
          obtain ⟨rfl, hmore⟩ := htext
          obtain rfl : d = '/' := (List.cons.inj hmore).1
          exact h.unrooted hnone more hpath

/-- **A text that begins like a URL** is read as its parts are. -/
theorem reads_iff {scheme site path : String} (hscheme : Url.isScheme scheme.toList = true)
    (hsite : ∀ c ∈ site.toList, endsAuthority c = false) (hpath : path.toList.head? = some '/') :
    Reads (scheme ++ "://" ++ site ++ path) u ↔ u.scheme = scheme ∧
      (∃ a, u.authority = some a ∧ a.WellFormed ∧ a.text.toList = site.toList) ∧
      u.resource.WellFormed ∧ u.resource.text = path := by
  have htext : (scheme ++ "://" ++ site ++ path).toList =
      scheme.toList ++ ':' :: ('/' :: '/' :: (site.toList ++ path.toList)) := by simp
  have hends : ∀ c ∈ path.toList.head?, endsAuthority c = true := by
    rw [hpath]
    rintro _ ⟨⟩
    decide
  have hnot : ∀ cs : List Char, (∀ c ∈ cs, endsAuthority c = false) →
      ∀ c ∈ cs, (!endsAuthority c) = true := fun cs h c hc => by rw [h c hc]; rfl
  constructor
  · rintro ⟨hwell, hread⟩
    rw [← String.toList_inj, toList_text, htext] at hread
    obtain ⟨hsame, hrest⟩ := append_inj_of_sign (ne_colon_of_scheme hwell.scheme) (by simp)
      (ne_colon_of_scheme hscheme) (by simp) hread
    replace hrest := (List.cons.inj hrest).2
    refine ⟨String.toList_inj.mp hsame, ?_⟩
    cases hauthority : u.authority with
    | none =>
        rw [hauthority] at hrest
        exact absurd (by simpa using hrest) (hwell.not_slashes hauthority)
    | some a =>
        have ha := hwell.authority a hauthority
        rw [hauthority] at hrest
        replace hrest : a.text.toList ++ u.resource.text.toList = site.toList ++ path.toList := by
          simpa using hrest
        obtain ⟨hsites, hresource⟩ := append_inj_of_sign (hnot _ ha.not_endsAuthority)
          (by simpa using Resource.head_text (hwell.rooted (by simp [hauthority]))) (hnot _ hsite)
          (by simpa using hends) hrest
        exact ⟨⟨a, rfl, ha, hsites⟩, hwell.resource, String.toList_inj.mp hresource⟩
  · rintro ⟨rfl, ⟨a, hauthority, ha, hsites⟩, hresource, rfl⟩
    refine ⟨⟨hscheme, ?_, hresource, fun _ => ?_, fun hnone => ?_⟩, ?_⟩
    · rw [hauthority]
      rintro _ ⟨⟩
      exact ha
    · intro c hc
      rw [Resource.toList_text, List.head?_append, hc, Option.some_or] at hpath
      exact Option.some.inj hpath
    · rw [hauthority] at hnone
      cases hnone
    · rw [← String.toList_inj, htext, toList_text, hauthority]
      simp [hsites]

end Uri

end OutOfBand.Web
