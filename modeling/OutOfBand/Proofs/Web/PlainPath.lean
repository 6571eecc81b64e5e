import OutOfBand.Proofs.Web.Origin

/-!
# Plain paths

The driver of a web service puts paths behind the base URL of the service. A path of plain segments,
which are made of letters, digits, hyphens and underscores, stays as it is when the URL is read
(`path_of_plain`), and all such paths lead to one origin, whatever the base URL
(`origin_of_plain_paths`).
-/

namespace OutOfBand.Web

variable {c : Char} {s : String} {segments : List String}

/-! ## Plain text -/

/-- A letter, a digit, a hyphen or an underscore. -/
def isPlainChar (c : Char) : Bool := c.isAlphanum || c == '-' || c == '_'

/-- The text is not empty, and is made of letters, digits, hyphens and underscores. -/
structure IsPlain (s : String) : Prop where
  nonempty : s ≠ ""
  plain : ∀ c ∈ s.toList, isPlainChar c = true

instance : Decidable (IsPlain s) :=
  @decidable_of_iff _ (s ≠ "" ∧ ∀ c ∈ s.toList, isPlainChar c = true)
    ⟨fun h => ⟨h.1, h.2⟩, fun h => ⟨h.1, h.2⟩⟩
    (@instDecidableAnd _ _ _ (List.decidableBAll _ s.toList))

theorem toNat_lt_of_isPlainChar (h : isPlainChar c = true) : c.toNat < 128 := by
  have hbelow {n : UInt32} (hn : n.toNat < 128) (h : c.val ≤ n) : c.toNat < 128 :=
    Nat.lt_of_le_of_lt h hn
  simp only [isPlainChar, Bool.or_eq_true, beq_iff_eq] at h
  obtain (halphanum | rfl) | rfl := h
  · rcases Bool.or_eq_true_iff.mp halphanum with halpha | hdigit
    · rcases Bool.or_eq_true_iff.mp halpha with hupper | hlower
      · exact hbelow (by decide) (of_decide_eq_true hupper).2
      · exact hbelow (by decide) (of_decide_eq_true (Bool.and_eq_true_iff.mp hlower).2)
    · exact hbelow (by decide) (of_decide_eq_true (Bool.and_eq_true_iff.mp hdigit).2)
  · decide
  · decide

/-- What holds of all the plain characters, of which there are few. -/
theorem of_isPlainChar {P : Char → Bool}
    (hP : ∀ n < 128, isPlainChar (Char.ofNat n) = true → P (Char.ofNat n) = true)
    (h : isPlainChar c = true) : P c = true := by
  have hc := hP c.toNat (toNat_lt_of_isPlainChar h)
  rw [Char.ofNat_toNat] at hc
  exact hc h

theorem not_isSlash_of_isPlainChar (h : isPlainChar c = true) : Path.isSlash .web c = false := by
  have hc := of_isPlainChar (P := fun c => !Path.isSlash .web c) (by decide) h
  simpa using hc

theorem isPlainChar_toLower (h : isPlainChar c = true) : isPlainChar c.toLower = true :=
  of_isPlainChar (P := fun c => isPlainChar c.toLower) (by decide) h

theorem not_mem_extra_of_isPlainChar (h : isPlainChar c = true) :
    (isOutside c || Path.extra.contains c) = false := by
  have hc := of_isPlainChar (P := fun c => !(isOutside c || Path.extra.contains c)) (by decide) h
  simpa only [Bool.not_eq_true'] using hc

/-! ## Segments -/

theorem IsPlain.not_isSlash (h : IsPlain s) : ∀ c ∈ s.toList, Path.isSlash .web c = false :=
  fun c hc => not_isSlash_of_isPlainChar (h.plain c hc)

theorem IsPlain.encoded_eq (h : IsPlain s) : encoded Path.extra s.toList = s.toList := by
  have hall : ∀ cs : List Char, (∀ c ∈ cs, isPlainChar c = true) → encoded Path.extra cs = cs := by
    intro cs hcs
    induction cs with
    | nil => rfl
    | cons c cs ih =>
        obtain ⟨hc, hcs⟩ := List.forall_mem_cons.mp hcs
        have htail := ih hcs
        unfold encoded at htail ⊢
        rw [List.flatMap_cons, htail, not_mem_extra_of_isPlainChar hc]
        rfl
  exact hall s.toList h.plain

/-- A plain segment is no directory. -/
theorem IsPlain.not_isDirectory (h : IsPlain s) :
    Path.isHere s = false ∧ Path.isAbove s = false := by
  have hlower : ∀ c ∈ (Text.lower s).toList, isPlainChar c = true := by
    intro c hc
    obtain ⟨d, hd, rfl⟩ : ∃ d ∈ s.toList, d.toLower = c := by
      simpa [Text.lower] using hc
    exact isPlainChar_toLower (h.plain d hd)
  have hne : ∀ t : String, (∃ c ∈ t.toList, isPlainChar c = false) → Text.lower s ≠ t := by
    rintro _ ⟨c, hc, hnot⟩ rfl
    rw [hlower c hc] at hnot
    cases hnot
  constructor
  · simp [Path.isHere, hne "." ⟨'.', by simp, by decide⟩, hne "%2e" ⟨'%', by simp, by decide⟩]
  · simp [Path.isAbove, hne ".." ⟨'.', by simp, by decide⟩, hne ".%2e" ⟨'.', by simp, by decide⟩,
      hne "%2e." ⟨'.', by simp, by decide⟩, hne "%2e%2e" ⟨'%', by simp, by decide⟩]

theorem resolved_of_plain (h : ∀ s ∈ segments, IsPlain s) (kept : List String) :
    Path.resolved .web kept segments = kept.reverse ++ segments := by
  induction segments generalizing kept with
  | nil => simp [Path.resolved]
  | cons s segments ih =>
      obtain ⟨hs, hsegments⟩ := List.forall_mem_cons.mp h
      obtain ⟨hhere, habove⟩ := hs.not_isDirectory
      have hnormal : Path.normal .web kept.isEmpty s = s := by
        unfold Path.normal
        split <;> rfl
      simp [Path.resolved, hhere, habove, hnormal, ih hsegments]

/-- **Plain segments stay as they are.** -/
theorem segments_of_plain (hne : segments ≠ []) (h : ∀ s ∈ segments, IsPlain s) :
    Path.segments .web (String.intercalate "/" segments).toList = segments := by
  have hsegments : (segments.map String.toList).map
      (fun s => String.ofList (encoded Path.extra s)) = segments := by
    rw [List.map_map]
    refine (List.map_congr_left fun s hs => ?_).trans (List.map_id segments)
    simp [(h s hs).encoded_eq]
  have hslash : Path.isSlash .web '/' = true := rfl
  have hpieces := Text.splitAt_intercalate hslash hne fun s hs => (h s hs).not_isSlash
  rw [Path.segments, show "/" = String.ofList ['/'] from rfl, hpieces, hsegments,
    resolved_of_plain h, List.reverse_nil, List.nil_append]

theorem toList_text (segments : List String) :
    (Path.text .web segments).toList = '/' :: (String.intercalate "/" segments).toList := by
  simp [Path.text]

/-- The text of a path is made of slashes and plain characters. -/
theorem slash_or_plain (h : ∀ s ∈ segments, IsPlain s) :
    ∀ c ∈ (Path.text .web segments).toList, c = '/' ∨ isPlainChar c = true := by
  intro c hc
  rw [toList_text] at hc
  rcases List.mem_cons.mp hc with rfl | hc
  · exact .inl rfl
  · rcases Text.mem_intercalate hc with hslash | ⟨s, hs, hc⟩
    · exact .inl (List.mem_singleton.mp hslash)
    · exact .inr ((h s hs).plain c hc)

/-! ## Reading -/

namespace Url

variable {host : String} {o : RedfishOptions} {front rest : List Char} {u : Url}

theorem cut_eq_self (h : c ∉ rest) : cut c rest = (rest, []) := by
  have hall : ∀ d ∈ rest, (d != c) = true := by
    rintro d hd
    rw [bne_iff_ne]
    rintro rfl
    exact h hd
  rw [cut, List.takeWhile_eq_self_iff.mpr hall, List.dropWhile_eq_nil_iff.mpr hall]

theorem path_of_webPlace {usual : Option Nat} {place : Place}
    (hfront : ∀ c ∈ front, Path.isSlash .web c = false)
    (h : webPlace usual (front ++ '/' :: rest) = some place) :
    place.path = Path.text .web (Path.segments .web rest) := by
  have hpath : (front ++ '/' :: rest).dropWhile (fun c => !Path.isSlash .web c) = '/' :: rest := by
    rw [List.dropWhile_append_of_pos (by simpa using hfront)]
    rfl
  unfold webPlace at h
  rw [hpath] at h
  simp only [Option.bind_eq_bind, Option.bind_eq_some_iff, Option.pure_def, Option.some.injEq] at h
  obtain ⟨_, -, _, -, rfl⟩ := h
  rfl

theorem isOuter_of_isPlainChar (h : isPlainChar c = true) : isOuter c = false := by
  have hc := of_isPlainChar (P := fun c => !isOuter c) (by decide) h
  simpa using hc

theorem ne_of_slash_or_plain {d : Char} (h : c = '/' ∨ isPlainChar c = true)
    (hd : d ∈ ['#', '?']) : c ≠ d := by
  rintro rfl
  rcases h with rfl | h
  · simp at hd
  · have hc := of_isPlainChar (P := fun c => !(['#', '?'].contains c)) (by decide) h
    exact absurd hd (by simpa using hc)

theorem not_isOuter_of_plain (h : ∀ s ∈ segments, IsPlain s) :
    ∀ c ∈ (Path.text .web segments).toList, isOuter c = false := by
  intro c hc
  rcases slash_or_plain h c hc with rfl | hplain
  · rfl
  · exact isOuter_of_isPlainChar hplain

/-- A URL is cleaned of nothing behind its base, if the path is plain. -/
theorem cleaned_plain (base : String) (h : ∀ s ∈ segments, IsPlain s) :
    cleaned (base ++ Path.text .web segments) =
      keptBefore base ++ (Path.text .web segments).toList := by
  have hcleaned : cleaned (base ++ Path.text .web segments ++ "") =
      keptBefore base ++ (Path.text .web segments).toList ++ keptAfter "" :=
    cleaned_append (not_isOuter_of_plain h) (by simp [Path.text])
  rw [String.append_empty] at hcleaned
  rw [hcleaned]
  exact List.append_nil _

theorem keptBefore_eq_self {front : String} (h : ∀ c ∈ front.toList, isOuter c = false) :
    keptBefore front = front.toList := by
  rw [keptBefore, Text.dropWhile_of_none h, List.filter_eq_self]
  exact fun c hc => isInner_of_not_isOuter (h c hc)

theorem toList_baseUrl (o : RedfishOptions) (host : String) : (o.baseUrl host).toList =
    o.scheme.toList ++ ':' :: '/' :: '/' :: (host.toList ++ ':' :: o.port.toNat.repr.toList) := by
  rw [baseUrl_eq, String.toList_append, toList_afterScheme]

theorem keptBefore_baseUrl (hhost : IsPlainHost host)
    (hscheme : o.scheme = "http" ∨ o.scheme = "https") :
    keptBefore (o.baseUrl host) = (o.baseUrl host).toList := by
  refine keptBefore_eq_self fun c hc => ?_
  rw [toList_baseUrl] at hc
  simp only [List.mem_append, List.mem_cons] at hc
  rcases hc with hc | rfl | rfl | rfl | hc | rfl | hc
  · have hall : o.scheme.toList.all (fun c => !isOuter c) = true := by
      rcases hscheme with h | h <;> rw [h] <;> rfl
    simpa using List.all_eq_true.mp hall c hc
  · rfl
  · rfl
  · rfl
  · exact (hhost c hc).1
  · rfl
  · exact isOuter_of_isDigit (isDigit_of_mem_repr hc)

/-- **A plain path is read as it is written**, behind the base URL of a plain host. -/
theorem path_of_plain (hhost : IsPlainHost host) (hscheme : o.scheme = "http" ∨ o.scheme = "https")
    (hne : segments ≠ []) (hsegments : ∀ s ∈ segments, IsPlain s)
    (h : parse? (o.baseUrl host ++ Path.text .web segments) = some u) :
    u.path = Path.text .web segments ∧ u.query = none ∧ u.fragment = none := by
  obtain ⟨site, hsite⟩ : ∃ site, host.toList ++ ':' :: o.port.toNat.repr.toList = site := ⟨_, rfl⟩
  have hcleaned : cleaned (o.baseUrl host ++ Path.text .web segments) = o.scheme.toList ++
      ':' :: '/' :: '/' :: (site ++ '/' :: (String.intercalate "/" segments).toList) := by
    rw [cleaned_plain _ hsegments, keptBefore_baseUrl hhost hscheme, toList_baseUrl, hsite,
      toList_text]
    simp
  have hends : ∀ c ∈ site, endsAuthority c = false := by
    intro c hc
    rw [← hsite, List.mem_append, List.mem_cons] at hc
    rcases hc with hc | rfl | hc
    · exact hhost.endsAuthority_eq_false c hc
    · rfl
    · exact endsAuthority_of_isDigit (isDigit_of_mem_repr hc)
  have hslash : ∀ c ∈ site, Path.isSlash .web c = false := by
    intro c hc
    have h := hends c hc
    simp only [endsAuthority, Bool.or_eq_false_iff] at h
    exact h.1.1
  have hsign : ∀ d ∈ ['#', '?'],
      d ∉ '/' :: '/' :: (site ++ '/' :: (String.intercalate "/" segments).toList) := by
    intro d hd hmem
    have hpath : d ∉ '/' :: (String.intercalate "/" segments).toList := by
      rw [← toList_text]
      exact fun hmem => ne_of_slash_or_plain (slash_or_plain hsegments d hmem) hd rfl
    have hne : d ≠ '/' := by
      rintro rfl
      exact hpath List.mem_cons_self
    have hsites : d ∉ site := by
      intro hmem
      have hnot := hends d hmem
      rcases List.mem_cons.mp hd with rfl | hd
      · cases hnot
      · obtain rfl := List.mem_singleton.mp hd
        cases hnot
    rcases List.mem_cons.mp hmem with heq | hmem
    · exact hne heq
    · rcases List.mem_cons.mp hmem with heq | hmem
      · exact hne heq
      · exact (List.mem_append.mp hmem).elim hsites hpath
  have hcolon : ':' ∉ o.scheme.toList := by
    rcases hscheme with h | h <;> rw [h] <;> decide
  have hkind : kindOf (String.ofList (o.scheme.toList.map Char.toLower)) = .web := by
    rcases hscheme with h | h <;> rw [h] <;> rfl
  unfold parse? at h
  rw [hcleaned, cut_of_notMem hcolon] at h
  obtain ⟨_, -, h⟩ := Option.bind_eq_some_iff.mp h
  simp only [List.drop_one, List.tail_cons, cut_eq_self (hsign '#' (by simp)),
    cut_eq_self (hsign '?' (by simp)), hkind] at h
  obtain ⟨place, hplace, h⟩ := Option.bind_eq_some_iff.mp h
  cases h
  refine ⟨?_, rfl, rfl⟩
  have hdrop : ('/' :: '/' :: (site ++ '/' :: (String.intercalate "/" segments).toList)).dropWhile
      (Path.isSlash .web) = site ++ '/' :: (String.intercalate "/" segments).toList := by
    obtain ⟨c, cs, hcs⟩ : ∃ c cs, site = c :: cs := by
      rw [← hsite]
      cases host.toList <;> simp
    have hc := hslash c (by simp [hcs])
    rw [List.dropWhile_cons_of_pos (by rfl), List.dropWhile_cons_of_pos (by rfl), hcs,
      List.cons_append, List.dropWhile_cons_of_neg (by simp [hc])]
  rw [hdrop] at hplace
  rw [path_of_webPlace hslash hplace, segments_of_plain hne hsegments]

/-! ## One origin -/

/-- What follows a slash after a colon has no part in an authority. -/
theorem authority_append_path (cs ds path : List Char) :
    authority (cs ++ ':' :: (ds ++ '/' :: path)) = authority (cs ++ ':' :: ds) := by
  rw [authority, authority, Text.dropWhile_append_cons _ _ (by rfl),
    Text.dropWhile_append_cons _ _ (by rfl)]
  have h := lead_append_cons (cs.dropWhile (Path.isSlash .web) ++ ':' :: ds) path
    (show endsAuthority '/' = true by rfl)
  simpa using h

/-- A base URL has a colon after its scheme, and another one before its port. -/
theorem exists_keptBefore_baseUrl (o : RedfishOptions) (host : String) :
    ∃ scheme rest digits, keptBefore (o.baseUrl host) = scheme ++ ':' :: (rest ++ ':' :: digits) ∧
      ':' ∉ scheme := by
  have hkept : keptBefore (o.baseUrl host) = (o.scheme.toList.dropWhile isOuter).filter isInner ++
      ':' :: ('/' :: '/' :: (host.toList.filter isInner) ++
        ':' :: o.port.toNat.repr.toList.filter isInner) := by
    rw [keptBefore, toList_baseUrl, Text.dropWhile_append_cons _ _ (by rfl)]
    simp [isInner]
  rw [hkept]
  by_cases hcolon : ':' ∈ (o.scheme.toList.dropWhile isOuter).filter isInner
  · obtain ⟨scheme, more, hsplit, hnone⟩ := List.eq_append_cons_of_mem hcolon
    refine ⟨scheme, more ++ ':' :: '/' :: '/' :: host.toList.filter isInner,
      o.port.toNat.repr.toList.filter isInner, ?_, hnone⟩
    rw [hsplit]
    simp
  · exact ⟨_, _, _, rfl, hcolon⟩

/-- **All plain paths behind a base URL lead to one origin.** -/
theorem origin_of_plain_paths {segments' : List String} (hsegments : ∀ s ∈ segments, IsPlain s)
    (hsegments' : ∀ s ∈ segments', IsPlain s)
    (h : parse? (o.baseUrl host ++ Path.text .web segments) = some u) (hweb : u.isWeb = true) :
    ∃ b, parse? (o.baseUrl host ++ Path.text .web segments') = some b ∧ u.origin = b.origin := by
  obtain ⟨scheme, rest, digits, hkept, hcolon⟩ := exists_keptBefore_baseUrl o host
  have hs := cleaned_plain (o.baseUrl host) hsegments
  have ht := cleaned_plain (o.baseUrl host) hsegments'
  rw [hkept, toList_text, List.append_assoc, List.cons_append, List.append_assoc,
    List.cons_append] at hs ht
  refine origin_congr hs ht hcolon h hweb fun usual => .inr ?_
  rw [authority_append_path, authority_append_path]

/-! ## Lengths -/

/-- Each character takes at least one byte. -/
theorem length_le_utf8ByteSize (cs : List Char) : cs.length ≤ (String.ofList cs).utf8ByteSize := by
  induction cs with
  | nil => exact Nat.zero_le _
  | cons c cs ih =>
      have hcons : String.ofList (c :: cs) = String.singleton c ++ String.ofList cs := by
        rw [← String.toList_inj]
        simp
      rw [hcons, String.utf8ByteSize_append, String.utf8ByteSize_singleton, List.length_cons]
      have hpos := Char.utf8Size_pos c
      omega

theorem path_le_text (u : Url) : u.path.utf8ByteSize ≤ u.text.utf8ByteSize := by
  simp only [Url.text, String.utf8ByteSize_append]
  omega

end Url

end OutOfBand.Web
