import OutOfBand.Proofs.Net.AddressText
import OutOfBand.Proofs.Text.Cutting
import OutOfBand.Wake.Packet

/-!
# Which texts are MAC addresses

A MAC address is written as six groups with colons between them, each of one or two hexadecimal
digits (`IsMacText`). All such texts are read, and printing what was read gives the text again, in
lower case and with two digits in each group. The reader of a group takes more than that: a plus
sign before the digits, and zeros before the last two of them (`Group`). So of the texts that are
read, those are MAC addresses whose groups have no sign and at most two characters
(`mac_grammar`).
-/

namespace OutOfBand.Wake

open IpAddress

variable {c : Char} {cs ds : List Char} {n : Nat} {s : String}

/-! ## Digits -/

theorem eq_zero_of_hexValue (h : Text.hexValue c = some 0) : c = '0' := by
  simp only [Text.hexValue, Bool.and_eq_true, decide_eq_true_eq] at h
  have hcode : c.toNat = '0'.toNat := by
    show c.toNat = 0x30
    split at h
    · have hvalue := Option.some.inj h
      omega
    · split at h
      · have hvalue := Option.some.inj h
        omega
      · split at h
        · have hvalue := Option.some.inj h
          omega
        · cases h
  exact Char.toNat_inj.mp hcode

/-- The digit of a number that a digit stands for is that digit in lower case. -/
theorem hexDigit_of_hexValue (h : Text.hexValue c = some n) : Text.hexDigit n = c.toLower := by
  have hsmall : ∀ k < 0x67,
      (Text.hexValue (Char.ofNat k)).all fun v => Text.hexDigit v == (Char.ofNat k).toLower := by
    decide
  have hcode : c.toNat < 0x67 := by
    simp only [Text.hexValue, Bool.and_eq_true, decide_eq_true_eq] at h
    split at h
    · omega
    · split at h
      · omega
      · split at h
        · omega
        · cases h
  have hdigit := hsmall c.toNat hcode
  rw [Char.ofNat_toNat, h] at hdigit
  exact eq_of_beq hdigit

theorem le_accumulateHex (n : Nat) (ds : List Char) : n ≤ accumulateHex n ds := by
  induction ds generalizing n with
  | nil => exact Nat.le_refl n
  | cons d ds ih =>
      have hstep : n ≤ 16 * n + (Text.hexValue d).getD 0 := by omega
      exact Nat.le_trans hstep (ih _)

theorem mapM_hexValue {values : List Nat} :
    ds.mapM Text.hexValue = some values ↔
      (∀ d ∈ ds, isHexDigit d = true) ∧ ds.map (fun d => (Text.hexValue d).getD 0) = values := by
  induction ds generalizing values with
  | nil => simp
  | cons d ds ih =>
      simp only [List.mapM_cons, Option.bind_eq_bind, Option.bind_eq_some_iff, ih,
        List.forall_mem_cons, List.map_cons, isHexDigit, Option.isSome_iff_exists]
      constructor
      · rintro ⟨v, hv, rest, ⟨hdigits, rfl⟩, hvalues⟩
        exact ⟨⟨⟨v, hv⟩, hdigits⟩, by simpa [hv] using hvalues⟩
      · rintro ⟨⟨⟨v, hv⟩, hdigits⟩, rfl⟩
        exact ⟨v, hv, _, ⟨hdigits, rfl⟩, by simp [hv]⟩

/-! ## Groups -/

/-- The digits of a group: one or two. -/
structure IsByteText (ds : List Char) : Prop where
  length : ds.length = 1 ∨ ds.length = 2
  digits : ∀ d ∈ ds, isHexDigit d = true

instance (ds : List Char) : Decidable (IsByteText ds) :=
  @decidable_of_iff _ ((ds.length = 1 ∨ ds.length = 2) ∧ ∀ d ∈ ds, isHexDigit d = true)
    ⟨fun h => ⟨h.1, h.2⟩, fun h => ⟨h.1, h.2⟩⟩
    (@instDecidableAnd _ _ _ (List.decidableBAll _ ds))

/-- What is read as one byte: one or two digits, with zeros before them and a plus sign before
these. -/
structure Group where
  signed : Bool := false
  zeros : Nat := 0
  digits : List Char
  isByteText : IsByteText digits

namespace Group

def chars (g : Group) : List Char :=
  (if g.signed then ['+'] else []) ++ (List.replicate g.zeros '0' ++ g.digits)

def value (g : Group) : Nat := accumulateHex 0 g.digits

end Group

/-- The characters in lower case, and at least two of them. -/
def tidied (ds : List Char) : List Char := (ds.map Char.toLower).leftpad 2 '0'

theorem IsByteText.value_lt (h : IsByteText ds) : accumulateHex 0 ds < 256 := by
  have hlt : accumulateHex 0 ds < (0 + 1) * Nat.pow 16 ds.length := accumulateHex_lt ds
  rcases h.length with hone | htwo
  · rw [hone] at hlt
    exact Nat.lt_trans hlt (by decide)
  · rwa [htwo] at hlt

/-- **A byte is printed with the digits that it was read from**, in lower case. -/
theorem IsByteText.hexOfByte_eq (h : IsByteText ds) :
    Text.hexOfByte (UInt8.ofNat (accumulateHex 0 ds)) = tidied ds := by
  have hbyte : (UInt8.ofNat (accumulateHex 0 ds)).toNat = accumulateHex 0 ds :=
    Nat.mod_eq_of_lt h.value_lt
  rw [Text.hexOfByte, hbyte]
  obtain ⟨hone | htwo, hdigits⟩ := h
  · obtain ⟨d, rfl⟩ := List.length_eq_one_iff.mp hone
    obtain ⟨v, hv⟩ := Option.isSome_iff_exists.mp (hdigits d (by simp))
    have hlt : v < 16 := hexValue_lt hv
    have hdiv : v / 16 = 0 := by omega
    have hmod : v % 16 = v := by omega
    have hhigh : Text.hexDigit 0 = '0' := rfl
    simp [accumulateHex, hv, hdiv, hmod, hhigh, hexDigit_of_hexValue hv, tidied, List.leftpad]
  · obtain ⟨d, e, rfl⟩ := List.length_eq_two.mp htwo
    obtain ⟨v, hv⟩ := Option.isSome_iff_exists.mp (hdigits d (by simp))
    obtain ⟨w, hw⟩ := Option.isSome_iff_exists.mp (hdigits e (by simp))
    have hlt : w < 16 := hexValue_lt hw
    have hdiv : (16 * v + w) / 16 = v := by omega
    have hmod : (16 * v + w) % 16 = w := by omega
    simp [accumulateHex, hv, hw, hdiv, hmod, hexDigit_of_hexValue hv,
      hexDigit_of_hexValue hw, tidied, List.leftpad]

/-- What is left of a text without the plus sign at its start. -/
def unsigned : List Char → List Char
  | '+' :: rest => rest
  | cs => cs

theorem byteOfHex_eq_some_iff : byteOfHex cs = some n ↔
    unsigned cs ≠ [] ∧ (∀ d ∈ unsigned cs, isHexDigit d = true) ∧
      accumulateHex 0 (unsigned cs) = n ∧ n < 256 := by
  have hread : byteOfHex cs = if (unsigned cs).isEmpty then none else
      ((unsigned cs).mapM Text.hexValue).bind fun values =>
        let n := values.foldl (fun n d => 16 * n + d) 0
        if n < 256 then some n else none := by
    fun_cases unsigned cs with
    | case1 rest => rfl
    | case2 _ hsign =>
        unfold byteOfHex
        split
        · exact absurd rfl (hsign _)
        · rfl
  rw [hread]
  by_cases hempty : (unsigned cs).isEmpty = true
  · simp [List.isEmpty_iff.mp hempty]
  · have hne : unsigned cs ≠ [] := fun h => hempty (by rw [h]; rfl)
    rw [if_neg hempty, Option.bind_eq_some_iff]
    simp only [mapM_hexValue, Option.ite_none_right_eq_some, Option.some.injEq]
    constructor
    · rintro ⟨_, ⟨hdigits, rfl⟩, hlt, rfl⟩
      rw [List.foldl_map] at hlt ⊢
      exact ⟨hne, hdigits, rfl, hlt⟩
    · rintro ⟨-, hdigits, rfl, hlt⟩
      refine ⟨_, ⟨hdigits, rfl⟩, ?_⟩
      rw [List.foldl_map]
      exact ⟨hlt, rfl⟩

theorem accumulateHex_zeros (zeros : Nat) (ds : List Char) :
    accumulateHex 0 (List.replicate zeros '0' ++ ds) = accumulateHex 0 ds := by
  induction zeros with
  | zero => rfl
  | succ zeros ih => exact ih

namespace Group

theorem unsigned_chars (g : Group) :
    unsigned g.chars = List.replicate g.zeros '0' ++ g.digits := by
  cases hsigned : g.signed with
  | true => simp [chars, hsigned, unsigned]
  | false =>
      simp only [chars, hsigned, Bool.false_eq_true, if_false, List.nil_append]
      -- A digit is no plus sign.
      have hplus : ∀ d ∈ List.replicate g.zeros '0' ++ g.digits, d ≠ '+' := by
        rintro d hd rfl
        rcases List.mem_append.mp hd with hd | hd
        · cases (List.mem_replicate.mp hd).2
        · exact absurd (g.isByteText.digits _ hd) (by decide)
      unfold unsigned
      split
      · rename_i heq
        exact absurd rfl (hplus '+' (by rw [heq]; simp))
      · rfl

theorem byteOfHex_chars (g : Group) : byteOfHex g.chars = some g.value := by
  rw [byteOfHex_eq_some_iff, unsigned_chars, accumulateHex_zeros]
  refine ⟨fun h => ?_, fun d hd => ?_, rfl, g.isByteText.value_lt⟩
  · have hnil : g.digits = [] := (List.append_eq_nil_iff.mp h).2
    rcases g.isByteText.length with hone | htwo
    · simp [hnil] at hone
    · simp [hnil] at htwo
  · rcases List.mem_append.mp hd with hd | hd
    · rw [(List.mem_replicate.mp hd).2]
      decide
    · exact g.isByteText.digits d hd

end Group

/-- Digits that write a byte have zeros before the last two of them. -/
theorem exists_byteText (hne : ds ≠ []) (hdigits : ∀ d ∈ ds, isHexDigit d = true)
    (hlt : accumulateHex 0 ds < 256) :
    ∃ zeros last, ds = List.replicate zeros '0' ++ last ∧ IsByteText last := by
  induction ds with
  | nil => exact absurd rfl hne
  | cons d ds ih =>
      cases ds with
      | nil => exact ⟨0, [d], rfl, .inl rfl, hdigits⟩
      | cons e ds =>
          cases ds with
          | nil => exact ⟨0, [d, e], rfl, .inr rfl, hdigits⟩
          | cons f ds =>
              obtain ⟨v, hv⟩ := Option.isSome_iff_exists.mp (hdigits d List.mem_cons_self)
              -- With two more digits behind it, anything but a zero is too large.
              have hzero : v = 0 := by
                have hle := le_accumulateHex (16 * (16 * v + (Text.hexValue e).getD 0) +
                  (Text.hexValue f).getD 0) ds
                have hvalue : accumulateHex 0 (d :: e :: f :: ds) = accumulateHex
                    (16 * (16 * v + (Text.hexValue e).getD 0) + (Text.hexValue f).getD 0) ds := by
                  simp [accumulateHex, hv]
                omega
              subst hzero
              obtain rfl := eq_zero_of_hexValue hv
              obtain ⟨zeros, last, htail, hlast⟩ :=
                ih (by simp) (fun x hx => hdigits x (List.mem_cons_of_mem _ hx)) hlt
              exact ⟨zeros + 1, last, by rw [htail]; rfl, hlast⟩

/-- **Nothing is read as a byte but groups.** -/
theorem exists_group_of_byteOfHex (h : byteOfHex cs = some n) : ∃ g : Group, g.chars = cs := by
  obtain ⟨hne, hdigits, hvalue, hlt⟩ := byteOfHex_eq_some_iff.mp h
  obtain ⟨zeros, last, hsplit, hlast⟩ := exists_byteText hne hdigits (hvalue ▸ hlt)
  unfold unsigned at hsplit
  split at hsplit
  · exact ⟨⟨true, zeros, last, hlast⟩, by simp [Group.chars, hsplit]⟩
  · exact ⟨⟨false, zeros, last, hlast⟩, by simp [Group.chars, hsplit]⟩

/-! ## Texts -/

/-- The groups as one text. -/
def joined (groups : List (List Char)) : String :=
  String.intercalate ":" (groups.map String.ofList)

theorem joined_splitAt (s : String) : joined (Text.splitAt (· == ':') s.toList) = s :=
  Text.intercalate_splitOn ':' s

theorem splitAt_joined {groups : List (List Char)} (hne : groups ≠ [])
    (h : ∀ ds ∈ groups, ':' ∉ ds) : Text.splitAt (· == ':') (joined groups).toList = groups := by
  have hsplit : Text.splitOn ':' (joined groups) = groups.map String.ofList :=
    Text.splitOn_intercalate (by simpa using hne) (by simpa using h)
  exact List.map_injective_iff.mpr (fun _ _ h => String.ofList_inj.mp h) hsplit

theorem IsByteText.colon_not_mem (h : IsByteText ds) : ':' ∉ ds :=
  fun hmem => absurd (h.digits _ hmem) (by decide)

theorem IsByteText.plus_not_mem (h : IsByteText ds) : '+' ∉ ds :=
  fun hmem => absurd (h.digits _ hmem) (by decide)

theorem Group.colon_not_mem (g : Group) : ':' ∉ g.chars := by
  rw [Group.chars, List.mem_append, List.mem_append, not_or, not_or]
  refine ⟨?_, fun hmem => ?_, g.isByteText.colon_not_mem⟩
  · split <;> decide
  · cases (List.mem_replicate.mp hmem).2

/-- **A MAC address as text**: six groups with colons between them, each of one or two digits. -/
def IsMacText (s : String) : Prop :=
  ∃ groups : List (List Char), groups.length = 6 ∧ (∀ ds ∈ groups, IsByteText ds) ∧
    s = joined groups

theorem isMacText_iff : IsMacText s ↔
    (Text.splitAt (· == ':') s.toList).length = 6 ∧
      ∀ ds ∈ Text.splitAt (· == ':') s.toList, IsByteText ds := by
  constructor
  · rintro ⟨groups, hlength, hgroups, rfl⟩
    rw [splitAt_joined (by rintro rfl; cases hlength) fun ds hds => (hgroups ds hds).colon_not_mem]
    exact ⟨hlength, hgroups⟩
  · rintro ⟨hlength, hgroups⟩
    exact ⟨_, hlength, hgroups, (joined_splitAt s).symm⟩

instance (s : String) : Decidable (IsMacText s) :=
  @decidable_of_iff _ _ isMacText_iff.symm (@instDecidableAnd _ _ _ (List.decidableBAll _ _))

/-! ## Reading -/

theorem mapM_byteOfHex_chars (groups : List Group) :
    (groups.map Group.chars).mapM byteOfHex = some (groups.map Group.value) := by
  induction groups with
  | nil => rfl
  | cons g groups ih => simp [Group.byteOfHex_chars, ih]

theorem exists_groups_of_mapM {pieces : List (List Char)} {values : List Nat}
    (h : pieces.mapM byteOfHex = some values) :
    ∃ groups : List Group, groups.map Group.chars = pieces := by
  induction pieces generalizing values with
  | nil => exact ⟨[], rfl⟩
  | cons piece pieces ih =>
      simp only [List.mapM_cons, Option.bind_eq_bind, Option.bind_eq_some_iff] at h
      obtain ⟨_, hpiece, _, hpieces, -⟩ := h
      obtain ⟨g, rfl⟩ := exists_group_of_byteOfHex hpiece
      obtain ⟨groups, rfl⟩ := ih hpieces
      exact ⟨g :: groups, rfl⟩

theorem splitAt_chars {groups : List Group} (hlength : groups.length = 6) :
    Text.splitAt (· == ':') (joined (groups.map Group.chars)).toList = groups.map Group.chars := by
  refine splitAt_joined (fun hnil => ?_) fun ds hds => ?_
  · rw [List.map_eq_nil_iff.mp hnil] at hlength
    cases hlength
  · obtain ⟨g, -, rfl⟩ := List.mem_map.mp hds
    exact g.colon_not_mem

theorem ofText_joined {groups : List Group} (hlength : groups.length = 6) :
    WakeOptions.ofText (joined (groups.map Group.chars)) =
      some { mac := groups.map fun g => UInt8.ofNat g.value } := by
  simp only [WakeOptions.ofText, macOfText, splitAt_chars hlength, List.length_map, hlength,
    if_true, mapM_byteOfHex_chars, Option.map_some, List.map_map]
  rfl

theorem exists_groups_of_ofText {options : WakeOptions} (h : WakeOptions.ofText s = some options) :
    ∃ groups : List Group, groups.length = 6 ∧ s = joined (groups.map Group.chars) := by
  obtain ⟨mac, hmac, -⟩ := Option.map_eq_some_iff.mp h
  rw [macOfText] at hmac
  split at hmac
  · rename_i hlength
    obtain ⟨values, hvalues, -⟩ := Option.map_eq_some_iff.mp hmac
    obtain ⟨groups, hgroups⟩ := exists_groups_of_mapM hvalues
    refine ⟨groups, ?_, ?_⟩
    · rw [← hlength, ← hgroups, List.length_map]
    · rw [hgroups, joined_splitAt]
  · cases hmac

/-- What was read from groups is printed as their digits, in lower case and two for each. -/
theorem macText_values (groups : List Group) :
    macText (groups.map fun g => UInt8.ofNat g.value) =
      joined (groups.map fun g => tidied g.digits) := by
  simp only [macText, joined, List.map_map]
  congr 2
  funext g
  exact congrArg String.ofList g.isByteText.hexOfByte_eq

/-- A group that is as long as a byte needs and has no sign is its digits. -/
theorem Group.isByteText_chars (g : Group) (hsign : '+' ∉ g.chars) (hlength : g.chars.length ≤ 2) :
    IsByteText g.chars := by
  have hsigned : g.signed = false := by
    cases hs : g.signed with
    | true => exact absurd (by simp [chars, hs]) hsign
    | false => rfl
  have hchars : g.chars = List.replicate g.zeros '0' ++ g.digits := by simp [chars, hsigned]
  constructor
  · have hdigits := g.isByteText.length
    simp only [hchars, List.length_append, List.length_replicate] at hlength ⊢
    omega
  · intro d hd
    rcases List.mem_append.mp (hchars ▸ hd) with hd | hd
    · rw [(List.mem_replicate.mp hd).2]
      decide
    · exact g.isByteText.digits d hd

theorem exists_groups_of_isByteText {groups : List (List Char)}
    (h : ∀ ds ∈ groups, IsByteText ds) :
    ∃ read : List Group, read.map Group.chars = groups ∧ read.map Group.digits = groups := by
  induction groups with
  | nil => exact ⟨[], rfl, rfl⟩
  | cons ds groups ih =>
      obtain ⟨hds, hgroups⟩ := List.forall_mem_cons.mp h
      obtain ⟨read, hchars, hdigits⟩ := ih hgroups
      exact ⟨{ digits := ds, isByteText := hds } :: read, congrArg (ds :: ·) hchars,
        congrArg (ds :: ·) hdigits⟩

theorem optionsOfText_of_none (h : WakeOptions.ofText s = none) :
    optionsOfText s = .error (.invalidConfig s!"invalid MAC address: {s}") := by
  simp [optionsOfText, h]

theorem optionsOfText_of_some {options : WakeOptions} (h : WakeOptions.ofText s = some options) :
    optionsOfText s = .ok options := by
  simp [optionsOfText, h]

/-- **What is read as a MAC address, and how it is printed.** A text is read if it is six groups
with colons between them, where a group may have a plus sign and zeros before its one or two digits,
and what was read is printed as these digits, in lower case and two for each group. No other text is
read. The MAC addresses are those of the texts that are read whose groups have no sign and at most
two characters; each of them is read, and printed as it was but in lower case and with two digits in
each group. -/
theorem mac_grammar (s : String) :
    (∀ groups : List Group, groups.length = 6 → s = joined (groups.map Group.chars) →
      ∃ options, WakeOptions.ofText s = some options ∧ optionsOfText s = .ok options ∧
        macText options.mac = joined (groups.map fun g => tidied g.digits)) ∧
    ((¬∃ groups : List Group, groups.length = 6 ∧ s = joined (groups.map Group.chars)) →
      WakeOptions.ofText s = none ∧
        optionsOfText s = .error (.invalidConfig s!"invalid MAC address: {s}")) ∧
    (IsMacText s ↔ (WakeOptions.ofText s).isSome ∧
      ∀ ds ∈ Text.splitAt (· == ':') s.toList, '+' ∉ ds ∧ ds.length ≤ 2) ∧
    (∀ groups : List (List Char), groups.length = 6 → (∀ ds ∈ groups, IsByteText ds) →
      s = joined groups →
        ∃ options, WakeOptions.ofText s = some options ∧ optionsOfText s = .ok options ∧
          macText options.mac = joined (groups.map tidied)) := by
  have hread : ∀ groups : List Group, groups.length = 6 → s = joined (groups.map Group.chars) →
      ∃ options, WakeOptions.ofText s = some options ∧ optionsOfText s = .ok options ∧
        macText options.mac = joined (groups.map fun g => tidied g.digits) := by
    rintro groups hlength rfl
    have hoptions := ofText_joined hlength
    exact ⟨_, hoptions, optionsOfText_of_some hoptions, macText_values groups⟩
  have hmac : ∀ groups : List (List Char), groups.length = 6 → (∀ ds ∈ groups, IsByteText ds) →
      s = joined groups →
        ∃ options, WakeOptions.ofText s = some options ∧ optionsOfText s = .ok options ∧
          macText options.mac = joined (groups.map tidied) := by
    intro groups hlength hgroups hs
    obtain ⟨read, hchars, hdigits⟩ := exists_groups_of_isByteText hgroups
    obtain ⟨options, hoptions, hof, htext⟩ :=
      hread read (by rw [← hlength, ← hchars, List.length_map]) (by rw [hchars, hs])
    exact ⟨options, hoptions, hof, by rw [htext, ← hdigits, List.map_map]; rfl⟩
  refine ⟨hread, fun hnone => ?_, ⟨fun h => ?_, fun ⟨hsome, hpieces⟩ => ?_⟩, hmac⟩
  · have hoptions : WakeOptions.ofText s = none :=
      Option.eq_none_iff_forall_ne_some.mpr fun options h => hnone (exists_groups_of_ofText h)
    exact ⟨hoptions, optionsOfText_of_none hoptions⟩
  · obtain ⟨groups, hlength, hgroups, hs⟩ := h
    obtain ⟨options, hoptions, -⟩ := hmac groups hlength hgroups hs
    refine ⟨by rw [hoptions]; rfl, fun ds hds => ?_⟩
    have hds := (isMacText_iff.mp ⟨groups, hlength, hgroups, hs⟩).2 ds hds
    have htwo : ds.length ≤ 2 := by
      have hlength := hds.length
      omega
    exact ⟨hds.plus_not_mem, htwo⟩
  · obtain ⟨options, hoptions⟩ := Option.isSome_iff_exists.mp hsome
    obtain ⟨groups, hlength, rfl⟩ := exists_groups_of_ofText hoptions
    rw [splitAt_chars hlength] at hpieces
    refine ⟨groups.map Group.chars, by rw [List.length_map, hlength], fun ds hds => ?_, rfl⟩
    obtain ⟨hsign, htwo⟩ := hpieces ds hds
    obtain ⟨g, -, rfl⟩ := List.mem_map.mp hds
    exact g.isByteText_chars hsign htwo

/-- Signs are read, and so are zeros beyond two digits, though neither stands in a MAC address. -/
theorem signed_mac_accepted :
    (¬IsMacText "+a:+b:+c:1:2:3" ∧
      ∃ options, optionsOfText "+a:+b:+c:1:2:3" = .ok options ∧
        WakeOptions.ofText "+a:+b:+c:1:2:3" = some options ∧
        macText options.mac = "0a:0b:0c:01:02:03") ∧
    (¬IsMacText "0ff:000000001:0:0:0:0" ∧
      ∃ options, optionsOfText "0ff:000000001:0:0:0:0" = .ok options ∧
        WakeOptions.ofText "0ff:000000001:0:0:0:0" = some options ∧
        macText options.mac = "ff:01:00:00:00:00") := by
  refine ⟨⟨by decide, { mac := [10, 11, 12, 1, 2, 3] }, ?_, ?_, ?_⟩,
    ⟨by decide, { mac := [255, 1, 0, 0, 0, 0] }, ?_, ?_, ?_⟩⟩ <;> decide

end OutOfBand.Wake
