import Mathlib.Data.List.Basic
import OutOfBand.Net.IpAddress
import OutOfBand.Proofs.Json.Scalars

/-!
# The text of an address

An address is read back from its text (`parse?_text`), and nothing is read but addresses with parts
of the right number and size (`IpAddress.Sound`). The readers take a part as soon as there is one,
so what matters is where a text has no part to take: where a group is left out, there are two
colons, and a text without points has no octets in it. Of which characters an address is written is
told apart for the two kinds (`chars_of_v4`, `chars_of_v6`).
-/

namespace OutOfBand.IpAddress

open Json

variable {c : Char} {cs rest : List Char} {g n room index : Nat} {gs : List Nat}

/-- Four octets, or eight groups of sixteen bits. -/
def Sound : IpAddress → Prop
  | v4 octets => octets.length = 4 ∧ ∀ n ∈ octets, n < 256
  | v6 groups => groups.length = 8 ∧ ∀ g ∈ groups, g < 65536

/-! ## Octets -/

theorem octet_toDigits (hn : n < 256) (hrest : ∀ c ∈ rest.head?, Decimal.isDigit c = false) :
    octet (Nat.toDigits 10 n ++ rest) = some (n, rest) := by
  have hdigits := takeWhile_append_of_ends (fun _ => isDigit_of_mem_toDigits (n := n)) hrest
  have hlength : (Nat.toDigits 10 n).length ≤ 3 :=
    (Nat.length_toDigits_le_iff (by decide) (by decide)).mpr (by omega)
  have hsize : ((Nat.toDigits 10 n).isEmpty || decide (3 < (Nat.toDigits 10 n).length) ||
      decide (255 < n)) = false := by
    simp only [Bool.or_eq_false_iff, List.isEmpty_eq_false_iff, decide_eq_false_iff_not]
    exact ⟨⟨List.ne_nil_of_length_pos Nat.length_toDigits_pos, by omega⟩, by omega⟩
  have hzero : ((Nat.toDigits 10 n).head? == some '0' && decide (1 < (Nat.toDigits 10 n).length)) =
      false := by
    cases htext : Nat.toDigits 10 n with
    | nil => rfl
    | cons d ds =>
        by_cases hd : d = '0'
        · subst d
          rw [(toDigits_eq_cons_zero htext).2]
          rfl
        · simp [hd]
  simp only [octet, hdigits, accumulate_toDigits, hsize, hzero, List.drop_left,
    Bool.false_eq_true, if_false]

theorem octet_lt (h : octet cs = some (n, rest)) : n < 256 := by
  simp only [octet] at h
  split at h
  · cases h
  · next hsize =>
      split at h
      · cases h
      · cases h
        simp only [Bool.or_eq_true, decide_eq_true_eq, not_or] at hsize
        omega

/-- What is left after an octet is the end of the text. -/
theorem octet_suffix (h : octet cs = some (n, rest)) : rest <:+ cs := by
  simp only [octet] at h
  split at h
  · cases h
  · split at h
    · cases h
    · cases h
      exact List.drop_suffix ..

theorem octet_eq_none (hc : Decimal.isDigit c = false) : octet (c :: cs) = none := by
  simp [octet, hc]

theorem given_eq_some_iff : given c cs = some ((), rest) ↔ cs = c :: rest := by
  cases cs with
  | nil => simp [given]
  | cons d cs =>
      by_cases hd : d = c
      · simp [given, hd]
      · simp [given, hd]

theorem octets_eq_some {os : List Nat} (h : octets cs = some (os, rest)) :
    ∃ a b c d, os = [a, b, c, d] ∧ (a < 256 ∧ b < 256 ∧ c < 256 ∧ d < 256) ∧ '.' ∈ cs := by
  simp only [octets, bind, Option.bind_eq_some_iff, Prod.exists, pure, Option.some.injEq,
    Prod.mk.injEq] at h
  obtain ⟨a, cs₁, ha, ⟨⟩, cs₂, hdot, b, cs₃, hb, ⟨⟩, cs₄, -, c, cs₅, hc, ⟨⟩, cs₆, -, d, cs₇, hd,
    rfl, -⟩ := h
  refine ⟨a, b, c, d, rfl, ⟨octet_lt ha, octet_lt hb, octet_lt hc, octet_lt hd⟩, ?_⟩
  -- The first octet leaves the point that comes after it.
  rw [given_eq_some_iff.mp hdot] at ha
  exact (octet_suffix ha).subset List.mem_cons_self

theorem octets_eq_none (h : '.' ∉ cs) : octets cs = none := by
  rw [Option.eq_none_iff_forall_ne_some]
  rintro ⟨os, rest⟩ hread
  obtain ⟨-, -, -, -, -, -, hdot⟩ := octets_eq_some hread
  exact h hdot

theorem octets_eq_none_of_head (hc : Decimal.isDigit c = false) : octets (c :: cs) = none := by
  simp [octets, octet_eq_none hc]

/-- The four octets of an address as they are written. -/
def octetChars (a b c d : Nat) : List Char :=
  Nat.toDigits 10 a ++ '.' :: (Nat.toDigits 10 b ++ '.' ::
    (Nat.toDigits 10 c ++ '.' :: Nat.toDigits 10 d))

theorem toList_octetsText (a b c d : Nat) :
    (octetsText [a, b, c, d]).toList = octetChars a b c d := by
  simp [octetsText, octetChars, Nat.toString_eq_repr, Nat.toList_repr]

theorem octets_octetChars {a b c d : Nat} (ha : a < 256) (hb : b < 256) (hc : c < 256)
    (hd : d < 256) : octets (octetChars a b c d) = some ([a, b, c, d], []) := by
  have hpoint : ∀ cs : List Char, ∀ e ∈ ('.' :: cs).head?, Decimal.isDigit e = false := by
    rintro cs e ⟨⟩
    decide
  have hlast : octet (Nat.toDigits 10 d ++ []) = some (d, []) := octet_toDigits hd (by simp)
  rw [List.append_nil] at hlast
  simp [octets, octetChars, octet_toDigits ha (hpoint _), octet_toDigits hb (hpoint _),
    octet_toDigits hc (hpoint _), hlast, given]

/-! ## Groups -/

/-- Whether a character is a hexadecimal digit. -/
def isHexDigit (c : Char) : Bool := (Text.hexValue c).isSome

/-- The number that hexadecimal digits write after the number `n`. -/
def accumulateHex (n : Nat) (ds : List Char) : Nat :=
  ds.foldl (fun n c => 16 * n + (Text.hexValue c).getD 0) n

theorem hexValue_lt (h : Text.hexValue c = some n) : n < 16 := by
  simp only [Text.hexValue, Bool.and_eq_true, decide_eq_true_eq] at h
  split at h
  · cases h
    omega
  · split at h
    · cases h
      omega
    · split at h
      · cases h
        omega
      · cases h

theorem accumulateHex_lt (ds : List Char) :
    accumulateHex n ds < (n + 1) * Nat.pow 16 ds.length := by
  induction ds generalizing n with
  | nil => simp [accumulateHex]
  | cons c ds ih =>
      have hc : (Text.hexValue c).getD 0 < 16 := by
        cases hvalue : Text.hexValue c with
        | none => decide
        | some v => exact hexValue_lt hvalue
      calc accumulateHex (16 * n + (Text.hexValue c).getD 0) ds
          < (16 * n + (Text.hexValue c).getD 0 + 1) * Nat.pow 16 ds.length := ih
        _ ≤ ((n + 1) * 16) * Nat.pow 16 ds.length := Nat.mul_le_mul_right _ (by omega)
        _ = (n + 1) * Nat.pow 16 (ds.length + 1) := by
          rw [Nat.mul_assoc, Nat.mul_comm 16]
          rfl

theorem group_lt (h : group cs = some (g, rest)) : g < 65536 := by
  simp only [group] at h
  split at h
  · cases h
  · next hsize =>
      cases h
      simp only [Bool.or_eq_true, decide_eq_true_eq, not_or] at hsize
      have hpow : Nat.pow 16 (cs.takeWhile isHexDigit).length ≤ Nat.pow 16 4 :=
        Nat.pow_le_pow_right (by decide) (Nat.le_of_not_lt hsize.2)
      have hlt : accumulateHex 0 (cs.takeWhile isHexDigit) < _ := accumulateHex_lt _
      rw [Nat.zero_add, Nat.one_mul] at hlt
      exact Nat.lt_of_lt_of_le hlt hpow

theorem isHexDigit_hexDigit (hn : n < 16) : isHexDigit (Text.hexDigit n) = true := by
  rw [isHexDigit, Text.hexValue_hexDigit n hn]
  rfl

theorem isHexDigit_of_mem_hexOfNat (h : c ∈ Text.hexOfNat n) : isHexDigit c = true := by
  induction n using Text.hexOfNat.induct with
  | case1 n hn =>
      rw [Text.hexOfNat, if_pos hn, List.mem_singleton] at h
      exact h ▸ isHexDigit_hexDigit hn
  | case2 n hn ih =>
      rw [Text.hexOfNat, if_neg hn, List.mem_append, List.mem_singleton] at h
      rcases h with h | rfl
      · exact ih h
      · exact isHexDigit_hexDigit (Nat.mod_lt _ (by decide))

theorem hexOfNat_ne_nil (n : Nat) : Text.hexOfNat n ≠ [] := by
  rw [Text.hexOfNat]
  split <;> simp

theorem length_hexOfNat_le {k : Nat} (h : n < Nat.pow 16 (k + 1)) :
    (Text.hexOfNat n).length ≤ k + 1 := by
  induction k generalizing n with
  | zero =>
      rw [Text.hexOfNat, if_pos (show n < 16 from h)]
      simp
  | succ k ih =>
      replace h : n < Nat.pow 16 (k + 1) * 16 := h
      rw [Text.hexOfNat]
      split
      · simp
      · have hfront : n / 16 < Nat.pow 16 (k + 1) := by omega
        rw [List.length_append, List.length_singleton]
        exact Nat.succ_le_succ (ih hfront)

theorem accumulateHex_hexOfNat (n : Nat) : accumulateHex 0 (Text.hexOfNat n) = n := by
  induction n using Text.hexOfNat.induct with
  | case1 n hn =>
      rw [Text.hexOfNat, if_pos hn]
      simp [accumulateHex, Text.hexValue_hexDigit n hn]
  | case2 n hn ih =>
      have hlast := Text.hexValue_hexDigit (n % 16) (Nat.mod_lt _ (by decide))
      rw [accumulateHex] at ih
      rw [Text.hexOfNat, if_neg hn, accumulateHex, List.foldl_append, ih]
      simp only [List.foldl_cons, List.foldl_nil, hlast, Option.getD_some]
      omega

/-- What follows a group does not continue it. -/
def EndsGroup (cs : List Char) : Prop := ∀ c ∈ cs.head?, isHexDigit c = false

theorem endsGroup_nil : EndsGroup [] := by rintro _ ⟨⟩

theorem endsGroup_colon : EndsGroup (':' :: cs) := by
  rintro _ ⟨⟩
  decide

/-- **A group is read back** where something ends its digits. -/
theorem group_hexOfNat (hg : g < 65536) (hrest : EndsGroup rest) :
    group (Text.hexOfNat g ++ rest) = some (g, rest) := by
  have hdigits : (Text.hexOfNat g ++ rest).takeWhile (fun c => (Text.hexValue c).isSome) =
      Text.hexOfNat g := takeWhile_append_of_ends (fun _ => isHexDigit_of_mem_hexOfNat) hrest
  have hlength : (Text.hexOfNat g).length ≤ 4 := length_hexOfNat_le hg
  have hvalue := accumulateHex_hexOfNat g
  rw [accumulateHex] at hvalue
  simp [group, hdigits, hvalue, hexOfNat_ne_nil, hlength]

theorem group_eq_none (h : EndsGroup cs) : group cs = none := by
  cases cs with
  | nil => rfl
  | cons c cs =>
      have hc : (Text.hexValue c).isSome = false := h c rfl
      simp [group, hc]

/-! ## Rows of groups -/

theorem embedded_eq_none (h : '.' ∉ cs) : embedded index cs = none := by
  -- A colon may be taken first, but that leaves no point either.
  have hseparated : ∀ rest, separator ':' index cs = some ((), rest) → octets rest = none := by
    intro rest hsep
    refine octets_eq_none fun hdot => h ?_
    simp only [separator] at hsep
    split at hsep
    · cases hsep
      exact hdot
    · rw [given_eq_some_iff.mp hsep]
      exact List.mem_cons_of_mem _ hdot
  cases hsep : separator ':' index cs with
  | none => simp [embedded, hsep]
  | some p => simp [embedded, hsep, hseparated p.2 hsep]

theorem embedded_lt {pair : List Nat} (h : embedded index cs = some (pair, rest)) :
    pair.length = 2 ∧ ∀ g ∈ pair, g < 65536 := by
  simp only [embedded, bind, Option.bind_eq_some_iff, Prod.exists] at h
  obtain ⟨⟨⟩, cs₁, -, os, cs₂, hos, h⟩ := h
  obtain ⟨a, b, c, d, rfl, ⟨ha, hb, hc, hd⟩, -⟩ := octets_eq_some hos
  cases h
  simp only [List.length_cons, List.length_nil, List.forall_mem_cons, true_and]
  exact ⟨by omega, by omega, by simp⟩

/-- What is read as groups has the size of groups, and there are no more than there is room for. -/
theorem groups_sound (room index : Nat) (cs : List Char) :
    (groups room index cs).1.length ≤ room ∧ ∀ g ∈ (groups room index cs).1, g < 65536 := by
  induction room generalizing index cs with
  | zero => simp [groups]
  | succ room ih =>
      rw [groups]
      split
      · next pair rest hpair =>
          split at hpair
          · cases hpair
          · obtain ⟨hlength, hlt⟩ := embedded_lt hpair
            refine ⟨?_, hlt⟩
            change pair.length ≤ room + 1
            omega
      · split
        · next g rest hg =>
            obtain ⟨p, -, hg⟩ := Option.bind_eq_some_iff.mp hg
            obtain ⟨hlength, hlt⟩ := ih (index + 1) rest
            exact ⟨Nat.succ_le_succ hlength, List.forall_mem_cons.mpr ⟨group_lt hg, hlt⟩⟩
        · simp

theorem eightGroups_sound (h : eightGroups cs = some (gs, rest)) : (v6 gs).Sound := by
  obtain ⟨hlength, hlt⟩ := groups_sound 8 0 cs
  simp only [eightGroups] at h
  split at h
  · cases h
    exact ⟨‹_›, hlt⟩
  · split at h
    · cases h
    · simp only [bind, Option.bind_eq_some_iff, Prod.exists, pure, Option.some.injEq,
        Prod.mk.injEq] at h
      obtain ⟨-, -, -, -, cs₂, -, rfl, -⟩ := h
      obtain ⟨hlength', hlt'⟩ := groups_sound (7 - (groups 8 0 cs).1.length) 0 cs₂
      refine ⟨by simp only [List.length_append, List.length_replicate]; omega, fun g hg => ?_⟩
      simp only [List.mem_append, List.mem_replicate] at hg
      rcases hg with (hg | ⟨-, rfl⟩) | hg
      · exact hlt g hg
      · decide
      · exact hlt' g hg

/-! ## The characters of an address -/

/-- Such characters are taken from the start of a text, and what is left follows them. -/
def Takes (p : Char → Bool) (cs rest : List Char) : Prop :=
  ∃ ds, cs = ds ++ rest ∧ ∀ c ∈ ds, p c = true

section Takes

variable {p q : Char → Bool} {ds : List Char}

theorem Takes.refl (p : Char → Bool) (cs : List Char) : Takes p cs cs := ⟨[], rfl, by simp⟩

theorem Takes.trans (h : Takes p cs ds) (h' : Takes p ds rest) : Takes p cs rest := by
  obtain ⟨front, rfl, hfront⟩ := h
  obtain ⟨middle, rfl, hmiddle⟩ := h'
  exact ⟨front ++ middle, by simp, List.forall_mem_append.mpr ⟨hfront, hmiddle⟩⟩

theorem Takes.mono (h : Takes p cs rest) (hpq : ∀ c, p c = true → q c = true) :
    Takes q cs rest := by
  obtain ⟨front, hcs, hfront⟩ := h
  exact ⟨front, hcs, fun c hc => hpq c (hfront c hc)⟩

theorem Takes.all (h : Takes p cs []) : ∀ c ∈ cs, p c = true := by
  obtain ⟨front, rfl, hfront⟩ := h
  rwa [List.append_nil]

theorem Takes.count_le (h : Takes p cs rest) : rest.count c ≤ cs.count c := by
  obtain ⟨front, rfl, -⟩ := h
  exact (List.sublist_append_right front rest).count_le c

theorem takes_takeWhile (p : Char → Bool) (cs : List Char) :
    Takes p cs (cs.drop (cs.takeWhile p).length) :=
  ⟨cs.takeWhile p, (List.prefix_iff_eq_append.mp (List.takeWhile_prefix p)).symm,
    fun _ => List.all_eq_true.mp List.all_takeWhile _⟩

theorem takes_given (h : given c cs = some ((), rest)) (hc : p c = true) : Takes p cs rest :=
  ⟨[c], given_eq_some_iff.mp h, by simpa using hc⟩

end Takes

/-- Whether a character may stand in the text of four octets. -/
def isOctetChar (c : Char) : Bool := Decimal.isDigit c || c == '.'

/-- Whether a character may stand in the text of eight groups. -/
def isGroupChar (c : Char) : Bool := isHexDigit c || c == ':' || c == '.'

theorem isHexDigit_of_isDigit (h : Decimal.isDigit c = true) : isHexDigit c = true := by
  have hrange : (decide (0x30 ≤ c.toNat) && decide (c.toNat ≤ 0x39)) = true := h
  simp [isHexDigit, Text.hexValue, hrange]

theorem isGroupChar_of_isOctetChar (c : Char) (h : isOctetChar c = true) :
    isGroupChar c = true := by
  rcases (Bool.or_eq_true _ _).mp h with hdigit | hpoint
  · simp [isGroupChar, isHexDigit_of_isDigit hdigit]
  · simp [isGroupChar, hpoint]

theorem octet_takes (h : octet cs = some (n, rest)) : Takes isOctetChar cs rest := by
  simp only [octet] at h
  split at h
  · cases h
  · split at h
    · cases h
    · cases h
      exact (takes_takeWhile Decimal.isDigit cs).mono fun c hc => by simp [isOctetChar, hc]

theorem octets_takes {os : List Nat} (h : octets cs = some (os, rest)) :
    Takes isOctetChar cs rest := by
  simp only [octets, bind, Option.bind_eq_some_iff, Prod.exists, pure, Option.some.injEq,
    Prod.mk.injEq] at h
  obtain ⟨a, cs₁, ha, ⟨⟩, cs₂, hab, b, cs₃, hb, ⟨⟩, cs₄, hbc, c, cs₅, hc, ⟨⟩, cs₆, hcd, d, cs₇, hd,
    -, rfl⟩ := h
  have hpoint : isOctetChar '.' = true := by decide
  exact (octet_takes ha).trans <| (takes_given hab hpoint).trans <|
    (octet_takes hb).trans <| (takes_given hbc hpoint).trans <|
    (octet_takes hc).trans <| (takes_given hcd hpoint).trans (octet_takes hd)

theorem group_takes (h : group cs = some (g, rest)) : Takes isGroupChar cs rest := by
  simp only [group] at h
  split at h
  · cases h
  · cases h
    exact (takes_takeWhile isHexDigit cs).mono fun c hc => by simp [isGroupChar, hc]

/-- A separator is taken, and one that is not the first is a colon. -/
theorem separator_takes (h : separator ':' index cs = some ((), rest)) :
    Takes isGroupChar cs rest ∧ (index ≠ 0 → cs.count ':' = rest.count ':' + 1) := by
  simp only [separator] at h
  split at h
  · cases h
    exact ⟨.refl _ _, fun hindex => absurd ‹_› hindex⟩
  · refine ⟨takes_given h (by decide), fun _ => ?_⟩
    rw [given_eq_some_iff.mp h, List.count_cons_self]

theorem embedded_takes {pair : List Nat} (h : embedded index cs = some (pair, rest)) :
    Takes isGroupChar cs rest ∧ (index ≠ 0 → rest.count ':' + 1 ≤ cs.count ':') := by
  simp only [embedded, bind, Option.bind_eq_some_iff, Prod.exists] at h
  obtain ⟨⟨⟩, cs₁, hsep, os, cs₂, hos, h⟩ := h
  obtain ⟨a, b, c, d, rfl, -, -⟩ := octets_eq_some hos
  cases h
  obtain ⟨hcolon, hcount⟩ := separator_takes hsep
  have hoctets := (octets_takes hos).mono isGroupChar_of_isOctetChar
  refine ⟨hcolon.trans hoctets, fun hindex => ?_⟩
  have hle : rest.count ':' ≤ cs₁.count ':' := hoctets.count_le
  rw [hcount hindex]
  omega

/-- There is a colon between any two groups that are read; two groups may be one IPv4 address. -/
theorem groups_takes (room index : Nat) (cs : List Char) :
    Takes isGroupChar cs (groups room index cs).2.2 ∧
      (groups room index cs).1.length + (groups room index cs).2.2.count ':' ≤
        cs.count ':' + (if index = 0 then 2 else 1) := by
  induction room generalizing index cs with
  | zero =>
      refine ⟨.refl _ _, ?_⟩
      simp [groups]
  | succ room ih =>
      rw [groups]
      split
      · next pair rest hpair =>
          split at hpair
          · cases hpair
          · obtain ⟨htakes, hcount⟩ := embedded_takes hpair
            have hlength := (embedded_lt hpair).1
            refine ⟨htakes, ?_⟩
            have hle : rest.count ':' ≤ cs.count ':' := htakes.count_le
            change pair.length + rest.count ':' ≤ _
            split <;> omega
      · split
        · next g rest hg =>
            obtain ⟨⟨⟨⟩, cs₁⟩, hsep, hg⟩ := Option.bind_eq_some_iff.mp hg
            obtain ⟨hcolon, hcount⟩ := separator_takes hsep
            have hgroup := group_takes hg
            obtain ⟨hmore, hlength⟩ := ih (index + 1) rest
            refine ⟨(hcolon.trans hgroup).trans hmore, ?_⟩
            have hle : rest.count ':' ≤ cs₁.count ':' := hgroup.count_le
            have hle' : cs₁.count ':' ≤ cs.count ':' := hcolon.count_le
            rw [if_neg (Nat.succ_ne_zero index)] at hlength
            change (groups room (index + 1) rest).1.length + 1 +
              (groups room (index + 1) rest).2.2.count ':' ≤ _
            split <;> omega
        · exact ⟨.refl _ _, by simp⟩

theorem eightGroups_takes (h : eightGroups cs = some (gs, rest)) :
    Takes isGroupChar cs rest ∧ rest.count ':' + 2 ≤ cs.count ':' := by
  obtain ⟨htakes, hcount⟩ := groups_takes 8 0 cs
  rw [if_pos rfl] at hcount
  simp only [eightGroups] at h
  split at h
  · cases h
    refine ⟨htakes, ?_⟩
    change (groups 8 0 cs).2.2.count ':' + 2 ≤ _
    omega
  · split at h
    · cases h
    · simp only [bind, Option.bind_eq_some_iff, Prod.exists, pure, Option.some.injEq,
        Prod.mk.injEq] at h
      obtain ⟨⟨⟩, cs₁, hfirst, ⟨⟩, cs₂, hsecond, -, rfl⟩ := h
      obtain ⟨hmore, -⟩ := groups_takes (7 - (groups 8 0 cs).1.length) 0 cs₂
      refine ⟨(htakes.trans (takes_given hfirst (by decide))).trans
        ((takes_given hsecond (by decide)).trans hmore), ?_⟩
      have hcolons : (groups 8 0 cs).2.2.count ':' = cs₂.count ':' + 2 := by
        rw [given_eq_some_iff.mp hfirst, given_eq_some_iff.mp hsecond]
        simp
      have hle : (groups 8 0 cs).2.2.count ':' ≤ cs.count ':' := htakes.count_le
      have hle' : (groups (7 - (groups 8 0 cs).1.length) 0 cs₂).2.2.count ':' ≤ cs₂.count ':' :=
        hmore.count_le
      change (groups (7 - (groups 8 0 cs).1.length) 0 cs₂).2.2.count ':' + 2 ≤ _
      omega

/-! ## Groups as they are written -/

/-- The groups that follow another one. -/
def groupTail (gs : List Nat) : List Char := gs.flatMap fun g => ':' :: Text.hexOfNat g

def groupChars : List Nat → List Char
  | [] => []
  | g :: gs => Text.hexOfNat g ++ groupTail gs

theorem toList_groupsText (gs : List Nat) : (groupsText gs).toList = groupChars gs := by
  rw [groupsText, String.toList_intercalate]
  cases gs with
  | nil => rfl
  | cons g gs =>
      induction gs generalizing g with
      | nil => simp [groupChars, groupTail]
      | cons g' gs ih =>
          have hrest := ih g'
          simp only [List.map_cons] at hrest ⊢
          rw [List.intercalate_cons_cons, hrest]
          simp [groupChars, groupTail]

theorem point_not_mem_hexOfNat (n : Nat) : '.' ∉ Text.hexOfNat n := by
  intro h
  have hpoint : isHexDigit '.' = false := by decide
  rw [isHexDigit_of_mem_hexOfNat h] at hpoint
  cases hpoint

theorem point_not_mem_groupTail (gs : List Nat) : '.' ∉ groupTail gs := by
  simp [groupTail, point_not_mem_hexOfNat]

theorem point_not_mem_groupChars (gs : List Nat) : '.' ∉ groupChars gs := by
  cases gs with
  | nil => simp [groupChars]
  | cons g gs => simp [groupChars, point_not_mem_hexOfNat, point_not_mem_groupTail]

theorem endsGroup_groupTail (gs : List Nat) (hrest : EndsGroup rest) :
    EndsGroup (groupTail gs ++ rest) := by
  cases gs with
  | nil => exact hrest
  | cons g gs => exact endsGroup_colon

theorem groups_stop (hpoint : '.' ∉ cs)
    (hstop : ∀ rest, separator ':' index cs = some ((), rest) → group rest = none) :
    groups room index cs = ([], false, cs) := by
  cases room with
  | zero => rfl
  | succ room =>
      rw [groups]
      cases hsep : separator ':' index cs with
      | none => simp [embedded_eq_none hpoint]
      | some p => simp [embedded_eq_none hpoint, hstop p.2 hsep]

theorem groups_next (hpoint : '.' ∉ cs) (hg : g < 65536) (hrest : EndsGroup rest)
    (hsep : separator ':' index cs = some ((), Text.hexOfNat g ++ rest)) :
    groups (room + 1) index cs =
      (g :: (groups room (index + 1) rest).1, (groups room (index + 1) rest).2) := by
  rw [groups]
  simp [embedded_eq_none hpoint, hsep, group_hexOfNat hg hrest]

/-- Groups that follow another one are read, up to where there is no group. -/
theorem groups_groupTail (hlt : ∀ g ∈ gs, g < 65536) (hpoint : '.' ∉ rest)
    (hrest : EndsGroup rest) (hstop : ∀ cs, rest = ':' :: cs → group cs = none)
    (hroom : gs.length ≤ room) (hindex : index ≠ 0) :
    groups room index (groupTail gs ++ rest) = (gs, false, rest) := by
  induction gs generalizing room index with
  | nil =>
      refine groups_stop hpoint fun cs hsep => hstop cs ?_
      rw [separator, if_neg hindex] at hsep
      exact given_eq_some_iff.mp hsep
  | cons g gs ih =>
      obtain ⟨hg, hgs⟩ := List.forall_mem_cons.mp hlt
      rw [List.length_cons] at hroom
      obtain ⟨room, rfl⟩ := Nat.exists_eq_succ_of_ne_zero (by omega : room ≠ 0)
      have hsep : separator ':' index (groupTail (g :: gs) ++ rest) =
          some ((), Text.hexOfNat g ++ (groupTail gs ++ rest)) := by
        rw [separator, if_neg hindex]
        exact given_eq_some_iff.mpr (by simp [groupTail])
      have hpoints : '.' ∉ groupTail (g :: gs) ++ rest := by
        simp [point_not_mem_groupTail, hpoint]
      rw [groups_next hpoints hg (endsGroup_groupTail gs hrest) hsep,
        ih hgs (by omega) (by omega)]

theorem groups_groupChars (hlt : ∀ g ∈ gs, g < 65536) (hpoint : '.' ∉ rest)
    (hrest : EndsGroup rest) (hstop : ∀ cs, rest = ':' :: cs → group cs = none)
    (hroom : gs.length ≤ room) :
    groups room 0 (groupChars gs ++ rest) = (gs, false, rest) := by
  cases gs with
  | nil =>
      refine groups_stop hpoint fun cs hsep => ?_
      cases hsep
      exact group_eq_none hrest
  | cons g gs =>
      obtain ⟨hg, hgs⟩ := List.forall_mem_cons.mp hlt
      rw [List.length_cons] at hroom
      obtain ⟨room, rfl⟩ := Nat.exists_eq_succ_of_ne_zero (by omega : room ≠ 0)
      have hsep : separator ':' 0 (groupChars (g :: gs) ++ rest) =
          some ((), Text.hexOfNat g ++ (groupTail gs ++ rest)) := by simp [separator, groupChars]
      have hpoints : '.' ∉ groupChars (g :: gs) ++ rest := by
        simp [point_not_mem_groupChars, hpoint]
      rw [groups_next hpoints hg (endsGroup_groupTail gs hrest) hsep,
        groups_groupTail hgs hpoint hrest hstop (by omega) (by omega)]

theorem groups_all (hlt : ∀ g ∈ gs, g < 65536) (hroom : gs.length ≤ room) :
    groups room 0 (groupChars gs) = (gs, false, []) := by
  have hread : groups room 0 (groupChars gs ++ []) = (gs, false, []) :=
    groups_groupChars hlt (by simp) endsGroup_nil (by simp) hroom
  rwa [List.append_nil] at hread

/-- Eight groups are read back. -/
theorem eightGroups_all (h : (v6 gs).Sound) : eightGroups (groupChars gs) = some (gs, []) := by
  simp [eightGroups, groups_all h.2 (Nat.le_of_eq h.1), h.1]

/-- Where groups are left out, zeros are read. -/
theorem eightGroups_shortened {front back : List Nat} (hfront : ∀ g ∈ front, g < 65536)
    (hback : ∀ g ∈ back, g < 65536) (hlength : front.length + back.length < 8) :
    eightGroups (groupChars front ++ ':' :: ':' :: groupChars back) =
      some (front ++ List.replicate (8 - front.length - back.length) 0 ++ back, []) := by
  have hfirst : groups 8 0 (groupChars front ++ ':' :: ':' :: groupChars back) =
      (front, false, ':' :: ':' :: groupChars back) :=
    groups_groupChars hfront (by simp [point_not_mem_groupChars]) endsGroup_colon
      (by rintro _ ⟨⟩; exact group_eq_none endsGroup_colon) (by omega)
  have hsecond := groups_all hback (by omega : back.length ≤ 7 - front.length)
  have hnot : front.length ≠ 8 := by omega
  simp [eightGroups, hfirst, hnot, given, hsecond]

/-- The last two groups may be written as the octets of an IPv4 address. -/
theorem eightGroups_embedded {a b : Nat} (ha : a < 65536) (hb : b < 65536) :
    eightGroups (':' :: ':' :: 'f' :: 'f' :: 'f' :: 'f' :: ':' ::
      octetChars (a / 256) (a % 256) (b / 256) (b % 256)) =
      some ([0, 0, 0, 0, 0, 0xffff, a, b], []) := by
  have hoctets := octets_octetChars (by omega : a / 256 < 256) (by omega : a % 256 < 256)
    (by omega : b / 256 < 256) (by omega : b % 256 < 256)
  generalize octetChars (a / 256) (a % 256) (b / 256) (b % 256) = cs at hoctets
  -- No group stands at the start; those after the colons are one, and then a pair from octets.
  have hnone : groups 8 0 (':' :: ':' :: 'f' :: 'f' :: 'f' :: 'f' :: ':' :: cs) =
      ([], false, ':' :: ':' :: 'f' :: 'f' :: 'f' :: 'f' :: ':' :: cs) := by
    rw [groups]
    simp [embedded, separator, octets_eq_none_of_head (show Decimal.isDigit ':' = false by decide),
      group_eq_none endsGroup_colon]
  have hfirst : group ('f' :: 'f' :: 'f' :: 'f' :: ':' :: cs) = some (0xffff, ':' :: cs) := rfl
  have hpair : groups 6 1 (':' :: cs) = ([a, b], true, []) := by
    rw [groups]
    simp [embedded, separator, given, hoctets]
    omega
  have hback : groups 7 0 ('f' :: 'f' :: 'f' :: 'f' :: ':' :: cs) =
      ([0xffff, a, b], true, []) := by
    rw [groups]
    simp [embedded, separator, octets_eq_none_of_head (show Decimal.isDigit 'f' = false by decide),
      hfirst, hpair]
  simp [eightGroups, hnone, given, hback]

/-! ## Runs of zeros -/

/-- What the run at a place is long, so many zeros stand there. -/
theorem drop_eq_of_zeroRuns {i k : Nat} (h : (zeroRuns gs)[i]? = some k) :
    gs.drop i = List.replicate k 0 ++ gs.drop (i + k) := by
  induction gs generalizing i k with
  | nil => simp [zeroRuns] at h
  | cons g gs ih =>
      cases i with
      | succ i =>
          rw [List.drop_succ_cons, ih (by simpa [zeroRuns] using h), Nat.succ_add,
            List.drop_succ_cons]
      | zero =>
          simp only [zeroRuns, List.getElem?_cons_zero, Option.some.injEq] at h
          by_cases hg : g = 0
          · subst hg
            rw [if_pos rfl] at h
            cases hruns : zeroRuns gs with
            | nil =>
                obtain rfl : k = 1 := by simpa [hruns] using h.symm
                rfl
            | cons k' runs =>
                obtain rfl : k = k' + 1 := by simpa [hruns] using h.symm
                have hrest := ih (i := 0) (k := k') (by simp [hruns])
                rw [List.drop_zero, Nat.zero_add] at hrest
                rw [List.drop_zero, Nat.zero_add, List.drop_succ_cons, List.replicate_succ,
                  List.cons_append, ← hrest]
          · rw [if_neg hg] at h
            subst h
            simp

theorem foldl_max_mem (ns : List Nat) (n : Nat) : ns.foldl max n = n ∨ ns.foldl max n ∈ ns := by
  induction ns generalizing n with
  | nil => exact .inl rfl
  | cons m ns ih =>
      rcases ih (max n m) with h | h
      · rw [List.foldl_cons, h]
        rcases Nat.le_total n m with hle | hle
        · simp [Nat.max_eq_right hle]
        · simp [Nat.max_eq_left hle]
      · exact .inr (List.mem_cons_of_mem _ h)

/-- The longest run of zeros lies between what stands before it and after it. -/
theorem eq_append_of_longest (hpos : 0 < (zeroRuns gs).foldl max 0) :
    gs = gs.take ((zeroRuns gs).idxOf ((zeroRuns gs).foldl max 0)) ++
      List.replicate ((zeroRuns gs).foldl max 0) 0 ++
      gs.drop ((zeroRuns gs).idxOf ((zeroRuns gs).foldl max 0) + (zeroRuns gs).foldl max 0) := by
  have hmem : (zeroRuns gs).foldl max 0 ∈ zeroRuns gs :=
    (foldl_max_mem (zeroRuns gs) 0).resolve_left (by omega)
  rw [List.append_assoc, ← drop_eq_of_zeroRuns (List.getElem?_idxOf hmem), List.take_append_drop]

/-! ## Addresses -/

/-- **Nothing is read but addresses** with parts of the right number and size. -/
theorem parse?_sound {s : String} {a : IpAddress} (h : parse? s = some a) : a.Sound := by
  simp only [parse?] at h
  split at h
  · next hos =>
      obtain ⟨a, b, c, d, rfl, hlt, -⟩ := octets_eq_some hos
      cases h
      simpa [Sound] using hlt
  · cases h
  · split at h
    · cases h
      exact eightGroups_sound ‹_›
    · cases h

/-- An IPv4 address is made of digits and points, and has a point. -/
theorem chars_of_v4 {s : String} {os : List Nat} (h : parse? s = some (.v4 os)) :
    (∀ c ∈ s.toList, isOctetChar c = true) ∧ '.' ∈ s.toList := by
  simp only [parse?] at h
  split at h
  · next hos =>
      obtain ⟨-, -, -, -, -, -, hpoint⟩ := octets_eq_some hos
      exact ⟨(octets_takes hos).all, hpoint⟩
  · cases h
  · split at h <;> cases h

/-- An IPv6 address is made of hexadecimal digits, colons and points, and has two colons. -/
theorem chars_of_v6 {s : String} (h : parse? s = some (.v6 gs)) :
    (∀ c ∈ s.toList, isGroupChar c = true) ∧ 2 ≤ s.toList.count ':' := by
  simp only [parse?] at h
  split at h
  · cases h
  · cases h
  · split at h
    · next hgroups =>
        obtain ⟨htakes, hcolons⟩ := eightGroups_takes hgroups
        exact ⟨htakes.all, by simpa using hcolons⟩
    · cases h

theorem parse?_of_octets {s : String} {os : List Nat} (h : octets s.toList = some (os, [])) :
    parse? s = some (.v4 os) := by
  simp [parse?, h]

theorem parse?_of_groups {s : String} (hnone : octets s.toList = none)
    (h : eightGroups s.toList = some (gs, [])) : parse? s = some (.v6 gs) := by
  simp [parse?, hnone, h]

theorem parse?_shortened {front back : List Nat} {k : Nat} (hk : 0 < k)
    (h : (v6 (front ++ List.replicate k 0 ++ back)).Sound) :
    parse? (groupsText front ++ "::" ++ groupsText back) =
      some (.v6 (front ++ List.replicate k 0 ++ back)) := by
  obtain ⟨hlength, hlt⟩ := h
  simp only [List.length_append, List.length_replicate] at hlength
  have htext : (groupsText front ++ "::" ++ groupsText back).toList =
      groupChars front ++ ':' :: ':' :: groupChars back := by
    simp [String.toList_append, toList_groupsText]
  have hread := eightGroups_shortened
    (fun g hg => hlt g (List.mem_append_left _ (List.mem_append_left _ hg)))
    (fun g hg => hlt g (List.mem_append_right _ hg)) (by omega : front.length + back.length < 8)
  rw [show 8 - front.length - back.length = k by omega] at hread
  refine parse?_of_groups ?_ (htext ▸ hread)
  rw [htext]
  exact octets_eq_none (by simp [point_not_mem_groupChars])

/-- **An address is read back** from its text. -/
theorem parse?_text (a : IpAddress) (h : a.Sound) : parse? a.text = some a := by
  fun_cases text a with
  | case1 os =>
      obtain ⟨hlength, hlt⟩ := h
      obtain ⟨a, b, c, d, rfl⟩ := List.length_eq_four.mp hlength
      refine parse?_of_octets ?_
      rw [toList_octetsText]
      simp only [List.forall_mem_cons] at hlt
      exact octets_octetChars hlt.1 hlt.2.1 hlt.2.2.1 hlt.2.2.2.1
  | case2 a b =>
      have hlt := h.2
      simp only [List.forall_mem_cons] at hlt
      have htext : ("::ffff:" ++ octetsText [a / 256, a % 256, b / 256, b % 256]).toList =
          ':' :: ':' :: 'f' :: 'f' :: 'f' :: 'f' :: ':' ::
            octetChars (a / 256) (a % 256) (b / 256) (b % 256) := by
        rw [String.toList_append, toList_octetsText]
        rfl
      refine parse?_of_groups ?_ ?_
      · rw [htext]
        exact octets_eq_none_of_head (by decide)
      · rw [htext]
        exact eightGroups_embedded hlt.2.2.2.2.2.2.1 hlt.2.2.2.2.2.2.2.1
  | case3 gs =>
      refine parse?_of_groups ?_ ?_
      · rw [toList_groupsText]
        exact octets_eq_none (point_not_mem_groupChars gs)
      · rw [toList_groupsText]
        exact eightGroups_all h
  | case4 gs _ runs longest hlong start =>
      have hpos : 0 < longest := Nat.lt_of_lt_of_le (by decide) (Nat.le_of_not_lt hlong)
      have hsplit : gs = gs.take start ++ List.replicate longest 0 ++ gs.drop (start + longest) :=
        eq_append_of_longest hpos
      rw [parse?_shortened hpos (hsplit ▸ h), ← hsplit]

end OutOfBand.IpAddress
