import Mathlib.Tactic.SplitIfs
import OutOfBand.Json.Printer
import OutOfBand.Json.Reader

/-!
# Reading numbers and texts that were written

An integer of at most 64 bits is read back from its digits (`value_numeralOf`), and a text from the
characters between its quotes (`readText_textChars`), whatever stands after them. A numeral ends
only where something stands that does not continue it.
-/

namespace OutOfBand.Json

variable {c : Char} {cs ds rest : List Char}

/-! ## Integers -/

/-- The numeral that an integer is written as. -/
def numeralOf (n : Int) : Numeral := ⟨n < 0, Nat.toDigits 10 n.natAbs, [], none⟩

/-- What follows a numeral does not continue it. -/
def EndsNumeral (cs : List Char) : Prop :=
  ∀ c ∈ cs.head?, Decimal.isDigit c = false ∧ c ≠ '.' ∧ c ≠ 'e' ∧ c ≠ 'E'

theorem isDigit_of_mem_toDigits {n : Nat} (h : c ∈ Nat.toDigits 10 n) :
    Decimal.isDigit c = true := by
  have hdigit : c.isDigit = true := Nat.isDigit_of_mem_toDigits (by decide) (by decide) h
  simpa [Char.isDigit, Decimal.isDigit, Char.le_def] using hdigit

/-- Numbers are written without zeros at the start. -/
theorem toDigits_eq_cons_zero {n : Nat} (h : Nat.toDigits 10 n = '0' :: ds) : n = 0 ∧ ds = [] := by
  induction n using Nat.strongRecOn generalizing ds with
  | ind n ih =>
      by_cases hn : n < 10
      · rw [Nat.toDigits_of_lt_base hn, List.cons.injEq] at h
        have hzero : ∀ d < 10, Nat.digitChar d = '0' → d = 0 := by decide
        exact ⟨hzero n hn h.1, h.2.symm⟩
      · rw [Nat.toDigits_of_base_le (by decide) (by omega)] at h
        cases hfront : Nat.toDigits 10 (n / 10) with
        | nil => exact absurd hfront (List.ne_nil_of_length_pos Nat.length_toDigits_pos)
        | cons d front =>
            rw [hfront, List.cons_append] at h
            have hzero := (ih (n / 10) (by omega) (hfront.trans (by rw [(List.cons.inj h).1]))).1
            omega

theorem accumulate_toDigits (n : Nat) : Decimal.accumulate 0 (Nat.toDigits 10 n) = n := by
  have h := Nat.ofDigitChars_toDigits (b := 10) (n := n) (by decide) (by decide)
  rwa [Nat.ofDigitChars_eq_foldl] at h

theorem le_accumulate (m : Nat) (ds : List Char) : m ≤ Decimal.accumulate m ds := by
  induction ds generalizing m with
  | nil => exact Nat.le_refl m
  | cons d ds ih => exact Nat.le_trans (by omega) (ih (10 * m + Decimal.digitValue d))

/-- Digits are all taken if what they write is small enough. -/
theorem takeDigits_of_lt {m : Nat} (h : Decimal.accumulate m ds < Numeral.limit) :
    Numeral.takeDigits m ds = (Decimal.accumulate m ds, []) := by
  induction ds generalizing m with
  | nil => rfl
  | cons d ds ih =>
      have hlt : 10 * m + Decimal.digitValue d < Numeral.limit :=
        Nat.lt_of_le_of_lt (le_accumulate _ ds) h
      simp only [Numeral.takeDigits, if_pos hlt]
      exact ih h

/-- **An integer of at most 64 bits** is the value of the numeral that it is written as. -/
theorem value_numeralOf {n : Int} (hlow : -0x8000000000000000 ≤ n)
    (hhigh : n < 0x10000000000000000) : (numeralOf n).value = some (.int n) := by
  have hlt : Decimal.accumulate 0 (Nat.toDigits 10 n.natAbs) < Numeral.limit := by
    rw [accumulate_toDigits]
    simp only [Numeral.limit, UInt64.size]
    omega
  simp only [Numeral.value, numeralOf, takeDigits_of_lt hlt, Numeral.takeDigits,
    accumulate_toDigits, List.isEmpty_nil, Bool.and_self, if_true]
  by_cases hn : n < 0
  · have hnot : (decide (n.natAbs = 0) || decide (0x8000000000000000 < n.natAbs)) = false := by
      simp only [Bool.or_eq_false_iff, decide_eq_false_iff_not]
      omega
    simp only [hn, decide_true, Bool.not_true, Bool.false_eq_true, if_false, hnot]
    rw [Option.some.injEq, Number.int.injEq]
    omega
  · simp only [hn, decide_false, Bool.not_false, if_true]
    rw [Option.some.injEq, Number.int.injEq]
    omega

section

variable {p : Char → Bool}

theorem takeWhile_append_of_ends (hds : ∀ d ∈ ds, p d = true)
    (hrest : ∀ c ∈ rest.head?, p c = false) : (ds ++ rest).takeWhile p = ds := by
  rw [List.takeWhile_append_of_pos hds]
  cases rest with
  | nil => simp
  | cons c rest => simp [hrest c rfl]

theorem dropWhile_append_of_ends (hds : ∀ d ∈ ds, p d = true)
    (hrest : ∀ c ∈ rest.head?, p c = false) : (ds ++ rest).dropWhile p = rest := by
  rw [List.dropWhile_append_of_pos hds]
  cases rest with
  | nil => rfl
  | cons c rest => simp [hrest c rfl]

end

/-- Where a numeral ends, there is neither a fraction nor an exponent. -/
theorem readFraction_of_ends (negative : Bool) (whole : List Char) (hrest : EndsNumeral rest) :
    readFraction negative whole rest = (.num ⟨negative, whole, [], none⟩, some rest) := by
  cases rest with
  | nil => rfl
  | cons c rest =>
      obtain ⟨-, hpoint, he, hE⟩ := hrest c rfl
      unfold readFraction
      split
      · exact absurd (List.cons.inj ‹_›).1 hpoint
      · simp [readExponent, he, hE]

theorem readNumeral_toDigits (negative : Bool) (n : Nat) (hrest : EndsNumeral rest) :
    readNumeral negative (Nat.toDigits 10 n ++ rest) =
      (.num ⟨negative, Nat.toDigits 10 n, [], none⟩, some rest) := by
  have hdigits : ∀ d ∈ Nat.toDigits 10 n, Decimal.isDigit d = true :=
    fun _ => isDigit_of_mem_toDigits
  have hends : ∀ c ∈ rest.head?, Decimal.isDigit c = false := fun c hc => (hrest c hc).1
  unfold readNumeral
  rw [takeWhile_append_of_ends hdigits hends, dropWhile_append_of_ends hdigits hends]
  split
  · exact absurd ‹_› (List.ne_nil_of_length_pos Nat.length_toDigits_pos)
  · rw [‹Nat.toDigits 10 n = ['0']›]
    exact readFraction_of_ends negative ['0'] hrest
  · -- Nothing follows a zero at the start.
    next hmore hzero => exact (hmore (toDigits_eq_cons_zero hzero).2).elim
  · exact readFraction_of_ends negative _ hrest

theorem numberChars_int (n : Int) :
    numberChars (.int n) = (if n < 0 then ['-'] else []) ++ Nat.toDigits 10 n.natAbs := by
  cases n with
  | ofNat n =>
      have hn : ¬(Int.ofNat n < 0) := by simp
      rw [if_neg hn]
      exact Nat.toList_repr
  | negSucc n =>
      rw [if_pos (Int.negSucc_lt_zero n)]
      change ("-" ++ (n + 1).repr).toList = _
      rw [String.toList_append, Nat.toList_repr]
      rfl

theorem readScalar_of_isDigit (hc : Decimal.isDigit c = true) :
    readScalar [] (c :: cs) = readNumeral false (c :: cs) := by
  have hother : ∀ d, Decimal.isDigit d = false → c ≠ d := by
    rintro d hd rfl
    rw [hc] at hd
    cases hd
  unfold readScalar
  split
  · cases ‹c :: cs = []›
  · exact absurd (List.cons.inj ‹_›).1 (hother 'n' (by decide))
  · exact absurd (List.cons.inj ‹_›).1 (hother 't' (by decide))
  · exact absurd (List.cons.inj ‹_›).1 (hother 'f' (by decide))
  · exact absurd (List.cons.inj ‹_›).1 (hother '"' (by decide))
  · exact absurd (List.cons.inj ‹_›).1 (hother '-' (by decide))
  · obtain ⟨rfl, rfl⟩ := List.cons.inj ‹_›
    rw [if_pos hc]

/-- **An integer is read back** where something ends its digits. -/
theorem readScalar_numberChars (n : Int) (hrest : EndsNumeral rest) :
    readScalar [] (numberChars (.int n) ++ rest) = (.num (numeralOf n), some rest) := by
  rw [numberChars_int, numeralOf]
  by_cases hn : n < 0
  · rw [if_pos hn, decide_eq_true hn]
    exact readNumeral_toDigits true n.natAbs hrest
  · rw [if_neg hn, decide_eq_false hn, ← readNumeral_toDigits false n.natAbs hrest]
    cases hdigits : Nat.toDigits 10 n.natAbs with
    | nil => exact absurd hdigits (List.ne_nil_of_length_pos Nat.length_toDigits_pos)
    | cons d ds =>
        exact readScalar_of_isDigit (isDigit_of_mem_toDigits (hdigits ▸ List.mem_cons_self))

/-! ## Texts -/

/-- The piece of a text that a character is written as: most controls are numbers. -/
def pieceOf (c : Char) : Piece :=
  if c.toNat < 0x20 ∧ c.toNat ∉ [0x08, 0x09, 0x0a, 0x0c, 0x0d] then .unit c.toNat else .char c

/-- A number that is no half of a pair stands for its character. -/
theorem joined_unit (fault : Option Breach) {n : Nat} (h : n < 0xd800) (pieces : List Piece) :
    joined fault (.unit n :: pieces) = (joined fault pieces).map (Char.ofNat n :: ·) := by
  have hleading : isLeading n = false := by simp [isLeading]; omega
  have htrailing : isTrailing n = false := by simp [isTrailing]; omega
  cases pieces with
  | nil => simp [joined, hleading, htrailing]
  | cons piece pieces => cases piece <;> simp [joined, hleading, htrailing]

theorem joined_pieceOf (fault : Option Breach) (c : Char) (pieces : List Piece) :
    joined fault (pieceOf c :: pieces) = (joined fault pieces).map (c :: ·) := by
  unfold pieceOf
  split
  · next h => rw [joined_unit fault (Nat.lt_trans h.1 (by decide)), Char.ofNat_toNat]
  · simp [joined]

theorem joined_pieces (cs : List Char) : joined none (cs.map pieceOf) = .ok cs := by
  induction cs with
  | nil => simp [joined]
  | cons c cs ih => simp [joined_pieceOf, ih, Except.map]

theorem readPieces_short {d e : Char} (hu : d ≠ 'u') (he : shortEscape d = some e)
    (cs : List Char) :
    readPieces ('\\' :: d :: cs) = (.char e :: (readPieces cs).1, (readPieces cs).2) := by
  rw [readPieces.eq_5 d cs fun _ _ _ _ _ hd _ => hu hd]
  simp [hu, he]

/-- The four digits of a control are read back. -/
theorem fourDigits_hexDigits : ∀ n < 0x20, ∃ a b c d,
    Text.hexDigits 4 n = [a, b, c, d] ∧ fourDigits a b c d = some n := by
  intro n hn
  refine ⟨_, _, _, _, rfl, ?_⟩
  revert n
  decide

/-- **A character is read back** from how it is written inside a text. -/
theorem readPieces_escaped (c : Char) (cs : List Char) :
    readPieces (escaped c ++ cs) = (pieceOf c :: (readPieces cs).1, (readPieces cs).2) := by
  have hc : c = Char.ofNat c.toNat := (Char.ofNat_toNat c).symm
  unfold escaped
  split_ifs with hquote hslash hb hf hn hr ht hcontrol
  · obtain rfl := eq_of_beq hquote
    exact readPieces_short (by decide) rfl cs
  · obtain rfl := eq_of_beq hslash
    exact readPieces_short (by decide) rfl cs
  · obtain rfl := hc.trans (congrArg Char.ofNat (eq_of_beq hb))
    exact readPieces_short (by decide) rfl cs
  · obtain rfl := hc.trans (congrArg Char.ofNat (eq_of_beq hf))
    exact readPieces_short (by decide) rfl cs
  · obtain rfl := eq_of_beq hn
    exact readPieces_short (by decide) rfl cs
  · obtain rfl := eq_of_beq hr
    exact readPieces_short (by decide) rfl cs
  · obtain rfl := eq_of_beq ht
    exact readPieces_short (by decide) rfl cs
  · have hunit : pieceOf c = .unit c.toNat := by
      have hother : ∀ d : Char, ¬(c == d) = true → c.toNat ≠ d.toNat := fun d hd heq =>
        hd (beq_iff_eq.mpr (Char.toNat_inj.mp heq))
      refine if_pos ⟨hcontrol, ?_⟩
      simp only [List.mem_cons, List.not_mem_nil, or_false, not_or]
      exact ⟨fun h => hb (beq_iff_eq.mpr h), hother '\t' ht, hother '\n' hn,
        fun h => hf (beq_iff_eq.mpr h), hother '\r' hr⟩
    obtain ⟨a, b, d, e, hdigits, hfour⟩ := fourDigits_hexDigits c.toNat hcontrol
    rw [hunit, hdigits]
    simp only [List.cons_append, List.nil_append, readPieces.eq_4, hfour]
  · have hchar : pieceOf c = .char c := if_neg fun h => hcontrol h.1
    have hq : c ≠ '"' := fun h => hquote (beq_iff_eq.mpr h)
    have hs : c ≠ '\\' := fun h => hslash (beq_iff_eq.mpr h)
    rw [hchar, List.singleton_append, readPieces.eq_6 c cs (fun h => hq h) (fun h _ => hs h)
      (fun _ _ _ _ _ h _ => hs h) (fun _ _ h _ => hs h), if_neg hcontrol]

theorem readPieces_flatMap (cs rest : List Char) :
    readPieces (cs.flatMap escaped ++ '"' :: rest) = (cs.map pieceOf, .ok rest) := by
  induction cs with
  | nil => simp [readPieces]
  | cons c cs ih => rw [List.flatMap_cons, List.append_assoc, readPieces_escaped, ih]; rfl

/-- **A text is read back** from what is written between its quotes. -/
theorem readText_textChars (s : String) (rest : List Char) :
    readText [] (s.toList.flatMap escaped ++ '"' :: rest) = (.text (.ok s), some rest) := by
  simp [readText, isFlawed, readPieces_flatMap, joined_pieces, Except.map]

end OutOfBand.Json
