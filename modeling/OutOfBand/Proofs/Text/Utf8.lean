import OutOfBand.Text.Utf8

/-!
# Text and its bytes

The bytes of a text are those of its characters, one after another, so texts are put together as
their bytes are and no two texts have the same bytes. Read as text that may be damaged, they give
the characters of the text and no flaws (`characters_encode`).
-/

namespace OutOfBand.Text.Utf8

/-! ## Bytes -/

theorem drop_eq_get_cons {bytes : ByteArray} {i : Nat} (h : i < bytes.size) :
    bytes.data.toList.drop i = bytes.get! i :: bytes.data.toList.drop (i + 1) := by
  have hget : bytes.get! i = bytes.data[i] := getElem!_pos bytes.data i h
  rw [hget, ← Array.getElem_toList]
  exact List.drop_eq_getElem_cons h

/-- Bytes are listed from the front, those that were listed before in reverse. -/
theorem listed_eq (bytes : ByteArray) (i : Nat) (before : List UInt8) :
    ByteArray.toList.loop bytes i before = before.reverse ++ bytes.data.toList.drop i := by
  fun_induction ByteArray.toList.loop bytes i before with
  | case1 i before hlt ih =>
      rw [ih, drop_eq_get_cons hlt, List.reverse_cons, List.append_assoc, List.singleton_append]
  | case2 i before hge =>
      rw [List.drop_eq_nil_of_le (Nat.le_of_not_lt hge), List.append_nil]

theorem encode_eq (s : String) : encode s = s.toByteArray.data.toList :=
  listed_eq s.toUTF8 0 []

@[simp] theorem encode_empty : encode "" = [] := by simp [encode_eq]

theorem encode_append (s t : String) : encode (s ++ t) = encode s ++ encode t := by
  simp [encode_eq]

theorem encode_injective {s t : String} (h : encode s = encode t) : s = t := by
  rw [encode_eq, encode_eq] at h
  exact String.toByteArray_inj.mp (ByteArray.ext (Array.toList_inj.mp h))

/-! ## Reading what was written -/

section Decoding

variable {n bits v : Nat} {next more : Range} {later : List Range} {bytes : List UInt8}

theorem toNat_ofNat (h : n < 256) : (UInt8.ofNat n).toNat = n := UInt8.toNat_ofNat_of_lt h

/-- Where the second of three bytes lies, by what the first byte contributes. -/
def secondOfThree (bits : Nat) : Range :=
  if bits = 0 then ⟨0xa0, 0xbf⟩ else if bits = 13 then ⟨0x80, 0x9f⟩ else tail

/-- Where the second of four bytes lies. -/
def secondOfFour (bits : Nat) : Range :=
  if bits = 0 then ⟨0x90, 0xbf⟩ else if bits = 4 then ⟨0x80, 0x8f⟩ else tail

/-- The first bytes of longer characters. -/
theorem lead_ofNat (h : n < 256) : lead (UInt8.ofNat n) =
    if 194 ≤ n ∧ n ≤ 223 then some (n - 192, [tail])
    else if 224 ≤ n ∧ n ≤ 239 then some (n - 224, [secondOfThree (n - 224), tail])
    else if 240 ≤ n ∧ n ≤ 244 then some (n - 240, [secondOfFour (n - 240), tail, tail])
    else none := by
  simp only [lead, UInt8.le_iff_toNat_le, toNat_ofNat h, UInt8.reduceToNat, Bool.and_eq_true,
    decide_eq_true_eq, beq_iff_eq, ← UInt8.toNat_inj, secondOfThree, secondOfFour]
  grind

/-- The last six bits `n` of a byte can follow in the range. -/
def Range.Allows (r : Range) (n : Nat) : Prop :=
  n < 64 ∧ r.low.toNat ≤ n + 128 ∧ n + 128 ≤ r.high.toNat

theorem tail_allows (h : n < 64) : tail.Allows n := by
  simp only [Range.Allows, tail, UInt8.reduceToNat]
  omega

/-- The second of three bytes cannot write a number that fits in two, nor half a pair. -/
theorem secondOfThree_allows (hlow : 0x800 ≤ v) (h : v < 0xd800 ∨ 0xdfff < v) (hhigh : v < 0x10000) :
    (secondOfThree (v / 4096)).Allows (v / 64 % 64) := by
  unfold secondOfThree
  split
  · simp only [Range.Allows, UInt8.reduceToNat]
    omega
  split
  · simp only [Range.Allows, UInt8.reduceToNat]
    omega
  · exact tail_allows (by omega)

theorem secondOfFour_allows (hlow : 0x10000 ≤ v) (hhigh : v < 0x110000) :
    (secondOfFour (v / 262144)).Allows (v / 4096 % 64) := by
  unfold secondOfFour
  split
  · simp only [Range.Allows, UInt8.reduceToNat]
    omega
  split
  · simp only [Range.Allows, UInt8.reduceToNat]
    omega
  · exact tail_allows (by omega)

theorem Range.Allows.has {r : Range} (h : r.Allows n) : r.has (UInt8.ofNat (n + 128)) = true := by
  obtain ⟨hn, hlow, hhigh⟩ := h
  simp only [Range.has, UInt8.le_iff_toNat_le, toNat_ofNat (by omega : n + 128 < 256), hlow, hhigh,
    decide_true, Bool.and_true]

theorem charactersFrom_short (h : n < 128) : charactersFrom none (UInt8.ofNat n :: bytes) =
    some (Char.ofNat n) :: charactersFrom none bytes := by
  have hshort : UInt8.ofNat n < 0x80 := by
    rw [UInt8.lt_iff_toNat_lt, toNat_ofNat (by omega)]
    exact h
  rw [charactersFrom, start, if_pos hshort, toNat_ofNat (by omega)]
  rfl

theorem charactersFrom_lead (h : 128 ≤ n) (h' : n < 256)
    (hlead : lead (UInt8.ofNat n) = some (bits, next :: later)) :
    charactersFrom none (UInt8.ofNat n :: bytes) =
      charactersFrom (some ⟨bits, next, later⟩) bytes := by
  have hlong : ¬ UInt8.ofNat n < 0x80 := by
    rw [UInt8.lt_iff_toNat_lt, toNat_ofNat h']
    exact Nat.not_lt.mpr h
  simp only [charactersFrom, start, if_neg hlong, hlead, List.nil_append]

theorem charactersFrom_next (h : next.Allows n) :
    charactersFrom (some ⟨bits, next, more :: later⟩) (UInt8.ofNat (n + 128) :: bytes) =
      charactersFrom (some ⟨64 * bits + n, more, later⟩) bytes := by
  have hn : n + 128 < 256 := Nat.add_lt_add_right (Nat.lt_trans h.1 (by decide)) 128
  simp only [charactersFrom, continued, h.has, if_true, toNat_ofNat hn, Nat.add_sub_cancel,
    List.nil_append]

theorem charactersFrom_last (h : next.Allows n) :
    charactersFrom (some ⟨bits, next, []⟩) (UInt8.ofNat (n + 128) :: bytes) =
      some (Char.ofNat (64 * bits + n)) :: charactersFrom none bytes := by
  have hn : n + 128 < 256 := Nat.add_lt_add_right (Nat.lt_trans h.1 (by decide)) 128
  simp only [charactersFrom, continued, h.has, if_true, toNat_ofNat hn, Nat.add_sub_cancel,
    List.cons_append, List.nil_append]

/-- The bytes of a character are read as the character: one, two, three or four of them. -/
theorem charactersFrom_char (c : Char) (bytes : List UInt8) :
    charactersFrom none (String.utf8EncodeChar c ++ bytes) =
      some c :: charactersFrom none bytes := by
  have hc : Char.ofNat c.val.toNat = c := Char.ofNat_toNat c
  have hvalid : c.val.toNat < 0xd800 ∨ 0xdfff < c.val.toNat ∧ c.val.toNat < 0x110000 := c.valid
  simp only [String.utf8EncodeChar]
  generalize c.val.toNat = v at hc hvalid
  have hlast : tail.Allows (v % 64) := tail_allows (Nat.mod_lt v (by decide))
  split
  · rw [List.singleton_append, charactersFrom_short (by omega), hc]
  split
  · have hlead := lead_ofNat (n := v / 64 % 32 + 192) (by omega)
    rw [if_pos (by omega), Nat.add_sub_cancel] at hlead
    rw [List.cons_append, charactersFrom_lead (by omega) (by omega) hlead, List.cons_append,
      charactersFrom_last hlast, List.nil_append,
      show 64 * (v / 64 % 32) + v % 64 = v by omega, hc]
  split
  · have hlead := lead_ofNat (n := v / 4096 % 16 + 224) (by omega)
    rw [if_neg (by omega), if_pos (by omega), Nat.add_sub_cancel,
      show v / 4096 % 16 = v / 4096 by omega] at hlead
    have hsecond := secondOfThree_allows (v := v) (by omega) (by omega) (by omega)
    rw [show v / 4096 % 16 = v / 4096 by omega, List.cons_append,
      charactersFrom_lead (by omega) (by omega) hlead, List.cons_append,
      charactersFrom_next hsecond, List.cons_append, charactersFrom_last hlast, List.nil_append,
      show 64 * (64 * (v / 4096) + v / 64 % 64) + v % 64 = v by omega, hc]
  · have hlead := lead_ofNat (n := v / 262144 % 8 + 240) (by omega)
    rw [if_neg (by omega), if_neg (by omega), if_pos (by omega), Nat.add_sub_cancel,
      show v / 262144 % 8 = v / 262144 by omega] at hlead
    have hsecond := secondOfFour_allows (v := v) (by omega) (by omega)
    have hthird : tail.Allows (v / 64 % 64) := tail_allows (Nat.mod_lt _ (by decide))
    rw [show v / 262144 % 8 = v / 262144 by omega, List.cons_append,
      charactersFrom_lead (by omega) (by omega) hlead, List.cons_append,
      charactersFrom_next hsecond, List.cons_append, charactersFrom_next hthird, List.cons_append,
      charactersFrom_last hlast, List.nil_append,
      show 64 * (64 * (64 * (v / 262144) + v / 4096 % 64) + v / 64 % 64) + v % 64 = v by omega, hc]

/-- **Text that is UTF-8 is read as it is**, and has no flaws. -/
theorem characters_encode (s : String) : characters (encode s) = s.toList.map some := by
  have hchars : ∀ cs : List Char,
      charactersFrom none (cs.flatMap String.utf8EncodeChar) = cs.map some := by
    intro cs
    induction cs with
    | nil => rfl
    | cons c cs ih => rw [List.flatMap_cons, charactersFrom_char, ih, List.map_cons]
  rw [characters, encode_eq, ← String.utf8Encode_toList, List.utf8Encode]
  simp [hchars]

theorem mended_map_some (cs : List Char) : mended (cs.map some) = cs :=
  (List.map_map ..).trans (List.map_id cs)

theorem decode_encode (s : String) : decode (encode s) = s := by
  rw [decode, characters_encode, mended_map_some, String.ofList_toList]

end Decoding

end OutOfBand.Text.Utf8
