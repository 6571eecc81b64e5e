import OutOfBand.Json.Decode

/-!
# Skipping what nobody reads

Some of the bytes of a document may not be UTF-8. Each place where they are not is a flaw, and a
text with a flaw in it cannot be read. But where texts end has nothing to do with flaws
(`readText_extent`), and so neither has the structure of the document: what nobody reads is skipped
with flaws as it is without (`skipsAlike`).
-/

namespace OutOfBand.Json

/-! ## Values and texts -/

/-- Two things that were read are skipped with the same fault, and the same follows them. -/
def Alike (skipped : α → Option Breach) (found found' : α × ρ) : Prop :=
  skipped found.1 = skipped found'.1 ∧ found.2 = found'.2

theorem Alike.exists {skipped : α → Option Breach} {found found' : α × ρ}
    (h : Alike skipped found found') :
    ∃ a a' left, found = (a, left) ∧ found' = (a', left) ∧ skipped a = skipped a' := by
  obtain ⟨a, left⟩ := found
  obtain ⟨a', left'⟩ := found'
  obtain ⟨hskipped, rfl⟩ := h
  exact ⟨a, a', left, rfl, rfl, hskipped⟩

/-- Where a text ends has nothing to do with its flaws, and neither has the fault of one that does
not end. -/
theorem readText_extent (cs : List Char) :
    (∃ rest, ∀ flaws, ∃ text, readText flaws cs = (.text text, some rest)) ∨
      ∃ strict skipped, ∀ flaws, readText flaws cs = (.broken strict skipped, none) := by
  unfold readText
  split
  · next pieces rest _ => exact .inl ⟨rest, fun _ => ⟨_, rfl⟩⟩
  · split
    · exact .inr ⟨_, _, fun _ => rfl⟩
    · exact .inr ⟨_, _, fun _ => rfl⟩

theorem skipped_atDepth (depth : Nat) (d : Doc) : (d.atDepth depth).skipped = d.skipped := by
  unfold Doc.atDepth
  split
  · rfl
  · rw [Doc.skipped]

theorem readScalar_alike (flaws : List Nat) (cs : List Char) :
    Alike Doc.skipped (readScalar flaws cs) (readScalar [] cs) := by
  unfold readScalar
  split
  case h_5 rest =>
    obtain ⟨rest', htext⟩ | ⟨strict, skipped, htext⟩ := readText_extent rest
    · obtain ⟨text, hflaws⟩ := htext flaws
      obtain ⟨text', hnone⟩ := htext []
      rw [hflaws, hnone]
      simp [Alike, Doc.skipped]
    · rw [htext, htext]
      exact ⟨rfl, rfl⟩
  all_goals exact ⟨rfl, rfl⟩

/-! ## Arrays and objects -/

/-- What so many steps read with flaws is skipped as what they read without. -/
structure SkipsAlike (flaws : List Nat) (steps : Nat) : Prop where
  value : ∀ depth cs,
    Alike Doc.skipped (readValue flaws steps depth cs) (readValue [] steps depth cs)
  items : ∀ depth first cs, Alike Doc.skippedItems (readItems flaws steps depth first cs)
    (readItems [] steps depth first cs)
  members : ∀ depth first cs, Alike Doc.skippedMembers (readMembers flaws steps depth first cs)
    (readMembers [] steps depth first cs)

theorem skipsAlike_zero (flaws : List Nat) : SkipsAlike flaws 0 where
  value _ _ := ⟨rfl, rfl⟩
  items _ _ _ := ⟨rfl, rfl⟩
  members _ _ _ := ⟨rfl, rfl⟩

section Step

variable {flaws : List Nat} {steps : Nat}

theorem SkipsAlike.value_succ (h : SkipsAlike flaws steps) (depth : Nat) (cs : List Char) :
    Alike Doc.skipped (readValue flaws (steps + 1) depth cs)
      (readValue [] (steps + 1) depth cs) := by
  rw [readValue, readValue]
  split
  · next rest _ =>
    obtain ⟨items, items', left, hflaws, hnone, hskipped⟩ := (h.items (depth + 1) true rest).exists
    rw [hflaws, hnone]
    exact ⟨by simp only [skipped_atDepth, Doc.skipped, hskipped], rfl⟩
  · next rest _ =>
    obtain ⟨members, members', left, hflaws, hnone, hskipped⟩ :=
      (h.members (depth + 1) true rest).exists
    rw [hflaws, hnone]
    exact ⟨by simp only [skipped_atDepth, Doc.skipped, hskipped], rfl⟩
  · exact readScalar_alike flaws _

theorem SkipsAlike.items_first (h : SkipsAlike flaws steps) (depth : Nat) (cs : List Char) :
    Alike Doc.skippedItems (readItems flaws (steps + 1) depth true cs)
      (readItems [] (steps + 1) depth true cs) := by
  rw [readItems, readItems]
  split
  · exact ⟨rfl, rfl⟩
  · exact ⟨rfl, rfl⟩
  · next c rest _ _ =>
    obtain ⟨item, item', left, hflaws, hnone, hitem⟩ := (h.value depth (c :: rest)).exists
    simp only [if_true, hflaws, hnone]
    cases left with
    | none => exact ⟨by simp only [Doc.skippedItems, hitem], rfl⟩
    | some left =>
        obtain ⟨items, items', left, hflaws, hnone, hitems⟩ := (h.items depth false left).exists
        simp only [hflaws, hnone]
        exact ⟨by simp only [Doc.skippedItems, hitem, hitems], rfl⟩

theorem SkipsAlike.items_succ (h : SkipsAlike flaws steps) (depth : Nat) (first : Bool)
    (cs : List Char) : Alike Doc.skippedItems (readItems flaws (steps + 1) depth first cs)
      (readItems [] (steps + 1) depth first cs) := by
  cases first with
  | true => exact h.items_first depth cs
  | false =>
      rw [readItems, readItems]
      split
      · exact ⟨rfl, rfl⟩
      · exact ⟨rfl, rfl⟩
      · next c rest _ _ =>
        simp only [Bool.false_eq_true, if_false]
        split
        · -- After the comma an item is read as the first one is.
          have hfirst := h.items_first depth rest
          rw [readItems, readItems] at hfirst
          generalize skipBlanks rest = text at *
          split
          · exact ⟨rfl, rfl⟩
          · exact ⟨rfl, rfl⟩
          · split at hfirst
            · contradiction
            · next tail _ hne => exact absurd rfl (hne tail)
            · exact hfirst
        · exact ⟨rfl, rfl⟩

theorem SkipsAlike.members_first (h : SkipsAlike flaws steps) (depth : Nat) (cs : List Char) :
    Alike Doc.skippedMembers (readMembers flaws (steps + 1) depth true cs)
      (readMembers [] (steps + 1) depth true cs) := by
  rw [readMembers, readMembers]
  split
  · exact ⟨rfl, rfl⟩
  · exact ⟨rfl, rfl⟩
  · next rest _ =>
    simp only [if_true]
    obtain ⟨left, hkey⟩ | ⟨strict, skipped, hkey⟩ := readText_extent rest
    · obtain ⟨key, hflaws⟩ := hkey flaws
      obtain ⟨key', hnone⟩ := hkey []
      rw [hflaws, hnone]
      dsimp only
      split
      · exact ⟨rfl, rfl⟩
      · next rest _ =>
        obtain ⟨value, value', left, hflaws, hnone, hvalue⟩ := (h.value depth rest).exists
        rw [hflaws, hnone]
        cases left with
        | none => exact ⟨by simp only [Doc.skippedMembers, hvalue], rfl⟩
        | some left =>
            obtain ⟨members, members', left, hflaws, hnone, hmembers⟩ :=
              (h.members depth false left).exists
            simp only [hflaws, hnone]
            exact ⟨by simp only [Doc.skippedMembers, hvalue, hmembers], rfl⟩
      · exact ⟨rfl, rfl⟩
    · rw [hkey, hkey]
      exact ⟨rfl, rfl⟩
  · exact ⟨rfl, rfl⟩

theorem SkipsAlike.members_succ (h : SkipsAlike flaws steps) (depth : Nat) (first : Bool)
    (cs : List Char) : Alike Doc.skippedMembers (readMembers flaws (steps + 1) depth first cs)
      (readMembers [] (steps + 1) depth first cs) := by
  cases first with
  | true => exact h.members_first depth cs
  | false =>
      rw [readMembers, readMembers]
      split
      · exact ⟨rfl, rfl⟩
      · exact ⟨rfl, rfl⟩
      · exact ⟨rfl, rfl⟩
      · next c rest _ _ _ =>
        simp only [Bool.not_false, Bool.true_and]
        split
        · -- After the comma a member is read as the first one is.
          have hfirst := h.members_first depth rest
          rw [readMembers, readMembers] at hfirst
          generalize skipBlanks rest = text at *
          split
          · exact ⟨rfl, rfl⟩
          · exact hfirst
          · exact ⟨rfl, rfl⟩
        · exact ⟨rfl, rfl⟩

end Step

/-- **A flaw in what nobody reads does no harm**: with flaws or without, a value is skipped with the
same fault, if any, and the same follows it. -/
theorem skipsAlike (flaws : List Nat) (steps : Nat) : SkipsAlike flaws steps := by
  induction steps with
  | zero => exact skipsAlike_zero flaws
  | succ steps ih => exact ⟨ih.value_succ, ih.items_succ, ih.members_succ⟩

/-- Whether a document can be skipped has nothing to do with bytes that are not UTF-8. -/
theorem Document.ofBytes_alike (bytes : List UInt8) :
    (ofBytes bytes).root.skipped = (ofText (Text.Utf8.decode bytes)).root.skipped ∧
      (ofBytes bytes).trailing = (ofText (Text.Utf8.decode bytes)).trailing := by
  let cs := Text.Utf8.mended (Text.Utf8.characters bytes)
  have htext : (Text.Utf8.decode bytes).toList = cs := String.toList_ofList
  obtain ⟨root, root', left, hflaws, hnone, hroot⟩ :=
    ((skipsAlike (flawsOf (Text.Utf8.characters bytes)) (2 * cs.length + 2)).value 0 cs).exists
  rw [ofBytes, ofText, htext, read, read, hflaws, hnone]
  cases left with
  | none => exact ⟨hroot, rfl⟩
  | some left => exact ⟨hroot, rfl⟩

/-- A text that is not UTF-8 is no text, but one may skip it. -/
example : (Document.ofBytes [0x22, 0xff, 0x22]).root = .text (.error .malformed) ∧
    (Document.ofBytes [0x22, 0xff, 0x22]).root.skipped = none := ⟨rfl, rfl⟩

end OutOfBand.Json
