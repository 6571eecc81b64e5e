import Mathlib.Data.List.Forall2
import OutOfBand.Json.Decode
import OutOfBand.Proofs.Json.Reading

/-!
# Values that are read as they were written

How the values of a type are written and how they are read are told in different places. They agree
(`Faithful`) if each value is read back from the document that it is written as, and if nothing is
read but what the type can hold. Here this is shown of the basic types, of lists and of options, and
of the values of no fixed type.
-/

namespace OutOfBand.Json

open Doc

variable {α β ε : Type}

/-- What is written is read back: of values that are sound, as all values are that can be read, and
in which there is no double. -/
structure Faithful (write : α → Json) (read : Doc → Except Defect α) (Sound Plain : α → Prop) :
    Prop where
  sound : ∀ {d a}, read d = .ok a → Sound a
  exact : ∀ {a}, Sound a → Plain a → IsExact (write a)
  reads : ∀ {a}, Sound a → Plain a → read (write a).doc = .ok a

/-! ## Results -/

theorem map_eq_ok_iff {x : Except ε α} {f : α → β} {b : β} :
    x.map f = .ok b ↔ ∃ a, x = .ok a ∧ f a = b := by
  cases x <;> simp [Except.map]

theorem bind_eq_ok_iff {x : Except ε α} {f : α → Except ε β} {b : β} :
    x >>= f = .ok b ↔ ∃ a, x = .ok a ∧ f a = .ok b := by
  cases x <;> simp [bind, Except.bind]

theorem mapped_eq_ok_iff {x : Except ε α} {f : α → β} {b : β} :
    f <$> x = .ok b ↔ ∃ a, x = .ok a ∧ f a = b := map_eq_ok_iff

theorem pure_eq_ok_iff {a b : α} : (pure a : Except ε α) = .ok b ↔ a = b := by
  simp [pure, Except.pure]

theorem mapError_eq_ok_iff {δ : Type} {x : Except ε α} {f : ε → δ} {a : α} :
    x.mapError f = .ok a ↔ x = .ok a := by
  cases x <;> simp [Except.mapError]

theorem mapError_eq_error_iff {δ : Type} {x : Except ε α} {f : ε → δ} {e : δ} :
    x.mapError f = .error e ↔ ∃ e', x = .error e' ∧ f e' = e := by
  cases x <;> simp [Except.mapError]

theorem misfit_ne_ok {m : Misfit} {a : α} : misfit m ≠ .ok a := by rintro ⟨⟩

theorem breached_ne_ok {b : Breach} {a : α} : breached b ≠ .ok a := by rintro ⟨⟩

/-- The value of a document is read from its root, and nothing follows that. -/
theorem Document.value_eq_ok_iff [FromDoc α] {document : Document} {a : α} :
    document.value α = .ok a ↔ FromDoc.read document.root = .ok a ∧ document.trailing = false := by
  rw [Document.value, bind_eq_ok_iff]
  cases document.trailing with
  | false => simp [pure_eq_ok_iff]
  | true => simp [breached_ne_ok]

/-- What is not of the expected kind is not read. -/
theorem unexpected_ne_ok {expected : String} {d : Doc} {a : α} :
    d.unexpected expected ≠ .ok a := by
  fun_induction Doc.unexpected expected d <;>
    first | exact misfit_ne_ok | exact breached_ne_ok | assumption

/-! ## Basic types -/

theorem faithful_string : Faithful Json.str Doc.string (fun _ => True) fun _ => True where
  sound _ := trivial
  exact _ _ := isExact_str _
  reads _ _ := rfl

theorem faithful_boolean : Faithful Json.bool Doc.boolean (fun _ => True) fun _ => True where
  sound _ := trivial
  exact _ _ := isExact_bool _
  reads _ _ := rfl

theorem isExact_int {n : Int} (hlow : -0x8000000000000000 ≤ n) (hhigh : n < 0x10000000000000000) :
    IsExact (Json.int n) := isExact_num_iff.mpr ⟨hlow, hhigh⟩

theorem reads_integer {low high n : Int} {name : String} (hlow : -0x8000000000000000 ≤ n)
    (hhigh : n < 0x10000000000000000) (hn : low ≤ n ∧ n ≤ high) :
    Doc.integer low high name (Json.int n).doc = .ok n := by
  have hvalue := value_numeralOf hlow hhigh
  simp [Json.int, doc, Doc.integer, hvalue, hn]

theorem integer_sound {low high n : Int} {name : String} {d : Doc}
    (h : Doc.integer low high name d = .ok n) : low ≤ n ∧ n ≤ high := by
  unfold Doc.integer at h
  split at h
  · split at h
    · split at h
      · next hn =>
          cases h
          simpa using hn
      · exact (misfit_ne_ok h).elim
    · exact (misfit_ne_ok h).elim
    · exact (breached_ne_ok h).elim
  · exact (unexpected_ne_ok h).elim

/-- Numbers of at most 64 bits. -/
theorem faithful_unsigned (bits : Nat) (hbits : bits ≤ 64) :
    Faithful (fun n : Nat => Json.int n) (Doc.unsigned bits) (fun n => n < Nat.pow 2 bits)
      fun _ => True := by
  have hle : Nat.pow 2 bits ≤ Nat.pow 2 64 := Nat.pow_le_pow_right (by decide) hbits
  have hlimit : Nat.pow 2 64 = 0x10000000000000000 := rfl
  refine ⟨fun {d a} h => ?_, fun {a} h _ => isExact_int (by omega) (by omega), fun {a} h _ => ?_⟩
  · obtain ⟨n, hread, rfl⟩ := map_eq_ok_iff.mp h
    have hn := integer_sound hread
    omega
  · refine map_eq_ok_iff.mpr ⟨a, reads_integer (by omega) (by omega) ?_, Int.toNat_natCast a⟩
    omega

theorem faithful_signed64 : Faithful Json.int Doc.signed64
    (fun n => -0x8000000000000000 ≤ n ∧ n ≤ 0x7fffffffffffffff) fun _ => True where
  sound := integer_sound
  exact h _ := isExact_int h.1 (by omega)
  reads h _ := reads_integer h.1 (by omega) h

/-- Values that stand for others are read as they were written if those are. -/
theorem Faithful.image {write : α → Json} {read : Doc → Except Defect α} {Sound Plain : α → Prop}
    (h : Faithful write read Sound Plain) {f : α → β} {g : β → α} {Sound' Plain' : β → Prop}
    (hsound : ∀ {a}, Sound a → Sound' (f a)) (hinv : ∀ {b}, Sound' b → Sound (g b) ∧ f (g b) = b)
    (hplain : ∀ {b}, Plain' b → Plain (g b)) :
    Faithful (fun b => write (g b)) (fun d => (read d).map f) Sound' Plain' where
  sound hread := by
    obtain ⟨a, ha, rfl⟩ := map_eq_ok_iff.mp hread
    exact hsound (h.sound ha)
  exact hb hp := h.exact (hinv hb).1 (hplain hp)
  reads hb hp := map_eq_ok_iff.mpr ⟨_, h.reads (hinv hb).1 (hplain hp), (hinv hb).2⟩

/-! ## Lists and options -/

section Lists

variable {write : α → Json} {read : Doc → Except Defect α} {Sound Plain : α → Prop}

theorem mapM_eq_ok_iff {f : β → Except ε α} {bs : List β} {as : List α} :
    bs.mapM f = .ok as ↔ List.Forall₂ (fun b a => f b = .ok a) bs as := by
  induction bs generalizing as with
  | nil => simp [pure, Except.pure, List.forall₂_nil_left_iff, eq_comm]
  | cons b bs ih =>
      rw [List.mapM_cons]
      constructor
      · intro h
        obtain ⟨a, hb, h⟩ := bind_eq_ok_iff.mp h
        obtain ⟨as', hbs, h⟩ := bind_eq_ok_iff.mp h
        obtain rfl := pure_eq_ok_iff.mp h
        exact .cons hb (ih.mp hbs)
      · intro h
        cases h with
        | cons hb hbs =>
            exact bind_eq_ok_iff.mpr ⟨_, hb, bind_eq_ok_iff.mpr ⟨_, ih.mpr hbs, rfl⟩⟩

theorem forall_mem_of_forall₂ {R : β → α → Prop} {P : α → Prop} {bs : List β} {as : List α}
    (h : List.Forall₂ R bs as) (hP : ∀ b a, R b a → P a) : ∀ a ∈ as, P a := by
  induction h with
  | nil => simp
  | cons hb _ ih => exact List.forall_mem_cons.mpr ⟨hP _ _ hb, ih⟩

theorem Faithful.forall_sound (h : Faithful write read Sound Plain) {ds : List Doc} {as : List α}
    (hread : List.Forall₂ (fun d a => read d = .ok a) ds as) : ∀ a ∈ as, Sound a :=
  forall_mem_of_forall₂ hread fun _ _ => h.sound

theorem Faithful.forall_reads (h : Faithful write read Sound Plain) {as : List α}
    (hsound : ∀ a ∈ as, Sound a) (hplain : ∀ a ∈ as, Plain a) :
    List.Forall₂ (fun d a => read d = .ok a) (itemDocs (as.map write)) as := by
  induction as with
  | nil => exact .nil
  | cons a as ih =>
      obtain ⟨ha, has⟩ := List.forall_mem_cons.mp hsound
      obtain ⟨hp, hps⟩ := List.forall_mem_cons.mp hplain
      exact .cons (h.reads ha hp) (ih has hps)

theorem Faithful.isExact_arr (h : Faithful write read Sound Plain) {as : List α}
    (hsound : ∀ a ∈ as, Sound a) (hplain : ∀ a ∈ as, Plain a) :
    IsExact (.arr (as.map write)) := by
  refine isExact_arr_iff.mpr fun j hj => ?_
  obtain ⟨a, ha, rfl⟩ := List.mem_map.mp hj
  exact h.exact (hsound a ha) (hplain a ha)

theorem Faithful.list (h : Faithful write read Sound Plain) :
    Faithful (fun as : List α => .arr (as.map write)) (Doc.list read) (fun as => ∀ a ∈ as, Sound a)
      fun as => ∀ a ∈ as, Plain a where
  sound {d as} hread := by
    unfold Doc.list at hread
    split at hread
    · obtain ⟨values, hvalues, hread⟩ := bind_eq_ok_iff.mp hread
      obtain ⟨-, -, hread⟩ := bind_eq_ok_iff.mp hread
      obtain rfl := pure_eq_ok_iff.mp hread
      exact h.forall_sound (mapM_eq_ok_iff.mp hvalues)
    · exact (breached_ne_ok hread).elim
    · exact (unexpected_ne_ok hread).elim
  exact hsound hplain := h.isExact_arr hsound hplain
  reads {as} hsound hplain := by
    have hread := mapM_eq_ok_iff.mpr (h.forall_reads hsound hplain)
    simp [doc, Doc.list, hread, closing, bind, Except.bind, pure, Except.pure]

/-- All items are read, and there are as many as there should be. -/
theorem exactItems_eq_ok_iff {expected : String} {before wanted : Nat} {ds : List Doc}
    {ending : Ending} {as : List α} :
    exactItems read expected before wanted ds ending = .ok as ↔
      List.Forall₂ (fun d a => read d = .ok a) ds as ∧ as.length = wanted ∧ ending = .closed := by
  induction ds generalizing before wanted as with
  | nil =>
      cases wanted with
      | zero =>
          cases ending <;> simp [exactItems, closing, breached, bind, Except.bind, pure,
            Except.pure, List.forall₂_nil_left_iff, eq_comm]
      | succ wanted =>
          constructor
          · intro h
            obtain ⟨-, -, h⟩ := bind_eq_ok_iff.mp h
            exact (misfit_ne_ok h).elim
          · rintro ⟨h, hlength, -⟩
            cases h
            cases hlength
  | cons d ds ih =>
      cases wanted with
      | zero =>
          constructor
          · exact fun h => (breached_ne_ok h).elim
          · rintro ⟨h, hlength, -⟩
            cases h
            cases hlength
      | succ wanted =>
          constructor
          · intro h
            obtain ⟨a, hd, h⟩ := bind_eq_ok_iff.mp h
            obtain ⟨as', hds, h⟩ := bind_eq_ok_iff.mp h
            obtain rfl := pure_eq_ok_iff.mp h
            obtain ⟨hitems, hlength, hending⟩ := ih.mp hds
            exact ⟨.cons hd hitems, congrArg Nat.succ hlength, hending⟩
          · rintro ⟨h, hlength, hending⟩
            cases h with
            | cons hd hds =>
                exact bind_eq_ok_iff.mpr ⟨_, hd, bind_eq_ok_iff.mpr
                  ⟨_, ih.mpr ⟨hds, Nat.succ.inj hlength, hending⟩, rfl⟩⟩

/-- Lists of a fixed length. -/
theorem Faithful.exactly (h : Faithful write read Sound Plain) (count : Nat) :
    Faithful (fun as : List α => .arr (as.map write)) (Doc.exactly count read)
      (fun as => as.length = count ∧ ∀ a ∈ as, Sound a) fun as => ∀ a ∈ as, Plain a where
  sound {d as} hread := by
    unfold Doc.exactly at hread
    split at hread
    · obtain ⟨hitems, hlength, -⟩ := exactItems_eq_ok_iff.mp hread
      exact ⟨hlength, h.forall_sound hitems⟩
    · exact (breached_ne_ok hread).elim
    · exact (unexpected_ne_ok hread).elim
  exact hsound hplain := h.isExact_arr hsound.2 hplain
  reads hsound hplain :=
    exactItems_eq_ok_iff.mpr ⟨h.forall_reads hsound.2 hplain, hsound.1, rfl⟩

/-- What is not written as `null` is not taken for it. -/
theorem option_doc {j : Json} (hj : j ≠ .null) : Doc.option read j.doc = (read j.doc).map some := by
  cases j with
  | null => exact absurd rfl hj
  | num n => cases n <;> rfl
  | _ => rfl

theorem Faithful.option (h : Faithful write read Sound Plain) (hnull : ∀ a, write a ≠ .null) :
    Faithful (fun o : Option α => o.elim .null write) (Doc.option read) (fun o => ∀ a ∈ o, Sound a)
      fun o => ∀ a ∈ o, Plain a where
  sound {d o} hread := by
    unfold Doc.option at hread
    split at hread
    · cases hread
      simp
    · exact (breached_ne_ok hread).elim
    · obtain ⟨a, ha, rfl⟩ := map_eq_ok_iff.mp hread
      simpa using h.sound ha
  exact {o} hsound hplain := by
    cases o with
    | none => exact isExact_null
    | some a => exact h.exact (hsound a rfl) (hplain a rfl)
  reads {o} hsound hplain := by
    cases o with
    | none => rfl
    | some a =>
        rw [Option.elim, option_doc (hnull a), h.reads (hsound a rfl) (hplain a rfl)]
        rfl

/-- How a member of an object with any keys is read. -/
def readMember (read : Doc → Except Defect α) (m : Except Breach String × Doc) :
    Except Defect (String × α) :=
  match m.1 with
  | .ok key => (read m.2).map (key, ·)
  | .error b => breached b

theorem readMember_eq_ok_iff {m : Except Breach String × Doc} {a : String × α} :
    readMember read m = .ok a ↔ m.1 = .ok a.1 ∧ read m.2 = .ok a.2 := by
  obtain ⟨key, value⟩ := m
  obtain ⟨k, v⟩ := a
  cases key with
  | error b => simp [readMember, breached]
  | ok key =>
      simp only [readMember, map_eq_ok_iff, Except.ok.injEq, Prod.mk.injEq]
      constructor
      · rintro ⟨v, hv, rfl, rfl⟩
        exact ⟨rfl, hv⟩
      · rintro ⟨rfl, hv⟩
        exact ⟨v, hv, rfl, rfl⟩

theorem map_obj (members : List (Except Breach String × Doc)) (ending : Ending) :
    Doc.map read (.obj members ending) =
      (do let values ← members.mapM (readMember read); closing ending; return sorted values) := rfl

theorem mem_of_mem_sorted {m : String × α} {members : List (String × α)} (h : m ∈ sorted members) :
    m ∈ members := by
  obtain ⟨before, after, rfl, -⟩ := mem_sorted.mp h
  simp

theorem Faithful.map (h : Faithful write read Sound Plain) :
    Faithful (fun members : List (String × α) => .obj (members.map fun m => (m.1, write m.2)))
      (Doc.map read) (fun members => Ordered members ∧ ∀ m ∈ members, Sound m.2)
      fun members => ∀ m ∈ members, Plain m.2 where
  sound {d members} hread := by
    cases d with
    | obj ms ending =>
        rw [map_obj] at hread
        obtain ⟨values, hvalues, hread⟩ := bind_eq_ok_iff.mp hread
        obtain ⟨-, -, hread⟩ := bind_eq_ok_iff.mp hread
        obtain rfl := pure_eq_ok_iff.mp hread
        have hsound := forall_mem_of_forall₂ (mapM_eq_ok_iff.mp hvalues)
          fun _ a hread => h.sound (readMember_eq_ok_iff.mp hread).2
        exact ⟨ordered_sorted values, fun m hm => hsound m (mem_of_mem_sorted hm)⟩
    | deep inner => exact (breached_ne_ok hread).elim
    | _ => exact (unexpected_ne_ok hread).elim
  exact {members} hsound hplain := by
    refine isExact_obj_iff.mpr fun m hm => ?_
    obtain ⟨a, ha, rfl⟩ := List.mem_map.mp hm
    exact h.exact (hsound.2 a ha) (hplain a ha)
  reads {members} hsound hplain := by
    have hread : (memberDocs (members.map fun m => (m.1, write m.2))).mapM (readMember read) =
        .ok members := by
      obtain ⟨-, hsound⟩ := hsound
      rw [mapM_eq_ok_iff]
      induction members with
      | nil => exact .nil
      | cons m members ih =>
          obtain ⟨hm, hms⟩ := List.forall_mem_cons.mp hsound
          obtain ⟨hp, hps⟩ := List.forall_mem_cons.mp hplain
          exact .cons (readMember_eq_ok_iff.mpr ⟨rfl, h.reads hm hp⟩) (ih hps hms)
    rw [doc, map_obj, hread]
    exact congrArg Except.ok (sorted_of_ordered hsound.1)

end Lists

/-! ## Free values -/

theorem takeDigits_lt {m : Nat} (hm : m < Numeral.limit) (ds : List Char) :
    (Numeral.takeDigits m ds).1 < Numeral.limit := by
  induction ds generalizing m with
  | nil => exact hm
  | cons d ds ih =>
      simp only [Numeral.takeDigits]
      split
      · exact ih ‹_›
      · exact hm

/-- An integer that is read has at most 64 bits. -/
theorem value_sound {numeral : Numeral} {n : Int} (h : numeral.value = some (.int n)) :
    -0x8000000000000000 ≤ n ∧ n < 0x10000000000000000 := by
  have hwhole := takeDigits_lt (by decide : 0 < Numeral.limit) numeral.whole
  have hlt := takeDigits_lt hwhole numeral.fraction
  have hlimit : Numeral.limit = 0x10000000000000000 := rfl
  simp only [Numeral.value] at h
  split at h
  · split at h
    · split at h <;> cases h
    · obtain ⟨x, -, hx⟩ := Option.map_eq_some_iff.mp h
      cases hx
  · split at h
    · split at h
      · cases h
        omega
      · split at h
        · cases h
        · next hsmall =>
            simp only [Bool.or_eq_true, decide_eq_true_eq, not_or] at hsmall
            cases h
            omega
    · obtain ⟨x, -, hx⟩ := Option.map_eq_some_iff.mp h
      cases hx

theorem isSound_object {members : List (String × Json)} (h : ∀ m ∈ members, IsSound m.2) :
    IsSound (object members) :=
  isSound_obj_iff.mpr ⟨ordered_sorted members, fun m hm => h m (mem_of_mem_sorted hm)⟩

/-- **What is read as a free value is sound**, whatever the document. -/
theorem free_sound {d : Doc} {j : Json} (h : d.free = .ok j) : IsSound j := by
  -- The reader goes through documents, items and members together, and so does the induction.
  revert j
  refine Doc.free.induct (fun d => ∀ {j}, d.free = .ok j → IsSound j)
    (fun members => ∀ {ms}, freeMembers members = .ok ms → ∀ m ∈ ms, IsSound m.2)
    (fun items => ∀ {js}, freeItems items = .ok js → ∀ j ∈ js, IsSound j)
    ?null ?bool ?num ?beyond ?text ?fault ?arr ?obj ?deep ?stump ?broken ?noItem ?item ?noMember
    ?badKey ?member d
  case null =>
    intro j h
    cases h
    exact isSound_null
  case bool =>
    intro b j h
    cases h
    exact isSound_bool b
  case num =>
    intro numeral n hvalue j h
    rw [free, hvalue] at h
    cases h
    refine isSound_num_iff.mpr ?_
    cases n with
    | int n => exact value_sound hvalue
    | real x => trivial
  case beyond =>
    intro numeral hvalue j h
    rw [free, hvalue] at h
    exact (breached_ne_ok h).elim
  case text =>
    intro s j h
    cases h
    exact isSound_str s
  case fault => exact fun _ _ h => (breached_ne_ok h).elim
  case arr =>
    intro items ending ih j h
    obtain ⟨js, hitems, h⟩ := bind_eq_ok_iff.mp h
    obtain ⟨-, -, h⟩ := bind_eq_ok_iff.mp h
    obtain rfl := pure_eq_ok_iff.mp h
    exact isSound_arr_iff.mpr (ih hitems)
  case obj =>
    intro members ending ih j h
    obtain ⟨ms, hmembers, h⟩ := bind_eq_ok_iff.mp h
    obtain ⟨-, -, h⟩ := bind_eq_ok_iff.mp h
    obtain rfl := pure_eq_ok_iff.mp h
    exact isSound_object (ih hmembers)
  case deep => exact fun _ _ h => (breached_ne_ok h).elim
  case stump => exact fun _ _ _ _ h => (breached_ne_ok h).elim
  case broken => exact fun _ _ _ h => (breached_ne_ok h).elim
  case noItem =>
    intro js h
    cases h
    simp
  case item =>
    intro item items hitem hitems js h
    obtain ⟨i, hi, h⟩ := bind_eq_ok_iff.mp h
    obtain ⟨is, his, h⟩ := bind_eq_ok_iff.mp h
    obtain rfl := pure_eq_ok_iff.mp h
    exact List.forall_mem_cons.mpr ⟨hitem hi, hitems his⟩
  case noMember =>
    intro ms h
    cases h
    simp
  case badKey => exact fun _ _ _ _ h => (breached_ne_ok h).elim
  case member =>
    intro key value members hvalue hmembers ms h
    obtain ⟨v, hv, h⟩ := bind_eq_ok_iff.mp h
    obtain ⟨vs, hvs, h⟩ := bind_eq_ok_iff.mp h
    obtain rfl := pure_eq_ok_iff.mp h
    exact List.forall_mem_cons.mpr ⟨hvalue hv, hmembers hvs⟩

theorem freeItems_docs {items : List Json} (h : ∀ i ∈ items, i.doc.free = .ok i) :
    freeItems (itemDocs items) = .ok items := by
  induction items with
  | nil => rfl
  | cons i items ih =>
      obtain ⟨hi, hitems⟩ := List.forall_mem_cons.mp h
      exact bind_eq_ok_iff.mpr ⟨i, hi, bind_eq_ok_iff.mpr ⟨items, ih hitems, rfl⟩⟩

theorem freeMembers_docs {members : List (String × Json)}
    (h : ∀ m ∈ members, m.2.doc.free = .ok m.2) :
    freeMembers (memberDocs members) = .ok members := by
  induction members with
  | nil => rfl
  | cons m members ih =>
      obtain ⟨hm, hmembers⟩ := List.forall_mem_cons.mp h
      exact bind_eq_ok_iff.mpr ⟨m.2, hm, bind_eq_ok_iff.mpr ⟨members, ih hmembers, rfl⟩⟩

/-- **A free value is read back** if the program can hold it and no number in it is a double. -/
theorem free_doc {j : Json} (hsound : IsSound j) (hplain : IsPlain j) : j.doc.free = .ok j := by
  induction j using tree_ind with
  | null => rfl
  | bool b => rfl
  | num n =>
      cases n with
      | int n =>
          obtain ⟨hlow, hhigh⟩ := isSound_num_iff.mp hsound
          simp [doc, free, value_numeralOf hlow hhigh]
      | real x => exact (hplain _ List.mem_cons_self).elim
  | str s => rfl
  | arr items ih =>
      have hread := freeItems_docs fun i hi =>
        ih i hi (isSound_arr_iff.mp hsound i hi) (isPlain_arr_iff.mp hplain i hi)
      exact bind_eq_ok_iff.mpr ⟨items, hread, rfl⟩
  | obj members ih =>
      obtain ⟨hordered, hmembers⟩ := isSound_obj_iff.mp hsound
      have hread := freeMembers_docs fun m hm =>
        ih m hm (hmembers m hm) (isPlain_obj_iff.mp hplain m hm)
      refine bind_eq_ok_iff.mpr ⟨members, hread, ?_⟩
      exact congrArg (fun ms => Except.ok (Json.obj ms)) (sorted_of_ordered hordered)

theorem faithful_free : Faithful id Doc.free IsSound IsPlain where
  sound := free_sound
  exact := IsSound.isExact
  reads := free_doc

end OutOfBand.Json
