import OutOfBand.Budget

/-!
# Even shares

Where nothing is said of the time of a driver, the drivers of a call share the time that it has
left. Two roundings make the share: the time is cut to whole milliseconds, and their number is cut
where it is divided. Together they cost less than a millisecond for each driver
(`lt_mul_ofMillis_succ`), and all shares together never exceed the time (`mul_share_le`), so that all
drivers have their turn before the deadline. `even_shares` says it of the time that drivers get.
-/

namespace OutOfBand.Budget

variable {d e : Span} {m n : Nat}

/-- The number of milliseconds that make the share of a time of less than 2 ^ 64 ms. -/
def shareMillis (d : Span) (n : Nat) : Nat := d.millis / max n 1

theorem share_eq (hnear : d.ns < UInt64.size * 1000000) :
    share d n = .ofMillis (shareMillis d n) := by
  have hmillis : d.millis < UInt64.size := Nat.div_lt_of_lt_mul (by rwa [Nat.mul_comm] at hnear)
  have hshare : shareMillis d n ≤ UInt64.size - 1 :=
    Nat.le_trans (Nat.div_le_self ..) (Nat.le_sub_one_of_lt hmillis)
  rw [share, ← shareMillis, Nat.min_eq_left hshare]

/-- All shares together are no more than there is to share. -/
theorem mul_share_le (d : Span) (n : Nat) : n * (share d n).ns ≤ d.ns := by
  have hcount : n ≤ max n 1 := Nat.le_max_left ..
  have hshare : (share d n).ns ≤ shareMillis d n * 1000000 :=
    Nat.mul_le_mul_right 1000000 (Nat.min_le_left ..)
  calc n * (share d n).ns
      ≤ max n 1 * (shareMillis d n * 1000000) := Nat.mul_le_mul hcount hshare
    _ = max n 1 * shareMillis d n * 1000000 := (Nat.mul_assoc ..).symm
    _ ≤ d.millis * 1000000 := Nat.mul_le_mul_right _ (Nat.mul_div_le ..)
    _ ≤ d.ns := Nat.div_mul_le_self ..

/-- With one millisecond more for each of them there would not be enough. -/
theorem lt_mul_ofMillis_succ (d : Span) (hn : 1 ≤ n) :
    d.ns < n * (Span.ofMillis (shareMillis d n + 1)).ns := by
  have hcount : max n 1 = n := Nat.max_eq_left hn
  have hmillis : d.millis < n * (shareMillis d n + 1) := by
    rw [shareMillis, hcount]
    exact Nat.lt_mul_div_succ d.millis hn
  have hns : d.ns < (d.millis + 1) * 1000000 := by
    unfold Span.millis
    omega
  calc d.ns
      < (d.millis + 1) * 1000000 := hns
    _ ≤ n * (shareMillis d n + 1) * 1000000 := Nat.mul_le_mul_right _ hmillis
    _ = n * (Span.ofMillis (shareMillis d n + 1)).ns := Nat.mul_assoc ..

theorem share_mono (h : d.ns ≤ e.ns) (n : Nat) : (share d n).ns ≤ (share e n).ns := by
  have hmillis : shareMillis d n ≤ shareMillis e n :=
    Nat.div_le_div_right (Nat.div_le_div_right h)
  have hmin : min (shareMillis d n) (UInt64.size - 1) ≤
      min (shareMillis e n) (UInt64.size - 1) := by omega
  exact Nat.mul_le_mul_right 1000000 hmin

theorem share_anti (h : m ≤ n) (d : Span) : (share d n).ns ≤ (share d m).ns := by
  have hmillis : shareMillis d n ≤ shareMillis d m :=
    Nat.div_le_div_left (by omega) (by omega)
  have hmin : min (shareMillis d n) (UInt64.size - 1) ≤
      min (shareMillis d m) (UInt64.size - 1) := by omega
  exact Nat.mul_le_mul_right 1000000 hmin

theorem share_zero (n : Nat) : share .zero n = .zero := by
  have hnone : shareMillis .zero n = 0 := Nat.zero_div _
  rw [share_eq (by decide), hnone]
  rfl

theorem allocate_of_deadline {ctx : Context} {t : Nat} (h : ctx.deadline = some t) (now n : Nat) :
    allocate ctx now n none = share ⟨t - now⟩ n := by
  rw [allocate, Context.remaining, h]
  rfl

/-- **Drivers get even shares** of the time that a call has left, if its deadline is less than
2 ^ 64 milliseconds away: each gets a whole number of milliseconds, the greatest that all of them can
have. More time never gives a smaller share, nor do fewer drivers; no driver counts as one, and there
is nothing to share at the deadline and after it. -/
theorem even_shares {ctx : Context} {t now : Nat} (hdeadline : ctx.deadline = some t)
    (hnear : t - now < UInt64.size * 1000000) :
    ctx.remaining now = some ⟨t - now⟩ ∧
    (∀ n, 1 ≤ n → ∃ ms, allocate ctx now n none = .ofMillis ms ∧
      n * (Span.ofMillis ms).ns ≤ t - now ∧ t - now < n * (Span.ofMillis (ms + 1)).ns) ∧
    (∀ (ctx' : Context) (t' now' n : Nat), ctx'.deadline = some t' → t - now ≤ t' - now' →
      (allocate ctx now n none).ns ≤ (allocate ctx' now' n none).ns) ∧
    (∀ m n, m ≤ n → (allocate ctx now n none).ns ≤ (allocate ctx now m none).ns) ∧
    allocate ctx now 0 none = allocate ctx now 1 none ∧
    (t ≤ now → ∀ n, allocate ctx now n none = .zero) := by
  have hshare := allocate_of_deadline hdeadline now
  refine ⟨?_, ?_, ?_, ?_, ?_, ?_⟩
  · rw [Context.remaining, hdeadline]
    rfl
  · intro n hn
    have heq : allocate ctx now n none = .ofMillis (shareMillis ⟨t - now⟩ n) := by
      rw [hshare, share_eq hnear]
    refine ⟨shareMillis ⟨t - now⟩ n, heq, ?_, lt_mul_ofMillis_succ ⟨t - now⟩ hn⟩
    rw [← heq, hshare]
    exact mul_share_le ⟨t - now⟩ n
  · intro ctx' t' now' n hdeadline' hle
    rw [hshare, allocate_of_deadline hdeadline' now']
    exact share_mono hle n
  · intro m n hle
    rw [hshare, hshare]
    exact share_anti hle ⟨t - now⟩
  · rw [hshare, hshare]
    rfl
  · intro hpast n
    have hnothing : (⟨t - now⟩ : Span) = .zero := by
      rw [Nat.sub_eq_zero_of_le hpast]
      rfl
    rw [hshare, hnothing, share_zero]

/-- Three drivers share a second and some nanoseconds. -/
theorem even_shares_of_three :
    let ctx : Context := { deadline := some 1000000999 }
    ctx.deadline = some 1000000999 ∧ 1000000999 - 0 < UInt64.size * 1000000 ∧
      ∃ ms, allocate ctx 0 3 none = .ofMillis ms ∧ ms = 333 := by
  intro ctx
  have hdeadline : ctx.deadline = some 1000000999 := rfl
  have hnear : 1000000999 - 0 < UInt64.size * 1000000 := by decide
  obtain ⟨-, hshares, -⟩ := even_shares hdeadline hnear
  obtain ⟨ms, heq, hle, hlt⟩ := hshares 3 (by decide)
  refine ⟨rfl, hnear, ms, heq, ?_⟩
  simp only [Span.ofMillis] at hle hlt
  omega

end OutOfBand.Budget
