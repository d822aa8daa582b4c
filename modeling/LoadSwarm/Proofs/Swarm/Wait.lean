/-
  Waits between iterations.

  * `WaitTime.ofPacing_order`: of two accepted numbers of seconds the larger one is no shorter wait,
    up to 2⁶⁴ seconds; from there on it is no wait at all.  `WaitTime.longer_wait_dropped` is a wait
    that is lost this way.
  * `WaitTime.drawSeconds_eq`: what a word draws between two numbers, in steps;
    `WaitTime.drawnUnits_le`: it is never beyond the upper one.
  * `WaitTime.next_between`: when the waits that are drawn between two durations lie between them.
    `WaitTime.drawn_wait_refused` are two durations between which none can be drawn.
-/
import LoadSwarm.Proofs.Config.Validation
import LoadSwarm.Proofs.Time.Seconds

namespace LoadSwarm

open Magnitude Binary64

/-! ## Accepted numbers of seconds -/

/-- A number that is not below zero, with its magnitude. -/
def IsSeconds (x : Binary64) (m : Magnitude) : Prop :=
  ∃ negative, x = finite negative m ∧ (negative = true → m.units = 0)

namespace IsSeconds

variable {x y : Binary64} {m n : Magnitude}

theorem signedUnits_eq {negative : Bool} (h : negative = true → m.units = 0) :
    signedUnits negative m = m.units := by
  unfold signedUnits
  cases negative with
  | false => rfl
  | true => simp [h rfl]

theorem le_iff (hx : IsSeconds x m) (hy : IsSeconds y n) : x ≤ y ↔ m.units ≤ n.units := by
  obtain ⟨s, rfl, hs⟩ := hx
  obtain ⟨t, rfl, ht⟩ := hy
  show decide (signedUnits s m ≤ signedUnits t n) = true ↔ _
  rw [signedUnits_eq hs, signedUnits_eq ht, decide_eq_true_eq, Int.ofNat_le]

theorem lt_iff (hx : IsSeconds x m) (hy : IsSeconds y n) : x < y ↔ m.units < n.units := by
  have h1 : le x y = true ↔ _ := hx.le_iff hy
  have h2 : le y x = true ↔ _ := hy.le_iff hx
  show (le x y && !le y x) = true ↔ _
  rw [Bool.and_eq_true, Bool.not_eq_true', ← Bool.not_eq_true, h1, h2]
  omega

theorem of_check {domain field : String} (h : Check.seconds domain field x = .ok ()) :
    ∃ m, IsSeconds x m := by
  have h := Check.require_eq_ok_iff.1 h
  rw [Bool.and_eq_true] at h
  cases x with
  | nan => exact absurd h.1 Bool.false_ne_true
  | infinite => exact absurd h.1 Bool.false_ne_true
  | finite negative m =>
    refine ⟨m, negative, rfl, ?_⟩
    rintro rfl
    have hlt := h.2
    simp only [Binary64.lt, le, Binary64.zero, signedUnits, Magnitude.zero] at hlt
    simp at hlt
    omega

/-- As a duration it is its nanoseconds, if they are one. -/
theorem ofFloat?_eq (hx : IsSeconds x m) : Duration.ofFloat? x = Duration.ofFloat? (finite false m) := by
  obtain ⟨s, rfl, hs⟩ := hx
  cases s with
  | false => rfl
  | true =>
    unfold Duration.ofFloat?
    dsimp only
    rw [if_pos (hs rfl), if_pos (hs rfl)]

end IsSeconds

namespace WaitTime

/-! ## From pacings to waits -/

/-- The first number of seconds that is no duration. -/
def beyondSeconds : Binary64 := Binary64.ofNat (2 ^ 64)

theorem isSeconds_beyond : ∃ m, IsSeconds beyondSeconds m ∧ m.units = 2 ^ 64 * one := by
  have hshort : nearestUnits (2 ^ 64 * one) 1 = 2 ^ 64 * one :=
    nearestUnits_of_short Nat.one_pos (short_pow_mul_one _) (Nat.mul_one _).symm
  have hlt : nearestUnits (2 ^ 64 * one) 1 < limit :=
    hshort.trans_lt (pow_mul_one_lt_limit (by decide))
  obtain ⟨m, hm, hunits⟩ := ofNat_eq hlt
  exact ⟨m, ⟨false, hm, nofun⟩, hunits.trans hshort⟩

variable {a b x : Binary64} {m : Magnitude}

/-- Numbers below 2⁶⁴ are durations. -/
theorem secondsOrZero_of_lt (hx : IsSeconds x m) (h : x < beyondSeconds) :
    (secondsOrZero x).nanos = m.nanos := by
  obtain ⟨n, hn, hunits⟩ := isSeconds_beyond
  have hlt := (hx.lt_iff hn).1 h
  rw [hunits, ← nanos_lt_limit_iff] at hlt
  have hsome : Duration.ofFloat? (finite false m) = some ⟨m.nanos, hlt⟩ := by
    rw [Duration.ofFloat?_eq_some_iff]
  unfold secondsOrZero
  rw [hx.ofFloat?_eq, hsome, Option.getD_some]

/-- From 2⁶⁴ on they are none, and nothing is waited. -/
theorem secondsOrZero_of_not_lt (hx : IsSeconds x m) (h : ¬ x < beyondSeconds) :
    secondsOrZero x = Duration.zero := by
  obtain ⟨n, hn, hunits⟩ := isSeconds_beyond
  have hge := mt (hx.lt_iff hn).2 h
  rw [hunits, Nat.not_lt, ← Duration.ofFloat?_eq_none_iff] at hge
  unfold secondsOrZero
  rw [hx.ofFloat?_eq, hge, Option.getD_none]

theorem le_zero_iff {d : Duration} : d ≤ Duration.zero ↔ d = Duration.zero := by
  constructor
  · intro h
    exact Duration.ext_nanos (Nat.le_zero.1 h)
  · rintro rfl
    exact Nat.le_refl _

/-- **The order of two waits** is that of the numbers of seconds if the larger one is below 2⁶⁴, or
    if the smaller one is no time anyway. -/
theorem secondsOrZero_le_iff {n : Magnitude} (ha : IsSeconds a m) (hb : IsSeconds b n) (h : a ≤ b) :
    secondsOrZero a ≤ secondsOrZero b ↔ b < beyondSeconds ∨ secondsOrZero a = Duration.zero := by
  obtain ⟨k, hk, -⟩ := isSeconds_beyond
  by_cases hlt : b < beyondSeconds
  · have hle := (ha.le_iff hb).1 h
    have hlta : a < beyondSeconds := (ha.lt_iff hk).2 (hle.trans_lt ((hb.lt_iff hk).1 hlt))
    refine iff_of_true ?_ (.inl hlt)
    show (secondsOrZero a).nanos ≤ (secondsOrZero b).nanos
    rw [secondsOrZero_of_lt ha hlta, secondsOrZero_of_lt hb hlt]
    exact nanos_mono hle
  · rw [secondsOrZero_of_not_lt hb hlt, le_zero_iff]
    simp [hlt]

theorem next_of_ge {least most : Duration} (h : most ≤ least) (word : UInt64) :
    (between least most).next word = .ok (some least) := by
  unfold next
  dsimp only
  rw [if_pos h]

/-- **The order of accepted waits.**  A larger number of seconds is no shorter wait as long as it is
    below 2⁶⁴, and so the least of a random wait stays at most its most.  From 2⁶⁴ on the larger
    one is no wait at all, and every random wait is the least. -/
theorem ofPacing_order
    (h : (Pacing.constant a).validate = .ok () ∧ (Pacing.constant b).validate = .ok () ∧ a ≤ b ∨
      (Pacing.between a b).validate = .ok ()) :
    ∃ x y, ofPacing (.constant a) = .constant x ∧ ofPacing (.constant b) = .constant y ∧
      ofPacing (.between a b) = .between x y ∧
      (x ≤ y ↔ b < beyondSeconds ∨ x = Duration.zero) ∧
      (¬ b < beyondSeconds → y = Duration.zero ∧
        ∀ word, (ofPacing (.between a b)).next word = .ok (some x)) := by
  obtain ⟨m, n, hm, hn, hle⟩ : ∃ m n, IsSeconds a m ∧ IsSeconds b n ∧ a ≤ b := by
    rcases h with ⟨ha, hb, hab⟩ | h
    · obtain ⟨m, hm⟩ := IsSeconds.of_check ha
      obtain ⟨n, hn⟩ := IsSeconds.of_check hb
      exact ⟨m, n, hm, hn, hab⟩
    · obtain ⟨hleast, h⟩ := Check.bind_eq_ok_iff.1 h
      obtain ⟨hmost, h⟩ := Check.bind_eq_ok_iff.1 h
      obtain ⟨m, hm⟩ := IsSeconds.of_check hleast
      obtain ⟨n, hn⟩ := IsSeconds.of_check hmost
      have hnot : ¬ b < a := by
        have hreq := Check.require_eq_ok_iff.1 h
        rwa [Bool.not_eq_true', ← Bool.not_eq_true] at hreq
      rw [hn.lt_iff hm, Nat.not_lt] at hnot
      exact ⟨m, n, hm, hn, (hm.le_iff hn).2 hnot⟩
  refine ⟨_, _, rfl, rfl, rfl, secondsOrZero_le_iff hm hn hle, fun hlong => ?_⟩
  have hzero := secondsOrZero_of_not_lt hn hlong
  refine ⟨hzero, next_of_ge ?_⟩
  rw [hzero]
  exact Nat.zero_le _

/-- One second is no longer than two. -/
theorem ofPacing_order_oneToTwo :
    ∃ x y, ofPacing (.constant (Binary64.ofNat 1)) = .constant x ∧
      ofPacing (.constant (Binary64.ofNat 2)) = .constant y ∧
      ofPacing (.between (Binary64.ofNat 1) (Binary64.ofNat 2)) = .between x y ∧ x ≤ y := by
  have hbetween : (Pacing.between (Binary64.ofNat 1) (Binary64.ofNat 2)).validate = .ok () := by
    decide +kernel
  obtain ⟨x, y, hx, hy, hxy, hle, -⟩ := ofPacing_order (.inr hbetween)
  exact ⟨x, y, hx, hy, hxy, hle.2 (.inl (by decide +kernel))⟩

/-- From 2⁶⁴ seconds on there is no wait at all. -/
theorem longer_wait_dropped :
    ¬ ∀ a b x y, (Pacing.constant a).validate = .ok () → (Pacing.constant b).validate = .ok () →
      a ≤ b → ofPacing (.constant a) = .constant x → ofPacing (.constant b) = .constant y →
        x ≤ y := by
  intro h
  exact absurd (h (Binary64.ofNat 1) beyondSeconds _ _ (by decide +kernel) (by decide +kernel)
    (by decide +kernel) rfl rfl) (by decide +kernel)

/-! ## Drawing a wait -/

/-- The part of a word that is used: a number below 2⁵². -/
def wordPart (word : UInt64) : Nat := word.toNat / 2 ^ 12

/-- The number of steps that the part `k` of 2⁵² draws between `low` and `high` steps. -/
def drawnUnits (low high k : Nat) : Nat :=
  nearestUnits (nearestUnits (k * nearestUnits (high - low) 1) (2 ^ 52) + low) 1

variable {low high j k : Nat}

theorem wordPart_lt (word : UInt64) : wordPart word < 2 ^ 52 := by
  have := word.toNat_lt
  unfold wordPart
  omega

theorem le_drawnUnits (hlow : Short low) : low ≤ drawnUnits low high k :=
  le_nearestUnits Nat.one_pos hlow (by omega)

theorem drawnUnits_mono (h : j ≤ k) : drawnUnits low high j ≤ drawnUnits low high k := by
  have hpart : nearestUnits (j * nearestUnits (high - low) 1) (2 ^ 52) ≤
      nearestUnits (k * nearestUnits (high - low) 1) (2 ^ 52) :=
    nearestUnits_mono (by positivity) (by positivity) (by gcongr)
  exact nearestUnits_mono Nat.one_pos Nat.one_pos (by omega)

/-- **No draw goes beyond the upper number.**  Where the difference is rounded up, it is so by half a
    gap at most, and every draw is at least one gap below it. -/
theorem drawnUnits_le (hhigh : Short high) (h : low ≤ high) (hk : k < 2 ^ 52) :
    drawnUnits low high k ≤ high := by
  refine nearestUnits_le Nat.one_pos hhigh ?_
  rw [Nat.mul_one]
  obtain ⟨d, rfl⟩ := Nat.exists_eq_add_of_le h
  rw [Nat.add_sub_cancel_left, Nat.add_comm]
  refine Nat.add_le_add_left ?_ low
  rcases le_or_gt d.log2 52 with hsmall | hlarge
  · have hd : Short d := by
      unfold Short
      rw [Nat.sub_eq_zero_of_le hsmall, pow_zero]
      exact one_dvd d
    rw [nearestUnits_of_short Nat.one_pos hd (Nat.mul_one d).symm]
    exact nearestUnits_le (by positivity) hd (by rw [Nat.mul_comm]; gcongr)
  · set D := nearestUnits d 1
    have hpos : d ≠ 0 := by rintro rfl; simp at hlarge
    obtain ⟨e, he⟩ := Nat.exists_eq_add_of_lt hlarge
    have hgap : gap d 1 = 2 ^ (e + 1) := by
      unfold gap
      rw [Nat.div_one, he]
      congr 1
      omega
    have hdvd : 2 ^ (e + 1) ∣ D := hgap ▸ Dvd.intro_left _ rfl
    have hlow : 2 ^ (e + 1) * 2 ^ 52 ≤ D := by
      have := pow_le_nearestUnits d Nat.one_pos (Nat.pos_of_ne_zero hpos)
      rwa [Nat.div_one, he, show 52 + e + 1 = e + 1 + 52 by omega, pow_add] at this
    have hup : D ≤ 2 ^ (e + 1) * 2 ^ 53 := by
      have := nearestUnits_le_pow d Nat.one_pos
      rwa [Nat.div_one, he, show 52 + e + 1 + 1 = e + 1 + 53 by omega, pow_add] at this
    have herror := (nearestUnits_error d Nat.one_pos hgap.le).2
    change 2 * (D * 1) ≤ _ at herror
    obtain ⟨c, hc⟩ := hdvd
    rw [hc] at hlow hup herror ⊢
    have hc1 : 2 ^ 52 ≤ c := Nat.le_of_mul_le_mul_left hlow (by positivity)
    have hc2 : c ≤ 2 ^ 53 := Nat.le_of_mul_le_mul_left hup (by positivity)
    have hshort : Short ((c - 1) * 2 ^ (e + 1)) := short_mul_pow (by omega) _
    calc nearestUnits (k * (2 ^ (e + 1) * c)) (2 ^ 52) ≤ (c - 1) * 2 ^ (e + 1) := by
          refine nearestUnits_le (by positivity) hshort ?_
          have hkc : k * c ≤ (c - 1) * 2 ^ 52 := by
            obtain ⟨b, rfl⟩ := Nat.exists_eq_add_of_le hc1
            have : k * (2 ^ 52 + b) ≤ (2 ^ 52 - 1) * (2 ^ 52 + b) := Nat.mul_le_mul_right _ (by omega)
            omega
          calc k * (2 ^ (e + 1) * c) = k * c * 2 ^ (e + 1) := by ring
            _ ≤ (c - 1) * 2 ^ 52 * 2 ^ (e + 1) := Nat.mul_le_mul_right _ hkc
            _ = (c - 1) * 2 ^ (e + 1) * 2 ^ 52 := by ring
      _ ≤ d := by
          rw [Nat.sub_mul, Nat.mul_comm c]
          generalize 2 ^ (e + 1) * c = cu at *
          generalize 2 ^ (e + 1) = u at *
          omega

/-- The fraction that a word stands for. -/
theorem unitFraction_eq (word : UInt64) :
    ∃ m, unitFraction word = finite false m ∧ m.units = wordPart word * fraction 52 := by
  have hone : one = 2 ^ 52 * fraction 52 := one_eq_fraction (by decide)
  have hlt : wordPart word < 2 ^ 53 := (wordPart_lt word).trans (by decide)
  have hunits : nearestUnits (wordPart word * one) (2 ^ 52) = wordPart word * fraction 52 :=
    nearestUnits_of_short (by positivity) (short_mul_fraction hlt 52)
      (by rw [hone, ← Nat.mul_assoc, Nat.mul_right_comm])
  have hbelow : wordPart word * fraction 52 < limit := by
    calc wordPart word * fraction 52 < 2 ^ 52 * fraction 52 :=
          Nat.mul_lt_mul_of_pos_right (wordPart_lt word) (fraction_pos 52)
      _ = 2 ^ 0 * one := by rw [hone, pow_zero, Nat.one_mul]
      _ < limit := pow_mul_one_lt_limit (by decide)
  obtain ⟨m, hm, hmu⟩ := ofSteps_eq (by positivity) (hunits.trans_lt hbelow) false
  exact ⟨m, hm, hmu.trans hunits⟩

/-- **What a word draws** between two numbers. -/
theorem drawSeconds_eq {a b : Magnitude} (h : a.units ≤ b.units) (word : UInt64) :
    ∃ m, drawSeconds (finite false a) (finite false b) word = finite false m ∧
      m.units = drawnUnits a.units b.units (wordPart word) := by
  obtain ⟨f, hf, hfu⟩ := unitFraction_eq word
  obtain ⟨d, hd, hdu⟩ := sub_eq h
  have hone : one = 2 ^ 52 * fraction 52 := one_eq_fraction (by decide)
  have hpart : nearestUnits (f.units * d.units) one =
      nearestUnits (wordPart word * nearestUnits (b.units - a.units) 1) (2 ^ 52) := by
    refine nearestUnits_congr Magnitude.one_pos (by positivity) ?_
    rw [hfu, hdu, hone]
    ring
  have hpartle : nearestUnits (f.units * d.units) one ≤ d.units := by
    rw [hpart, ← hdu]
    refine nearestUnits_le (by positivity) d.short ?_
    rw [Nat.mul_comm]
    exact Nat.mul_le_mul_left _ (wordPart_lt word).le
  obtain ⟨p, hp, hpu⟩ := mul_eq (hpartle.trans_lt d.units_lt)
  have hsum : nearestUnits (p.units + a.units) 1 = drawnUnits a.units b.units (wordPart word) := by
    rw [hpu, hpart]
    rfl
  have hle := drawnUnits_le b.short h (wordPart_lt word)
  obtain ⟨m, hm, hmu⟩ := add_eq (hsum.trans_le hle |>.trans_lt b.units_lt)
  exact ⟨m, by unfold drawSeconds; rw [hf, hd, hp, hm], hmu.trans hsum⟩

/-- **A draw never leaves the two numbers.** -/
theorem drawSeconds_between {least most : Duration} (h : least ≤ most) (word : UInt64) :
    least.toFloat ≤ drawSeconds least.toFloat most.toFloat word ∧
      drawSeconds least.toFloat most.toFloat word ≤ most.toFloat := by
  obtain ⟨a, ha, hau⟩ := least.toFloat_eq
  obtain ⟨b, hb, hbu⟩ := most.toFloat_eq
  have hab : a.units ≤ b.units := by rw [hau, hbu]; exact Duration.units_mono h
  obtain ⟨m, hm, hmu⟩ := drawSeconds_eq hab word
  rw [ha, hb, hm, Binary64.le_iff, Binary64.le_iff, hmu]
  exact ⟨le_drawnUnits a.short, drawnUnits_le b.short hab (wordPart_lt word)⟩

/-- The next wait is the duration that is nearest to the draw. -/
theorem next_of_lt {least most : Duration} (h : least < most) (word : UInt64) :
    ∃ m : Magnitude, m.units = drawnUnits least.units most.units (wordPart word) ∧
      (between least most).next word = match Duration.ofFloat? (finite false m) with
        | some w => .ok (some w)
        | .none => .error .noDuration := by
  obtain ⟨a, ha, hau⟩ := least.toFloat_eq
  obtain ⟨b, hb, hbu⟩ := most.toFloat_eq
  have hab : a.units ≤ b.units := by rw [hau, hbu]; exact Duration.units_mono (Nat.le_of_lt h)
  obtain ⟨m, hm, hmu⟩ := drawSeconds_eq hab word
  refine ⟨m, by rw [hmu, hau, hbu], ?_⟩
  have hnot : ¬ most ≤ least := Nat.not_le.2 h
  unfold next
  dsimp only
  rw [if_neg hnot, ha, hb, if_pos (Binary64.le_iff.2 hab)]
  rcases hf : Duration.ofFloat? (finite false m) with _ | _ <;> simp only [hm, hf]

/-- What a word draws is a wait between the bounds. -/
def StaysBetween (least most : Duration) (word : UInt64) : Prop :=
  ∃ w, (between least most).next word = .ok (some w) ∧ least ≤ w ∧ w ≤ most

theorem staysBetween_of_ge {least most : Duration} (h : least ≤ most) (hge : most ≤ least)
    (word : UInt64) : StaysBetween least most word :=
  ⟨least, next_of_ge hge word, Nat.le_refl _, h⟩

/-- A draw stays between the bounds if its nanoseconds do. -/
theorem staysBetween_iff {least most : Duration} {m : Magnitude} (h : least < most) {word : UInt64}
    (hm : m.units = drawnUnits least.units most.units (wordPart word)) :
    StaysBetween least most word ↔ least.nanos ≤ m.nanos ∧ m.nanos ≤ most.nanos := by
  obtain ⟨m', hm', hnext⟩ := next_of_lt h word
  obtain rfl := Magnitude.ext_units (hm.trans hm'.symm)
  unfold StaysBetween
  rw [hnext, Duration.ofFloat?_finite]
  generalize m.nanos = n
  constructor
  · rintro ⟨w, hw, hleast, hmost⟩
    split at hw
    · rename_i d hd
      obtain rfl : d = w := by simpa using hw
      rw [← Duration.ofNanos?_eq_some_iff.1 hd]
      exact ⟨hleast, hmost⟩
    · cases hw
  · rintro ⟨hleast, hmost⟩
    have hd : Duration.ofNanos? n = some ⟨n, hmost.trans_lt most.below_limit⟩ :=
      Duration.ofNanos?_eq_some_iff.2 rfl
    rw [hd]
    exact ⟨_, rfl, hleast, hmost⟩

/-- **The next wait between two durations.**  Their numbers of seconds are never left, so durations
    that survive as numbers are not left either, as all below 2²³ seconds do.  Otherwise the first
    and the last word tell whether some word leaves the bounds; one that draws no wait at all needs
    an upper bound that is within 2¹⁰ seconds of the first one that is none. -/
theorem next_between {least most : Duration} (h : least ≤ most) :
    (∀ word, least.toFloat ≤ drawSeconds least.toFloat most.toFloat word ∧
      drawSeconds least.toFloat most.toFloat word ≤ most.toFloat) ∧
    (∀ word, (∃ w, (between least most).next word = .ok (some w)) ∨
      (between least most).next word = .error .noDuration ∧ 2 ^ 64 - 2 ^ 10 ≤ most.seconds) ∧
    (least.Survives → most.Survives → ∀ word, StaysBetween least most word) ∧
    (most.seconds < 2 ^ 23 → ∀ word, StaysBetween least most word) ∧
    ((∀ word, StaysBetween least most word) ↔
      StaysBetween least most 0 ∧ StaysBetween least most (UInt64.ofNat (2 ^ 64 - 1))) := by
  have hsurvive : least.Survives → most.Survives → ∀ word, StaysBetween least most word := by
    intro hleast hmost word
    rcases Nat.lt_or_ge least.nanos most.nanos with hlt | hge
    · obtain ⟨a, -, ha⟩ := least.toFloat_eq
      obtain ⟨b, -, hb⟩ := most.toFloat_eq
      obtain ⟨m, hm, -⟩ := next_of_lt hlt word
      rw [staysBetween_iff hlt hm, (Duration.survives_iff ha).1 hleast, (Duration.survives_iff hb).1 hmost]
      rw [← ha, ← hb] at hm
      have hab : a.units ≤ b.units := by rw [ha, hb]; exact Duration.units_mono h
      exact ⟨nanos_mono (hm ▸ le_drawnUnits a.short),
        nanos_mono (hm ▸ drawnUnits_le b.short hab (wordPart_lt word))⟩
    · exact staysBetween_of_ge h hge word
  refine ⟨drawSeconds_between h, fun word => ?_, hsurvive, fun hsmall => ?_,
    fun hall => ⟨hall _, hall _⟩, fun ⟨hfirst, hlast⟩ word => ?_⟩
  · rcases Nat.lt_or_ge least.nanos most.nanos with hlt | hge
    · obtain ⟨b, -, hb⟩ := most.toFloat_eq
      obtain ⟨m, hm, hnext⟩ := next_of_lt hlt word
      rw [hnext]
      cases hf : Duration.ofFloat? (finite false m) with
      | some w => exact .inl ⟨w, rfl⟩
      | none =>
        refine .inr ⟨rfl, Duration.le_seconds_of_units ?_⟩
        have hab : least.units ≤ b.units := by rw [hb]; exact Duration.units_mono h
        calc 2 ^ 64 * one ≤ m.units := Duration.ofFloat?_eq_none_iff.1 hf
          _ ≤ most.units := by
            rw [hm, ← hb]
            exact drawnUnits_le b.short hab (wordPart_lt word)
    · exact .inl ⟨least, next_of_ge hge word⟩
  · have hseconds : least.seconds ≤ most.seconds := Nat.div_le_div_right h
    exact hsurvive (Duration.survives_of_lt (hseconds.trans_lt hsmall)) (Duration.survives_of_lt hsmall)
  · rcases Nat.lt_or_ge least.nanos most.nanos with hlt | hge
    · obtain ⟨m, hm, -⟩ := next_of_lt hlt word
      obtain ⟨first, hf, -⟩ := next_of_lt hlt 0
      obtain ⟨last, hl, -⟩ := next_of_lt hlt (UInt64.ofNat (2 ^ 64 - 1))
      rw [staysBetween_iff hlt hf] at hfirst
      rw [staysBetween_iff hlt hl] at hlast
      rw [staysBetween_iff hlt hm]
      have hword : wordPart word ≤ wordPart (UInt64.ofNat (2 ^ 64 - 1)) :=
        Nat.le_sub_one_of_lt (wordPart_lt word)
      have hzero : wordPart 0 ≤ wordPart word := Nat.zero_le _
      have hbelow : first.units ≤ m.units := by
        rw [hf, hm]
        exact drawnUnits_mono hzero
      have habove : m.units ≤ last.units := by
        rw [hm, hl]
        exact drawnUnits_mono hword
      exact ⟨hfirst.1.trans (nanos_mono hbelow), (nanos_mono habove).trans hlast.2⟩
    · exact staysBetween_of_ge h hge word

/-- Halfway between one second and two is a wait between them. -/
theorem next_between_oneToTwo :
    StaysBetween (Duration.ofSeconds 1) (Duration.ofSeconds 2) 9223372036854775808 :=
  (next_between (by decide)).2.2.2.1 (by decide) _

/-- Within the last second of all durations no wait can be drawn. -/
theorem drawn_wait_refused :
    ¬ ∀ least most : Duration, least ≤ most → ∀ word, StaysBetween least most word := by
  intro h
  obtain ⟨w, hw, -⟩ := h (Duration.ofSeconds 18446744073709551615) Duration.longest (by decide) 0
  have hnext : (between (Duration.ofSeconds 18446744073709551615) Duration.longest).next 0 =
      .error .noDuration := by decide +kernel
  rw [hnext] at hw
  cases hw

end WaitTime

end LoadSwarm
