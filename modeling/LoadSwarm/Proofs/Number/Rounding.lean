/-
  Rounding to magnitudes.

  * `roundHalfEven_mono`: the rounded quotient grows with the quotient.
  * `Magnitude.le_nearestUnits`, `Magnitude.nearestUnits_le`: what is nearest lies on the same side of
    every magnitude as the quotient itself; so a magnitude is nearest to itself.
  * `Magnitude.nearestUnits_error`: it is off by at most half of the gap between magnitudes there.
  * `Magnitude.fraction k`: one over 2ᵏ, in steps.  Below a power of two magnitudes are such a fraction
    apart (`gap_le_fraction`), and it can be taken out of a quotient (`nearestUnits_mul_fraction`).
  * `Binary64.ofSteps_eq`, `add_eq`, `sub_eq`, `mul_eq`: sums, differences and products of numbers
    that are not negative, in steps.
-/
import Mathlib
import LoadSwarm.Number.Binary64

namespace LoadSwarm

/-! ## Rounded quotients -/

section Quotients

variable {num den num' den' n : Nat}

theorem roundHalfEven_le (num den : Nat) : roundHalfEven num den ≤ num / den + 1 := by
  unfold roundHalfEven
  dsimp only
  split_ifs <;> omega

theorem le_roundHalfEven (num den : Nat) : num / den ≤ roundHalfEven num den := by
  unfold roundHalfEven
  dsimp only
  split_ifs <;> omega

/-- **A larger quotient is not rounded to less.** -/
theorem roundHalfEven_mono (hd : 0 < den) (hd' : 0 < den') (h : num * den' ≤ num' * den) :
    roundHalfEven num den ≤ roundHalfEven num' den' := by
  have hq : num / den ≤ num' / den' := by
    rw [Nat.le_div_iff_mul_le hd']
    refine Nat.le_of_mul_le_mul_right ?_ hd
    calc num / den * den' * den = num / den * den * den' := by ring
      _ ≤ num * den' := Nat.mul_le_mul_right _ (Nat.div_mul_le_self num den)
      _ ≤ num' * den := h
  rcases Nat.lt_or_eq_of_le hq with hlt | heq
  · calc roundHalfEven num den ≤ num / den + 1 := roundHalfEven_le num den
      _ ≤ num' / den' := hlt
      _ ≤ roundHalfEven num' den' := le_roundHalfEven num' den'
  · -- the whole parts are equal, so the remainders decide
    have hr : num % den * den' ≤ num' % den' * den := by
      have h1 := Nat.div_add_mod num den
      have h2 := Nat.div_add_mod num' den'
      rw [← heq] at h2
      nlinarith
    have hup : den ≤ 2 * (num % den) → den' ≤ 2 * (num' % den') := by
      intro hle
      refine Nat.le_of_mul_le_mul_right ?_ hd
      nlinarith
    have htie : den ≤ 2 * (num % den) → 2 * (num' % den') = den' → 2 * (num % den) = den := by
      intro hle htie
      refine Nat.le_antisymm ?_ hle
      refine Nat.le_of_mul_le_mul_right ?_ hd'
      nlinarith
    unfold roundHalfEven
    dsimp only
    rw [← heq]
    split_ifs with h1 h2 h2
    · exact le_rfl
    · exact Nat.le_succ _
    · rcases not_or.1 h1 with ⟨h3, h4⟩
      have hle : den ≤ 2 * (num % den) := Nat.le_of_not_lt h3
      rcases h2 with h2 | ⟨h2, heven⟩
      · exact absurd (hup hle) (Nat.not_le.2 h2)
      · exact absurd ⟨htie hle h2, heven⟩ h4
    · exact le_rfl

theorem roundHalfEven_congr (hd : 0 < den) (hd' : 0 < den') (h : num * den' = num' * den) :
    roundHalfEven num den = roundHalfEven num' den' :=
  (roundHalfEven_mono hd hd' h.le).antisymm (roundHalfEven_mono hd' hd h.ge)

/-- A whole quotient stays. -/
theorem roundHalfEven_mul (hd : 0 < den) (n : Nat) : roundHalfEven (n * den) den = n := by
  unfold roundHalfEven
  simp [Nat.mul_div_cancel n hd, hd]

theorem le_roundHalfEven_of_mul_le (hd : 0 < den) (h : n * den ≤ num) : n ≤ roundHalfEven num den := by
  rw [← roundHalfEven_mul hd n]
  exact roundHalfEven_mono hd hd (Nat.mul_le_mul_right den h)

theorem roundHalfEven_le_of_le_mul (hd : 0 < den) (h : num ≤ n * den) : roundHalfEven num den ≤ n := by
  rw [← roundHalfEven_mul hd n]
  exact roundHalfEven_mono hd hd (Nat.mul_le_mul_right den h)

/-- The rounded quotient is off by a half at most. -/
theorem roundHalfEven_error (num : Nat) (hd : 0 < den) :
    2 * num ≤ 2 * (roundHalfEven num den * den) + den ∧
      2 * (roundHalfEven num den * den) ≤ 2 * num + den := by
  have hmod := Nat.div_add_mod num den
  have hlt := Nat.mod_lt num hd
  rw [Nat.mul_comm] at hmod
  unfold roundHalfEven
  dsimp only
  split_ifs with h
  · omega
  · rw [Nat.add_mul]
    omega

/-- What is off by less than a half is rounded to. -/
theorem roundHalfEven_eq (h1 : 2 * num < 2 * (n * den) + den) (h2 : 2 * (n * den) < 2 * num + den) :
    roundHalfEven num den = n := by
  have hd : 0 < den := by
    rcases Nat.eq_zero_or_pos den with rfl | hd
    · omega
    · exact hd
  obtain ⟨h3, h4⟩ := roundHalfEven_error num hd
  have h5 : roundHalfEven num den * den < (n + 1) * den := by rw [Nat.add_mul]; omega
  have h6 : n * den < (roundHalfEven num den + 1) * den := by rw [Nat.add_mul]; omega
  have h7 := Nat.lt_of_mul_lt_mul_right h5
  have h8 := Nat.lt_of_mul_lt_mul_right h6
  omega

end Quotients

/-! ## Magnitudes -/

namespace Magnitude

variable {num den num' den' u v n e : Nat}

theorem one_eq : one = 2 ^ stepBits := by
  unfold one
  simp only [Nat.pow_eq]

theorem one_pos : 0 < one := by rw [one_eq]; positivity

theorem one_eq_mul {k : Nat} (h : k + e = stepBits) : one = 2 ^ k * 2 ^ e := by
  rw [one_eq, ← pow_add, h]

theorem pow_mul_one {k : Nat} (h : e + stepBits = k) : 2 ^ e * one = 2 ^ k := by
  rw [one_eq, ← pow_add, h]

/-- The binary exponent of the first number beyond all magnitudes, in steps. -/
def limitBits : Nat := 2098

/-- The first number beyond all magnitudes, in steps. -/
def limit : Nat := 2 ^ limitBits

theorem limit_pos : 0 < limit := by unfold limit; positivity

theorem pow_mul_one_lt_limit (h : e + stepBits < limitBits) : 2 ^ e * one < limit := by
  rw [pow_mul_one rfl]
  exact Nat.pow_lt_pow_right Nat.one_lt_two h

/-- At most 53 significant bits. -/
def Short (u : Nat) : Prop := 2 ^ (u.log2 - 52) ∣ u

theorem fits_iff : Fits u ↔ u < limit ∧ Short u := by
  unfold Fits Short
  rw [← Nat.dvd_iff_mod_eq_zero, Nat.pow_eq]
  refine and_congr_left fun _ => ?_
  rcases Nat.eq_zero_or_pos u with rfl | hu
  · exact iff_of_true (by decide) limit_pos
  · rw [limit, ← Nat.log2_lt hu.ne', limitBits]

theorem short (m : Magnitude) : Short m.units := (fits_iff.1 m.fits).2

theorem ext_units {m m' : Magnitude} (h : m.units = m'.units) : m = m' := by
  cases m; cases m'; cases h; rfl

theorem units_lt (m : Magnitude) : m.units < limit := (fits_iff.1 m.fits).1

/-- A number below 2⁵³ is short, whatever zeros follow it. -/
theorem short_mul_pow (hn : n < 2 ^ 53) (e : Nat) : Short (n * 2 ^ e) := by
  rcases Nat.eq_zero_or_pos n with rfl | hpos
  · simp [Short]
  · have hlog : (n * 2 ^ e).log2 < 53 + e := by
      rw [Nat.log2_lt (by positivity), pow_add]
      exact Nat.mul_lt_mul_of_pos_right hn (by positivity)
    exact Dvd.dvd.mul_left (pow_dvd_pow 2 (by omega)) n

theorem short_pow (e : Nat) : Short (2 ^ e) := by
  simpa using short_mul_pow (n := 1) (by norm_num) e

/-- Whole numbers up to 2⁵³ are short. -/
theorem short_mul_one (h : n ≤ 2 ^ 53) : Short (n * one) := by
  rcases Nat.lt_or_eq_of_le h with hlt | rfl
  · rw [one_eq]; exact short_mul_pow hlt _
  · rw [pow_mul_one rfl]; exact short_pow _

theorem short_pow_mul_one (e : Nat) : Short (2 ^ e * one) := by
  rw [pow_mul_one rfl]; exact short_pow _

/-- One over a power of two, in steps. -/
@[irreducible]
def fraction (k : Nat) : Nat := 2 ^ (stepBits - k)

theorem fraction_pos (k : Nat) : 0 < fraction k := by unfold fraction; positivity

theorem fraction_eq {k j : Nat} (h : k + j ≤ stepBits) : fraction k = 2 ^ j * fraction (k + j) := by
  unfold fraction
  rw [← pow_add]
  congr 1
  omega

theorem one_eq_fraction {k : Nat} (h : k ≤ stepBits) : one = 2 ^ k * fraction k := by
  unfold fraction
  exact one_eq_mul (Nat.add_sub_of_le h)

theorem short_mul_fraction (hn : n < 2 ^ 53) (k : Nat) : Short (n * fraction k) := by
  unfold fraction
  exact short_mul_pow hn _

theorem log2_le_of_le (h : u ≤ v) : u.log2 ≤ v.log2 := by
  rcases Nat.eq_zero_or_pos u with rfl | hu
  · simp
  · exact (Nat.le_log2 (by omega)).2 ((Nat.log2_self_le hu.ne').trans h)

/-- The gap between magnitudes around a quotient. -/
def gap (num den : Nat) : Nat := 2 ^ ((num / den).log2 - 52)

theorem gap_pos (num den : Nat) : 0 < gap num den := by unfold gap; positivity

theorem nearestUnits_eq (num den : Nat) :
    nearestUnits num den = roundHalfEven num (den * gap num den) * gap num den := rfl

theorem le_nearestUnits_of_dvd (hd : 0 < den) (hv : gap num den ∣ v) (h : v * den ≤ num) :
    v ≤ nearestUnits num den := by
  obtain ⟨c, rfl⟩ := hv
  rw [nearestUnits_eq, Nat.mul_comm]
  refine Nat.mul_le_mul_right _ (le_roundHalfEven_of_mul_le (Nat.mul_pos hd (gap_pos _ _)) ?_)
  calc c * (den * gap num den) = gap num den * c * den := by ring
    _ ≤ num := h

theorem nearestUnits_le_of_dvd (hd : 0 < den) (hv : gap num den ∣ v) (h : num ≤ v * den) :
    nearestUnits num den ≤ v := by
  obtain ⟨c, rfl⟩ := hv
  rw [nearestUnits_eq, Nat.mul_comm (gap num den) c]
  refine Nat.mul_le_mul_right _ (roundHalfEven_le_of_le_mul (Nat.mul_pos hd (gap_pos _ _)) ?_)
  calc num ≤ gap num den * c * den := h
    _ = c * (den * gap num den) := by ring

/-- The quotient lies below the next power of two. -/
theorem le_pow_log2_mul (hd : 0 < den) : num ≤ 2 ^ ((num / den).log2 + 1) * den := by
  have h : num / den < 2 ^ ((num / den).log2 + 1) := Nat.lt_log2_self
  exact ((Nat.div_lt_iff_lt_mul hd).1 h).le

theorem nearestUnits_le_pow (num : Nat) (hd : 0 < den) : nearestUnits num den ≤ 2 ^ ((num / den).log2 + 1) :=
  nearestUnits_le_of_dvd hd (pow_dvd_pow 2 (by omega)) (le_pow_log2_mul hd)

theorem pow_le_nearestUnits (num : Nat) (hd : 0 < den) (h : den ≤ num) :
    2 ^ (num / den).log2 ≤ nearestUnits num den := by
  refine le_nearestUnits_of_dvd hd (pow_dvd_pow 2 (Nat.sub_le _ _)) ?_
  have hq : num / den ≠ 0 := (Nat.div_pos h hd).ne'
  exact (Nat.mul_le_mul_right den (Nat.log2_self_le hq)).trans (Nat.div_mul_le_self num den)

/-- **What is nearest is not below a magnitude that the quotient is not below.** -/
theorem le_nearestUnits (hd : 0 < den) (hu : Short u) (h : u * den ≤ num) :
    u ≤ nearestUnits num den := by
  have hq : u ≤ num / den := (Nat.le_div_iff_mul_le hd).2 h
  rcases Nat.lt_or_eq_of_le (log2_le_of_le hq) with hlt | heq
  · rcases Nat.eq_zero_or_pos u with rfl | hpos
    · exact Nat.zero_le _
    · calc u ≤ 2 ^ (u.log2 + 1) := Nat.lt_log2_self.le
        _ ≤ 2 ^ (num / den).log2 := Nat.pow_le_pow_right Nat.two_pos hlt
        _ ≤ nearestUnits num den :=
          pow_le_nearestUnits _ hd ((Nat.le_mul_of_pos_left den hpos).trans h)
  · refine le_nearestUnits_of_dvd hd ?_ h
    unfold gap
    rw [← heq]
    exact hu

/-- **What is nearest is not above a magnitude that the quotient is not above.** -/
theorem nearestUnits_le (hd : 0 < den) (hu : Short u) (h : num ≤ u * den) :
    nearestUnits num den ≤ u := by
  have hq : num / den ≤ u := Nat.div_le_of_le_mul (by rw [Nat.mul_comm]; exact h)
  rcases Nat.lt_or_eq_of_le (log2_le_of_le hq) with hlt | heq
  · have hpos : u ≠ 0 := by
      rintro rfl
      simp at hlt
    calc nearestUnits num den ≤ 2 ^ ((num / den).log2 + 1) := nearestUnits_le_pow _ hd
      _ ≤ 2 ^ u.log2 := Nat.pow_le_pow_right Nat.two_pos hlt
      _ ≤ u := Nat.log2_self_le hpos
  · refine nearestUnits_le_of_dvd hd ?_ h
    unfold gap
    rw [heq]
    exact hu

/-- **A magnitude is nearest to itself.** -/
theorem nearestUnits_of_short (hd : 0 < den) (hu : Short u) (h : num = u * den) :
    nearestUnits num den = u :=
  (nearestUnits_le hd hu h.le).antisymm (le_nearestUnits hd hu h.ge)

/-- What is nearest is a magnitude, if it is not too large. -/
theorem short_nearestUnits (hd : 0 < den) : Short (nearestUnits num den) := by
  rcases Nat.lt_or_eq_of_le (nearestUnits_le_pow num hd) with hlt | heq
  · rcases Nat.eq_zero_or_pos (nearestUnits num den) with hzero | hpos
    · rw [hzero]; exact dvd_zero _
    · have hlog : (nearestUnits num den).log2 < (num / den).log2 + 1 := (Nat.log2_lt hpos.ne').2 hlt
      exact (pow_dvd_pow 2 (by omega)).trans (Dvd.intro_left _ rfl : gap num den ∣ nearestUnits num den)
  · rw [heq]; exact short_pow _

/-- **A larger quotient is not rounded to less.** -/
theorem nearestUnits_mono (hd : 0 < den) (hd' : 0 < den') (h : num * den' ≤ num' * den) :
    nearestUnits num den ≤ nearestUnits num' den' := by
  have hq : num / den ≤ num' / den' := by
    rw [Nat.le_div_iff_mul_le hd']
    refine Nat.le_of_mul_le_mul_right ?_ hd
    calc num / den * den' * den = num / den * den * den' := by ring
      _ ≤ num * den' := Nat.mul_le_mul_right _ (Nat.div_mul_le_self num den)
      _ ≤ num' * den := h
  rcases Nat.lt_or_eq_of_le (log2_le_of_le hq) with hlt | heq
  · have hle : den' ≤ num' := by
      by_contra hlt'
      rw [Nat.div_eq_of_lt (Nat.not_le.1 hlt')] at hlt
      simp at hlt
    calc nearestUnits num den ≤ 2 ^ ((num / den).log2 + 1) := nearestUnits_le_pow _ hd
      _ ≤ 2 ^ (num' / den').log2 := Nat.pow_le_pow_right Nat.two_pos hlt
      _ ≤ nearestUnits num' den' := pow_le_nearestUnits _ hd' hle
  · have hgap : gap num den = gap num' den' := by unfold gap; rw [heq]
    rw [nearestUnits_eq, nearestUnits_eq, hgap]
    refine Nat.mul_le_mul_right _ (roundHalfEven_mono (Nat.mul_pos hd (gap_pos _ _))
      (Nat.mul_pos hd' (gap_pos _ _)) ?_)
    nlinarith [gap_pos num' den']

/-- Equal quotients have the same nearest magnitude. -/
theorem nearestUnits_congr (hd : 0 < den) (hd' : 0 < den') (h : num * den' = num' * den) :
    nearestUnits num den = nearestUnits num' den' :=
  (nearestUnits_mono hd hd' h.le).antisymm (nearestUnits_mono hd' hd h.ge)

/-- The leading bit of a quotient of steps moves by the bits of a fraction. -/
theorem log2_mul_fraction_div (hd : 0 < den) (hq : num / den ≠ 0) (k : Nat) :
    (num * fraction k / den).log2 = (num / den).log2 + (stepBits - k) := by
  have hlow := (Nat.le_div_iff_mul_le hd).1 (Nat.log2_self_le hq)
  have hhigh := (Nat.div_lt_iff_lt_mul hd).1 (Nat.lt_log2_self (n := num / den))
  have hle : num / den ≤ num * fraction k / den :=
    Nat.div_le_div_right (Nat.le_mul_of_pos_right num (fraction_pos k))
  have hq' : num * fraction k / den ≠ 0 := ((Nat.pos_of_ne_zero hq).trans_le hle).ne'
  refine (Nat.log2_eq_iff hq').2 ⟨(Nat.le_div_iff_mul_le hd).2 ?_, (Nat.div_lt_iff_lt_mul hd).2 ?_⟩
  · rw [pow_add, Nat.mul_right_comm]
    unfold fraction
    exact Nat.mul_le_mul_right _ hlow
  · rw [Nat.add_right_comm, pow_add, Nat.mul_right_comm]
    unfold fraction
    exact Nat.mul_lt_mul_of_pos_right hhigh (Nat.two_pow_pos _)

/-- **A fraction can be taken out of a quotient** that is far above the smallest magnitudes. -/
theorem nearestUnits_mul_fraction (hd : 0 < den) (h : 2 ^ 52 ≤ num / den) (k : Nat) :
    nearestUnits (num * fraction k) den = nearestUnits num den * fraction k := by
  have hq : num / den ≠ 0 := ((Nat.two_pow_pos 52).trans_le h).ne'
  have h52 : 52 ≤ (num / den).log2 := (Nat.le_log2 hq).2 h
  have hgap : gap (num * fraction k) den = gap num den * fraction k := by
    unfold gap
    rw [log2_mul_fraction_div hd hq, Nat.sub_add_comm h52, pow_add]
    unfold fraction
    rfl
  have hpos : 0 < den * gap num den := Nat.mul_pos hd (gap_pos num den)
  have hround : roundHalfEven (num * fraction k) (den * (gap num den * fraction k)) =
      roundHalfEven num (den * gap num den) := by
    rw [← Nat.mul_assoc]
    exact roundHalfEven_congr (Nat.mul_pos hpos (fraction_pos k)) hpos (by ring)
  rw [nearestUnits_eq, nearestUnits_eq, hgap, hround, Nat.mul_assoc]

/-- **What is nearest is off by half a gap at most.** -/
theorem nearestUnits_error (num : Nat) (hd : 0 < den) (hgap : gap num den ≤ n) :
    2 * num ≤ 2 * (nearestUnits num den * den) + den * n ∧
      2 * (nearestUnits num den * den) ≤ 2 * num + den * n := by
  obtain ⟨h1, h2⟩ := roundHalfEven_error num (Nat.mul_pos hd (gap_pos num den))
  have heq : nearestUnits num den * den =
      roundHalfEven num (den * gap num den) * (den * gap num den) := by
    rw [nearestUnits_eq]; ring
  have hle := Nat.mul_le_mul_left den hgap
  rw [heq]
  omega

theorem gap_le (num : Nat) (hd : 0 < den) (h : num < 2 ^ (e + 53) * den) : gap num den ≤ 2 ^ e := by
  unfold gap
  refine Nat.pow_le_pow_right Nat.two_pos ?_
  rcases Nat.eq_zero_or_pos (num / den) with hq | hq
  · simp [hq]
  · have := (Nat.log2_lt hq.ne').2 ((Nat.div_lt_iff_lt_mul hd).2 h)
    omega

/-- The magnitudes below a power of two are a fraction apart. -/
theorem gap_le_fraction {k : Nat} (num : Nat) (hd : 0 < den) (hk : k ≤ 53) (h : num < 2 ^ k * one * den) :
    gap num den ≤ fraction (53 - k) := by
  have hbits : k + stepBits = stepBits - (53 - k) + 53 := by unfold stepBits; omega
  unfold fraction
  refine gap_le num hd ?_
  rwa [pow_mul_one hbits] at h

/-- Below a power of two the magnitudes end with a gap. -/
theorem Short.add_gap_le (hu : Short u) (h : u < 2 ^ (e + 53)) : u + 2 ^ e ≤ 2 ^ (e + 53) := by
  rcases Nat.lt_or_ge u (2 ^ (e + 52)) with hlt | hge
  · have hpow : 2 ^ (e + 53) = 2 ^ (e + 52) + 2 ^ (e + 52) := by ring
    have hle : 2 ^ e ≤ 2 ^ (e + 52) := Nat.pow_le_pow_right Nat.two_pos (by omega)
    omega
  · have hpos : u ≠ 0 := ((Nat.two_pow_pos _).trans_le hge).ne'
    have hlog : u.log2 = e + 52 := (Nat.log2_eq_iff hpos).2 ⟨hge, h⟩
    have hdvd : 2 ^ e ∣ u := by
      unfold Short at hu
      rwa [hlog, Nat.add_sub_cancel] at hu
    obtain ⟨c, rfl⟩ := hdvd
    rw [pow_add] at h ⊢
    have hc : c < 2 ^ 53 := Nat.lt_of_mul_lt_mul_left h
    calc 2 ^ e * c + 2 ^ e = 2 ^ e * (c + 1) := by ring
      _ ≤ 2 ^ e * 2 ^ 53 := Nat.mul_le_mul_left _ hc

/-- Less than half a gap above a magnitude is rounded away. -/
theorem nearestUnits_add (hu : Short u) (hlow : 2 ^ (e + 52) ≤ u) (h : 2 * n < 2 ^ e) :
    nearestUnits (u + n) 1 = u := by
  have hpos : u ≠ 0 := ((Nat.two_pow_pos _).trans_le hlow).ne'
  have hlog : e + 52 ≤ u.log2 := (Nat.le_log2 hpos).2 hlow
  have hgap : 2 ^ e ≤ 2 ^ (u.log2 - 52) := Nat.pow_le_pow_right Nat.two_pos (by omega)
  have hbelow : u + n < 2 ^ (u.log2 + 1) := by
    have heq : u.log2 + 1 = u.log2 - 52 + 53 := by omega
    have hlt : u < 2 ^ (u.log2 + 1) := Nat.lt_log2_self
    rw [heq] at hlt ⊢
    have := hu.add_gap_le hlt
    omega
  have hsame : ((u + n) / 1).log2 = u.log2 := by
    rw [Nat.div_one]
    exact (Nat.log2_eq_iff (by omega)).2 ⟨(Nat.log2_self_le hpos).trans (Nat.le_add_right u n), hbelow⟩
  rw [nearestUnits_eq, Nat.one_mul]
  unfold gap
  rw [hsame]
  unfold Short at hu
  generalize 2 ^ (u.log2 - 52) = g at *
  obtain ⟨c, rfl⟩ := hu
  rw [Nat.mul_comm g c] at *
  rw [roundHalfEven_eq (n := c) (by omega) (by omega)]

/-- What is nearest is a magnitude below 2¹⁰²⁴. -/
theorem nearest?_eq_some_iff {m : Magnitude} :
    nearest? num den = some m ↔ m.units = nearestUnits num den := by
  unfold nearest? ofUnits?
  constructor
  · intro h
    split_ifs at h
    cases h; rfl
  · intro h
    rw [dif_pos (h ▸ m.fits)]
    exact congrArg some (ext_units h.symm)

theorem exists_nearest? (hd : 0 < den) (h : nearestUnits num den < limit) :
    ∃ m, nearest? num den = some m ∧ m.units = nearestUnits num den :=
  ⟨⟨_, fits_iff.2 ⟨h, short_nearestUnits hd⟩⟩, nearest?_eq_some_iff.2 rfl, rfl⟩

end Magnitude

/-! ## Numbers that are not negative -/

namespace Binary64

open Magnitude

variable {num den : Nat} {a b : Magnitude}

theorem ofSteps_eq (hd : 0 < den) (h : nearestUnits num den < limit) (negative : Bool) :
    ∃ m, ofSteps negative num den = finite negative m ∧ m.units = nearestUnits num den := by
  obtain ⟨m, hm, hunits⟩ := exists_nearest? hd h
  exact ⟨m, by unfold ofSteps; rw [hm], hunits⟩

theorem ofSignedSteps_eq {n : Nat} (h : nearestUnits n 1 < limit) :
    ∃ m, ofSignedSteps false n 1 = finite false m ∧ m.units = nearestUnits n 1 := by
  rcases Nat.eq_zero_or_pos n with rfl | hn
  · exact ⟨Magnitude.zero, rfl, rfl⟩
  · unfold ofSignedSteps
    rw [if_neg (by omega), Int.natAbs_natCast, decide_eq_false (by omega)]
    exact ofSteps_eq Nat.one_pos h false

theorem add_eq (h : nearestUnits (a.units + b.units) 1 < limit) :
    ∃ c, finite false a + finite false b = finite false c ∧
      c.units = nearestUnits (a.units + b.units) 1 :=
  ofSignedSteps_eq h

theorem sub_eq (h : a.units ≤ b.units) :
    ∃ c, finite false b - finite false a = finite false c ∧
      c.units = nearestUnits (b.units - a.units) 1 := by
  have hlt : nearestUnits (b.units - a.units) 1 < limit :=
    (nearestUnits_le Nat.one_pos b.short (by omega)).trans_lt b.units_lt
  obtain ⟨c, hc, hunits⟩ := ofSignedSteps_eq hlt
  refine ⟨c, ?_, hunits⟩
  rw [← hc]
  show ofSignedSteps _ ((b.units : Int) + -(a.units : Int)) 1 = _
  rw [← sub_eq_add_neg, ← Nat.cast_sub h]
  rfl

theorem mul_eq (h : nearestUnits (a.units * b.units) Magnitude.one < limit) :
    ∃ c, finite false a * finite false b = finite false c ∧
      c.units = nearestUnits (a.units * b.units) Magnitude.one :=
  ofSteps_eq Magnitude.one_pos h false

theorem div_eq (hb : 0 < b.units) (h : nearestUnits (a.units * Magnitude.one) b.units < limit) :
    ∃ c, finite false a / finite false b = finite false c ∧
      c.units = nearestUnits (a.units * Magnitude.one) b.units := by
  obtain ⟨c, hc, hunits⟩ := ofSteps_eq hb h false
  refine ⟨c, ?_, hunits⟩
  rw [← hc]
  show (if b.units = 0 then _ else _) = _
  rw [if_neg hb.ne']
  rfl

/-- The number nearest to a whole one. -/
theorem ofNat_eq {n : Nat} (h : nearestUnits (n * Magnitude.one) 1 < limit) :
    ∃ m, ofNat n = finite false m ∧ m.units = nearestUnits (n * Magnitude.one) 1 :=
  ofSteps_eq Nat.one_pos h false

/-- A whole number below 2⁵³ is one exactly. -/
theorem ofNat_of_lt {n : Nat} (h : n < 2 ^ 53) :
    ∃ m, ofNat n = finite false m ∧ m.units = n * Magnitude.one := by
  have heq : nearestUnits (n * Magnitude.one) 1 = n * Magnitude.one :=
    nearestUnits_of_short Nat.one_pos (short_mul_one h.le) (Nat.mul_one _).symm
  have hlt : n * Magnitude.one < limit :=
    (Nat.mul_lt_mul_of_pos_right h Magnitude.one_pos).trans (pow_mul_one_lt_limit (by decide))
  obtain ⟨m, hm, hunits⟩ := ofNat_eq (heq.symm ▸ hlt)
  exact ⟨m, hm, hunits.trans heq⟩

theorem le_iff : finite false a ≤ finite false b ↔ a.units ≤ b.units := by
  show le _ _ = true ↔ _
  simp [le, signedUnits]

theorem lt_iff : finite false a < finite false b ↔ a.units < b.units := by
  show (le _ _ && !le _ _) = true ↔ _
  simp [le, signedUnits]
  omega

end Binary64

end LoadSwarm
