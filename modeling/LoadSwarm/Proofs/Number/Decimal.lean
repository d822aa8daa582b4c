/-
  Decimal texts of floating point numbers are read back.

  * `digitsValue_decimalDigits`: the digits of a number write that number.
  * `Binary64.magnitude?_shift`: a decimal with zeros added at its end is the same number.
  * `Binary64.magnitude?_shortest`: the decimal that is written reads as the number.
  * `Binary64.readDecimal_decimalText`: the text of a decimal, positional or with an exponent, reads as
    that decimal, up to zeros at its end.
  * `Binary64.parseChars_renderChars`: so the text of a finite number reads as that number, whatever
    its layout.
-/
import LoadSwarm.Number.Decimal
import LoadSwarm.Proofs.Number.Rounding

namespace LoadSwarm

/-! ## Digits -/

section Digits

variable {c : Char} {cs ds : List Char} {n : Nat}

theorem digitsValue_eq (cs : List Char) : digitsValue cs = Nat.ofDigitChars 10 cs 0 := rfl

theorem digitsValue_append (cs ds : List Char) :
    digitsValue (cs ++ ds) = 10 ^ ds.length * digitsValue cs + digitsValue ds := by
  rw [digitsValue_eq, Nat.ofDigitChars_append, Nat.ofDigitChars_eq_ofDigitChars_zero]
  rfl

theorem digitsValue_zeros (n : Nat) : digitsValue (List.replicate n '0') = 0 := by
  rw [digitsValue_eq, Nat.ofDigitChars_replicate_zero, Nat.mul_zero]

/-- **The digits of a number write it.** -/
theorem digitsValue_decimalDigits (n : Nat) : digitsValue (decimalDigits n) = n :=
  Nat.ofDigitChars_ten_toDigits

theorem decimalDigits_ne_nil (n : Nat) : decimalDigits n ≠ [] := Nat.toDigits_ne_nil

theorem isDigit_of_mem_decimalDigits (h : c ∈ decimalDigits n) : c.isDigit :=
  Nat.isDigit_of_mem_toDigits (by decide) (by decide) h

theorem exists_decimalDigits (n : Nat) : ∃ c cs, decimalDigits n = c :: cs ∧ c.isDigit := by
  obtain ⟨c, cs, h⟩ := List.exists_cons_of_ne_nil (decimalDigits_ne_nil n)
  exact ⟨c, cs, h, isDigit_of_mem_decimalDigits (n := n) (h ▸ List.mem_cons_self)⟩

theorem digit_ne_sign (h : c.isDigit) : c ≠ '-' ∧ c ≠ '+' := by
  constructor <;> (rintro rfl; cases h)

theorem length_decimalDigits_mul_ten (h : 0 < n) :
    (decimalDigits (10 * n)).length = (decimalDigits n).length + 1 := by
  have happend := Nat.toDigits_append_toDigits (b := 10) (d := 0) (by decide) h (by decide)
  rw [Nat.add_zero] at happend
  unfold decimalDigits
  rw [← happend, List.length_append]
  rfl

/-- The number of digits, from both sides. -/
theorem length_decimalDigits_le (h : 0 < n) {k : Nat} : (decimalDigits k).length ≤ n ↔ k < 10 ^ n :=
  Nat.length_toDigits_le_iff (by decide) h

end Digits

namespace Binary64

open Magnitude

variable {num den num' den' : Nat} {s : Bool} {m : Magnitude} {d : Decimal} {e : Int}

/-! ## Decimals as numbers -/

theorem natPow_pos {b : Nat} (hb : 0 < b) (n : Nat) : 0 < Nat.pow b n := Nat.pow_pos hb

theorem nearest?_congr (hd : 0 < den) (hd' : 0 < den') (h : num * den' = num' * den) (k : Nat) :
    nearest? (num * k) den = nearest? (num' * k) den' := by
  have hk : num * k * den' = num' * k * den := by rw [Nat.mul_right_comm, h, Nat.mul_right_comm]
  unfold nearest?
  rw [nearestUnits_congr hd hd' hk]

theorem ofSteps_elim (s : Bool) (num den : Nat) :
    ofSteps s num den = (nearest? num den).elim (infinite s) (finite s) := by
  unfold ofSteps
  cases nearest? num den <;> rfl

theorem ofFraction_elim (s : Bool) (num den : Nat) :
    ofFraction s num den = (nearest? (num * one) den).elim (infinite s) (finite s) := by
  unfold ofFraction
  exact ofSteps_elim _ _ _

/-- The magnitude of a decimal, if it is not too large. -/
def magnitude? (d : Decimal) : Option Magnitude :=
  if d.coefficient = 0 then some Magnitude.zero
  else if d.point > 310 then none
  else if d.point < -330 then some Magnitude.zero
  else if d.exponent < 0 then nearest? (d.coefficient * one) (Nat.pow 10 d.exponent.natAbs)
  else nearest? (d.coefficient * Nat.pow 10 d.exponent.natAbs * one) 1

/-- The sign of a decimal is that of its number. -/
theorem ofDecimal_eq (s : Bool) (d : Decimal) :
    ofDecimal s d = (magnitude? d).elim (infinite s) (finite s) := by
  unfold ofDecimal magnitude?
  by_cases hzero : d.coefficient = 0
  · rw [if_pos hzero, if_pos hzero, Option.elim_some]
  rw [if_neg hzero, if_neg hzero]
  by_cases hlarge : d.point > 310
  · rw [if_pos hlarge, if_pos hlarge, Option.elim_none]
  rw [if_neg hlarge, if_neg hlarge]
  by_cases hsmall : d.point < -330
  · rw [if_pos hsmall, if_pos hsmall, Option.elim_some]
  rw [if_neg hsmall, if_neg hsmall]
  by_cases hneg : d.exponent < 0
  · rw [if_pos hneg, if_pos hneg, ofFraction_elim]
  · rw [if_neg hneg, if_neg hneg, ofFraction_elim]

theorem ofDecimal_eq_finite_iff : ofDecimal s d = finite s m ↔ magnitude? d = some m := by
  rw [ofDecimal_eq]
  cases magnitude? d <;> simp

theorem point_shift {c : Nat} (h : 0 < c) :
    (⟨10 * c, e - 1⟩ : Decimal).point = (⟨c, e⟩ : Decimal).point := by
  unfold Decimal.point
  dsimp only
  rw [length_decimalDigits_mul_ten h]
  push_cast
  ring

/-- A zero more at the end of a decimal. -/
theorem magnitude?_mul_ten (c : Nat) (e : Int) : magnitude? ⟨10 * c, e - 1⟩ = magnitude? ⟨c, e⟩ := by
  rcases Nat.eq_zero_or_pos c with rfl | hc
  · unfold magnitude?
    rw [if_pos rfl, if_pos rfl]
  unfold magnitude?
  rw [point_shift hc]
  dsimp only
  rw [if_neg hc.ne', if_neg (show 10 * c ≠ 0 by omega)]
  refine if_congr Iff.rfl rfl (if_congr Iff.rfl rfl ?_)
  have hpow := natPow_pos (b := 10) (by decide)
  rcases lt_trichotomy e 0 with hneg | rfl | hpos
  · rw [if_pos hneg, if_pos (show e - 1 < 0 by omega), show (e - 1).natAbs = e.natAbs + 1 by omega]
    refine nearest?_congr (hpow _) (hpow _) ?_ one
    rw [show Nat.pow 10 (e.natAbs + 1) = Nat.pow 10 e.natAbs * 10 from rfl]
    ring
  · rw [if_neg (lt_irrefl 0), if_pos (show (0 : Int) - 1 < 0 by decide)]
    refine nearest?_congr (hpow _) Nat.one_pos ?_ one
    rw [show ((0 : Int) - 1).natAbs = 1 from rfl, show ((0 : Int)).natAbs = 0 from rfl]
    rw [show Nat.pow 10 1 = 10 from rfl, show Nat.pow 10 0 = 1 from rfl]
    ring
  · rw [if_neg (show ¬ e < 0 by omega), if_neg (show ¬ e - 1 < 0 by omega)]
    refine nearest?_congr Nat.one_pos Nat.one_pos ?_ one
    rw [show e.natAbs = (e - 1).natAbs + 1 by omega,
      show Nat.pow 10 ((e - 1).natAbs + 1) = Nat.pow 10 (e - 1).natAbs * 10 from rfl]
    ring

/-- **Zeros at the end of a decimal do not change the number.** -/
theorem magnitude?_shift (c n : Nat) (e : Int) :
    magnitude? ⟨10 ^ n * c, e - n⟩ = magnitude? ⟨c, e⟩ := by
  induction n with
  | zero => simp
  | succ n ih =>
    rw [← ih, ← magnitude?_mul_ten (10 ^ n * c), pow_succ]
    congr 2
    · ring
    · push_cast; ring

theorem magnitude?_dropZeros (fuel : Nat) (d : Decimal) :
    magnitude? (d.dropZeros fuel) = magnitude? d := by
  induction fuel generalizing d with
  | zero => rfl
  | succ fuel ih =>
    unfold Decimal.dropZeros
    split_ifs with h
    · rw [ih, ← magnitude?_mul_ten, Nat.mul_div_cancel' (Nat.dvd_of_mod_eq_zero h.2),
        add_sub_cancel_right]
    · rfl

theorem magnitude?_normalize (d : Decimal) : magnitude? d.normalize = magnitude? d :=
  magnitude?_dropZeros _ d

/-! ## The shortest decimal -/

theorem pow_ten (n : Nat) : Nat.pow 10 n = Nat.pow 5 n * Nat.pow 2 n := Nat.mul_pow 5 2 n

/-- The exact decimal of a magnitude has some 744 to 1384 digits. -/
theorem point_exactDecimal (hm : m.units ≠ 0) :
    -330 ≤ (exactDecimal m).point ∧ (exactDecimal m).point ≤ 310 := by
  have hle : (decimalDigits (exactDecimal m).coefficient).length ≤ 1384 := by
    rw [length_decimalDigits_le (by decide)]
    calc m.units * Nat.pow 5 stepBits < limit * Nat.pow 5 stepBits :=
          Nat.mul_lt_mul_of_pos_right m.units_lt (natPow_pos (by decide) _)
      _ ≤ 10 ^ 1384 := by unfold limit limitBits stepBits; decide +kernel
  have hge : ¬ (decimalDigits (exactDecimal m).coefficient).length ≤ 743 := by
    rw [length_decimalDigits_le (by decide), Nat.not_lt]
    calc 10 ^ 743 ≤ Nat.pow 5 stepBits := by unfold stepBits; decide +kernel
      _ ≤ m.units * Nat.pow 5 stepBits := Nat.le_mul_of_pos_left _ (Nat.pos_of_ne_zero hm)
  unfold Decimal.point
  generalize (decimalDigits (exactDecimal m).coefficient).length = n at *
  have hexponent : (exactDecimal m).exponent = -1074 := rfl
  omega

theorem magnitude?_exactDecimal (hm : m.units ≠ 0) : magnitude? (exactDecimal m) = some m := by
  obtain ⟨hlow, hhigh⟩ := point_exactDecimal hm
  have hpos : 0 < (exactDecimal m).coefficient :=
    Nat.mul_pos (Nat.pos_of_ne_zero hm) (natPow_pos (by decide) _)
  have hneg : (exactDecimal m).exponent < 0 := show -(stepBits : Int) < 0 by decide
  have habs : (exactDecimal m).exponent.natAbs = stepBits := rfl
  unfold magnitude?
  rw [if_neg hpos.ne', if_neg (not_lt.2 hhigh), if_neg (not_lt.2 hlow), if_pos hneg, habs,
    nearest?_eq_some_iff]
  refine (nearestUnits_of_short (natPow_pos (by decide) _) m.short ?_).symm
  rw [pow_ten]
  unfold exactDecimal one
  generalize Nat.pow 2 stepBits = two
  generalize Nat.pow 5 stepBits = five
  exact Nat.mul_assoc _ _ _

/-- A decimal that is found near a magnitude reads as it. -/
theorem magnitude?_neighbour {tie : Tie} (h : neighbour tie m e = some d) :
    magnitude? d = some m := by
  rw [← ofDecimal_eq_finite_iff (s := false)]
  unfold neighbour at h
  dsimp only at h
  generalize (if e < 0 then m.units * Nat.pow 10 e.natAbs else m.units) = num at h
  generalize (if e < 0 then one else one * Nat.pow 10 e.natAbs) = den at h
  cases tie <;> dsimp only at h <;> split_ifs at h <;> cases h <;> assumption

theorem magnitude?_shortestFrom (hm : m.units ≠ 0) (tie : Tie) (lead : Int) (fuel digits : Nat) :
    magnitude? (shortestFrom tie m lead fuel digits) = some m := by
  induction fuel generalizing digits with
  | zero => exact magnitude?_exactDecimal hm
  | succ fuel ih =>
    unfold shortestFrom
    rcases hd : neighbour tie m (lead - digits) with _ | d
    · exact ih _
    · exact magnitude?_neighbour hd

/-- **The decimal that is written reads as the number.** -/
theorem magnitude?_shortest (tie : Tie) (m : Magnitude) : magnitude? (shortest tie m) = some m := by
  unfold shortest
  split_ifs with hm
  · unfold magnitude?
    rw [if_pos rfl]
    exact congrArg some (Magnitude.ext_units hm.symm)
  · rw [magnitude?_normalize, magnitude?_shortestFrom hm]

/-! ## Texts of decimals -/

variable {c : Char} {tail cs ds : List Char} {n : Nat} {x : Binary64}

/-- What may follow the digits: nothing, or an exponent. -/
def IsExponent (tail : List Char) : Prop := tail = [] ∨ ∃ r, tail = 'e' :: r

theorem takeWhile_digits (tail : List Char) (h : ∀ c ∈ ds, c.isDigit)
    (htail : tail.head?.all (!Char.isDigit ·)) :
    (ds ++ tail).takeWhile Char.isDigit = ds ∧ (ds ++ tail).dropWhile Char.isDigit = tail := by
  rw [List.takeWhile_append_of_pos h, List.dropWhile_append_of_pos h]
  cases tail with
  | nil => simp
  | cons c cs =>
    have hc : ¬ c.isDigit := by simpa using htail
    simp [hc]

theorem IsExponent.head (h : IsExponent tail) : tail.head?.all (!Char.isDigit ·) := by
  rcases h with rfl | ⟨r, rfl⟩ <;> rfl

/-- Digits without a point, and an exponent. -/
theorem readDecimal_whole (whole tail : List Char) (hne : whole ≠ []) (hw : ∀ c ∈ whole, c.isDigit)
    (ht : IsExponent tail) :
    readDecimal (whole ++ tail) = (readExponent tail).map fun e => ⟨digitsValue whole, e⟩ := by
  obtain ⟨htake, hdrop⟩ := takeWhile_digits _ hw ht.head
  unfold readDecimal
  rw [htake, hdrop]
  rcases ht with rfl | ⟨r, rfl⟩ <;> simp [hne]

/-- Digits on both sides of a point, and an exponent. -/
theorem readDecimal_point (whole places tail : List Char) (hne : whole ≠ []) (hw : ∀ c ∈ whole, c.isDigit)
    (hp : ∀ c ∈ places, c.isDigit) (ht : IsExponent tail) :
    readDecimal (whole ++ '.' :: (places ++ tail)) =
      (readExponent tail).map fun e => ⟨digitsValue (whole ++ places), e - places.length⟩ := by
  obtain ⟨htake, hdrop⟩ := takeWhile_digits ('.' :: (places ++ tail)) hw rfl
  obtain ⟨htake', hdrop'⟩ := takeWhile_digits _ hp ht.head
  unfold readDecimal
  rw [htake, hdrop]
  simp only [htake', hdrop', hne, false_and, if_false]

theorem readable_decimalDigits (n : Nat) :
    decimalDigits n ≠ [] ∧ (decimalDigits n).all Char.isDigit :=
  ⟨decimalDigits_ne_nil n, List.all_eq_true.2 fun _ h => isDigit_of_mem_decimalDigits h⟩

theorem readExponent_minus (n : Nat) : readExponent ('e' :: '-' :: decimalDigits n) = some (-(n : Int)) := by
  show (if _ ∧ _ then some (-(digitsValue (decimalDigits n) : Int)) else none) = _
  rw [if_pos (readable_decimalDigits n), digitsValue_decimalDigits]

theorem readExponent_plus (n : Nat) : readExponent ('e' :: '+' :: decimalDigits n) = some (n : Int) := by
  show (if _ ∧ _ then some (digitsValue (decimalDigits n) : Int) else none) = _
  rw [if_pos (readable_decimalDigits n), digitsValue_decimalDigits]

theorem readExponent_bare (n : Nat) : readExponent ('e' :: decimalDigits n) = some (n : Int) := by
  obtain ⟨c, cs, hcons, hc⟩ := exists_decimalDigits n
  obtain ⟨hminus, hplus⟩ := digit_ne_sign hc
  have hread := readable_decimalDigits n
  have hvalue := digitsValue_decimalDigits n
  rw [hcons] at hread hvalue ⊢
  unfold readExponent
  simp only [true_or, if_true]
  split
  · next heq => exact absurd (List.cons.inj heq).1 hminus
  · next heq => exact absurd (List.cons.inj heq).1 hplus
  · rw [if_pos hread, hvalue]

/-- The exponent of a text is read back. -/
theorem readExponent_intText (signed : Bool) (k : Int) :
    readExponent ('e' :: ((if signed = true ∧ 0 < k then ['+'] else []) ++ FloatLayout.intText k)) =
      some k := by
  rcases lt_or_ge k 0 with hk | hk
  · have htext : FloatLayout.intText k = '-' :: decimalDigits k.natAbs := if_pos hk
    rw [htext, if_neg (fun h => absurd h.2 (by omega)), List.nil_append, readExponent_minus]
    exact congrArg some (by omega)
  · have htext : FloatLayout.intText k = decimalDigits k.natAbs := if_neg (not_lt.2 hk)
    have hvalue : (k.natAbs : Int) = k := by omega
    rw [htext]
    split_ifs with hsign
    · exact (readExponent_plus _).trans (congrArg some hvalue)
    · exact (readExponent_bare _).trans (congrArg some hvalue)

theorem isDigit_of_mem_zeros (h : c ∈ List.replicate n '0') : c.isDigit := by
  rw [List.eq_of_mem_replicate h]
  rfl

theorem digitsValue_append_zeros (n : Nat) :
    digitsValue (ds ++ List.replicate n '0') = 10 ^ n * digitsValue ds := by
  rw [digitsValue_append, digitsValue_zeros, List.length_replicate, Nat.add_zero]

theorem magnitude?_of_eq {c c' : Nat} {e e' : Int} (hc : c = c') (he : e = e') :
    magnitude? ⟨c, e⟩ = magnitude? ⟨c', e'⟩ := by
  rw [hc, he]

/-- All digits behind the point, and zeros before them. -/
theorem readDecimal_behind (hdigits : ∀ c ∈ ds, c.isDigit) (n : Nat) :
    readDecimal ('0' :: '.' :: (List.replicate n '0' ++ ds)) =
      some ⟨digitsValue ds, -((n + ds.length : Nat) : Int)⟩ := by
  have hread := readDecimal_point ['0'] (List.replicate n '0' ++ ds) [] (by simp)
    (fun _ => isDigit_of_mem_zeros (n := 1))
    (List.forall_mem_append.2 ⟨fun _ => isDigit_of_mem_zeros, hdigits⟩) (.inl rfl)
  have hvalue : digitsValue (['0'] ++ (List.replicate n '0' ++ ds)) = digitsValue ds := by
    rw [digitsValue_append, digitsValue_append, digitsValue_zeros]
    simp [digitsValue]
  rw [List.append_nil, hvalue, List.length_append, List.length_replicate] at hread
  exact hread.trans (congrArg some (congrArg (Decimal.mk _) (Int.zero_sub _)))

/-- The point between the digits. -/
theorem readDecimal_between (hdigits : ∀ c ∈ ds, c.isDigit) (hpos : 0 < n) (hlen : n < ds.length) :
    readDecimal (ds.take n ++ '.' :: ds.drop n) =
      some ⟨digitsValue ds, -((ds.length - n : Nat) : Int)⟩ := by
  have htake : ds.take n ≠ [] := List.ne_nil_of_length_pos (by rw [List.length_take]; omega)
  have hread := readDecimal_point (ds.take n) (ds.drop n) [] htake
    (fun _ h => hdigits _ (List.mem_of_mem_take h)) (fun _ h => hdigits _ (List.mem_of_mem_drop h))
    (.inl rfl)
  rw [List.append_nil, List.take_append_drop, List.length_drop] at hread
  exact hread.trans (congrArg some (congrArg (Decimal.mk _) (Int.zero_sub _)))

/-- All digits before the point, and zeros after them. -/
theorem readDecimal_before (wholePoint : Bool) (hne : ds ≠ []) (hdigits : ∀ c ∈ ds, c.isDigit) (n : Nat) :
    ∃ d', readDecimal (ds ++ List.replicate n '0' ++ (if wholePoint then ['.', '0'] else [])) = some d' ∧
      magnitude? d' = magnitude? ⟨digitsValue ds, n⟩ := by
  have hall : ∀ c ∈ ds ++ List.replicate n '0', c.isDigit :=
    List.forall_mem_append.2 ⟨hdigits, fun _ => isDigit_of_mem_zeros⟩
  have hall_ne : ds ++ List.replicate n '0' ≠ [] := List.append_ne_nil_of_left_ne_nil hne _
  cases wholePoint with
  | true =>
    have hread := readDecimal_point (ds ++ List.replicate n '0') ['0'] [] hall_ne hall
      (fun _ => isDigit_of_mem_zeros (n := 1)) (.inl rfl)
    refine ⟨_, hread, ?_⟩
    rw [← magnitude?_shift (digitsValue ds) (n + 1)]
    refine magnitude?_of_eq ?_ ?_
    · rw [List.append_assoc, ← List.replicate_succ', digitsValue_append_zeros]
    · rw [List.length_singleton]
      push_cast
      ring
  | false =>
    have hread := readDecimal_whole (ds ++ List.replicate n '0') [] hall_ne hall (.inl rfl)
    refine ⟨_, hread, ?_⟩
    rw [← magnitude?_shift (digitsValue ds) n]
    exact magnitude?_of_eq (digitsValue_append_zeros n) (sub_self (n : Int)).symm

/-- Digits only, with a point where one is needed. -/
theorem readDecimal_positionalText (wholePoint : Bool) (d : Decimal) :
    ∃ d', readDecimal (FloatLayout.positionalText wholePoint (decimalDigits d.coefficient) d.point) =
      some d' ∧ magnitude? d' = magnitude? d := by
  have hdigits : ∀ c ∈ decimalDigits d.coefficient, c.isDigit := fun _ => isDigit_of_mem_decimalDigits
  have hne := decimalDigits_ne_nil d.coefficient
  have hpoint : d.point = (decimalDigits d.coefficient).length + d.exponent := rfl
  have hvalue := digitsValue_decimalDigits d.coefficient
  obtain ⟨coefficient, exponent⟩ := d
  dsimp only at *
  generalize decimalDigits coefficient = ds at *
  generalize Decimal.point ⟨coefficient, exponent⟩ = k at *
  subst hvalue
  unfold FloatLayout.positionalText
  dsimp only
  rcases le_or_gt k 0 with hbehind | hfront
  · rw [if_pos hbehind]
    exact ⟨_, readDecimal_behind hdigits k.natAbs, magnitude?_of_eq rfl (by omega)⟩
  rw [if_neg (not_le.2 hfront)]
  rcases Nat.lt_or_ge k.natAbs ds.length with hbetween | hbefore
  · rw [if_neg (Nat.not_le.2 hbetween)]
    exact ⟨_, readDecimal_between hdigits (by omega) hbetween, magnitude?_of_eq rfl (by omega)⟩
  · rw [if_pos hbefore]
    obtain ⟨d', hread, hmagnitude⟩ :=
      readDecimal_before wholePoint hne hdigits (k.natAbs - ds.length)
    exact ⟨d', hread, hmagnitude.trans (magnitude?_of_eq rfl (by omega))⟩

/-- A digit before the point, and an exponent. -/
theorem readDecimal_exponentText (signed : Bool) (d : Decimal) :
    readDecimal (FloatLayout.exponentText signed (decimalDigits d.coefficient) d.point) = some d := by
  have hdigits : ∀ c ∈ decimalDigits d.coefficient, c.isDigit := fun _ => isDigit_of_mem_decimalDigits
  have hne := decimalDigits_ne_nil d.coefficient
  have hpoint : d.point = (decimalDigits d.coefficient).length + d.exponent := rfl
  have hvalue := digitsValue_decimalDigits d.coefficient
  obtain ⟨coefficient, exponent⟩ := d
  dsimp only at *
  generalize decimalDigits coefficient = ds at *
  generalize Decimal.point ⟨coefficient, exponent⟩ = k at *
  subst hvalue
  have htail := readExponent_intText signed (k - 1)
  unfold FloatLayout.exponentText
  dsimp only
  generalize (if signed = true ∧ 0 < k - 1 then ['+'] else []) ++ FloatLayout.intText (k - 1) = r at *
  match ds with
  | [] => exact absurd rfl hne
  | [c] =>
    have hread := readDecimal_whole [c] ('e' :: r) hne hdigits (.inr ⟨r, rfl⟩)
    rw [htail] at hread
    refine hread.trans (congrArg some (Decimal.mk.injEq .. ▸ ⟨rfl, ?_⟩))
    rw [List.length_singleton] at hpoint
    omega
  | c :: c' :: cs =>
    have hread := readDecimal_point [c] (c' :: cs) ('e' :: r) (by simp)
      (fun x h => hdigits x (List.mem_cons.2 (.inl (List.mem_singleton.1 h))))
      (fun _ h => hdigits _ (List.mem_cons_of_mem c h)) (.inr ⟨r, rfl⟩)
    rw [htail] at hread
    refine hread.trans (congrArg some (Decimal.mk.injEq .. ▸ ⟨rfl, ?_⟩))
    rw [List.length_cons] at hpoint
    omega

/-- **The text of a decimal reads as its number.** -/
theorem readDecimal_decimalText (layout : FloatLayout) (d : Decimal) :
    ∃ d', readDecimal (layout.decimalText d) = some d' ∧ magnitude? d' = magnitude? d := by
  unfold FloatLayout.decimalText
  split_ifs with hzero hwhole
  · refine ⟨⟨0, -1⟩, by decide, ?_⟩
    unfold magnitude?
    rw [if_pos rfl, if_pos hzero]
  · refine ⟨⟨0, 0⟩, by decide, ?_⟩
    unfold magnitude?
    rw [if_pos rfl, if_pos hzero]
  · rcases layout.positional with _ | ⟨least, most⟩
    · exact readDecimal_positionalText _ d
    · dsimp only
      split_ifs
      · exact readDecimal_positionalText _ d
      · exact ⟨d, readDecimal_exponentText _ d, rfl⟩

/-- The text of a decimal begins with a digit. -/
theorem exists_decimalText (layout : FloatLayout) (d : Decimal) :
    ∃ c cs, layout.decimalText d = c :: cs ∧ c.isDigit := by
  obtain ⟨c, cs, hcons, hc⟩ := exists_decimalDigits d.coefficient
  have hpositional : ∃ c cs, FloatLayout.positionalText layout.wholePoint
      (decimalDigits d.coefficient) d.point = c :: cs ∧ c.isDigit := by
    unfold FloatLayout.positionalText
    rw [hcons]
    rcases le_or_gt d.point 0 with hfront | hfront
    · rw [if_pos hfront]
      exact ⟨'0', _, rfl, rfl⟩
    · obtain ⟨n, hn⟩ := Nat.exists_eq_succ_of_ne_zero (show d.point.natAbs ≠ 0 by omega)
      rw [if_neg (not_le.2 hfront)]
      dsimp only
      rw [hn]
      split_ifs <;> exact ⟨c, _, rfl, hc⟩
  unfold FloatLayout.decimalText
  split_ifs
  · exact ⟨'0', _, rfl, rfl⟩
  · exact ⟨'0', _, rfl, rfl⟩
  · rcases layout.positional with _ | ⟨least, most⟩
    · exact hpositional
    · dsimp only
      split_ifs
      · exact hpositional
      · rw [hcons]
        rcases cs with _ | ⟨c', cs⟩ <;> exact ⟨c, _, rfl, hc⟩

/-- A character of the text of a decimal. -/
def IsDecimalChar (c : Char) : Prop := c.isDigit ∨ c ∈ ['.', 'e', '-', '+']

theorem decimalDigits_chars (n : Nat) : ∀ c ∈ decimalDigits n, IsDecimalChar c :=
  fun _ h => .inl (isDigit_of_mem_decimalDigits h)

theorem intText_chars (k : Int) : ∀ c ∈ FloatLayout.intText k, IsDecimalChar c := by
  unfold FloatLayout.intText
  split_ifs
  · exact List.forall_mem_cons.2 ⟨.inr (by decide), decimalDigits_chars _⟩
  · exact decimalDigits_chars _

theorem positionalText_chars (wholePoint : Bool) (k : Int) (hds : ∀ c ∈ ds, IsDecimalChar c) :
    ∀ c ∈ FloatLayout.positionalText wholePoint ds k, IsDecimalChar c := by
  have hzeros (n : Nat) : ∀ c ∈ List.replicate n '0', IsDecimalChar c :=
    fun _ h => .inl (isDigit_of_mem_zeros h)
  have hpoint : IsDecimalChar '.' := .inr (by decide)
  have hzero : IsDecimalChar '0' := .inl (by decide)
  unfold FloatLayout.positionalText
  dsimp only
  split_ifs <;> simp only [List.forall_mem_append, List.forall_mem_cons]
  · exact ⟨hzero, hpoint, hzeros _, hds⟩
  · exact ⟨⟨hds, hzeros _⟩, hpoint, hzero, nofun⟩
  · exact ⟨⟨hds, hzeros _⟩, nofun⟩
  · exact ⟨fun c h => hds c (List.mem_of_mem_take h), hpoint,
      fun c h => hds c (List.mem_of_mem_drop h)⟩

theorem exponentText_chars (signed : Bool) (k : Int) (hds : ∀ c ∈ ds, IsDecimalChar c) :
    ∀ c ∈ FloatLayout.exponentText signed ds k, IsDecimalChar c := by
  have hexponent : ∀ c ∈ 'e' :: ((if signed = true ∧ 0 < k - 1 then ['+'] else []) ++
      FloatLayout.intText (k - 1)), IsDecimalChar c := by
    refine List.forall_mem_cons.2 ⟨.inr (by decide), List.forall_mem_append.2 ⟨?_, intText_chars _⟩⟩
    split_ifs
    · exact List.forall_mem_singleton.2 (.inr (by decide))
    · exact nofun
  unfold FloatLayout.exponentText
  match ds with
  | [] => exact nofun
  | [c] => exact List.forall_mem_cons.2 ⟨hds c List.mem_cons_self, hexponent⟩
  | c :: c' :: cs =>
    refine List.forall_mem_cons.2 ⟨hds c List.mem_cons_self, List.forall_mem_cons.2 ⟨.inr (by decide), ?_⟩⟩
    exact List.forall_mem_append.2 ⟨(List.forall_mem_cons.1 hds).2, hexponent⟩

/-- **The characters of a decimal.** -/
theorem decimalText_chars (layout : FloatLayout) (d : Decimal) :
    ∀ c ∈ layout.decimalText d, IsDecimalChar c := by
  have hds := decimalDigits_chars d.coefficient
  unfold FloatLayout.decimalText
  split_ifs
  · exact List.forall_mem_cons.2 ⟨.inl (by decide), List.forall_mem_cons.2 ⟨.inr (by decide),
      List.forall_mem_singleton.2 (.inl (by decide))⟩⟩
  · exact List.forall_mem_singleton.2 (.inl (by decide))
  · rcases layout.positional with _ | ⟨least, most⟩
    · exact positionalText_chars _ _ hds
    · dsimp only
      split_ifs
      · exact positionalText_chars _ _ hds
      · exact exponentText_chars _ _ hds

/-- A text that shows the point of whole numbers is no text of digits alone. -/
theorem exists_mark_decimalText {layout : FloatLayout} (hwhole : layout.wholePoint = true)
    (d : Decimal) : ∃ c ∈ layout.decimalText d, c = '.' ∨ c = 'e' := by
  have hpositional : ∃ c ∈ FloatLayout.positionalText layout.wholePoint
      (decimalDigits d.coefficient) d.point, c = '.' ∨ c = 'e' := by
    refine ⟨'.', ?_, .inl rfl⟩
    unfold FloatLayout.positionalText
    simp only [hwhole, reduceIte]
    split_ifs <;> simp
  unfold FloatLayout.decimalText
  simp only [hwhole, reduceIte] at hpositional ⊢
  split_ifs
  · exact ⟨'.', by simp, .inl rfl⟩
  · rcases layout.positional with _ | ⟨least, most⟩
    · exact hpositional
    · dsimp only
      split_ifs
      · exact hpositional
      · refine ⟨'e', ?_, .inr rfl⟩
        obtain ⟨c, cs, hcons, -⟩ := exists_decimalDigits d.coefficient
        rw [hcons]
        unfold FloatLayout.exponentText
        rcases cs with _ | ⟨c', cs⟩ <;> simp

theorem readUnsigned_eq (s : Bool) (h : readDecimal cs = some d) :
    readUnsigned s cs = some (ofDecimal s d) := by
  unfold readUnsigned
  rw [h]

theorem parseChars_minus (h : readUnsigned true cs = some x) : parseChars ('-' :: cs) = .ok x := by
  unfold parseChars
  rw [if_neg (List.cons_ne_nil _ _)]
  simp only [h]

/-- A digit is no sign. -/
theorem parseChars_digit (hc : c.isDigit) (h : readUnsigned false (c :: cs) = some x) :
    parseChars (c :: cs) = .ok x := by
  obtain ⟨hminus, hplus⟩ := digit_ne_sign hc
  unfold parseChars
  rw [if_neg (List.cons_ne_nil _ _)]
  simp only [List.cons.injEq, hminus, hplus, false_and, imp_false, not_false_eq_true, implies_true, h]

/-- **The text of a finite number reads as that number**, whatever its layout. -/
theorem parseChars_renderChars (layout : FloatLayout) (s : Bool) (m : Magnitude) :
    parseChars ((finite s m).renderChars layout) = .ok (finite s m) := by
  obtain ⟨d, hread, hmagnitude⟩ := readDecimal_decimalText layout (shortest layout.tie m)
  obtain ⟨c, cs, hcons, hc⟩ := exists_decimalText layout (shortest layout.tie m)
  have hnumber : readUnsigned s (layout.decimalText (shortest layout.tie m)) = some (finite s m) := by
    rw [readUnsigned_eq s hread, ofDecimal_eq_finite_iff.2 (hmagnitude.trans (magnitude?_shortest _ m))]
  unfold renderChars
  dsimp only
  rw [hcons] at hnumber ⊢
  cases s with
  | true => exact parseChars_minus hnumber
  | false => exact parseChars_digit hc hnumber

end Binary64

end LoadSwarm
