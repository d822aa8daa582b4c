/-
  Scalars that are written are read with the meaning they were written with.

  * `natural?_decimalDigits`: a whole number without a sign.
  * `float?_render`, `Meaning.ofPlain_render`: a floating point number, which is never taken for a whole
    number, a word or a text.
  * `isNothing_shown`: only null is taken for nothing; a text that would be is quoted.
-/
import LoadSwarm.Proofs.Number.Decimal
import LoadSwarm.Yaml.Reader
import LoadSwarm.Yaml.Value

namespace LoadSwarm.Yaml

variable {c : Char} {cs : List Char} {limit n : Nat} {s : String} {x : Binary64}

/-! ## Whole numbers -/

theorem digitBelow?_ten (c : Char) :
    digitBelow? 10 c = if c.isDigit then some (c.toNat - '0'.toNat) else none := by
  unfold digitBelow? Lexer.hexDigit?
  split_ifs with h1 h2 h3
  · have hle := (Char.isDigit_iff_toNat.1 h1).2
    rw [Option.filter_some, if_pos]
    simp only [decide_eq_true_eq]
    change c.toNat ≤ 57 at hle
    change c.toNat - 48 < 10
    omega
  · rw [Option.filter_some, if_neg]
    simp only [decide_eq_true_eq]
    omega
  · rw [Option.filter_some, if_neg]
    simp only [decide_eq_true_eq]
    omega
  · rfl

/-- Digits that are read after a number. -/
theorem foldl_digits (h : ∀ c ∈ cs, c.isDigit) (n : Nat) :
    cs.foldl (fun n? c => n?.bind fun n => (digitBelow? 10 c).map (10 * n + ·)) (some n) =
      some (Nat.ofDigitChars 10 cs n) := by
  induction cs generalizing n with
  | nil => rfl
  | cons c cs ih =>
    rw [List.foldl_cons, digitBelow?_ten, if_pos (h c List.mem_cons_self)]
    exact ih (fun c hc => h c (List.mem_cons_of_mem _ hc)) _

theorem foldl_none :
    cs.foldl (fun n? c => n?.bind fun n => (digitBelow? 10 c).map (10 * n + ·)) none = none := by
  induction cs with
  | nil => rfl
  | cons c cs ih => exact ih

/-- What is no digit ends a number. -/
theorem foldl_of_mem (hc : c ∈ cs) (h : ¬ c.isDigit) (n? : Option Nat) :
    cs.foldl (fun n? c => n?.bind fun n => (digitBelow? 10 c).map (10 * n + ·)) n? = none := by
  induction cs generalizing n? with
  | nil => cases hc
  | cons d cs ih =>
    rw [List.foldl_cons]
    rcases List.mem_cons.1 hc with rfl | hc
    · rw [digitBelow?_ten, if_neg h]
      cases n? <;> exact foldl_none
    · exact ih hc _

theorem numberIn?_decimalDigits (h : n ≤ limit) : numberIn? 10 limit (decimalDigits n) = some n := by
  unfold numberIn?
  rw [if_neg (decimalDigits_ne_nil n), foldl_digits fun _ => isDigit_of_mem_decimalDigits,
    ← digitsValue_eq, digitsValue_decimalDigits, Option.filter_some, if_pos (decide_eq_true h)]

theorem numberIn?_of_mem (hc : c ∈ cs) (h : ¬ c.isDigit) : numberIn? 10 limit cs = none := by
  unfold numberIn?
  rw [foldl_of_mem hc h]
  split_ifs <;> rfl

theorem markedNumber?_eq_none (h : ∀ c ∈ cs, c ∉ ['x', 'o', 'b']) : markedNumber? limit cs = none := by
  unfold markedNumber?
  split
  · exact absurd (h 'x' (by simp)) (by decide)
  · exact absurd (h 'o' (by simp)) (by decide)
  · exact absurd (h 'b' (by simp)) (by decide)
  · rfl

/-- No number but zero begins with the digit zero. -/
theorem head_decimalDigits (h : 0 < n) : (decimalDigits n).head? ≠ some '0' := by
  induction n using Nat.strong_induction_on with
  | _ n ih =>
    unfold decimalDigits at *
    rcases Nat.lt_or_ge n 10 with hlt | hge
    · rw [Nat.toDigits_of_lt_base hlt]
      simpa using h.ne'
    · have hpos : 0 < n / 10 := Nat.div_pos hge (by decide)
      rw [Nat.toDigits_of_base_le (by decide) hge, List.head?_append_of_ne_nil _ Nat.toDigits_ne_nil]
      exact ih _ (Nat.div_lt_self h (by decide)) hpos

/-- A spare zero needs a zero in front and digits alone, after a sign if there is one. -/
theorem hasSpareZero_cons (hminus : c ≠ '-') (hplus : c ≠ '+') :
    hasSpareZero (c :: cs) = true ↔ c = '0' ∧ cs ≠ [] ∧ ∀ d ∈ cs, d.isDigit := by
  unfold hasSpareZero
  simp only [List.cons.injEq, hminus, hplus, false_and, imp_false, not_false_eq_true, implies_true]
  split
  · next d ds heq =>
    obtain ⟨rfl, rfl⟩ := List.cons.inj heq
    simp
  · next hne =>
    refine ⟨nofun, ?_⟩
    rintro ⟨rfl, hcs, -⟩
    obtain ⟨d, ds, rfl⟩ := List.exists_cons_of_ne_nil hcs
    exact absurd rfl (hne d ds)

theorem hasSpareZero_decimalDigits (n : Nat) : hasSpareZero (decimalDigits n) = false := by
  rcases Nat.eq_zero_or_pos n with rfl | hpos
  · rfl
  · obtain ⟨c, cs, hcons, hc⟩ := exists_decimalDigits n
    have hhead := head_decimalDigits hpos
    rw [hcons] at hhead ⊢
    obtain ⟨hminus, hplus⟩ := digit_ne_sign hc
    rw [← Bool.not_eq_true, hasSpareZero_cons hminus hplus]
    rintro ⟨rfl, -⟩
    exact hhead rfl

/-- No marks of other bases. -/
def Unmarked (cs : List Char) : Prop := ∀ c ∈ cs, c ∉ ['x', 'o', 'b']

theorem natural?_cons (hplus : c ≠ '+') (h : Unmarked (c :: cs)) :
    natural? limit (c :: cs) = if hasSpareZero (c :: cs) then none else numberIn? 10 limit (c :: cs) := by
  unfold natural?
  simp only [List.cons.injEq, hplus, false_and, imp_false, not_false_eq_true, implies_true,
    markedNumber?_eq_none h]

/-- **A number in decimal digits is read back.** -/
theorem natural?_decimalDigits (h : n ≤ limit) : natural? limit (decimalDigits n) = some n := by
  have hunmarked : Unmarked (decimalDigits n) := by
    intro c hc hmark
    have hdigit := isDigit_of_mem_decimalDigits hc
    simp only [List.mem_cons, List.not_mem_nil, or_false] at hmark
    rcases hmark with rfl | rfl | rfl <;> cases hdigit
  have hnumber := numberIn?_decimalDigits h
  have hspare := hasSpareZero_decimalDigits n
  obtain ⟨c, cs, hcons, hc⟩ := exists_decimalDigits n
  rw [hcons] at hunmarked hnumber hspare ⊢
  rw [natural?_cons (digit_ne_sign hc).2 hunmarked, hspare, if_neg Bool.false_ne_true, hnumber]

/-! ## Floating point numbers -/

theorem natural?_eq_none (hplus : c ≠ '+') (h : Unmarked (c :: cs)) {d : Char} (hd : d ∈ c :: cs)
    (hnot : ¬ d.isDigit) : natural? limit (c :: cs) = none := by
  rw [natural?_cons hplus h, numberIn?_of_mem hd hnot]
  split_ifs <;> rfl

theorem negative?_eq_none (h : Unmarked cs) {d : Char} (hd : d ∈ cs.tail) (hnot : ¬ d.isDigit) :
    negative? limit cs = none := by
  unfold negative?
  split
  · next digits =>
    have hdigits : Unmarked digits := fun c hc => h c (List.mem_cons_of_mem _ hc)
    have hd' : d ∈ digits := hd
    rw [markedNumber?_eq_none hdigits, numberIn?_of_mem hd' hnot]
    dsimp only
    split_ifs <;> rfl
  · rfl

theorem Unmarked.of_decimalChar (h : ∀ c ∈ cs, Binary64.IsDecimalChar c) : Unmarked cs := by
  intro c hc hmark
  simp only [List.mem_cons, List.not_mem_nil, or_false] at hmark
  rcases h c hc with hdigit | hother
  · rcases hmark with rfl | rfl | rfl <;> cases hdigit
  · rcases hmark with rfl | rfl | rfl <;> exact absurd hother (by decide)

/-- Digits follow a zero that is to spare. -/
theorem isDigit_of_hasSpareZero (h : hasSpareZero (c :: cs) = true) : ∀ d ∈ cs, d.isDigit := by
  by_cases hsign : c = '-' ∨ c = '+'
  · have hzero : ∃ d ds, cs = '0' :: d :: ds ∧ (d :: ds).all Char.isDigit = true := by
      rcases hsign with rfl | rfl
      all_goals
        unfold hasSpareZero at h
        dsimp only at h
        split at h
        · exact ⟨_, _, ‹_›, h⟩
        · cases h
    obtain ⟨d, ds, rfl, hdigits⟩ := hzero
    exact List.forall_mem_cons.2 ⟨rfl, List.all_eq_true.1 hdigits⟩
  · obtain ⟨hminus, hplus⟩ := not_or.1 hsign
    exact ((hasSpareZero_cons hminus hplus).1 h).2.2

/-- A digit in front, or a minus sign and a digit. -/
def startsAsNumber : List Char → Bool
  | [] => false
  | [c] => c.isDigit
  | c :: d :: _ => c.isDigit || (c = '-' && d.isDigit)

/-- What starts as a number is no word. -/
theorem ofList_ne_word (h : startsAsNumber cs = true) (words : List String)
    (hwords : words.all fun w => !startsAsNumber w.toList) : ∀ w ∈ words, String.ofList cs ≠ w := by
  rintro w hw rfl
  have hstarts := List.all_eq_true.1 hwords _ hw
  rw [String.toList_ofList, h] at hstarts
  cases hstarts

/-- The text of a finite number: it starts as a number, and a mark of its fraction or exponent follows. -/
structure FiniteText (cs : List Char) : Prop where
  starts : startsAsNumber cs = true
  unmarked : Unmarked cs
  fraction : ∃ d ∈ cs.tail, ¬ d.isDigit

theorem finiteText (negative : Bool) (m : Magnitude) :
    FiniteText ((Binary64.finite negative m).renderChars .scalar) := by
  set d := Binary64.shortest FloatLayout.scalar.tie m with hd
  obtain ⟨c, cs, hcons, hc⟩ := Binary64.exists_decimalText .scalar d
  have hchars := Binary64.decimalText_chars .scalar d
  obtain ⟨e, he, hmark⟩ :=
    Binary64.exists_mark_decimalText (show FloatLayout.scalar.wholePoint = true from rfl) d
  rw [hcons] at hchars he
  have hnot : ¬ e.isDigit := by rcases hmark with rfl | rfl <;> decide
  have htail : e ∈ cs := by
    rcases List.mem_cons.1 he with rfl | he
    · exact absurd hc hnot
    · exact he
  have hunmarked := Unmarked.of_decimalChar hchars
  unfold Binary64.renderChars
  dsimp only
  rw [← hd, hcons]
  cases negative with
  | true =>
    refine ⟨?_, ?_, e, List.mem_cons_of_mem c htail, hnot⟩
    · simp [startsAsNumber, hc]
    · intro a ha
      rcases List.mem_cons.1 ha with rfl | ha
      · decide
      · exact hunmarked a ha
  | false =>
    refine ⟨?_, hunmarked, e, htail, hnot⟩
    obtain ⟨f, fs, rfl⟩ := List.exists_cons_of_ne_nil (List.ne_nil_of_mem htail)
    show (c.isDigit || _) = true
    rw [hc, Bool.true_or]

namespace FiniteText

theorem ne_of_starts {ds : List Char} (h : FiniteText cs) (hds : startsAsNumber ds = false) : cs ≠ ds := by
  rintro rfl
  exact absurd (h.starts.symm.trans hds) (by decide)

theorem exists_cons (h : FiniteText cs) : ∃ c ds, cs = c :: ds ∧ c ≠ '+' := by
  obtain ⟨c, ds, rfl⟩ := List.exists_cons_of_ne_nil (h.ne_of_starts rfl)
  refine ⟨c, ds, rfl, ?_⟩
  rintro rfl
  have hstarts := h.starts
  cases ds <;> cases hstarts

theorem natural?_eq_none (h : FiniteText cs) : natural? limit cs = none := by
  obtain ⟨c, ds, rfl, hplus⟩ := h.exists_cons
  obtain ⟨d, hd, hnot⟩ := h.fraction
  exact Yaml.natural?_eq_none hplus h.unmarked (List.mem_cons_of_mem c hd) hnot

theorem negative?_eq_none (h : FiniteText cs) : negative? limit cs = none := by
  obtain ⟨d, hd, hnot⟩ := h.fraction
  exact Yaml.negative?_eq_none h.unmarked hd hnot

theorem hasSpareZero_eq_false (h : FiniteText cs) : hasSpareZero cs = false := by
  obtain ⟨c, ds, rfl, -⟩ := h.exists_cons
  obtain ⟨d, hd, hnot⟩ := h.fraction
  exact Bool.not_eq_true _ ▸ fun hspare => hnot (isDigit_of_hasSpareZero hspare d hd)

theorem whole?_eq_none (h : FiniteText cs) : whole? (String.ofList cs) = none := by
  unfold whole?
  simp only [String.toList_ofList, h.natural?_eq_none, h.negative?_eq_none, Option.map_none]
  rfl

theorem float?_eq (h : FiniteText cs) {x : Binary64} (hx : Binary64.parseChars cs = .ok x)
    (hfinite : x.isFinite = true) : float? (String.ofList cs) = some x := by
  have hword := ofList_ne_word h.starts
    [".inf", ".Inf", ".INF", "-.inf", "-.Inf", "-.INF", ".nan", ".NaN", ".NAN"] rfl
  simp only [List.forall_mem_cons] at hword
  obtain ⟨h1, h2, h3, h4, h5, h6, h7, h8, h9, -⟩ := hword
  obtain ⟨c, ds, hcons, hplus⟩ := h.exists_cons
  unfold float?
  rw [String.toList_ofList, hcons]
  simp only [List.cons.injEq, hplus, false_and, imp_false, not_false_eq_true, implies_true]
  simp only [← hcons, h1, h2, h3, h4, h5, h6, h7, h8, h9, decide_false, Bool.or_self,
    Bool.false_eq_true, if_false, hx, hfinite, if_true]

theorem ofPlain_eq (h : FiniteText cs) {x : Binary64} (hx : float? (String.ofList cs) = some x) :
    Meaning.ofPlain (String.ofList cs) = .float x := by
  have hword := ofList_ne_word h.starts ["", "null", "Null", "NULL", "~", "true", "True", "TRUE",
    "false", "False", "FALSE"] rfl
  simp only [List.forall_mem_cons] at hword
  obtain ⟨h1, h2, h3, h4, h5, h6, h7, h8, h9, h10, h11, -⟩ := hword
  unfold Meaning.ofPlain isNullWord boolWord?
  simp only [h1, h2, h3, h4, h5, h6, h7, h8, h9, h10, h11, decide_false, Bool.or_self,
    Bool.false_eq_true, if_false]
  rw [h.whole?_eq_none, String.toList_ofList, h.hasSpareZero_eq_false, hx]
  rfl

end FiniteText

/-- **A number that is written is read back.** -/
theorem float?_render (x : Binary64) : float? (x.render .scalar) = some x := by
  cases x with
  | finite negative m =>
    exact (finiteText negative m).float?_eq (Binary64.parseChars_renderChars .scalar negative m) rfl
  | nan => decide
  | infinite negative => cases negative <;> decide

/-- **A number that is written means that number**, and no whole number, word or text. -/
theorem Meaning.ofPlain_render (x : Binary64) : ofPlain (x.render .scalar) = .float x := by
  cases x with
  | finite negative m => exact (finiteText negative m).ofPlain_eq (float?_render (.finite negative m))
  | nan => decide
  | infinite negative => cases negative <;> decide

/-! ## Scalars as they are written -/

/-- The text of a scalar with its style. -/
def Meaning.shown : Meaning → String × ScalarStyle
  | text s => (s, textStyle s)
  | m => (String.ofList (m.write 0), .plain)

/-- The empty text and the spellings of null are quoted. -/
theorem isNothing_textStyle (s : String) : isNothing none s (textStyle s) = .ok false := by
  unfold isNothing
  by_cases hplain : textStyle s = .plain
  · have hclear : isAmbiguous s = false := by
      unfold textStyle at hplain
      dsimp only at hplain
      split_ifs at hplain with h1 h2 h3
      simp only [Bool.and_eq_true, Bool.not_eq_true'] at h3
      exact h3.1
    have hword : (s = "" || isNullWord s : Bool) = false := by
      rcases hnothing : (s = "" || isNullWord s : Bool) with _ | _
      · rfl
      · have hnull : Meaning.ofPlain s = .null := if_pos hnothing
        unfold isAmbiguous at hclear
        rw [hnull] at hclear
        cases hclear
    rw [if_neg (not_not.2 hplain)]
    exact congrArg Except.ok hword
  · rw [if_pos hplain]

theorem isNothing_of_starts (h : startsAsNumber cs = true) :
    isNothing none (String.ofList cs) .plain = .ok false := by
  have hword := ofList_ne_word h ["", "null", "Null", "NULL", "~"] rfl
  simp only [List.forall_mem_cons] at hword
  obtain ⟨h1, h2, h3, h4, h5, -⟩ := hword
  unfold isNothing isNullWord
  simp only [h1, h2, h3, h4, h5, decide_false, Bool.or_self]
  rfl

theorem startsAsNumber_decimalDigits (n : Nat) :
    startsAsNumber (decimalDigits n) = true ∧ startsAsNumber ('-' :: decimalDigits n) = true := by
  obtain ⟨c, cs, hcons, hc⟩ := exists_decimalDigits n
  rw [hcons]
  constructor
  · cases cs <;> simp [startsAsNumber, hc]
  · simp [startsAsNumber, hc]

/-- **Only null is taken for nothing.** -/
theorem isNothing_shown {m : Meaning} (h : m ≠ .null) :
    isNothing none m.shown.1 m.shown.2 = .ok false := by
  cases m with
  | null => exact absurd rfl h
  | bool b => cases b <;> decide
  | natural n => exact isNothing_of_starts (startsAsNumber_decimalDigits n).1
  | negative n => exact isNothing_of_starts (startsAsNumber_decimalDigits n).2
  | wide isNegative n =>
    cases isNegative with
    | true => exact isNothing_of_starts (startsAsNumber_decimalDigits n).2
    | false => exact isNothing_of_starts (startsAsNumber_decimalDigits n).1
  | float x =>
    cases x with
    | finite negative m => exact isNothing_of_starts (finiteText negative m).starts
    | nan => decide
    | infinite negative => cases negative <;> decide
  | text s => exact isNothing_textStyle s

end LoadSwarm.Yaml
