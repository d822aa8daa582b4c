/-
  The texts that are read as floating point numbers.

  * `SignText`, `ExponentText`, `DecimalText`, `NumberText`: what is written as a sign, an exponent,
    a decimal and a number, with what it says.
  * `readExponent_eq_some_iff`, `readDecimal_eq_some_iff`, `parseChars_eq_ok_iff`: these texts are
    read as what they say, and no others are read.
  * `NumberText.not_blank`: there is no white space in the text of a number.
-/
import LoadSwarm.Proofs.Number.Decimal
import LoadSwarm.Text.Blank

namespace LoadSwarm.Binary64

/-! ## The texts -/

/-- An optional sign, and whether it is a minus. -/
inductive SignText : List Char → Bool → Prop
  | absent : SignText [] false
  | plus : SignText ['+'] false
  | minus : SignText ['-'] true

/-- The whole number that digits under a sign write. -/
def signedValue (negative : Bool) (ds : List Char) : Int :=
  if negative then -(digitsValue ds : Int) else digitsValue ds

/-- An optional exponent: a mark, an optional sign, and digits. -/
inductive ExponentText : List Char → Int → Prop
  | absent : ExponentText [] 0
  | present {mark : Char} {sign ds : List Char} {negative : Bool} (isMark : mark = 'e' ∨ mark = 'E')
      (isSign : SignText sign negative) (some : ds ≠ []) (digits : ∀ c ∈ ds, c.isDigit) :
      ExponentText (mark :: (sign ++ ds)) (signedValue negative ds)

/-- A decimal without a sign: digits on at least one side of an optional point, and an optional
    exponent. -/
inductive DecimalText : List Char → Decimal → Prop
  | whole {ds tail : List Char} {e : Int} (some : ds ≠ []) (digits : ∀ c ∈ ds, c.isDigit)
      (exponent : ExponentText tail e) : DecimalText (ds ++ tail) ⟨digitsValue ds, e⟩
  | point {ds places tail : List Char} {e : Int} (some : ds ≠ [] ∨ places ≠ [])
      (digits : ∀ c ∈ ds, c.isDigit) (digits' : ∀ c ∈ places, c.isDigit)
      (exponent : ExponentText tail e) :
      DecimalText (ds ++ '.' :: (places ++ tail)) ⟨digitsValue (ds ++ places), e - places.length⟩

/-- What follows the sign of a number: a decimal, or one of three words in any letter case. -/
inductive UnsignedText (negative : Bool) : List Char → Binary64 → Prop
  | decimal {cs : List Char} {d : Decimal} (isDecimal : DecimalText cs d) :
      UnsignedText negative cs (ofDecimal negative d)
  | infinity {cs : List Char}
      (word : cs.map Char.toLower = "inf".toList ∨ cs.map Char.toLower = "infinity".toList) :
      UnsignedText negative cs (infinite negative)
  | missing {cs : List Char} (word : cs.map Char.toLower = "nan".toList) :
      UnsignedText negative cs nan

/-- **A number** with an optional sign. -/
inductive NumberText : List Char → Binary64 → Prop
  | signed {sign cs : List Char} {negative : Bool} {x : Binary64} (isSign : SignText sign negative)
      (isUnsigned : UnsignedText negative cs x) : NumberText (sign ++ cs) x

variable {cs tail ds : List Char} {e : Int} {d : Decimal} {x : Binary64} {negative : Bool}

/-! ## Reading exponents -/

theorem readExponent_eq_some_iff : readExponent cs = some e ↔ ExponentText cs e := by
  constructor
  · intro h
    unfold readExponent at h
    split at h
    · cases h; exact .absent
    · next mark rest =>
      split_ifs at h with hmark
      split at h
      · split_ifs at h with hds
        cases h
        exact .present hmark .minus hds.1 (List.all_eq_true.1 hds.2)
      · split_ifs at h with hds
        cases h
        exact .present hmark .plus hds.1 (List.all_eq_true.1 hds.2)
      · split_ifs at h with hds
        cases h
        exact .present hmark .absent hds.1 (List.all_eq_true.1 hds.2)
  · intro h
    cases h with
    | absent => rfl
    | present hmark hsign hne hds =>
      have hread := And.intro hne (List.all_eq_true.2 hds)
      unfold readExponent
      simp only [hmark, if_true]
      cases hsign with
      | minus => exact if_pos hread
      | plus => exact if_pos hread
      | absent =>
        -- a digit is no sign
        obtain ⟨c, cs, rfl⟩ := List.exists_cons_of_ne_nil hne
        obtain ⟨hminus, hplus⟩ := digit_ne_sign (hds c List.mem_cons_self)
        rw [List.nil_append]
        split
        · next heq => exact absurd (List.cons.inj heq).1 hminus
        · next heq => exact absurd (List.cons.inj heq).1 hplus
        · exact if_pos hread

/-- An exponent begins with neither a digit nor a point. -/
theorem ExponentText.head (h : ExponentText tail e) :
    tail.head?.all (!Char.isDigit ·) ∧ ∀ r, tail ≠ '.' :: r := by
  cases h with
  | absent => exact ⟨rfl, nofun⟩
  | present isMark => rcases isMark with rfl | rfl <;> exact ⟨rfl, nofun⟩

/-! ## Reading decimals -/

theorem readDecimal_eq_some_iff : readDecimal cs = some d ↔ DecimalText cs d := by
  constructor
  · intro h
    have hcs : cs.takeWhile Char.isDigit ++ cs.dropWhile Char.isDigit = cs :=
      List.takeWhile_append_dropWhile
    have hds : ∀ c ∈ cs.takeWhile Char.isDigit, c.isDigit := fun _ => List.mem_takeWhile_imp
    unfold readDecimal at h
    rw [← hcs]
    generalize cs.takeWhile Char.isDigit = ds at *
    generalize cs.dropWhile Char.isDigit = tail at *
    dsimp only at h
    split at h
    · next r =>
      split_ifs at h with hne
      obtain ⟨e, he, rfl⟩ := Option.map_eq_some_iff.1 h
      have hpoint := DecimalText.point (not_and_or.1 hne) hds
        (fun _ => List.mem_takeWhile_imp) (readExponent_eq_some_iff.1 he)
      rwa [List.takeWhile_append_dropWhile] at hpoint
    · split_ifs at h with hne
      obtain ⟨e, he, rfl⟩ := Option.map_eq_some_iff.1 h
      rw [List.append_nil, List.length_nil, Nat.cast_zero, sub_zero]
      exact .whole (by simpa using hne) hds (readExponent_eq_some_iff.1 he)
  · intro h
    cases h with
    | whole hne hds htail =>
      obtain ⟨hhead, hpoint⟩ := htail.head
      obtain ⟨htake, hdrop⟩ := takeWhile_digits _ hds hhead
      unfold readDecimal
      rw [htake, hdrop]
      simp [hne, readExponent_eq_some_iff.2 htail]
    | @point ds places tail e hne hds hplaces htail =>
      obtain ⟨htake, hdrop⟩ := takeWhile_digits ('.' :: (places ++ tail)) hds rfl
      obtain ⟨htake', hdrop'⟩ := takeWhile_digits _ hplaces htail.head.1
      unfold readDecimal
      rw [htake, hdrop]
      simp only [htake', hdrop', not_and_or.2 hne, if_false, readExponent_eq_some_iff.2 htail,
        Option.map_some]

/-- A decimal begins with a digit or a point. -/
theorem DecimalText.head (h : DecimalText cs d) : ∃ c r, cs = c :: r ∧ (c.isDigit ∨ c = '.') := by
  cases h with
  | whole hne hds =>
    obtain ⟨c, r, rfl⟩ := List.exists_cons_of_ne_nil hne
    exact ⟨c, _, rfl, .inl (hds c List.mem_cons_self)⟩
  | @point ds _ _ _ _ hds =>
    cases ds with
    | nil => exact ⟨'.', _, rfl, .inr rfl⟩
    | cons c r => exact ⟨c, _, rfl, .inl (hds c List.mem_cons_self)⟩

/-! ## Reading numbers -/

/-- A word is no decimal. -/
theorem readDecimal_word {letter : Char} {word : List Char}
    (hword : cs.map Char.toLower = letter :: word) (hdigit : letter.isDigit = false)
    (hpoint : letter ≠ '.') : readDecimal cs = none := by
  refine Option.eq_none_iff_forall_ne_some.2 fun d h => ?_
  obtain ⟨c, r, rfl, hc⟩ := (readDecimal_eq_some_iff.1 h).head
  obtain ⟨hletter, -⟩ := List.cons.inj hword
  rcases hc with hc | rfl
  · have hupper : ¬ c.isUpper := by
      simp only [Char.isDigit, Char.isUpper] at *
      grind
    rw [Char.toLower_eq_of_not_isUpper hupper] at hletter
    rw [hletter, hdigit] at hc
    cases hc
  · exact hpoint hletter.symm

theorem readUnsigned_eq_some_iff : readUnsigned negative cs = some x ↔ UnsignedText negative cs x := by
  constructor
  · intro h
    unfold readUnsigned at h
    split at h
    · next d hd =>
      cases h
      exact .decimal (readDecimal_eq_some_iff.1 hd)
    · dsimp only at h
      split_ifs at h with hmissing hinfinite
      · cases h; exact .missing hmissing
      · cases h; exact .infinity hinfinite
  · intro h
    unfold readUnsigned
    cases h with
    | decimal hd => rw [readDecimal_eq_some_iff.2 hd]
    | infinity word =>
      have hnone : readDecimal cs = none := by
        rcases word with word | word <;> exact readDecimal_word word rfl (by decide)
      have hmissing : cs.map Char.toLower ≠ "nan".toList := by
        rcases word with word | word <;> (rw [word]; decide)
      rw [hnone]
      dsimp only
      rw [if_neg hmissing, if_pos word]
    | missing word =>
      rw [readDecimal_word word rfl (by decide)]
      dsimp only
      rw [if_pos word]

/-- What follows a sign begins with no sign. -/
theorem UnsignedText.head (h : UnsignedText negative cs x) :
    ∃ c r, cs = c :: r ∧ c ≠ '-' ∧ c ≠ '+' := by
  have word {letter : Char} {word : List Char} (hword : cs.map Char.toLower = letter :: word)
      (hminus : letter ≠ '-') (hplus : letter ≠ '+') : ∃ c r, cs = c :: r ∧ c ≠ '-' ∧ c ≠ '+' := by
    obtain ⟨c, r, rfl, rfl, -⟩ := List.map_eq_cons_iff.1 hword
    refine ⟨c, r, rfl, ?_, ?_⟩ <;> (rintro rfl; contradiction)
  cases h with
  | decimal hd =>
    obtain ⟨c, r, rfl, hc⟩ := hd.head
    rcases hc with hc | rfl
    · exact ⟨c, r, rfl, digit_ne_sign hc⟩
    · exact ⟨'.', r, rfl, by decide, by decide⟩
  | infinity hword => rcases hword with h | h <;> exact word h (by decide) (by decide)
  | missing hword => exact word hword (by decide) (by decide)

theorem parseChars_minus_iff (cs : List Char) :
    parseChars ('-' :: cs) = .ok x ↔ UnsignedText true cs x := by
  rw [← readUnsigned_eq_some_iff]
  unfold parseChars
  rcases h : readUnsigned true cs with _ | y <;> simp [h]

theorem parseChars_plus_iff (cs : List Char) :
    parseChars ('+' :: cs) = .ok x ↔ UnsignedText false cs x := by
  rw [← readUnsigned_eq_some_iff]
  unfold parseChars
  rcases h : readUnsigned false cs with _ | y <;> simp [h]

theorem parseChars_bare_iff {c : Char} (hminus : c ≠ '-') (hplus : c ≠ '+') (cs : List Char) :
    parseChars (c :: cs) = .ok x ↔ UnsignedText false (c :: cs) x := by
  rw [← readUnsigned_eq_some_iff]
  unfold parseChars
  rcases h : readUnsigned false (c :: cs) with _ | y <;> simp [h, hminus, hplus]

/-- **The texts of numbers are read, and no others.** -/
theorem parseChars_eq_ok_iff : parseChars cs = .ok x ↔ NumberText cs x := by
  constructor
  · intro h
    rcases cs with _ | ⟨c, cs⟩
    · cases h
    by_cases hminus : c = '-'
    · subst hminus
      exact .signed .minus ((parseChars_minus_iff cs).1 h)
    by_cases hplus : c = '+'
    · subst hplus
      exact .signed .plus ((parseChars_plus_iff cs).1 h)
    exact .signed .absent ((parseChars_bare_iff hminus hplus cs).1 h)
  · intro h
    cases h with
    | signed hsign h =>
      cases hsign with
      | minus => exact (parseChars_minus_iff _).2 h
      | plus => exact (parseChars_plus_iff _).2 h
      | absent =>
        obtain ⟨c, r, rfl, hminus, hplus⟩ := h.head
        exact (parseChars_bare_iff hminus hplus r).2 h

/-! ## No white space -/

theorem isBlankChar_of_visible {c : Char} (h : 33 ≤ c.toNat ∧ c.toNat ≤ 126) :
    Text.isBlankChar c = false := by
  obtain ⟨h1, h2⟩ := h
  simp only [Text.isBlankChar, Bool.or_eq_false_iff, Bool.and_eq_false_iff, decide_eq_false_iff_not]
  omega

theorem isBlankChar_digit {c : Char} (h : c.isDigit) : Text.isBlankChar c = false := by
  have hrange : 48 ≤ c.toNat ∧ c.toNat ≤ 57 := by
    simpa [Char.isDigit, UInt32.le_iff_toNat_le] using h
  exact isBlankChar_of_visible (by omega)

theorem isBlankChar_letter {c : Char} (h : c.isAlpha) : Text.isBlankChar c = false := by
  have hrange : (65 ≤ c.toNat ∧ c.toNat ≤ 90) ∨ (97 ≤ c.toNat ∧ c.toNat ≤ 122) := by
    simpa [Char.isAlpha, Char.isUpper, Char.isLower, UInt32.le_iff_toNat_le] using h
  exact isBlankChar_of_visible (by omega)

theorem SignText.not_blank {sign : List Char} (h : SignText sign negative) :
    ∀ c ∈ sign, Text.isBlankChar c = false := by
  cases h with
  | absent => exact nofun
  | plus | minus => exact List.forall_mem_singleton.2 rfl

theorem ExponentText.not_blank (h : ExponentText tail e) : ∀ c ∈ tail, Text.isBlankChar c = false := by
  cases h with
  | absent => exact nofun
  | @present mark _ _ _ isMark isSign _ digits =>
    have hmark : Text.isBlankChar mark = false := by rcases isMark with rfl | rfl <;> rfl
    exact List.forall_mem_cons.2 ⟨hmark,
      List.forall_mem_append.2 ⟨isSign.not_blank, fun c hc => isBlankChar_digit (digits c hc)⟩⟩

theorem DecimalText.not_blank (h : DecimalText cs d) : ∀ c ∈ cs, Text.isBlankChar c = false := by
  have digit {ds : List Char} (hds : ∀ c ∈ ds, c.isDigit) : ∀ c ∈ ds, Text.isBlankChar c = false :=
    fun c hc => isBlankChar_digit (hds c hc)
  cases h with
  | whole _ digits exponent => exact List.forall_mem_append.2 ⟨digit digits, exponent.not_blank⟩
  | point _ digits digits' exponent =>
    exact List.forall_mem_append.2 ⟨digit digits, List.forall_mem_cons.2 ⟨rfl,
      List.forall_mem_append.2 ⟨digit digits', exponent.not_blank⟩⟩⟩

/-- A word in any letter case. -/
theorem not_blank_of_word {word : List Char} (h : cs.map Char.toLower = word)
    (letters : word.all Char.isLower = true) : ∀ c ∈ cs, Text.isBlankChar c = false := by
  intro c hc
  have hmem : c.toLower ∈ word := h ▸ List.mem_map_of_mem hc
  refine isBlankChar_letter ?_
  rw [← Char.isLower_toLower_eq_isAlpha]
  exact List.all_eq_true.1 letters _ hmem

/-- **There is no white space in the text of a number.** -/
theorem NumberText.not_blank (h : NumberText cs x) :
    cs ≠ [] ∧ ∀ c ∈ cs, Text.isBlankChar c = false := by
  cases h with
  | signed isSign isUnsigned =>
    obtain ⟨c, r, hcons, -⟩ := isUnsigned.head
    refine ⟨by simp [hcons], List.forall_mem_append.2 ⟨isSign.not_blank, ?_⟩⟩
    cases isUnsigned with
    | decimal isDecimal => exact isDecimal.not_blank
    | infinity word => rcases word with h | h <;> exact not_blank_of_word h (by decide)
    | missing word => exact not_blank_of_word word (by decide)

end LoadSwarm.Binary64
