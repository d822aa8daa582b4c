/-
  The texts of pacings.

  * `WritesSeconds text x`, `Pacing.Writes s p`: the texts that say a number of seconds, and those that
    say a pacing.
  * `Pacing.validate_eq_ok_iff`: what a valid pacing is.
  * `Pacing.parse_eq_ok_iff`: a text is read as a pacing if it says it, and only then.
  * `Pacing.writes_text`: the text of a valid pacing says that pacing.
  * `Pacing.parse_exact`: so pacings are read exactly, and a valid one that is written is read back.
-/
import LoadSwarm.Config.Words
import LoadSwarm.Proofs.Config.Validation
import LoadSwarm.Proofs.Number.Numeral
import LoadSwarm.Proofs.Text.Parts

namespace LoadSwarm

open Binary64 (NumberText)

/-! ## What is said -/

/-- A finite number, zero or more; the negative zero is one. -/
def Binary64.IsAmount (x : Binary64) : Prop := x.isFinite = true ∧ Binary64.zero ≤ x

/-- **A text that says a number of seconds**, with white space around the number. -/
structure WritesSeconds (text : String) (x : Binary64) : Prop where
  plain : ':' ∉ text.toList
  number : ∃ before number after : String, Text.isBlank before = true ∧ Text.isBlank after = true ∧
    text = before ++ number ++ after ∧ NumberText number.toList x
  amount : x.IsAmount

/-- **A text that says a pacing**: a word in any letter case, and numbers of seconds after colons. -/
inductive Pacing.Writes : String → Pacing → Prop
  | none {word : String} (isWord : Text.lowerAscii word = "none") : Writes word .none
  | constant {word seconds : String} {x : Binary64} (isWord : Text.lowerAscii word = "constant")
      (isSeconds : WritesSeconds seconds x) : Writes (word ++ ":" ++ seconds) (.constant x)
  | between {word least most : String} {x y : Binary64} (isWord : Text.lowerAscii word = "between")
      (isLeast : WritesSeconds least x) (isMost : WritesSeconds most y) (order : x ≤ y) :
      Writes (word ++ ":" ++ least ++ ":" ++ most) (.between x y)

/-! ## Valid pacings -/

/-- One finite number is at most another if the other is not below it. -/
theorem Binary64.not_lt_iff {x y : Binary64} (hx : x.isFinite = true) (hy : y.isFinite = true) :
    (!x.lt y) = true ↔ y ≤ x := by
  rw [lt_eq hx hy, Bool.not_not]
  rfl

theorem Check.seconds_eq_ok_iff {domain field : String} {x : Binary64} :
    Check.seconds domain field x = .ok () ↔ x.IsAmount := by
  unfold Check.seconds
  rw [Check.require_eq_ok_iff, Bool.and_eq_true]
  exact and_congr_right fun h => Binary64.not_lt_iff h rfl

namespace Pacing

variable {s text word : String} {p : Pacing} {x y : Binary64}

theorem validate_constant_iff : (constant x).validate = .ok () ↔ x.IsAmount :=
  Check.seconds_eq_ok_iff

theorem validate_between_iff :
    (between x y).validate = .ok () ↔ x.IsAmount ∧ y.IsAmount ∧ x ≤ y := by
  unfold validate
  simp only [Check.bind_eq_ok_iff, Check.seconds_eq_ok_iff, Check.require_eq_ok_iff]
  exact and_congr_right fun hx => and_congr_right fun hy => Binary64.not_lt_iff hy.1 hx.1

/-! ## Reading -/

/-- A number is read if it is one, with white space around it. -/
theorem parseSeconds_eq_ok_iff : parseSeconds text = .ok x ↔
    ∃ before number after : String, Text.isBlank before = true ∧ Text.isBlank after = true ∧
      text = before ++ number ++ after ∧ NumberText number.toList x := by
  have hread : parseSeconds text = .ok x ↔ NumberText (Text.trim text).toList x := by
    rw [← Binary64.parseChars_eq_ok_iff]
    unfold parseSeconds Binary64.parse
    rcases Binary64.parseChars (Text.trim text).toList with e | y <;> simp
  rw [hread]
  constructor
  · intro h
    obtain ⟨before, after, hbefore, hafter, heq⟩ := Text.exists_trim text
    exact ⟨before, Text.trim text, after, hbefore, hafter, heq, h⟩
  · rintro ⟨before, number, after, hbefore, hafter, rfl, h⟩
    obtain ⟨hne, hblank⟩ := h.not_blank
    rwa [Text.trim_append hbefore hblank (fun he => hne (by rw [he]; rfl)) hafter]

theorem writesSeconds_iff :
    WritesSeconds text x ↔ ':' ∉ text.toList ∧ parseSeconds text = .ok x ∧ x.IsAmount := by
  rw [parseSeconds_eq_ok_iff]
  exact ⟨fun h => ⟨h.plain, h.number, h.amount⟩, fun ⟨h1, h2, h3⟩ => ⟨h1, h2, h3⟩⟩

theorem lowerAscii_of_lower {name : String} (h : name.toList.all Char.isLower = true) :
    Text.lowerAscii name = name := by
  rw [← String.toList_inj, Text.lowerAscii, String.toList_map]
  refine (List.map_congr_left fun c hc => ?_).trans (List.map_id _)
  have hc := List.all_eq_true.1 h c hc
  exact Char.toLower_eq_of_not_isUpper (by grind [Char.isLower, Char.isUpper])

/-- A word of small letters is known from any letter case. -/
theorem sameWord_iff {name : String} (hname : name.toList.all Char.isLower = true) :
    sameWord word name = true ↔ Text.lowerAscii word = name := by
  unfold sameWord
  rw [decide_eq_true_eq, lowerAscii_of_lower hname]

/-- A word that is known up to its letter case has no colon. -/
theorem not_colon_of_word {name : String} (hname : name.toList.all Char.isLower = true)
    (h : Text.lowerAscii word = name) : ':' ∉ word.toList := by
  intro hmem
  rw [← h, Text.lowerAscii, String.toList_map, List.all_map, List.all_eq_true] at hname
  exact absurd (hname ':' hmem) (by decide)

/-- The form is read first, and its numbers are judged then. -/
theorem parse_eq_ok : parse s = .ok p ↔ parseForm s = .ok p ∧ p.validate = .ok () := by
  unfold parse
  rw [bind_eq_ok_iff]
  constructor
  · rintro ⟨q, hq, h⟩
    rcases hv : q.validate with e | ⟨⟨⟩⟩
    · rw [hv] at h; cases h
    · rw [hv] at h; cases h
      exact ⟨hq, hv⟩
  · rintro ⟨hp, hv⟩
    exact ⟨p, hp, by rw [hv]; rfl⟩

/-- A form with good numbers says the pacing that is read. -/
theorem writes_of_parseForm (hform : parseForm s = .ok p) (hvalid : p.validate = .ok ()) :
    Writes s p := by
  unfold parseForm at hform
  split at hform
  · next word hs =>
    obtain ⟨-, -, rfl⟩ := Text.split_eq_iff.1 hs
    split_ifs at hform with hword
    cases hform
    exact .none ((sameWord_iff (by decide)).1 hword)
  · next word seconds hs =>
    obtain ⟨-, hparts, rfl⟩ := Text.split_eq_iff.1 hs
    split_ifs at hform with hword
    obtain ⟨x, hx, hform⟩ := bind_eq_ok_iff.1 hform
    cases hform
    exact .constant ((sameWord_iff (by decide)).1 hword)
      (writesSeconds_iff.2 ⟨hparts seconds (by simp), hx, validate_constant_iff.1 hvalid⟩)
  · next word least most hs =>
    obtain ⟨-, hparts, rfl⟩ := Text.split_eq_iff.1 hs
    split_ifs at hform with hword
    obtain ⟨x, hx, hform⟩ := bind_eq_ok_iff.1 hform
    obtain ⟨y, hy, hform⟩ := bind_eq_ok_iff.1 hform
    cases hform
    obtain ⟨hleast, hmost, order⟩ := validate_between_iff.1 hvalid
    exact .between ((sameWord_iff (by decide)).1 hword)
      (writesSeconds_iff.2 ⟨hparts least (by simp), hx, hleast⟩)
      (writesSeconds_iff.2 ⟨hparts most (by simp), hy, hmost⟩) order
  · cases hform

namespace Writes

theorem valid (h : Writes s p) : p.validate = .ok () := by
  cases h with
  | none => rfl
  | constant _ isSeconds => exact validate_constant_iff.2 isSeconds.amount
  | between _ isLeast isMost order =>
    exact validate_between_iff.2 ⟨isLeast.amount, isMost.amount, order⟩

theorem parseForm (h : Writes s p) : parseForm s = .ok p := by
  unfold Pacing.parseForm
  cases h with
  | none isWord =>
    have hs : Text.split ':' s = [s] := Text.split_eq_iff.2
      ⟨by simp, by simpa using not_colon_of_word (by decide) isWord, rfl⟩
    rw [hs]
    exact if_pos ((sameWord_iff (by decide)).2 isWord)
  | @constant word seconds x isWord isSeconds =>
    obtain ⟨hcolon, hx, -⟩ := writesSeconds_iff.1 isSeconds
    have hs : Text.split ':' (word ++ ":" ++ seconds) = [word, seconds] := Text.split_eq_iff.2
      ⟨by simp, by simpa using ⟨not_colon_of_word (by decide) isWord, hcolon⟩, rfl⟩
    rw [hs]
    dsimp only
    rw [if_pos ((sameWord_iff (by decide)).2 isWord), hx]
    rfl
  | @between word least most x y isWord isLeast isMost =>
    obtain ⟨hcolon, hx, -⟩ := writesSeconds_iff.1 isLeast
    obtain ⟨hcolon', hy, -⟩ := writesSeconds_iff.1 isMost
    have hs : Text.split ':' (word ++ ":" ++ least ++ ":" ++ most) = [word, least, most] :=
      Text.split_eq_iff.2 ⟨by simp,
        by simpa using ⟨not_colon_of_word (by decide) isWord, hcolon, hcolon'⟩, rfl⟩
    rw [hs]
    dsimp only
    rw [if_pos ((sameWord_iff (by decide)).2 isWord), hx, hy]
    rfl

end Writes

/-- **A text is read as a pacing if it says that pacing**, and only then. -/
theorem parse_eq_ok_iff : parse s = .ok p ↔ Writes s p := by
  rw [parse_eq_ok]
  exact ⟨fun h => writes_of_parseForm h.1 h.2, fun h => ⟨h.parseForm, h.valid⟩⟩

/-! ## Writing -/

/-- The digits of a finite number say it, without white space. -/
theorem writesSeconds_plain (h : x.IsAmount) : WritesSeconds x.plain x := by
  cases x with
  | nan | infinite => cases h.1
  | finite negative m =>
    have hchars : (Binary64.plain (.finite negative m)).toList =
        (Binary64.finite negative m).renderChars .plain := String.toList_ofList
    refine ⟨?_, ⟨"", Binary64.plain (.finite negative m), "", rfl, rfl, by simp, ?_⟩, h⟩
    · rw [hchars]
      unfold Binary64.renderChars
      intro hmem
      rcases List.mem_append.1 hmem with hmem | hmem
      · cases negative <;> simp at hmem
      · have hchar := Binary64.decimalText_chars _ _ _ hmem
        exact absurd hchar (by simp [Binary64.IsDecimalChar])
    · rw [hchars]
      exact Binary64.parseChars_eq_ok_iff.1 (Binary64.parseChars_renderChars _ _ _)

/-- **The text of a valid pacing says that pacing.** -/
theorem writes_text (h : p.validate = .ok ()) : Writes p.text p := by
  cases p with
  | none => exact .none (lowerAscii_of_lower (by decide))
  | constant x =>
    have htext : (constant x).text = "constant" ++ ":" ++ x.plain := by simp [Pacing.text]
    rw [htext]
    exact .constant (lowerAscii_of_lower (by decide))
      (writesSeconds_plain (validate_constant_iff.1 h))
  | between x y =>
    have htext : (between x y).text = "between" ++ ":" ++ x.plain ++ ":" ++ y.plain := by
      simp [Pacing.text]
    obtain ⟨hx, hy, order⟩ := validate_between_iff.1 h
    rw [htext]
    exact .between (lowerAscii_of_lower (by decide)) (writesSeconds_plain hx)
      (writesSeconds_plain hy) order

/-- **Pacings are read exactly and written reversibly**: the texts that are read are those that say a
    pacing, what is read is valid, a valid pacing is read back from its text, and so a text that was
    written for what was read is written again. -/
theorem parse_exact :
    (∀ s p, parse s = .ok p ↔ Writes s p) ∧
    (∀ s p, parse s = .ok p → p.validate = .ok ()) ∧
    (∀ p, p.validate = .ok () → parse p.text = .ok p) ∧
    ∀ s t, (parse s).map Pacing.text = .ok t → (parse t).map Pacing.text = .ok t := by
  have back (p : Pacing) (h : p.validate = .ok ()) : parse p.text = .ok p :=
    parse_eq_ok_iff.2 (writes_text h)
  have valid (s : String) (p : Pacing) (h : parse s = .ok p) : p.validate = .ok () :=
    (parse_eq_ok_iff.1 h).valid
  refine ⟨fun s p => parse_eq_ok_iff, valid, back, fun s t h => ?_⟩
  rcases hp : parse s with e | p
  · rw [hp] at h; cases h
  · rw [hp] at h; cases h
    rw [back p (valid s p hp)]
    rfl

theorem parse_exact_halfToOne :
    let p := between (.ofFraction false 1 2) (.ofNat 1)
    parse "Between: .50 :1e0" = .ok p ∧ p.validate = .ok () ∧ p.text = "between:0.5:1" ∧
      parse p.text = .ok p := by
  intro p
  have hparse : parse "Between: .50 :1e0" = .ok p := by decide +kernel
  have hvalid : p.validate = .ok () := parse_exact.2.1 _ p hparse
  exact ⟨hparse, hvalid, by decide +kernel, parse_exact.2.2.1 p hvalid⟩

end Pacing

end LoadSwarm
