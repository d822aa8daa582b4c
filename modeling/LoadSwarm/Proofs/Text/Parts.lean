/-
  Texts in parts, and texts with white space around them.

  * `splitChars_eq_iff`, `split_eq_iff`: a text is split into the parts that it is joined of, if none
    of them has the separator.
  * `trim_append`, `exists_trim`: a text is trimmed of the white space before and after it, and of
    nothing else.
-/
import Mathlib
import LoadSwarm.Text.Blank

namespace LoadSwarm.Text

/-! ## Parts -/

section Parts

variable {sep : Char} {cs : List Char} {parts : List (List Char)}

theorem splitChars_of_not_mem {p : List Char} (h : sep ∉ p) : splitChars sep p = [p] := by
  induction p with
  | nil => rfl
  | cons c p ih =>
    obtain ⟨hc, hp⟩ := not_or.1 (mt List.mem_cons.2 h)
    rw [splitChars, if_neg (Ne.symm hc), ih hp]

theorem splitChars_append {p : List Char} (h : sep ∉ p) (cs : List Char) :
    splitChars sep (p ++ sep :: cs) = p :: splitChars sep cs := by
  induction p with
  | nil => rw [List.nil_append, splitChars, if_pos rfl]
  | cons c p ih =>
    obtain ⟨hc, hp⟩ := not_or.1 (mt List.mem_cons.2 h)
    rw [List.cons_append, splitChars, if_neg (Ne.symm hc), ih hp]

/-- Parts that are joined are split again. -/
theorem splitChars_intercalate (hne : parts ≠ []) (h : ∀ p ∈ parts, sep ∉ p) :
    splitChars sep ([sep].intercalate parts) = parts := by
  induction parts with
  | nil => exact absurd rfl hne
  | cons p parts ih =>
    obtain ⟨hp, hparts⟩ := List.forall_mem_cons.1 h
    cases parts with
    | nil => rw [List.intercalate_singleton, splitChars_of_not_mem hp]
    | cons q parts =>
      rw [List.intercalate_cons_cons, List.append_assoc, List.singleton_append,
        splitChars_append hp, ih (List.cons_ne_nil _ _) hparts]

/-- A text is joined of its parts, and none of them has the separator. -/
theorem intercalate_splitChars (sep : Char) (cs : List Char) :
    splitChars sep cs ≠ [] ∧ (∀ p ∈ splitChars sep cs, sep ∉ p) ∧
      [sep].intercalate (splitChars sep cs) = cs := by
  induction cs with
  | nil => exact ⟨List.cons_ne_nil _ _, by simp [splitChars], rfl⟩
  | cons c cs ih =>
    obtain ⟨hne, hparts, hjoin⟩ := ih
    obtain ⟨p, ps, hsplit⟩ := List.exists_cons_of_ne_nil hne
    rw [hsplit] at hparts hjoin
    obtain ⟨hp, hps⟩ := List.forall_mem_cons.1 hparts
    unfold splitChars
    rw [hsplit]
    dsimp only
    split_ifs with hc
    · refine ⟨List.cons_ne_nil _ _, List.forall_mem_cons.2 ⟨List.not_mem_nil, hparts⟩, ?_⟩
      rw [List.intercalate_cons_cons, hjoin, hc]
      rfl
    · have hcp : sep ∉ c :: p := by simp [hp, Ne.symm hc]
      refine ⟨List.cons_ne_nil _ _, List.forall_mem_cons.2 ⟨hcp, hps⟩, ?_⟩
      rw [← hjoin]
      cases ps with
      | nil => rw [List.intercalate_singleton, List.intercalate_singleton]
      | cons q ps => rw [List.intercalate_cons_cons, List.intercalate_cons_cons]; rfl

/-- **The parts of a text are those that it is joined of**, if none of them has the separator. -/
theorem splitChars_eq_iff :
    splitChars sep cs = parts ↔
      parts ≠ [] ∧ (∀ p ∈ parts, sep ∉ p) ∧ [sep].intercalate parts = cs := by
  constructor
  · rintro rfl
    exact intercalate_splitChars sep cs
  · rintro ⟨hne, hparts, rfl⟩
    exact splitChars_intercalate hne hparts

theorem split_eq_iff {s : String} {parts : List String} :
    split sep s = parts ↔
      parts ≠ [] ∧ (∀ p ∈ parts, sep ∉ p.toList) ∧ (String.singleton sep).intercalate parts = s := by
  have hmap : split sep s = parts ↔ splitChars sep s.toList = parts.map String.toList := by
    unfold split
    constructor
    · rintro rfl
      simp [List.map_map, Function.comp_def]
    · intro h
      simp [h, List.map_map, Function.comp_def]
  rw [hmap, splitChars_eq_iff, ← String.toList_inj, String.toList_intercalate,
    String.toList_singleton]
  simp

end Parts

/-! ## White space -/

section Trim

variable {before cs after : List Char}

/-- Nothing but white space is dropped at the front. -/
theorem trimFront_append (hbefore : ∀ c ∈ before, isBlankChar c = true)
    (hcs : ∀ c ∈ cs, isBlankChar c = false) (hne : cs ≠ []) (after : List Char) :
    trimFront (before ++ (cs ++ after)) = cs ++ after := by
  obtain ⟨c, cs, rfl⟩ := List.exists_cons_of_ne_nil hne
  unfold trimFront
  rw [List.dropWhile_append_of_pos hbefore, List.cons_append, List.dropWhile_cons_of_neg]
  rw [hcs c List.mem_cons_self]
  exact Bool.false_ne_true

/-- **A text without white space is what is left of it** with white space before and after it. -/
theorem trimChars_append (hbefore : ∀ c ∈ before, isBlankChar c = true)
    (hcs : ∀ c ∈ cs, isBlankChar c = false) (hne : cs ≠ [])
    (hafter : ∀ c ∈ after, isBlankChar c = true) : trimChars (before ++ (cs ++ after)) = cs := by
  unfold trimChars
  rw [trimFront_append hbefore hcs hne, List.reverse_append, ← List.append_nil cs.reverse,
    trimFront_append (by simpa using hafter) (by simpa using hcs) (by simpa using hne)]
  simp

/-- A text is what is left of it, with white space before and after it. -/
theorem exists_trimChars (cs : List Char) :
    ∃ before after, (∀ c ∈ before, isBlankChar c = true) ∧ (∀ c ∈ after, isBlankChar c = true) ∧
      cs = before ++ (trimChars cs ++ after) := by
  have front (cs : List Char) :
      ∃ before, (∀ c ∈ before, isBlankChar c = true) ∧ cs = before ++ trimFront cs :=
    ⟨cs.takeWhile isBlankChar, fun _ h => List.mem_takeWhile_imp h,
      List.takeWhile_append_dropWhile.symm⟩
  obtain ⟨before, hbefore, heq⟩ := front cs
  obtain ⟨after, hafter, heq'⟩ := front (trimFront cs).reverse
  refine ⟨before, after.reverse, hbefore, by simpa using hafter, ?_⟩
  have hback : trimFront cs = trimChars cs ++ after.reverse := by
    unfold trimChars
    rw [← List.reverse_append, ← heq', List.reverse_reverse]
  rw [← hback, ← heq]

theorem isBlank_iff {s : String} : isBlank s = true ↔ ∀ c ∈ s.toList, isBlankChar c = true :=
  List.all_eq_true

theorem trim_append {before s after : String} (hbefore : isBlank before = true)
    (hs : ∀ c ∈ s.toList, isBlankChar c = false) (hne : s ≠ "") (hafter : isBlank after = true) :
    trim (before ++ s ++ after) = s := by
  have hne' : s.toList ≠ [] := fun h => hne (String.toList_eq_nil_iff.1 h)
  unfold trim
  rw [String.toList_append, String.toList_append, List.append_assoc,
    trimChars_append (isBlank_iff.1 hbefore) hs hne' (isBlank_iff.1 hafter), String.ofList_toList]

theorem exists_trim (s : String) :
    ∃ before after, isBlank before = true ∧ isBlank after = true ∧ s = before ++ trim s ++ after := by
  obtain ⟨before, after, hbefore, hafter, heq⟩ := exists_trimChars s.toList
  refine ⟨String.ofList before, String.ofList after, isBlank_iff.2 (by simpa using hbefore),
    isBlank_iff.2 (by simpa using hafter), ?_⟩
  rw [← String.toList_inj]
  simpa [trim] using heq

end Trim

end LoadSwarm.Text
