/-
  ASCII texts are in normal form.

  * `combiningClass_ascii`, `splitComposed_ascii`, `joinChars_ascii`: an ASCII character is no
    mark, is not composed, and composes with nothing before it.
  * `normalize_ascii`: so a text of such characters is its own normal form.
-/
import Mathlib
import LoadSwarm.Text.Composition

namespace LoadSwarm.Text

/-! ## One character -/

theorem combiningClasses_beyond : ∀ r ∈ combiningClasses.toList, 0x80 ≤ r.1 := by
  decide +kernel

theorem compositions_beyond : ∀ r ∈ compositions.toList, 0x80 ≤ r.1 ∧ 0x80 ≤ r.2.2 := by
  decide +kernel

section
variable {c : Char} (h : c.toNat < 0x80)
include h

theorem combiningClass_ascii : combiningClass c = 0 := by
  have hnone : combiningClasses.find? (fun r => r.1 ≤ c.toNat && c.toNat ≤ r.2.1) = none := by
    refine Array.find?_eq_none.2 fun r hr => ?_
    have hmark := combiningClasses_beyond r (Array.mem_toList_iff.2 hr)
    simp only [Bool.and_eq_true, decide_eq_true_eq]
    omega
  unfold combiningClass
  rw [hnone]

theorem splitComposed_ascii : splitComposed c = none := by
  have hnone : compositions.find? (fun r => r.1 = c.toNat) = none := by
    refine Array.find?_eq_none.2 fun r hr => ?_
    have hcomposed := compositions_beyond r (Array.mem_toList_iff.2 hr)
    simp only [decide_eq_true_eq]
    omega
  unfold splitComposed
  rw [hnone, Option.map_none]

theorem decomposeChar_ascii (depth : Nat) : decomposeChar depth c = [c] := by
  cases depth with
  | zero => rfl
  | succ depth =>
    have hsyllable : decomposeSyllable c = none := if_neg (by omega)
    rw [decomposeChar, hsyllable, splitComposed_ascii h, Option.getD_none, Option.elim_none]

theorem joinChars_ascii (base : Char) : joinChars base c = none := by
  have hnone : compositions.find? (fun r => r.2.1 = base.toNat && r.2.2 = c.toNat) = none := by
    refine Array.find?_eq_none.2 fun r hr => ?_
    have hmark := compositions_beyond r (Array.mem_toList_iff.2 hr)
    simp only [Bool.and_eq_true, decide_eq_true_eq]
    omega
  unfold joinChars
  dsimp only
  rw [if_neg (by omega), if_neg (by omega), hnone, Option.map_none]

end

/-! ## Texts -/

section
variable {cs : List Char}

theorem decompose_ascii (h : ∀ c ∈ cs, c.toNat < 0x80) : decompose cs = cs := by
  induction cs with
  | nil => rfl
  | cons c cs ih =>
    obtain ⟨hc, hcs⟩ := List.forall_mem_cons.1 h
    unfold decompose at ih ⊢
    rw [List.flatMap_cons, decomposeChar_ascii hc, ih hcs]; rfl

theorem reorder_ascii (h : ∀ c ∈ cs, c.toNat < 0x80) : reorder cs = cs := by
  have hplaced (acc : List (Char × Nat)) :
      cs.foldl (fun (acc : List (Char × Nat)) c =>
        let k := combiningClass c
        if k = 0 then (c, 0) :: acc else insertMark k c acc) acc =
      (cs.map fun c => (c, 0)).reverse ++ acc := by
    induction cs generalizing acc with
    | nil => rfl
    | cons c cs ih =>
      obtain ⟨hc, hcs⟩ := List.forall_mem_cons.1 h
      rw [List.foldl_cons, combiningClass_ascii hc]
      dsimp only
      rw [if_pos rfl, ih hcs]
      simp
  unfold reorder
  rw [hplaced]
  simp [Function.comp_def]

theorem composeFrom_ascii (h : ∀ c ∈ cs, c.toNat < 0x80) (base : Char) :
    composeFrom base [] 0 cs = base :: cs := by
  induction cs generalizing base with
  | nil => rfl
  | cons c cs ih =>
    obtain ⟨hc, hcs⟩ := List.forall_mem_cons.1 h
    rw [composeFrom, combiningClass_ascii hc, joinChars_ascii hc, ite_self]
    rw [if_pos rfl, ih hcs]; rfl

theorem compose_ascii (h : ∀ c ∈ cs, c.toNat < 0x80) : compose cs = cs := by
  cases cs with
  | nil => rfl
  | cons c cs =>
    obtain ⟨hc, hcs⟩ := List.forall_mem_cons.1 h
    rw [compose, if_pos (combiningClass_ascii hc), composeFrom_ascii hcs]

/-- **A text of ASCII characters is its own normal form.** -/
theorem normalize_ascii (h : ∀ c ∈ cs, c.toNat < 0x80) : normalize cs = cs := by
  rw [normalize, decompose_ascii h, reorder_ascii h, compose_ascii h]

end

end LoadSwarm.Text
