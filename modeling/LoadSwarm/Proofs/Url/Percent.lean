/-
  Percent-encoding of path segments.

  * `keeps set c`: a part with a set keeps a character as it is.
  * `encode_of_keeps`, `keeps_of_mem_encode`: what is kept is left alone, and after encoding all of
    a path is kept; so a path is encoded once.
  * `mem_encode`: encoding brings in no character but the percent sign and digits.
  * `encode_eq_of_dots`: no dot comes from encoding, written out or encoded.
-/
import Mathlib
import LoadSwarm.Url.Path

namespace LoadSwarm.Url

/-- Whether a part with a set keeps a character as it is. -/
def keeps (set : CharSet) (c : Char) : Bool := c.toNat < 0x80 && !set c

/-- The digits of encoded bytes. -/
def hexDigits : List Char :=
  ['0', '1', '2', '3', '4', '5', '6', '7', '8', '9', 'A', 'B', 'C', 'D', 'E', 'F']

theorem hexDigit_mem : ∀ n < 16, hexDigit n ∈ hexDigits := by decide

theorem mem_encodeByte {b : UInt8} {c : Char} (h : c ∈ encodeByte b) : c = '%' ∨ c ∈ hexDigits := by
  have hb : b.toNat < 256 := b.toNat_lt
  simp only [encodeByte, List.mem_cons, List.not_mem_nil, or_false] at h
  rcases h with rfl | rfl | rfl
  · exact .inl rfl
  · exact .inr (hexDigit_mem _ (by omega))
  · exact .inr (hexDigit_mem _ (by omega))

variable {set : CharSet} {c : Char} {cs : List Char}

theorem encodeChar_of_keeps (h : keeps set c = true) : encodeChar set c = [c] := by
  unfold encodeChar; exact if_pos h

/-- The encoding of a character that is not kept begins with the first byte of the character. -/
theorem encodeChar_of_not_keeps (h : keeps set c = false) :
    ∃ b bs, String.utf8EncodeChar c = b :: bs ∧
      encodeChar set c = encodeByte b ++ bs.flatMap encodeByte := by
  obtain ⟨b, bs, hb⟩ := List.exists_cons_of_ne_nil (String.utf8EncodeChar_ne_nil (c := c))
  refine ⟨b, bs, hb, ?_⟩
  unfold encodeChar
  rw [if_neg (by unfold keeps at h; rw [h]; exact Bool.false_ne_true), hb, List.flatMap_cons]

theorem encode_cons (set : CharSet) (c : Char) (cs : List Char) :
    encode set (c :: cs) = encodeChar set c ++ encode set cs := List.flatMap_cons

theorem encode_of_keeps (h : ∀ c ∈ cs, keeps set c = true) : encode set cs = cs := by
  induction cs with
  | nil => rfl
  | cons c cs ih =>
    rw [encode_cons, encodeChar_of_keeps (h c List.mem_cons_self),
      ih fun d hd => h d (List.mem_cons_of_mem c hd)]
    rfl

/-- A character of an encoding was there before and is kept, or it belongs to an encoded byte. -/
theorem mem_encode (h : c ∈ encode set cs) :
    (c ∈ cs ∧ keeps set c = true) ∨ c = '%' ∨ c ∈ hexDigits := by
  obtain ⟨d, hd, hc⟩ := List.mem_flatMap.1 h
  rcases hk : keeps set d with _ | _
  · unfold encodeChar at hc
    rw [if_neg (by unfold keeps at hk; rw [hk]; exact Bool.false_ne_true)] at hc
    obtain ⟨b, -, hb⟩ := List.mem_flatMap.1 hc
    exact .inr (mem_encodeByte hb)
  · rw [encodeChar_of_keeps hk, List.mem_singleton] at hc
    subst hc
    exact .inl ⟨hd, hk⟩

theorem encode_ne_nil (h : cs ≠ []) : encode set cs ≠ [] := by
  obtain ⟨c, cs, rfl⟩ := List.exists_cons_of_ne_nil h
  rw [encode_cons]
  rcases hk : keeps set c with _ | _
  · obtain ⟨b, bs, -, hb⟩ := encodeChar_of_not_keeps hk
    rw [hb]; exact List.cons_ne_nil _ _
  · rw [encodeChar_of_keeps hk]; exact List.cons_ne_nil _ _

/-- **After encoding, all of a path is kept.** -/
theorem keeps_of_mem_encode (h : c ∈ encode pathSet cs) : keeps pathSet c = true := by
  have escape := List.all_eq_true.1 (show ('%' :: hexDigits).all (keeps pathSet) = true by decide)
  rcases mem_encode h with ⟨-, hk⟩ | rfl | hc
  · exact hk
  · exact escape _ List.mem_cons_self
  · exact escape _ (List.mem_cons_of_mem _ hc)

/-! ## Dots -/

theorem plainDots_cons_of_ne (h : c ≠ '%') (cs : List Char) :
    plainDots (c :: cs) = c :: plainDots cs := by
  rw [plainDots]
  · rintro rest rfl; exact absurd rfl h
  · rintro rest rfl; exact absurd rfl h

theorem plainDots_of_not_mem (h : '%' ∉ cs) : plainDots cs = cs := by
  induction cs with
  | nil => rfl
  | cons c cs ih =>
    obtain ⟨hc, hcs⟩ := not_or.1 (mt List.mem_cons.2 h)
    rw [plainDots_cons_of_ne (Ne.symm hc), ih hcs]

/-- A percent sign is read as a dot with two digits, or as it is. -/
theorem plainDots_percent (cs : List Char) :
    (∃ d rest, cs = '2' :: d :: rest ∧ (d = 'e' ∨ d = 'E') ∧
      plainDots ('%' :: cs) = '.' :: plainDots rest) ∨
      plainDots ('%' :: cs) = '%' :: plainDots cs := by
  rw [plainDots.eq_def]
  split
  · next rest h => cases h; exact .inl ⟨'e', rest, rfl, .inl rfl, rfl⟩
  · next rest h => cases h; exact .inl ⟨'E', rest, rfl, .inr rfl, rfl⟩
  · next h => cases h; exact .inr rfl
  · next h => cases h

/-- What encoding begins with was there before, if it is no percent sign. -/
theorem eq_cons_of_encode {d : Char} {rest : List Char} (h : encode set cs = d :: rest)
    (hd : d ≠ '%') : ∃ ds, cs = d :: ds ∧ encode set ds = rest := by
  rcases cs with _ | ⟨c, cs⟩
  · cases h
  rw [encode_cons] at h
  rcases hk : keeps set c with _ | _
  · obtain ⟨b, bs, -, hb⟩ := encodeChar_of_not_keeps hk
    rw [hb] at h
    exact absurd (List.cons.inj h).1.symm hd
  · rw [encodeChar_of_keeps hk] at h
    obtain ⟨rfl, rfl⟩ := List.cons.inj h
    exact ⟨cs, rfl, rfl⟩

/-- The first byte of a character is that of the dot for the dot alone. -/
theorem eq_dot_of_utf8EncodeChar {b : UInt8} {bs : List UInt8}
    (h : String.utf8EncodeChar c = b :: bs) (hb : b.toNat = 0x2E) : c = '.' := by
  have hv : c.val.toNat = 0x2E := by
    unfold String.utf8EncodeChar at h
    dsimp only at h
    split_ifs at h <;>
    · obtain ⟨rfl, -⟩ := List.cons.inj h
      rw [UInt8.toNat_ofNat'] at hb
      omega
  exact Char.ext (UInt32.toNat_inj.1 hv)

/-- **No dot comes from encoding a path.**  If all that is encoded is read as dots, nothing had to
    be encoded. -/
theorem encode_eq_of_dots (h : ∀ c ∈ plainDots (encode pathSet cs), c = '.') :
    encode pathSet cs = cs := by
  -- a dot may be three characters long
  induction hn : cs.length using Nat.strong_induction_on generalizing cs with
  | _ n ih =>
    rcases cs with _ | ⟨c, cs⟩
    · rfl
    rw [encode_cons] at h ⊢
    rcases hk : keeps pathSet c with _ | _
    · -- the digits of an encoded byte are not those of the dot
      exfalso
      obtain ⟨b, bs, hutf, hb⟩ := encodeChar_of_not_keeps hk
      rw [hb, List.append_assoc] at h
      have hbyte : b.toNat < 256 := b.toNat_lt
      rcases plainDots_percent (hexDigit (b.toNat / 16) :: hexDigit (b.toNat % 16) ::
        (bs.flatMap encodeByte ++ encode pathSet cs)) with ⟨d, rest, hcs, hd, -⟩ | hpercent
      · have high : ∀ n < 16, hexDigit n = '2' → n = 2 := by decide
        have low : ∀ n < 16, hexDigit n = 'e' ∨ hexDigit n = 'E' → n = 14 := by decide
        obtain ⟨htwo, hcs⟩ := List.cons.inj hcs
        obtain ⟨rfl, -⟩ := List.cons.inj hcs
        have h2 := high _ (by omega) htwo
        have h14 := low _ (by omega) hd
        obtain rfl := eq_dot_of_utf8EncodeChar hutf (by omega)
        exact absurd hk (by decide)
      · have hall := h '%' (hpercent ▸ List.mem_cons_self)
        exact absurd hall (by decide)
    · rw [encodeChar_of_keeps hk, List.singleton_append] at h ⊢
      by_cases hpercent : c = '%'
      · subst hpercent
        rcases plainDots_percent (encode pathSet cs) with ⟨d, rest, hcs, hd, heq⟩ | heq
        · obtain ⟨ds, rfl, hds⟩ := eq_cons_of_encode hcs (by decide)
          obtain ⟨es, rfl, hes⟩ := eq_cons_of_encode hds (by rcases hd with rfl | rfl <;> decide)
          rw [heq] at h
          have := ih es.length (by simp at hn; omega)
            (hes ▸ fun x hx => h x (List.mem_cons_of_mem _ hx)) rfl
          rw [hcs, ← hes, this]
        · have hall := h '%' (heq ▸ List.mem_cons_self)
          exact absurd hall (by decide)
      · rw [plainDots_cons_of_ne hpercent] at h
        rw [ih cs.length (by simp at hn; omega) (fun x hx => h x (List.mem_cons_of_mem _ hx)) rfl]

theorem plainDots_of_encode {n : Nat}
    (h : plainDots (encode pathSet cs) = List.replicate n '.') :
    plainDots cs = List.replicate n '.' := by
  have hsame : encode pathSet cs = cs :=
    encode_eq_of_dots fun c hc => List.eq_of_mem_replicate (h ▸ hc)
  rwa [hsame] at h

/-- A segment that stands for no place itself does not do so encoded. -/
theorem isSingleDot_encode (h : isSingleDot cs = false) :
    isSingleDot (encode pathSet cs) = false := by
  refine decide_eq_false fun hdot => of_decide_eq_false h ?_
  exact plainDots_of_encode (n := 1) hdot

theorem isDoubleDot_encode (h : isDoubleDot cs = false) :
    isDoubleDot (encode pathSet cs) = false := by
  refine decide_eq_false fun hdot => of_decide_eq_false h ?_
  exact plainDots_of_encode (n := 2) hdot

end LoadSwarm.Url
