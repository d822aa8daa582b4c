/-
  Paths of URLs of the network, and paths put below them.

  * `Settled s`: a segment as it stands in a URL: nothing in it would be encoded, ends it or leads
    elsewhere.
  * `pushSegments_settled`, `parse_settled`: all segments of a URL that was read are of this kind.
  * `pushSegments_append`: so they are not changed when they are read again.
  * `above parts`: segments without the empty ones at their end; `trimSlashes_text` is the same for
    the text of a path.
  * `readPath_text`: what a text below the path of a URL comes to: its segments are added one after
    the other.
-/
import LoadSwarm.Http.Client
import LoadSwarm.Proofs.Config.Validation
import LoadSwarm.Proofs.Url.Percent

namespace LoadSwarm.Url

variable {kind : SchemeKind} {c : Char} {s p cs : List Char} {parts done : List (List Char)}

/-! ## Segments as they stand in a URL -/

/-- **A segment as it stands in a URL of the network.** -/
structure Settled (s : List Char) : Prop where
  keeps : ∀ c ∈ s, keeps pathSet c = true
  inside : ∀ c ∈ s, isSlash .network c = false
  notSingle : isSingleDot s = false
  notDouble : isDoubleDot s = false

theorem settled_nil : Settled [] := ⟨nofun, nofun, rfl, rfl⟩

/-- Encoding makes a segment one that stands in a URL, if it does not lead elsewhere. -/
theorem settled_encode (inside : ∀ c ∈ s, isSlash .network c = false)
    (single : isSingleDot s = false) (double : isDoubleDot s = false) :
    Settled (encode pathSet s) where
  keeps _ hc := keeps_of_mem_encode hc
  inside c hc := by
    have escape := List.all_eq_true.1
      (show ('%' :: hexDigits).all (fun d => !isSlash .network d) = true by decide)
    rcases mem_encode hc with ⟨hmem, -⟩ | rfl | hmem
    · exact inside c hmem
    · rfl
    · simpa using escape c (List.mem_cons_of_mem _ hmem)
  notSingle := isSingleDot_encode single
  notDouble := isDoubleDot_encode double

namespace Settled

theorem encode_eq (h : Settled s) : encode pathSet s = s := encode_of_keeps h.keeps

/-- Tabs and line ends would have been encoded. -/
theorem notSkipped (h : Settled s) (hc : c ∈ s) : isSkipped c = false := by
  have hk := h.keeps c hc
  by_contra hs
  simp only [isSkipped, Bool.not_eq_false, Bool.or_eq_true, decide_eq_true_eq] at hs
  rcases hs with (rfl | rfl) | rfl <;> exact absurd hk (by decide)

theorem ne_slash (h : Settled s) (hc : c ∈ s) : c ≠ '/' := by
  rintro rfl
  exact absurd (h.inside _ hc) (by decide)

end Settled

/-! ## Reading segments -/

theorem splitSegments_ne_nil (kind : SchemeKind) (cs : List Char) :
    splitSegments kind cs ≠ [] := by
  cases cs with
  | nil => exact List.cons_ne_nil _ _
  | cons c cs =>
    unfold splitSegments
    split_ifs
    · exact List.cons_ne_nil _ _
    · split <;> exact List.cons_ne_nil _ _

theorem splitSegments_slash (hc : isSlash kind c = true) (cs : List Char) :
    splitSegments kind (c :: cs) = [] :: splitSegments kind cs := by
  rw [splitSegments, if_pos hc]

theorem splitSegments_inside (hc : isSlash kind c = false) {cs : List Char}
    (h : splitSegments kind cs = p :: parts) :
    splitSegments kind (c :: cs) = (c :: p) :: parts := by
  rw [splitSegments, if_neg (by rw [hc]; exact Bool.false_ne_true), h]

/-- **No segment of a text holds a slash.** -/
theorem inside_of_mem_splitSegments (hp : p ∈ splitSegments kind cs) :
    ∀ c ∈ p, isSlash kind c = false := by
  induction cs generalizing p with
  | nil =>
    obtain rfl := List.mem_singleton.1 hp
    exact nofun
  | cons c cs ih =>
    rcases hc : isSlash kind c with _ | _
    · obtain ⟨q, qs, hq⟩ := List.exists_cons_of_ne_nil (splitSegments_ne_nil kind cs)
      rw [splitSegments_inside hc hq] at hp
      rw [hq] at ih
      rcases List.mem_cons.1 hp with rfl | hp
      · intro d hd
        rcases List.mem_cons.1 hd with rfl | hd
        · exact hc
        · exact ih List.mem_cons_self d hd
      · exact ih (List.mem_cons_of_mem _ hp)
    · rw [splitSegments_slash hc] at hp
      rcases List.mem_cons.1 hp with rfl | hp
      · exact nofun
      · exact ih hp

theorem splitSegments_of_inside (h : ∀ c ∈ s, isSlash kind c = false) :
    splitSegments kind s = [s] := by
  induction s with
  | nil => rfl
  | cons c s ih =>
    exact splitSegments_inside (h c List.mem_cons_self)
      (ih fun d hd => h d (List.mem_cons_of_mem c hd))

/-- A segment ends at the first slash. -/
theorem splitSegments_append (h : ∀ c ∈ s, isSlash kind c = false) (hc : isSlash kind c = true)
    (cs : List Char) : splitSegments kind (s ++ c :: cs) = s :: splitSegments kind cs := by
  induction s with
  | nil => exact splitSegments_slash hc cs
  | cons d s ih =>
    exact splitSegments_inside (h d List.mem_cons_self)
      (ih fun e he => h e (List.mem_cons_of_mem d he))

theorem text_cons (p : List Char) (ps : List (List Char)) :
    (Path.segments (p :: ps)).text = '/' :: (p ++ (Path.segments ps).text) := by
  show List.flatMap ('/' :: ·) (p :: ps) = _
  rw [List.flatMap_cons]
  rfl

theorem text_append (ps qs : List (List Char)) :
    (Path.segments (ps ++ qs)).text = (Path.segments ps).text ++ (Path.segments qs).text := by
  show List.flatMap ('/' :: ·) (ps ++ qs) = _
  rw [List.flatMap_append]
  rfl

/-- The segments of a path are read back from its text. -/
theorem splitSegments_text (hs : ∀ c ∈ s, isSlash kind c = false)
    (h : ∀ p ∈ parts, ∀ c ∈ p, isSlash kind c = false) (cs : List Char) :
    splitSegments kind (s ++ ((Path.segments parts).text ++ '/' :: cs)) =
      s :: (parts ++ splitSegments kind cs) := by
  have hslash : isSlash kind '/' = true := by cases kind <;> rfl
  induction parts generalizing s with
  | nil => exact splitSegments_append hs hslash cs
  | cons p ps ih =>
    rw [text_cons, List.cons_append, splitSegments_append hs hslash, List.append_assoc,
      ih (h p List.mem_cons_self) fun q hq => h q (List.mem_cons_of_mem p hq)]
    rfl

/-- Segments without slashes are those of only one text. -/
theorem segments_of_text {qs : List (List Char)}
    (hps : ∀ p ∈ parts, ∀ c ∈ p, isSlash kind c = false)
    (hqs : ∀ q ∈ qs, ∀ c ∈ q, isSlash kind c = false)
    (h : (Path.segments parts).text = (Path.segments qs).text) : parts = qs := by
  have hread := splitSegments_text (s := []) nofun hps []
  rw [h, splitSegments_text (s := []) nofun hqs []] at hread
  exact (List.append_cancel_right (List.cons.inj hread).2).symm

/-! ## Adding segments -/

theorem dropLastSegment_eq (done : List (List Char)) :
    dropLastSegment .network done = done.dropLast := by
  unfold dropLastSegment
  split
  · rfl
  · rfl

/-- A segment that leads upwards takes the last one away. -/
theorem pushSegment_double (h : isDoubleDot s = true) (last : Bool) (done : List (List Char)) :
    pushSegment .network last done s = done.dropLast ++ if last then [[]] else [] := by
  unfold pushSegment
  rw [if_pos h, dropLastSegment_eq]

theorem pushSegment_single (h : isSingleDot s = true) (last : Bool) (done : List (List Char)) :
    pushSegment .network last done s = done ++ if last then [[]] else [] := by
  have hdot : plainDots s = ['.'] := of_decide_eq_true h
  have double : isDoubleDot s = false := by unfold isDoubleDot; rw [hdot]; rfl
  unfold pushSegment
  rw [double, if_neg Bool.false_ne_true, if_pos h]

/-- Any other segment is added in its encoded form. -/
theorem pushSegment_encode (single : isSingleDot s = false) (double : isDoubleDot s = false)
    (last : Bool) (done : List (List Char)) :
    pushSegment .network last done s = done ++ [encode pathSet s] := by
  unfold pushSegment
  rw [double, single, if_neg Bool.false_ne_true, if_neg Bool.false_ne_true,
    if_neg fun hfile => nomatch hfile.1]

/-- **Segments that stand in a URL are added as they are.** -/
theorem pushSegments_append (h : ∀ p ∈ parts, Settled p) {more : List (List Char)}
    (hmore : more ≠ []) (done : List (List Char)) :
    pushSegments .network done (parts ++ more) = pushSegments .network (done ++ parts) more := by
  induction parts generalizing done with
  | nil => rw [List.nil_append, List.append_nil]
  | cons p ps ih =>
    obtain ⟨q, qs, hq⟩ := List.exists_cons_of_ne_nil (List.append_ne_nil_of_right_ne_nil ps hmore)
    have hp := h p List.mem_cons_self
    rw [List.cons_append, hq, pushSegments, ← hq, pushSegment_encode hp.notSingle hp.notDouble,
      hp.encode_eq, ih fun r hr => h r (List.mem_cons_of_mem p hr), List.append_assoc]
    rfl

theorem pushSegments_all (h : ∀ p ∈ parts, Settled p) (done : List (List Char)) :
    pushSegments .network done parts = done ++ parts := by
  rcases List.eq_nil_or_concat parts with rfl | ⟨ps, p, rfl⟩
  · exact (List.append_nil done).symm
  · rw [List.concat_eq_append] at h ⊢
    have hp := h p (List.mem_append_right ps (List.mem_singleton_self p))
    rw [pushSegments_append (fun q hq => h q (List.mem_append_left _ hq)) (List.cons_ne_nil _ _),
      pushSegments, pushSegment_encode hp.notSingle hp.notDouble, hp.encode_eq, List.append_assoc]

theorem pushSegment_settled (hs : ∀ c ∈ s, isSlash .network c = false)
    (hdone : ∀ p ∈ done, Settled p) (last : Bool) :
    ∀ p ∈ pushSegment .network last done s, Settled p := by
  have hend : ∀ p ∈ (if last then [[]] else [] : List (List Char)), Settled p := by
    cases last
    · exact nofun
    · intro p hp; rw [List.mem_singleton.1 hp]; exact settled_nil
  have happend {ps qs : List (List Char)} (hps : ∀ p ∈ ps, Settled p) (hqs : ∀ p ∈ qs, Settled p) :
      ∀ p ∈ ps ++ qs, Settled p := fun p hp => (List.mem_append.1 hp).elim (hps p) (hqs p)
  rcases hdouble : isDoubleDot s with _ | _
  · rcases hsingle : isSingleDot s with _ | _
    · rw [pushSegment_encode hsingle hdouble]
      refine happend hdone fun p hp => ?_
      rw [List.mem_singleton.1 hp]
      exact settled_encode hs hsingle hdouble
    · rw [pushSegment_single hsingle]
      exact happend hdone hend
  · rw [pushSegment_double hdouble]
    exact happend (fun p hp => hdone p (List.dropLast_subset done hp)) hend

/-- **All segments that are added stand in the URL.** -/
theorem pushSegments_settled (h : ∀ p ∈ parts, ∀ c ∈ p, isSlash .network c = false)
    (hdone : ∀ p ∈ done, Settled p) : ∀ p ∈ pushSegments .network done parts, Settled p := by
  induction parts generalizing done with
  | nil => exact hdone
  | cons p ps ih =>
    have hpush := pushSegment_settled (h p List.mem_cons_self) hdone
    cases ps with
    | nil => exact hpush true
    | cons q qs => exact ih (fun r hr => h r (List.mem_cons_of_mem p hr)) (hpush false)

/-! ## Paths that were read -/

theorem segmentsOf_settled (cs : List Char) : ∀ p ∈ segmentsOf .network cs, Settled p :=
  pushSegments_settled (fun _ hp => inside_of_mem_splitSegments hp) nofun

theorem readPath_settled (cs : List Char) :
    ∃ parts, readPath .network cs = .segments parts ∧ ∀ p ∈ parts, Settled p := by
  unfold readPath
  split
  · refine ⟨[[]], rfl, fun p hp => ?_⟩
    rw [List.mem_singleton.1 hp]; exact settled_nil
  · split_ifs
    · exact ⟨_, rfl, segmentsOf_settled _⟩
    · exact ⟨_, rfl, segmentsOf_settled _⟩

theorem readAfterSlashes_eq_ok {scheme : List Char} {u : Url}
    (h : readAfterSlashes scheme kind cs = .ok u) :
    ∃ a below, u = readBelow scheme kind (some a) below := by
  obtain ⟨a, -, ha⟩ := bind_eq_ok_iff.1 h
  cases ha
  exact ⟨a, _, rfl⟩

theorem readFile_scheme {u : Url} (h : readFile cs = .ok u) : u.scheme = "file".toList := by
  unfold readFile at h
  dsimp only at h
  split_ifs at h
  · cases h; rfl
  · cases h; rfl
  · cases h; rfl
  · obtain ⟨host, -, h⟩ := bind_eq_ok_iff.1 h
    split_ifs at h <;> (cases h; rfl)

/-- **The path of a URL of the network that was read consists of segments as they stand in
    URLs.** -/
theorem parse_settled {text : String} {u : Url} (h : parse text = .ok u)
    (hkind : schemeKind u.scheme = .network) :
    ∃ parts, u.path = .segments parts ∧ ∀ p ∈ parts, Settled p := by
  unfold parse parseChars at h
  split at h
  · cases h
  next scheme rest hscheme =>
  split at h
  · rw [readFile_scheme h] at hkind
    exact absurd hkind (by decide)
  · obtain ⟨a, below, rfl⟩ := readAfterSlashes_eq_ok h
    exact readPath_settled _
  next hother =>
  -- URLs of other schemes keep their scheme
  have hsame : u.scheme = scheme := by
    split at h
    · obtain ⟨a, below, rfl⟩ := readAfterSlashes_eq_ok h; rfl
    · cases h; rfl
    · cases h; rfl
  rw [hsame, hother] at hkind
  cases hkind

/-! ## Texts below a path -/

/-- Segments without the empty ones at their end. -/
def above (parts : List (List Char)) : List (List Char) := parts.rdropWhile List.isEmpty

theorem above_settled (h : ∀ p ∈ parts, Settled p) : ∀ p ∈ above parts, Settled p :=
  fun p hp => h p ((List.rdropWhile_prefix List.isEmpty parts).subset hp)

/-- The text of a path without slashes at its end. -/
theorem trimSlashes_text (h : ∀ p ∈ parts, Settled p) :
    HttpClient.trimSlashes (Path.segments parts).text = (Path.segments (above parts)).text := by
  show List.rdropWhile _ _ = _
  unfold above
  induction parts using List.reverseRecOn with
  | nil => rfl
  | append_singleton ps p ih =>
    have htext : (Path.segments (ps ++ [p])).text = (Path.segments ps).text ++ '/' :: p := by
      rw [text_append, text_cons, show (Path.segments []).text = [] from rfl, List.append_nil]
    rcases List.eq_nil_or_concat p with rfl | ⟨q, c, rfl⟩
    · rw [htext, List.rdropWhile_concat_pos _ _ _ (by simp), List.rdropWhile_concat_pos _ _ _ rfl,
        ih fun r hr => h r (List.mem_append_left _ hr)]
    · rw [List.concat_eq_append] at h htext ⊢
      have hc := (h _ (List.mem_append_right ps (List.mem_singleton_self _))).ne_slash
        (List.mem_append_right q (List.mem_singleton_self c))
      rw [List.rdropWhile_concat_neg List.isEmpty ps _ (by simp), htext, ← List.cons_append,
        ← List.append_assoc, List.rdropWhile_concat_neg _ _ _ (by simpa using hc)]

/-- A text without tabs and line ends. -/
def plainText (cs : List Char) : List Char := cs.filter (!isSkipped ·)

theorem plainText_text (h : ∀ p ∈ parts, Settled p) (cs : List Char) :
    plainText ((Path.segments parts).text ++ '/' :: cs) =
      (Path.segments parts).text ++ '/' :: plainText cs := by
  have hkeep : plainText (Path.segments parts).text = (Path.segments parts).text := by
    refine List.filter_eq_self.2 fun c hc => ?_
    obtain ⟨p, hp, hc⟩ := List.mem_flatMap.1 hc
    rcases List.mem_cons.1 hc with rfl | hc
    · rfl
    · rw [(h p hp).notSkipped hc]; rfl
  have hcons : plainText ('/' :: cs) = '/' :: plainText cs := List.filter_cons_of_pos rfl
  rw [← hcons]
  conv_rhs => rw [← hkeep]
  exact List.filter_append _ _

/-- **What a text below the path of a URL comes to**: its segments are added to those of the
    path. -/
theorem readPath_text (h : ∀ p ∈ parts, Settled p) (cs : List Char) :
    readPath .network ((Path.segments parts).text ++ '/' :: cs) =
      .segments (pushSegments .network parts (splitSegments .network (plainText cs))) := by
  have hplain := plainText_text h cs
  have htwice : plainText (plainText cs) = plainText cs := by
    unfold plainText; rw [List.filter_filter]; simp
  have hslash : isSlash .network '/' = true := rfl
  unfold plainText at hplain
  unfold readPath
  rw [hplain]
  cases parts with
  | nil =>
    show (if isSlash .network '/' = true then _ else _) = _
    rw [if_pos hslash]
    show Path.segments (pushSegments .network [] (splitSegments .network
      (plainText (plainText cs)))) = _
    rw [htwice]
  | cons p ps =>
    have hp := h p List.mem_cons_self
    have hps : ∀ q ∈ ps, Settled q := fun q hq => h q (List.mem_cons_of_mem p hq)
    have hagain : plainText (p ++ ((Path.segments ps).text ++ '/' :: plainText cs)) =
        p ++ ((Path.segments ps).text ++ '/' :: plainText cs) := by
      have hself : plainText p = p :=
        List.filter_eq_self.2 fun c hc => by rw [hp.notSkipped hc]; rfl
      have hrest := plainText_text hps (plainText cs)
      rw [htwice] at hrest
      unfold plainText at hself hrest ⊢
      rw [List.filter_append, hself, hrest]
    rw [text_cons, List.cons_append, List.append_assoc]
    dsimp only
    rw [if_pos hslash]
    show Path.segments (pushSegments .network [] (splitSegments .network (plainText
      (p ++ ((Path.segments ps).text ++ '/' :: plainText cs))))) = _
    rw [hagain, splitSegments_text hp.inside (fun q hq => (hps q hq).inside),
      ← List.cons_append, pushSegments_append h (splitSegments_ne_nil _ _), List.nil_append]

end LoadSwarm.Url
