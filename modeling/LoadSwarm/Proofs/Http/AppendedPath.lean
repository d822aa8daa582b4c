/-
  Plain paths, put below the path of a base URL.

  * `isPlainPath`: between its slashes a path has only letters, digits, `-`, `_` and `.`, and no
    part is a dot segment.
  * `settled_of_plain`, `splitSegments_of_plain`: such parts stand in a URL as they are, and they
    are the segments that are read.
  * `urlFor_plain`: so they are added to the segments of the base URL.
  * `AppendsPath`: the URL of a path, and what it does not depend on.
  * `connect_appendsPath`: what holds of every plain path for every client of an http or https URL.
-/
import LoadSwarm.Proofs.Http.RequestUrl
import LoadSwarm.Proofs.Text.Parts

namespace LoadSwarm

open Url

/-! ## Plain paths -/

/-- An ASCII letter or digit, or one of `-`, `_` and `.`. -/
def isPlainChar (c : Char) : Bool := c.isAlphanum || c = '-' || c = '_' || c = '.'

/-- A segment of plain characters that is no dot segment. -/
def isPlainSegment (s : List Char) : Bool := s.all isPlainChar && s ≠ ['.'] && s ≠ ['.', '.']

/-- A path without the slashes at its front. -/
def dropSlashes (path : String) : List Char := path.toList.dropWhile (· = '/')

/-- A path of plain segments, after any number of slashes. -/
def isPlainPath (path : String) : Bool :=
  (Text.splitChars '/' (dropSlashes path)).all isPlainSegment

section Plain

variable {c : Char} {s : List Char} {path : String}

theorem isPlainChar_ascii (h : isPlainChar c = true) : c.toNat < 128 := by
  have below {last : Char} (hle : c.val ≤ last.val) (hlast : last.toNat < 128) : c.toNat < 128 :=
    (UInt32.le_iff_toNat_le.1 hle).trans_lt hlast
  simp only [isPlainChar, Char.isAlphanum, Char.isAlpha, Char.isUpper, Char.isLower, Char.isDigit,
    Bool.or_eq_true, Bool.and_eq_true, decide_eq_true_eq] at h
  rcases h with (((((⟨-, hupper⟩ | ⟨-, hlower⟩) | ⟨-, hdigit⟩) | rfl) | rfl) | rfl)
  · exact below hupper (by decide)
  · exact below hlower (by decide)
  · exact below hdigit (by decide)
  all_goals decide

/-- A character that stands for itself in the path of a URL. -/
structure Literal (c : Char) : Prop where
  keeps : keeps pathSet c = true
  inside : isSlash .network c = false
  notSkipped : isSkipped c = false
  ne_percent : c ≠ '%'
  ne_colon : c ≠ ':'

theorem literal_of_isPlainChar (h : isPlainChar c = true) : Literal c := by
  have hall : ∀ n < 128, isPlainChar (Char.ofNat n) = true →
      Url.keeps pathSet (Char.ofNat n) = true ∧ isSlash .network (Char.ofNat n) = false ∧
        isSkipped (Char.ofNat n) = false ∧ Char.ofNat n ≠ '%' ∧ Char.ofNat n ≠ ':' := by
    decide +kernel
  have hc := hall c.toNat (isPlainChar_ascii h)
  rw [Char.ofNat_toNat] at hc
  obtain ⟨keeps, inside, notSkipped, ne_percent, ne_colon⟩ := hc h
  exact ⟨keeps, inside, notSkipped, ne_percent, ne_colon⟩

/-- **A plain segment stands in a URL as it is.** -/
theorem settled_of_plain (h : isPlainSegment s = true) : Settled s := by
  simp only [isPlainSegment, Bool.and_eq_true, decide_eq_true_eq, List.all_eq_true] at h
  obtain ⟨⟨hplain, hsingle⟩, hdouble⟩ := h
  have hdots : plainDots s = s :=
    plainDots_of_not_mem fun hmem => (literal_of_isPlainChar (hplain _ hmem)).ne_percent rfl
  exact {
    keeps := fun c hc => (literal_of_isPlainChar (hplain c hc)).keeps
    inside := fun c hc => (literal_of_isPlainChar (hplain c hc)).inside
    notSingle := decide_eq_false (hdots.symm ▸ hsingle)
    notDouble := decide_eq_false (hdots.symm ▸ hdouble) }

/-- The text of the parts of a text. -/
theorem text_splitChars (cs : List Char) :
    (Path.segments (Text.splitChars '/' cs)).text = '/' :: cs := by
  induction cs with
  | nil => rfl
  | cons c cs ih =>
    obtain ⟨p, ps, hsplit⟩ := List.exists_cons_of_ne_nil (Text.intercalate_splitChars '/' cs).1
    rw [hsplit, text_cons] at ih
    have hcs : p ++ (Path.segments ps).text = cs := (List.cons.inj ih).2
    rw [Text.splitChars, hsplit]
    dsimp only
    split_ifs with hc
    · rw [text_cons, text_cons, hcs, hc]
      rfl
    · rw [text_cons, List.cons_append, hcs]

/-- A plain path consists of slashes and characters that stand for themselves. -/
theorem mem_dropSlashes (h : isPlainPath path = true) (hc : c ∈ dropSlashes path) :
    c = '/' ∨ Literal c := by
  have hmem : c ∈ (Path.segments (Text.splitChars '/' (dropSlashes path))).text := by
    rw [text_splitChars]; exact List.mem_cons_of_mem _ hc
  obtain ⟨p, hp, hc⟩ := List.mem_flatMap.1 hmem
  have hplain := List.all_eq_true.1 h p hp
  simp only [isPlainSegment, Bool.and_eq_true, List.all_eq_true] at hplain
  exact (List.mem_cons.1 hc).imp_right fun hc => literal_of_isPlainChar (hplain.1.1 c hc)

/-- A plain path is no complete URL. -/
theorem relative_of_plain (h : isPlainPath path = true) :
    (Text.startsWith "http://" path || Text.startsWith "https://" path) = false := by
  by_contra hstart
  have hcolon : ':' ∈ dropSlashes path := by
    rw [Bool.not_eq_false, Bool.or_eq_true] at hstart
    rcases hstart with hstart | hstart <;>
    · obtain ⟨rest, hrest⟩ := List.isPrefixOf_iff_prefix.1 hstart
      unfold dropSlashes
      rw [← hrest]
      simp
  rcases mem_dropSlashes h hcolon with hslash | hc
  · exact absurd hslash (by decide)
  · exact hc.ne_colon rfl

/-- Where only slashes end segments, the segments of a text are its parts. -/
theorem splitSegments_eq_splitChars {kind : SchemeKind} {cs : List Char}
    (h : ∀ c ∈ cs, isSlash kind c = decide (c = '/')) :
    splitSegments kind cs = Text.splitChars '/' cs := by
  induction cs with
  | nil => rfl
  | cons c cs ih =>
    obtain ⟨p, ps, hsplit⟩ := List.exists_cons_of_ne_nil (Text.intercalate_splitChars '/' cs).1
    rw [splitSegments, Text.splitChars, h c List.mem_cons_self,
      ih fun d hd => h d (List.mem_cons_of_mem c hd), hsplit]
    simp only [decide_eq_true_eq]

/-- **The segments that are read from a plain path** are its parts. -/
theorem splitSegments_of_plain (h : isPlainPath path = true) :
    splitSegments .network (plainText (dropSlashes path)) =
      Text.splitChars '/' (dropSlashes path) := by
  have hkeep : plainText (dropSlashes path) = dropSlashes path := by
    refine List.filter_eq_self.2 fun c hc => ?_
    rcases mem_dropSlashes h hc with rfl | hc
    · rfl
    · rw [hc.notSkipped]; rfl
  rw [hkeep]
  refine splitSegments_eq_splitChars fun c hc => ?_
  rcases mem_dropSlashes h hc with rfl | hc
  · rfl
  · have hne : c ≠ '/' := by rintro rfl; exact absurd hc.inside (by decide)
    rw [hc.inside, decide_eq_false hne]

end Plain

/-! ## The URL of a plain path -/

namespace HttpClient

variable {c : HttpClient} {parts : List (List Char)} {path : String}

/-- **A plain path is added part by part** to the segments of the base URL that remain without
    slashes at the end. -/
theorem urlFor_plain (hkind : schemeKind c.base.scheme = .network)
    (hpath : c.base.path = .segments parts) (h : ∀ p ∈ parts, Settled p)
    (plain : isPlainPath path = true) :
    c.urlFor path = .ok { c.base with
      path := .segments (above parts ++ Text.splitChars '/' (dropSlashes path)) } := by
  have hsettled : ∀ p ∈ Text.splitChars '/' (dropSlashes path), Settled p :=
    fun p hp => settled_of_plain (List.all_eq_true.1 plain p hp)
  rw [urlFor_eq hkind hpath h (relative_of_plain plain), ← dropSlashes,
    splitSegments_of_plain plain, pushSegments_all hsettled]

/-- **A client appends a path to that of its base URL.** -/
structure AppendsPath (client : HttpClient) (path : String) : Prop where
  /-- the path of the URL is that of the base URL without slashes at its end, one slash, and the
      path without slashes at its front; all else is that of the base URL -/
  result : ∃ u, client.urlFor path = .ok u ∧ { u with path := client.base.path } = client.base ∧
    u.path.text = trimSlashes client.base.path.text ++ '/' :: dropSlashes path
  /-- the number of slashes at the front of the path does not matter -/
  leading : ∀ other : String, dropSlashes other = dropSlashes path →
    client.urlFor other = client.urlFor path
  /-- the number of slashes at the end of the base URL's path does not matter -/
  trailing : ∀ {base : String} {settings : ClientSettings} {other : HttpClient},
    connect base settings = .ok other → { other.base with path := client.base.path } = client.base →
    trimSlashes other.base.path.text = trimSlashes client.base.path.text →
    other.urlFor path = client.urlFor path

/-- **Every plain path is appended** by every client of an http or https URL. -/
theorem connect_appendsPath {base path : String} {settings : ClientSettings} {client : HttpClient}
    (bound : connect base settings = .ok client)
    (scheme : client.base.scheme = "http".toList ∨ client.base.scheme = "https".toList)
    (plain : isPlainPath path = true) : AppendsPath client path := by
  have hkind : schemeKind client.base.scheme = .network := by
    rcases scheme with hs | hs <;> (rw [hs]; decide)
  obtain ⟨parts, hpath, hparts⟩ := parse_settled (connect_base bound) hkind
  have hurl := urlFor_plain hkind hpath hparts plain
  refine ⟨⟨_, hurl, rfl, ?_⟩, fun other hother => ?_, fun {_ _ other} hother hsame htrim => ?_⟩
  · rw [text_append, text_splitChars, hpath, trimSlashes_text hparts]
  · have hplain : isPlainPath other = true := by unfold isPlainPath; rwa [hother]
    rw [hurl, urlFor_plain hkind hpath hparts hplain, hother]
  · have hscheme : other.base.scheme = client.base.scheme := by rw [← hsame]
    have hkind' : schemeKind other.base.scheme = .network := hscheme ▸ hkind
    obtain ⟨parts', hpath', hparts'⟩ := parse_settled (connect_base hother) hkind'
    have habove : above parts' = above parts := by
      rw [hpath, hpath', trimSlashes_text hparts, trimSlashes_text hparts'] at htrim
      exact segments_of_text (fun p hp => (above_settled hparts' p hp).inside)
        (fun p hp => (above_settled hparts p hp).inside) htrim
    rw [hurl, urlFor_plain hkind' hpath' hparts' plain, habove, ← hsame]

theorem connect_appendsPath_nestedService :
    connect "http://[::1]/api//?q" (ClientSettings.ofOptions {}) = .ok nestedService ∧
      nestedService.base.scheme = "http".toList ∧ isPlainPath "//v1//eu-west_1.prod" = true ∧
      AppendsPath nestedService "//v1//eu-west_1.prod" ∧
      nestedService.urlFor "//v1//eu-west_1.prod" = .ok { nestedService.base with
        path := .segments ["api".toList, "v1".toList, [], "eu-west_1.prod".toList] } := by
  have plain : isPlainPath "//v1//eu-west_1.prod" = true := by decide +kernel
  exact ⟨nestedService_connect, rfl, plain,
    connect_appendsPath nestedService_connect (.inl rfl) plain, by decide +kernel⟩

end HttpClient

end LoadSwarm
