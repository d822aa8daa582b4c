/-
  What becomes of a tree of files.

  * `FileTree.at?_put`: a new entry is at its place, and all other places are as they were.
  * `FileTree.KeepsDirectories`: directories stay directories, so that every path still leads where
    it led (`KeepsDirectories.locate`).
  * `FileTree.write_eq_ok_iff`, `FileTree.makeDirectory_eq_ok_iff`: when a file is written and a
    directory is made, and what the tree is then.
  * `FilePath.Reaches p q`: the path `q` is `p` itself or that of a directory around it;
    `FilePath.EnclosedBy` leaves out `p` itself.
  * `FileTree.AddsDirectories`: nothing but directories along some paths is new;
    `makeDirectories_adds` and `makeRoom_adds` are that this holds, whether they succeed or not.
-/
import LoadSwarm.Files.Tree
import LoadSwarm.Proofs.Config.Validation

namespace LoadSwarm

/-! ## Paths -/

namespace FilePath

/-- From a path to itself and to the directories around it. -/
inductive Reaches : FilePath → FilePath → Prop
  | self (p : FilePath) : Reaches p p
  | around {p q r : FilePath} (parent : p.parent? = some q) (outer : Reaches q r) : Reaches p r

/-- A path lies in the directories around it. -/
def EnclosedBy (p r : FilePath) : Prop := ∃ q, p.parent? = some q ∧ Reaches q r

end FilePath

namespace FileTree

variable {t t' t'' : FileTree} {p : FilePath} {place other : List String} {e : FileEntry}
  {content : FileContent}

/-! ## Entries -/

/-- Only directories are at the places that always exist. -/
theorem not_isGround (h : t.at? place ≠ some .directory) : isGround place = false := by
  unfold at? at h
  split_ifs at h with hground
  · exact absurd rfl h
  · simpa using hground

/-- The new entry is at its place. -/
theorem at?_put_self (h : isGround place = false) (e : FileEntry) :
    (t.put place e).at? place = some e := by
  unfold at? put
  rw [h]
  simp

/-- All other entries are as they were. -/
theorem at?_put_of_ne (h : other ≠ place) (e : FileEntry) : (t.put place e).at? other = t.at? other := by
  unfold at? put
  dsimp only
  rw [List.find?_cons_of_neg (by simpa using Ne.symm h), List.find?_filter]
  congr 3
  funext x
  by_cases hx : x.1 = other
  · simp [hx, h]
  · simp [hx]

/-! ## Directories that stay -/

/-- Directories stay directories. -/
def KeepsDirectories (t t' : FileTree) : Prop :=
  ∀ place, t.at? place = some .directory → t'.at? place = some .directory

namespace KeepsDirectories

theorem refl (t : FileTree) : t.KeepsDirectories t := fun _ h => h

theorem trans (h : t.KeepsDirectories t') (h' : t'.KeepsDirectories t'') : t.KeepsDirectories t'' :=
  fun place hplace => h' place (h place hplace)

/-- What is put where no directory is leaves all of them. -/
theorem put (h : t.at? place ≠ some .directory) (e : FileEntry) : t.KeepsDirectories (t.put place e) := by
  intro other hother
  have hne : other ≠ place := by
    rintro rfl
    exact h hother
  rw [at?_put_of_ne hne, hother]

/-- Names lead where they led. -/
theorem follow (h : t.KeepsDirectories t') {names : List String} {from_ : List String} :
    t.follow from_ names = .ok place → t'.follow from_ names = .ok place := by
  induction names generalizing from_ with
  | nil => exact id
  | cons name rest ih =>
    intro hfollow
    unfold FileTree.follow at hfollow ⊢
    split_ifs at hfollow ⊢ with hname hrest
    · exact hfollow
    · dsimp only at hfollow ⊢
      -- there are more names, so that this one leads to a directory
      rcases hat : t.at? (stepTo from_ name) with _ | _ | content
      · rw [hat] at hfollow; cases hfollow
      · rw [hat] at hfollow
        rw [h _ hat]
        exact ih hfollow
      · rw [hat] at hfollow; cases hfollow

/-- **A path leads where it led.** -/
theorem locate (h : t.KeepsDirectories t') (hp : t.locate p = .ok place) : t'.locate p = .ok place := by
  unfold FileTree.locate at hp ⊢
  split_ifs at hp ⊢
  · exact h.follow hp
  · exact h.follow hp

end KeepsDirectories

/-! ## Single changes -/

/-- **When a file is written**, and the tree then. -/
theorem write_eq_ok_iff : t.write p content = .ok t' ↔
    ∃ place, t.locate p = .ok place ∧ p.asDirectory = false ∧ t.at? place ≠ some .directory ∧
      t' = t.put place (.file content) := by
  unfold write
  rw [bind_eq_ok_iff]
  refine exists_congr fun place => and_congr_right fun _ => ?_
  rcases p.asDirectory with _ | _
  · rcases t.at? place with _ | _ | old <;> simp [eq_comm, pure, Except.pure]
  · simp [bind, Except.bind]

/-- **When a directory is made**, and the tree then. -/
theorem makeDirectory_eq_ok_iff : t.makeDirectory p = .ok t' ↔
    ∃ place, t.locate p = .ok place ∧ t.at? place = none ∧ t' = t.put place .directory := by
  unfold makeDirectory
  rw [bind_eq_ok_iff]
  refine exists_congr fun place => and_congr_right fun _ => ?_
  rcases t.at? place with _ | entry <;> simp [eq_comm, pure, Except.pure]

/-- What is written leaves all directories. -/
theorem write_keeps (h : t.write p content = .ok t') : t.KeepsDirectories t' := by
  obtain ⟨place, -, -, hat, rfl⟩ := write_eq_ok_iff.1 h
  exact .put hat _

/-- A file that a path leads to is read. -/
theorem read_eq {s : String} (hplace : t.locate p = .ok place) (hplain : p.asDirectory = false)
    (hat : t.at? place = some (.file (.text s))) : t.read p = .ok s := by
  have hlook : t.look p = .ok (.file (.text s)) := by
    unfold look
    rw [hplace]
    dsimp only [bind, Except.bind]
    rw [hat, hplain]; rfl
  unfold read
  rw [hlook]; rfl

/-! ## Directories that are added -/

/-- **Nothing but directories is new**, and one of some paths leads to each of them. -/
def AddsDirectories (ways : FilePath → Prop) (t t' : FileTree) : Prop :=
  ∀ place, t'.at? place = t.at? place ∨
    t.at? place = none ∧ t'.at? place = some .directory ∧ ∃ q, ways q ∧ t'.locate q = .ok place

namespace AddsDirectories

variable {ways ways' : FilePath → Prop}

theorem refl (ways : FilePath → Prop) (t : FileTree) : AddsDirectories ways t t := fun _ => .inl rfl

theorem mono (h : AddsDirectories ways t t') (hways : ∀ q, ways q → ways' q) :
    AddsDirectories ways' t t' := fun place =>
  (h place).imp_right fun ⟨hnone, hnew, q, hq, hlocate⟩ => ⟨hnone, hnew, q, hways q hq, hlocate⟩

/-- What is there stays as it is. -/
theorem at?_eq (h : AddsDirectories ways t t') (hplace : t.at? place = some e) :
    t'.at? place = some e := by
  rcases h place with hsame | ⟨hnone, -⟩
  · rw [hsame, hplace]
  · rw [hnone] at hplace; cases hplace

theorem keeps (h : AddsDirectories ways t t') : t.KeepsDirectories t' := fun _ => h.at?_eq

theorem trans (h : AddsDirectories ways t t') (h' : AddsDirectories ways t' t'') :
    AddsDirectories ways t t'' := by
  intro place
  rcases h place with hsame | ⟨hnone, hnew, q, hq, hlocate⟩
  · rcases h' place with hsame' | ⟨hnone', hnew'⟩
    · exact .inl (hsame'.trans hsame)
    · exact .inr ⟨hsame ▸ hnone', hnew'⟩
  · exact .inr ⟨hnone, h'.at?_eq hnew, q, hq, h'.keeps.locate hlocate⟩

/-- **What a path leads to is as it was**, if it led to anything. -/
theorem look (h : AddsDirectories ways t t') (hp : t.look p = .ok e) : t'.look p = .ok e := by
  unfold FileTree.look at hp ⊢
  obtain ⟨place, hlocate, hentry⟩ := bind_eq_ok_iff.1 hp
  refine bind_eq_ok_iff.2 ⟨place, h.keeps.locate hlocate, ?_⟩
  rcases hplace : t.at? place with _ | entry
  · rw [hplace] at hentry; cases hentry
  · rw [h.at?_eq hplace, ← hplace]
    exact hentry

end AddsDirectories

theorem makeDirectory_adds (h : t.makeDirectory p = .ok t') : AddsDirectories (· = p) t t' := by
  obtain ⟨place, hlocate, hnone, rfl⟩ := makeDirectory_eq_ok_iff.1 h
  have hat : t.at? place ≠ some .directory := by rw [hnone]; nofun
  have hkeeps : t.KeepsDirectories (t.put place .directory) := .put hat _
  intro other
  by_cases hother : other = place
  · subst hother
    exact .inr ⟨hnone, at?_put_self (not_isGround hat) _, p, rfl, hkeeps.locate hlocate⟩
  · exact .inl (at?_put_of_ne hother _)

theorem ensureDirectory_adds (t : FileTree) (p : FilePath) :
    AddsDirectories (· = p) t (t.ensureDirectory p).1 := by
  unfold ensureDirectory
  rcases h : t.makeDirectory p with e | t'
  · exact .refl _ t
  · exact makeDirectory_adds h

/-- The path itself is one that it leads on to. -/
theorem AddsDirectories.reaches (h : AddsDirectories (· = p) t t') : AddsDirectories p.Reaches t t' :=
  h.mono fun _ hq => hq ▸ .self p

theorem makeWithParents_adds (fuel : Nat) (t : FileTree) (p : FilePath) :
    AddsDirectories p.Reaches t (makeWithParents fuel t p).1 := by
  induction fuel generalizing t p with
  | zero => exact (ensureDirectory_adds t p).reaches
  | succ fuel ih =>
    unfold makeWithParents
    by_cases htext : p.text = ""
    · rw [if_pos htext]
      exact .refl _ t
    rw [if_neg htext]
    rcases h : t.makeDirectory p with e | t'
    · dsimp only
      by_cases he : e = .notFound
      · rw [if_pos he]
        rcases hparent : p.parent? with _ | q
        · exact .refl _ t
        · -- the directories around it are made first, then the directory itself
          have houter : AddsDirectories p.Reaches t (makeWithParents fuel t q).1 :=
            (ih t q).mono fun _ hr => .around hparent hr
          dsimp only
          rcases hmade : makeWithParents fuel t q with ⟨t₁, _ | ⟨⟨⟩⟩⟩
          · rw [hmade] at houter
            exact houter
          · rw [hmade] at houter
            exact houter.trans (ensureDirectory_adds t₁ p).reaches
      · rw [if_neg he]
        exact .refl _ t
    · exact (makeDirectory_adds h).reaches

/-- **Making a directory adds directories at most**, on the way to it. -/
theorem makeDirectories_adds (t : FileTree) (p : FilePath) :
    AddsDirectories p.Reaches t (t.makeDirectories p).1 :=
  makeWithParents_adds _ t p

/-- **Making room for a file adds directories at most**, on the way to it. -/
theorem makeRoom_adds (t : FileTree) (p : FilePath) :
    AddsDirectories p.EnclosedBy t (t.makeRoom p).1 := by
  unfold makeRoom
  rcases hparent : p.parent? with _ | q
  · exact .refl _ t
  · dsimp only
    by_cases htext : q.text = ""
    · rw [if_pos htext]
      exact .refl _ t
    · rw [if_neg htext]
      exact (makeDirectories_adds t q).mono fun _ hr => ⟨q, hparent, hr⟩

end FileTree

end LoadSwarm
