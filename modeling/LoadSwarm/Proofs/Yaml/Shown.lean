/-
  Values that a document shows are read back.

  * `Value.shownBy`: a node shows a value; `Document.Shows`: a document shows it and nothing else.
  * `Value.ReadAs`: whatever node shows a value, it is read as something, wherever there is depth
    enough; no alias is followed.
  * `readAs_natural`, `readAs_float`, `readAs_text`, `readAs_texts`: single values are read as themselves.
  * `ReadAs.option`: a value that is there is not read as missing.
  * `Sets`: the members of a record, one after the other, set fields; `Sets.readAs`: so the record is read
    with these fields.
  * `readAs_tagged`: a variant with the numbers beside it.
-/
import LoadSwarm.Proofs.Yaml.Members
import LoadSwarm.Proofs.Yaml.Scalar
import LoadSwarm.Yaml.Content

namespace LoadSwarm.Yaml

variable {σ α β : Type} {i depth : Nat} {m : Meaning} {v : Value} {n : Node} {a : α}

open Reading

/-! ## Nodes that show values -/

/-- A scalar without a tag. -/
def Node.isScalar (text : String) (style : ScalarStyle) : Node → Bool
  | .scalar _ tag text' style' => tag = none && text' = text && style' = style
  | _ => false

/-- Scalars that show texts, in turn. -/
def Node.showTexts : List String → List Node → Bool
  | [], [] => true
  | s :: items, n :: nodes => n.isScalar s (textStyle s) && showTexts items nodes
  | _, _ => false

mutual

/-- Whether a node shows a value. -/
def Value.shownBy : Value → Node → Bool
  | .scalar m, n => n.isScalar m.shown.1 m.shown.2
  | .texts items, .sequence _ tag nodes => tag = none && Node.showTexts items nodes
  | .record members, .mapping _ tag nodes => tag = none && Value.membersShownBy members nodes
  | _, _ => false

/-- Whether nodes show the members of a record: plain keys and the values, in turn. -/
def Value.membersShownBy : List (String × Value) → List Node → Bool
  | [], [] => true
  | (key, v) :: rest, k :: n :: nodes =>
    k.isScalar key .plain && v.shownBy n && membersShownBy rest nodes
  | _, _ => false

end

/-- A document shows a value, and it ends there. -/
def Document.Shows (d : Document) (v : Value) : Prop :=
  d.root.any v.shownBy = true ∧ d.reason = none ∧ d.more = false

instance (d : Document) (v : Value) : Decidable (d.Shows v) := by
  unfold Document.Shows
  infer_instance

theorem Node.isScalar_iff {text : String} {style : ScalarStyle} :
    n.isScalar text style = true ↔ ∃ mark, n = .scalar mark none text style := by
  cases n with
  | scalar mark tag text' style' => simp [isScalar, and_assoc]
  | _ => simp [isScalar]

theorem Value.shownBy_texts_iff {items : List String} :
    (Value.texts items).shownBy n = true ↔
      ∃ mark nodes, n = .sequence mark none nodes ∧ Node.showTexts items nodes = true := by
  cases n with
  | sequence mark tag nodes => simp [shownBy]
  | _ => simp [shownBy]

theorem Value.shownBy_record_iff {members : List (String × Value)} :
    (Value.record members).shownBy n = true ↔
      ∃ mark nodes, n = .mapping mark none nodes ∧ membersShownBy members nodes = true := by
  cases n with
  | mapping mark tag nodes => simp [shownBy]
  | _ => simp [shownBy]

theorem Value.membersShownBy_cons {key : String} {rest : List (String × Value)} {nodes : List Node}
    (h : membersShownBy ((key, v) :: rest) nodes = true) :
    ∃ mark n nodes', nodes = .scalar mark none key .plain :: n :: nodes' ∧ v.shownBy n = true ∧
      membersShownBy rest nodes' = true := by
  match nodes with
  | [] | [_] => cases h
  | k :: n :: nodes =>
    simp only [membersShownBy, Bool.and_eq_true, Node.isScalar_iff] at h
    obtain ⟨⟨⟨mark, rfl⟩, hn⟩, hrest⟩ := h
    exact ⟨mark, n, nodes, rfl, hn, hrest⟩

/-! ## Reading what is shown -/

theorem Reading.located_ok {mark : Mark} {path : Path} {r : Reading α} {x : α × Nat}
    (h : r i = .ok x) : located mark path r i = .ok x := by
  unfold located
  rw [h]

/-- What is read before a computation. -/
theorem Reading.bind_ok {r : Reading α} {f : α → Reading β} {j : Nat} (h : r i = .ok (a, j)) :
    (r >>= f) i = f a j := by
  show (r i >>= fun p => f p.1 p.2) = f a j
  rw [h]
  rfl

theorem Place.member_depth (at_ : Place) (k : Node) : (at_.member k).depth = at_.depth := by
  cases k <;> rfl

/-- The place inside a collection. -/
theorem enter_ok {at_ : Place} (mark : Mark) (i : Nat) (h : depth + 1 ≤ at_.depth) :
    ∃ inside, enter at_ mark i = .ok (inside, i) ∧ depth ≤ inside.depth := by
  obtain ⟨d, hd⟩ := Nat.exists_eq_add_of_le h
  refine ⟨{ at_ with depth := depth + d }, ?_, Nat.le_add_right _ _⟩
  unfold enter
  rw [hd, Nat.add_right_comm]
  rfl

namespace Value

/-- **What a value is read as**, from any node that shows it, where `depth` collections can be entered. -/
def ReadAs (v : Value) (depth : Nat) (read : Place → Node → Reading α) (a : α) : Prop :=
  ∀ n, v.shownBy n = true → ∀ at_ i, depth ≤ at_.depth → read at_ n i = .ok (a, i)

variable {read : Place → Node → Reading α}

theorem ReadAs.mono {depth' : Nat} (h : v.ReadAs depth read a) (hd : depth ≤ depth') :
    v.ReadAs depth' read a :=
  fun n hn at_ i hat => h n hn at_ i (hd.trans hat)

theorem ReadAs.map (h : v.ReadAs depth read a) (f : α → β) :
    v.ReadAs depth (fun at_ n => do return f (← read at_ n)) (f a) :=
  fun n hn at_ i hat => bind_ok (h n hn at_ i hat)

theorem ReadAs.bind (h : v.ReadAs depth read a) {f : α → Except Mismatch β} {b : β} (hf : f a = .ok b) :
    v.ReadAs depth (fun at_ n => do ofExcept (f (← read at_ n))) b := by
  intro n hn at_ i hat
  refine (bind_ok (h n hn at_ i hat)).trans ?_
  rw [hf]
  rfl

/-! ## Scalars -/

theorem readAs_scalar (h : ∀ mark at_ i, read at_ (.scalar mark none m.shown.1 m.shown.2) i = .ok (a, i)) :
    (scalar m).ReadAs depth read a := by
  intro n hn at_ i _
  obtain ⟨mark, rfl⟩ := Node.isScalar_iff.1 hn
  exact h mark at_ i

theorem readAs_word {s expected : String} {check : String → Except Mismatch α} (h : check s = .ok a) :
    (scalar (.text s)).ReadAs depth (readWord expected check) a := by
  refine readAs_scalar fun mark at_ i => located_ok ?_
  show ofExcept (check s) i = .ok (a, i)
  rw [h]
  rfl

theorem readAs_text (s : String) : (scalar (.text s)).ReadAs depth readText s := readAs_word rfl

theorem readAs_value {core : CoreTag} {expected : String} {value : String → Option (Except Mismatch α)}
    (hplain : m.shown.2 = .plain) (h : value m.shown.1 = some (.ok a)) :
    (scalar m).ReadAs depth (readValue core expected value) a := by
  have hscalar : isValueScalar core none m.shown.2 = true := by
    rw [hplain]
    rfl
  refine readAs_scalar fun mark at_ i => ?_
  unfold readValue
  refine (bind_ok (a := Node.scalar mark none m.shown.1 m.shown.2) (j := i) rfl).trans (located_ok ?_)
  simp only [hscalar, if_true, h]
  rfl

theorem readAs_natural {expected : String} {limit n : Nat} (h : n ≤ limit) (hlimit : limit ≤ Unsigned.max64) :
    (scalar (.natural n)).ReadAs depth (readNatural expected limit) n := by
  refine readAs_value rfl ?_
  show (natural? Unsigned.max64 (String.ofList (decimalDigits n)).toList).map _ = _
  rw [String.toList_ofList, natural?_decimalDigits (h.trans hlimit), Option.map_some, if_pos h]

theorem readAs_float (x : Binary64) : (scalar (.float x)).ReadAs depth readFloat x := by
  refine readAs_value rfl ?_
  show (float? (x.render .scalar)).map _ = _
  rw [float?_render]
  rfl

theorem readAs_bool (b : Bool) : (scalar (.bool b)).ReadAs depth readBool b := by
  refine readAs_value rfl ?_
  cases b <;> decide

/-! ## Options and lists -/

/-- **A value that is there is not read as missing.** -/
theorem ReadAs.option (h : v.ReadAs depth read a) (hv : v ≠ .scalar .null) :
    v.ReadAs depth (readOption read) (some a) := by
  intro n hn at_ i hat
  have hread := h n hn at_ i hat
  unfold readOption
  cases v with
  | scalar m =>
    obtain ⟨mark, rfl⟩ := Node.isScalar_iff.1 hn
    have hm : m ≠ .null := by
      rintro rfl
      exact hv rfl
    refine (bind_ok (a := Node.scalar mark none m.shown.1 m.shown.2) (j := i) rfl).trans ?_
    dsimp only
    rw [isNothing_shown hm]
    refine (bind_ok (a := false) (j := i) rfl).trans ?_
    exact bind_ok hread
  | texts items =>
    obtain ⟨mark, nodes, rfl, -⟩ := shownBy_texts_iff.1 hn
    exact (bind_ok (a := Node.sequence mark none nodes) (j := i) rfl).trans (bind_ok hread)
  | record members =>
    obtain ⟨mark, nodes, rfl, -⟩ := shownBy_record_iff.1 hn
    exact (bind_ok (a := Node.mapping mark none nodes) (j := i) rfl).trans (bind_ok hread)

theorem readItems_texts {items : List String} {nodes : List Node}
    (h : Node.showTexts items nodes = true) (at_ : Place) (index i : Nat) :
    readItems readText at_ index nodes i = .ok (items, i) := by
  induction items generalizing nodes index with
  | nil =>
    cases nodes with
    | nil => rfl
    | cons n nodes => cases h
  | cons s items ih =>
    cases nodes with
    | nil => cases h
    | cons n nodes =>
      obtain ⟨hn, hnodes⟩ := Bool.and_eq_true_iff.1 h
      have hs := readAs_text s n hn (at_.item index) i (Nat.zero_le _)
      obtain ⟨mark, rfl⟩ := Node.isScalar_iff.1 hn
      exact (bind_ok hs).trans (bind_ok (ih hnodes (index + 1)))

theorem readAs_texts (items : List String) :
    (texts items).ReadAs (depth + 1) (readList readText) items := by
  intro n hn at_ i hat
  obtain ⟨mark, nodes, rfl, hnodes⟩ := shownBy_texts_iff.1 hn
  obtain ⟨inside, henter, -⟩ := enter_ok mark i hat
  refine located_ok ?_
  exact (bind_ok henter).trans (readItems_texts hnodes inside 0 i)

/-! ## Records -/

variable {fields : List (RecordField σ)} {seen : List String} {r r' : σ} {key : String}
  {members rest : List (String × Value)}

/-- **Members set fields**, one after the other and none of them twice. -/
inductive Sets (fields : List (RecordField σ)) (depth : Nat) :
    List String → σ → List (String × Value) → σ → Prop
  | nil {seen : List String} {r : σ} : Sets fields depth seen r [] r
  | cons {seen : List String} {r r₁ r' : σ} {key : String} {v : Value} {rest : List (String × Value)}
      {f : RecordField σ} : fields.find? (·.name = key) = some f → key ∉ seen →
      v.ReadAs depth (f.read r) r₁ → Sets fields depth (key :: seen) r₁ rest r' →
      Sets fields depth seen r ((key, v) :: rest) r'

/-- Fewer keys that were seen do no harm. -/
theorem Sets.subset {seen' : List String} (h : Sets fields depth seen r members r') (hs : seen' ⊆ seen) :
    Sets fields depth seen' r members r' := by
  induction h generalizing seen' with
  | nil => exact .nil
  | cons hf hseen hread _ ih =>
    exact .cons hf (fun hmem => hseen (hs hmem)) hread (ih (List.cons_subset_cons _ hs))

/-- A member sets a field to its value. -/
theorem Sets.set {set : σ → α → σ} (hread : v.ReadAs depth read a)
    (hf : fields.find? (·.name = key) = some (.set key read set)) (hseen : key ∉ seen)
    (h : Sets fields depth (key :: seen) (set r a) rest r') :
    Sets fields depth seen r ((key, v) :: rest) r' :=
  .cons hf hseen (hread.map (set r)) h

/-- **A member that may be missing** sets a field that may have no value. -/
theorem Sets.optional {set : σ → Option α → σ} {value : β → Value} {x? : Option β} {f : β → α}
    (hread : ∀ x, (value x).ReadAs depth read (f x)) (hvalue : ∀ x, value x ≠ .scalar .null)
    (hf : fields.find? (·.name = key) = some (.set key (readOption read) set)) (hseen : key ∉ seen)
    (hnone : set r none = r) (h : Sets fields depth (key :: seen) (set r (x?.map f)) rest r') :
    Sets fields depth seen r ((x?.map fun x => (key, value x)).toList ++ rest) r' := by
  cases x? with
  | none =>
    rw [Option.map_none, hnone] at h
    exact h.subset (List.subset_cons_self key seen)
  | some x => exact .set ((hread x).option (hvalue x)) hf hseen h

theorem Sets.readMembers (h : Sets fields depth seen r members r') {nodes : List Node}
    (hshown : membersShownBy members nodes = true) {at_ : Place} (hat : depth ≤ at_.depth) (i : Nat) :
    readMembers fields at_ seen r (Node.pairs nodes) i = .ok (r', i) := by
  induction h generalizing nodes with
  | nil =>
    cases nodes with
    | nil => rfl
    | cons n nodes => cases hshown
  | @cons seen r r₁ r' key v rest f hf hseen hread _ ih =>
    obtain ⟨mark, n, nodes, rfl, hn, hrest⟩ := membersShownBy_cons hshown
    have hvalue := hread n hn (at_.member (.scalar mark none key .plain)) i
      (by rw [Place.member_depth]; exact hat)
    refine (bind_ok (a := key) (j := i) rfl).trans ?_
    simp only [hf, if_neg hseen]
    exact (bind_ok hvalue).trans (ih hrest)

/-- **A record is read with the fields that its members set.** -/
theorem Sets.readAs (h : Sets fields depth [] r members r') {expected : String} :
    (record members).ReadAs (depth + 1) (readRecord expected fields r) r' := by
  intro n hn at_ i hat
  obtain ⟨mark, nodes, rfl, hnodes⟩ := shownBy_record_iff.1 hn
  obtain ⟨inside, henter, hinside⟩ := enter_ok mark i hat
  refine located_ok ?_
  exact (bind_ok henter).trans (h.readMembers hnodes hinside i)

/-! ## Variants -/

/-- A scalar is kept as what it means. -/
theorem readAs_content {expected : String} {fuel : Nat} {text : String} {mark : Mark} {at_ : Place}
    (h : Meaning.ofPlain text = m) (hm : Content.ofMeaning expected m = .ok (.scalar m)) (i : Nat) :
    readContentWith expected (fuel + 1) at_ (.scalar mark none text .plain) i = .ok (.scalar m, i) := by
  refine located_ok (r := ofExcept (Meaning.ofScalar none text .plain) >>= fun m =>
    ofExcept (Content.ofMeaning expected m)) ?_
  show (Reading.ofExcept (.ok (Meaning.ofPlain text)) >>= _) i = _
  rw [h]
  show Reading.ofExcept (Content.ofMeaning expected m) i = _
  rw [hm]
  rfl

/-- The members that give numbers. -/
def numbers (xs : List (String × Binary64)) : List (String × Value) :=
  xs.map fun x => (x.1, .scalar (.float x.2))

/-- The content of members that give numbers. -/
def numberContents (xs : List (String × Binary64)) : List (Content × Content) :=
  xs.map fun x => (.scalar (.text x.1), .scalar (.float x.2))

/-- The names of numbers are texts, and none is the name of the variant. -/
def AreNames (tagName : String) (xs : List (String × Binary64)) : Prop :=
  ∀ x ∈ xs, Meaning.ofPlain x.1 = .text x.1 ∧ x.1 ≠ tagName

variable {tagName : String} {xs : List (String × Binary64)} {readTag : Place → Node → Reading α}

theorem readTaggedMembers_numbers (hnames : AreNames tagName xs) {nodes : List Node}
    (hshown : membersShownBy (numbers xs) nodes = true) (at_ : Place) (before : List (Content × Content))
    (i : Nat) : readTaggedMembers tagName readTag at_ (some a) before (Node.pairs nodes) i =
      .ok ((a, .members (before ++ numberContents xs)), i) := by
  induction xs generalizing nodes before with
  | nil =>
    cases nodes with
    | nil => rw [numberContents, List.map_nil, List.append_nil]; rfl
    | cons n nodes => cases hshown
  | cons x xs ih =>
    obtain ⟨mark, n, nodes, rfl, hn, hrest⟩ := membersShownBy_cons hshown
    obtain ⟨hname, hne⟩ := hnames x List.mem_cons_self
    obtain ⟨mark', rfl⟩ := Node.isScalar_iff.1 hn
    have hkey : readTagKey tagName at_ (.scalar mark none x.1 .plain) i = .ok (.scalar (.text x.1), i) :=
      readAs_content hname rfl i
    have hvalue : readContent (at_.member (.scalar mark none x.1 .plain))
        (.scalar mark' none (x.2.render .scalar) .plain) i = .ok (.scalar (.float x.2), i) :=
      readAs_content (Meaning.ofPlain_render x.2) rfl i
    refine (bind_ok hkey).trans ?_
    have htag : (x.1 == tagName) = false := beq_eq_false_iff_ne.2 hne
    simp only [htag, Bool.false_eq_true, if_false]
    refine (bind_ok hvalue).trans ?_
    rw [ih (fun y hy => hnames y (List.mem_cons_of_mem x hy)) hrest, List.append_assoc]
    rfl

/-- **A variant is read with the numbers beside it.** -/
theorem readAs_tagged (htag : v.ReadAs depth readTag a) (hname : Meaning.ofPlain tagName = .text tagName)
    (hnames : AreNames tagName xs) {expected : String} :
    (record ((tagName, v) :: numbers xs)).ReadAs (depth + 1) (readTagged expected tagName readTag)
      (a, .members (numberContents xs)) := by
  intro n hn at_ i hat
  obtain ⟨mark, nodes, rfl, hnodes⟩ := shownBy_record_iff.1 hn
  obtain ⟨inside, henter, hinside⟩ := enter_ok mark i hat
  obtain ⟨mark', n, nodes, rfl, hn, hrest⟩ := membersShownBy_cons hnodes
  refine located_ok ?_
  refine (bind_ok henter).trans ?_
  have hkey : readTagKey tagName inside (.scalar mark' none tagName .plain) i =
      .ok (.scalar (.text tagName), i) := readAs_content hname rfl i
  have hvalue := htag n hn (inside.member (.scalar mark' none tagName .plain)) i
    (by rw [Place.member_depth]; exact hinside)
  refine (bind_ok hkey).trans ?_
  simp only [beq_self_eq_true, if_true, Option.isSome_none, Bool.false_eq_true, if_false]
  refine (bind_ok hvalue).trans ?_
  exact readTaggedMembers_numbers hnames hrest inside [] i

end Value

/-! ## Documents -/

/-- The document of a record that is written. -/
theorem Document.ofText_renderRecord (members : List (String × Value)) :
    ofText (renderRecord members) = ofChars (Value.memberLines 0 members) :=
  congrArg ofChars String.toList_ofList

/-- **A document that shows a value is read as the value is.** -/
theorem Document.Shows.read {d : Document} {read : Place → Node → Reading α} {empty : α}
    (h : d.Shows v) (hread : v.ReadAs depth read a) (hdepth : depth ≤ 128) :
    d.read read empty = .ok a := by
  obtain ⟨hroot, hreason, hmore⟩ := h
  obtain ⟨root, hsome, hshown⟩ := (Option.any_eq_true _ _).1 hroot
  have hvalue := hread root hshown { document := d } 0 hdepth
  unfold Document.read
  rw [hsome]
  dsimp only
  rw [hvalue, hreason, hmore]
  rfl

end LoadSwarm.Yaml
