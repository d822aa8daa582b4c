/-
  What a record takes from a document.

  * `Document.member?`: the node under a key of a mapping; `Document.at?` follows several keys.
  * `d.Reads read n a`: the node `n` of `d` is read as `a`.
  * `Document.Entry`: a value that is read from a node, or a default where there is no node.
  * `Component`: a part of a record that one field sets and all others leave alone.
  * `Entry.component`: so the part of a record that was read is read from the node under its key,
    and is that of the record before where there is no such key.
  * `Parts`: parts with names of their own that leave each other alone; each is a component of the
    record with their fields (`Parts.component`), so all are read like that (`Entry.parts`).
-/
import LoadSwarm.Proofs.Config.Validation
import LoadSwarm.Yaml.Reader

namespace LoadSwarm.Yaml

variable {σ α β : Type} {i j : Nat}

/-! ## Readings that succeed -/

namespace Reading

theorem bind_eq_ok_iff {x : Reading α} {f : α → Reading β} {r : β × Nat} :
    (x >>= f) i = .ok r ↔ ∃ a k, x i = .ok (a, k) ∧ f a k = .ok r := by
  refine LoadSwarm.bind_eq_ok_iff.trans ⟨?_, ?_⟩
  · rintro ⟨⟨a, k⟩, ha, h⟩
    exact ⟨a, k, ha, h⟩
  · rintro ⟨a, k, ha, h⟩
    exact ⟨(a, k), ha, h⟩

theorem located_eq_ok {mark : Mark} {path : Path} {x : Reading α} {r : α × Nat}
    (h : located mark path x i = .ok r) : x i = .ok r := by
  unfold located at h
  split at h
  · cases h
  · exact h

end Reading

open Reading

/-! ## Nodes of a document -/

namespace Document

variable (d : Document)

/-- The node that an alias stands for; any other node stands for itself. -/
def resolve : Node → Node
  | .aliasTo _ anchor =>
    match d.anchored.reverse.find? (·.1 = anchor) with
    | some (_, node) => node
    | none => .cut
  | n => n

/-- The text of a key. -/
def keyText? (k : Node) : Option String :=
  match d.resolve k with
  | .scalar _ _ text _ => some text
  | _ => none

/-- The node under the first key with a name in a mapping. -/
def member? (name : String) (n : Node) : Option Node :=
  match d.resolve n with
  | .mapping _ _ members => ((Node.pairs members).find? (d.keyText? ·.1 = some name)).map Prod.snd
  | _ => none

/-- The node that keys lead to, one after the other. -/
def at? (keys : List String) : Option Node :=
  keys.foldl (fun n name => n.bind (d.member? name)) d.root

/-- A node is read as a value, at some place of the document. -/
def Reads (read : Place → Node → Reading α) (n : Node) (a : α) : Prop :=
  ∃ at_ i j, at_.document = d ∧ read at_ n i = .ok (a, j)

/-- A value is read from a node, or is the default if there is no node. -/
def Entry (n? : Option Node) (read : Place → Node → Reading α) (default a : α) : Prop :=
  match n? with
  | some n => d.Reads read n a
  | none => a = default

end Document

theorem wrongNode_ne_ok {at_ : Place} {expected : String} {n : Node} {r : α × Nat} :
    wrongNode at_ expected n i ≠ .ok r := by
  intro h
  cases n with
  | scalar mark tag text style =>
    obtain ⟨m, k, -, h⟩ := Reading.bind_eq_ok_iff.1 h
    cases h
  | _ => cases h

theorem follow_eq_ok {at_ : Place} {n m : Node} (h : follow at_ n i = .ok (m, j)) :
    m = at_.document.resolve n := by
  cases n with
  | aliasTo mark anchor =>
    unfold follow followOne at h
    unfold Document.resolve
    dsimp only at h ⊢
    split_ifs at h
    rcases hfind : at_.document.anchored.reverse.find? (·.1 = anchor) with _ | ⟨a, node⟩
    · rw [hfind] at h; cases h
    · rw [hfind] at h
      cases h
      simp only [hfind]
  | cut => cases h
  | _ => cases h; rfl

theorem readKey_eq_ok {expected name : String} {at_ : Place} {k : Node}
    (h : readWord expected .ok at_ k i = .ok (name, j)) : at_.document.keyText? k = some name := by
  obtain ⟨m, i', hm, h⟩ := Reading.bind_eq_ok_iff.1 h
  obtain rfl := follow_eq_ok hm
  have h := located_eq_ok h
  unfold Document.keyText?
  cases hnode : at_.document.resolve k with
  | scalar mark tag text style => rw [hnode] at h; cases h; rfl
  | _ => rw [hnode] at h; exact absurd h wrongNode_ne_ok

/-! ## Parts of a record -/

/-- A field does not touch a part of the record. -/
def RecordField.Keeps (f : RecordField σ) (get : σ → α) : Prop :=
  ∀ r at_ n i r' j, f.read r at_ n i = .ok (r', j) → get r' = get r

theorem RecordField.set_read {name : String} {read : Place → Node → Reading α} {set : σ → α → σ}
    {r r' : σ} {at_ : Place} {n : Node}
    (h : (RecordField.set name read set).read r at_ n i = .ok (r', j)) :
    ∃ a, r' = set r a ∧ read at_ n i = .ok (a, j) := by
  obtain ⟨a, k, ha, h⟩ := Reading.bind_eq_ok_iff.1 h
  cases h
  exact ⟨a, rfl, ha⟩

theorem RecordField.Keeps.set {name : String} {read : Place → Node → Reading α} {set : σ → α → σ}
    {get : σ → β} (h : ∀ r a, get (set r a) = get r) : (RecordField.set name read set).Keeps get := by
  intro r at_ n i r' j hread
  obtain ⟨a, rfl, -⟩ := RecordField.set_read hread
  exact h r a

/-- **A part of a record**: the field of its name sets it, and all others leave it alone. -/
structure Component (fields : List (RecordField σ)) (name : String)
    (read : Place → Node → Reading α) (get : σ → α) : Prop where
  own : ∃ set, fields.find? (·.name = name) = some (.set name read set) ∧ ∀ r a, get (set r a) = a
  others : fields.Forall fun f => f.name = name ∨ f.Keeps get

/-- What the first of some members comes to: it is set by the field of its name, or passed over. -/
theorem readMembers_cons {fields : List (RecordField σ)} {at_ : Place} {seen : List String} {r r' : σ}
    {k v : Node} {rest : List (Node × Node)}
    (h : readMembers fields at_ seen r ((k, v) :: rest) i = .ok (r', j)) :
    ∃ key i', at_.document.keyText? k = some key ∧
      ((∃ f r₁ i₁, fields.find? (·.name = key) = some f ∧ key ∉ seen ∧
          f.read r (at_.member k) v i' = .ok (r₁, i₁) ∧
          readMembers fields at_ (key :: seen) r₁ rest i₁ = .ok (r', j)) ∨
        (fields.find? (·.name = key) = none ∧
          ∃ i₁, readMembers fields at_ seen r rest i₁ = .ok (r', j))) := by
  obtain ⟨key, i', hkey, h⟩ := Reading.bind_eq_ok_iff.1 h
  refine ⟨key, i', readKey_eq_ok hkey, ?_⟩
  rcases hf : fields.find? (·.name = key) with _ | f
  · rw [hf] at h
    obtain ⟨-, i₁, -, h⟩ := Reading.bind_eq_ok_iff.1 h
    exact .inr ⟨hf, i₁, h⟩
  · rw [hf] at h
    dsimp only at h
    by_cases hseen : key ∈ seen
    · rw [if_pos hseen] at h; cases h
    · rw [if_neg hseen] at h
      obtain ⟨r₁, i₁, hread, h⟩ := Reading.bind_eq_ok_iff.1 h
      exact .inl ⟨f, r₁, i₁, hf, hseen, hread, h⟩

theorem enter_document {at_ inside : Place} {mark : Mark} (h : enter at_ mark i = .ok (inside, j)) :
    inside.document = at_.document := by
  unfold enter at h
  rcases hd : at_.depth with _ | d
  · rw [hd] at h; cases h
  · rw [hd] at h; cases h; rfl

namespace Component

variable {fields : List (RecordField σ)} {name : String} {read : Place → Node → Reading α}
  {get : σ → α}

theorem keeps_of_find (hc : Component fields name read get) {f : RecordField σ} {key : String}
    (hf : fields.find? (·.name = key) = some f) (hk : key ≠ name) {r r' : σ} {at_ : Place} {v : Node}
    (hread : f.read r at_ v i = .ok (r', j)) : get r' = get r := by
  have hname : f.name = key := by simpa using List.find?_some hf
  rcases List.forall_iff_forall_mem.1 hc.others f (List.mem_of_find?_eq_some hf) with h | h
  · exact absurd (hname.symm.trans h) hk
  · exact h _ _ _ _ _ _ hread

/-- **What members set a part of the record to**: the value under the first key of its name; a
    second one is refused. -/
theorem readMembers (hc : Component fields name read get) {at_ : Place} {members : List (Node × Node)}
    {seen : List String} {r r' : σ}
    (h : readMembers fields at_ seen r members i = .ok (r', j)) :
    (name ∈ seen → get r' = get r) ∧
      (name ∉ seen → at_.document.Entry
        ((members.find? (at_.document.keyText? ·.1 = some name)).map Prod.snd) read (get r)
        (get r')) := by
  obtain ⟨set, hown, hset⟩ := hc.own
  induction members generalizing seen r i with
  | nil => cases h; exact ⟨fun _ => rfl, fun _ => rfl⟩
  | cons kv rest ih =>
    obtain ⟨k, v⟩ := kv
    obtain ⟨key, i', hname, hmember⟩ := readMembers_cons h
    rw [List.find?_cons]
    rcases hmember with ⟨f, r₁, i₁, hf, hseen, hread, h⟩ | ⟨hf, i₁, h⟩
    · obtain ⟨hin, hout⟩ := ih h
      by_cases hk : key = name
      · -- the field of the part itself
        subst hk
        rw [hown] at hf
        cases hf
        obtain ⟨a, rfl, ha⟩ := RecordField.set_read hread
        have hlater : get r' = a := (hin List.mem_cons_self).trans (hset r a)
        simp only [hname, decide_true]
        refine ⟨fun h => absurd h hseen, fun _ => ⟨at_.member k, i', i₁, ?_, ?_⟩⟩
        · cases k <;> rfl
        · rw [hlater]; exact ha
      · have hkeep : get r₁ = get r := hc.keeps_of_find hf hk hread
        simp only [hname, Option.some.injEq, hk, decide_false]
        rw [← hkeep]
        refine ⟨fun hs => hin (List.mem_cons_of_mem key hs), fun hs => hout fun hs' => ?_⟩
        rcases List.mem_cons.1 hs' with rfl | hs'
        · exact hk rfl
        · exact hs hs'
    · have hk : key ≠ name := by
        rintro rfl
        rw [hown] at hf
        cases hf
      simp only [hname, Option.some.injEq, hk, decide_false]
      exact ih h

/-- **A part of a record that was read from a mapping.** -/
theorem readRecord (hc : Component fields name read get) {expected : String} {at_ : Place} {n : Node}
    {r r' : σ} (h : readRecord expected fields r at_ n i = .ok (r', j)) :
    at_.document.Entry (at_.document.member? name n) read (get r) (get r') := by
  obtain ⟨m, i', hm, h⟩ := Reading.bind_eq_ok_iff.1 h
  have h := located_eq_ok h
  unfold Document.member?
  rw [← follow_eq_ok hm]
  cases m with
  | mapping mark tag members =>
    obtain ⟨inside, k, hinside, h⟩ := Reading.bind_eq_ok_iff.1 h
    rw [← enter_document hinside]
    exact (hc.readMembers h).2 List.not_mem_nil
  | scalar mark tag text style =>
    dsimp only at h
    by_cases hempty : isEmptyPlain (.scalar mark tag text style) = true
    · rw [if_pos hempty] at h; cases h; rfl
    · rw [if_neg hempty] at h; exact absurd h wrongNode_ne_ok
  | _ => cases h

end Component

/-- A part of a record, and the field that sets it. -/
structure Part (σ : Type) where
  {α : Type}
  name : String
  read : Place → Node → Reading α
  set : σ → α → σ
  get : σ → α

/-- The field of a part. -/
def Part.field (p : Part σ) : RecordField σ := .set p.name p.read p.set

/-- Two parts leave each other alone. -/
def Part.Apart (p q : Part σ) : Prop :=
  (∀ r a, p.get (q.set r a) = p.get r) ∧ ∀ r a, q.get (p.set r a) = q.get r

instance : Std.Symm (@Part.Apart σ) := ⟨fun _ _ => And.symm⟩

/-- **The parts of a record** have names of their own, and leave each other alone.  A list that is
    written out shows this by itself. -/
structure Parts (parts : List (Part σ)) : Prop where
  distinct : (parts.map Part.name).Nodup := by decide
  own : parts.Forall fun p => ∀ r a, p.get (p.set r a) = a := by
    simp only [List.Forall, implies_true, and_self]
  apart : parts.Pairwise Part.Apart := by
    simp only [List.pairwise_cons, List.mem_cons, forall_eq_or_imp, List.not_mem_nil, Part.Apart,
      List.Pairwise.nil, false_implies, implies_true, and_self]

namespace Parts

variable {parts : List (Part σ)} {p : Part σ}

theorem find?_field (h : Parts parts) (hp : p ∈ parts) :
    (parts.map Part.field).find? (·.name = p.name) = some p.field := by
  have hnodup := h.distinct
  clear h
  induction parts with
  | nil => cases hp
  | cons q rest ih =>
    rw [List.map_cons, List.nodup_cons] at hnodup
    rw [List.map_cons]
    rcases List.mem_cons.1 hp with rfl | hp
    · exact List.find?_cons_of_pos (decide_eq_true rfl)
    · have hne : q.name ≠ p.name := fun hq => hnodup.1 (hq ▸ List.mem_map_of_mem hp)
      rw [List.find?_cons, decide_eq_false (show q.field.name ≠ p.name from hne)]
      exact ih hp hnodup.2

/-- **Each of them is a component** of the record. -/
theorem component (h : Parts parts) (hp : p ∈ parts) :
    Component (parts.map Part.field) p.name p.read p.get where
  own := ⟨p.set, h.find?_field hp, List.forall_iff_forall_mem.1 h.own p hp⟩
  others := by
    rw [List.forall_map_iff, List.forall_iff_forall_mem]
    intro q hq
    by_cases hname : q.name = p.name
    · exact .inl hname
    · have hne : p ≠ q := fun hpq => hname (congrArg Part.name hpq.symm)
      exact .inr (.set (h.apart.forall hp hq hne).1)

end Parts

namespace Document

variable {d : Document} {n? : Option Node} {read : Place → Node → Reading α}

/-- **A part of a record that was read** is read from the node under its key, and is that of the
    record before where there is no such key. -/
theorem Entry.component {fields : List (RecordField σ)} {expected name : String} {r r' : σ}
    (get : σ → α) (h : d.Entry n? (readRecord expected fields r) r r')
    (hc : Component fields name read get) :
    d.Entry (n?.bind (d.member? name)) read (get r) (get r') := by
  rcases n? with _ | n
  · exact congrArg get h
  · obtain ⟨at_, i, j, rfl, h⟩ := h
    exact hc.readRecord h

/-- **All parts of a record that was read** are read from the nodes under their names. -/
theorem Entry.parts {expected : String} {r r' : σ} (parts : List (Part σ))
    (h : d.Entry n? (readRecord expected (parts.map Part.field) r) r r') (hparts : Parts parts) :
    parts.Forall fun p => d.Entry (n?.bind (d.member? p.name)) p.read (p.get r) (p.get r') :=
  List.forall_iff_forall_mem.2 fun p hp => h.component p.get (hparts.component hp)

/-- **What a document is read as** is read from its root, or is `empty` without one. -/
theorem read_entry {empty a : α} (h : d.read read empty = .ok a) : d.Entry d.root read empty a := by
  unfold Document.read at h
  rcases hreason : d.reason with _ | e | e
  · rcases hroot : d.root with _ | root
    · rw [hroot, hreason] at h
      obtain ⟨b, hb, h⟩ := LoadSwarm.bind_eq_ok_iff.1 h
      cases hb
      dsimp only at h
      split_ifs at h
      cases h; rfl
    · rw [hroot, hreason] at h
      obtain ⟨b, hb, h⟩ := LoadSwarm.bind_eq_ok_iff.1 h
      dsimp only at h
      split_ifs at h
      cases h
      rcases hread : read { document := d } root 0 with e | ⟨c, k⟩
      · rw [hread] at hb; cases hb
      · rw [hread] at hb; cases hb
        exact ⟨{ document := d }, 0, k, rfl, hread⟩
  -- an error after the values is an error of the whole
  all_goals
    rw [hreason] at h
    rcases hroot : d.root with _ | root
    · rw [hroot] at h; cases h
    · rw [hroot] at h
      obtain ⟨b, -, h⟩ := LoadSwarm.bind_eq_ok_iff.1 h
      cases h

end Document

end LoadSwarm.Yaml
