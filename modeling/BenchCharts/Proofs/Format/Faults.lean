import BenchCharts.Proofs.Format.Rendering
import BenchCharts.Proofs.Traversal

/-!
Values with a fault in them. A shape says which members the records of a value have, at every depth,
and a fault is a member that is no field, a required field that is missing, or a range that is
upside down. A reader guards a shape if it refuses every value of that shape with a fault in it;
readers of lists, maps and records do so as soon as the readers of their parts do.
-/
namespace BenchCharts.Format

/-- What a value is made of. A field of a record has a name, and may be one that must be there. -/
inductive Shape
  | scalar
  | list (item : Shape)
  /-- A list that may be left empty by a null. -/
  | listOrNull (item : Shape)
  /-- A record with any names. -/
  | map (entry : Shape)
  | record (fields : List (String × Bool × Shape))
  /-- A record of two bounds in their order. -/
  | bounds

namespace Shape

def required (name : String) (shape : Shape) : String × Bool × Shape := (name, true, shape)

/-- A field with a value of its own where it is left out. -/
def defaulted (name : String) (shape : Shape) : String × Bool × Shape := (name, false, shape)

/-- The fields of a pair of bounds. -/
def boundsFields : List (String × Bool × Shape) := [required "min" scalar, required "max" scalar]

end Shape

/-- The value has a shape, with all fields in every record. -/
inductive Shaped : Shape → Value → Prop
  | null : Shaped .scalar .null
  | natural (n : Nat) : Shaped .scalar (.natural n)
  | real (x : Float) : Shaped .scalar (.real x)
  | text (s : String) : Shaped .scalar (.text s)
  | list {item : Shape} {items : List Value} (h : ∀ v ∈ items, Shaped item v) :
      Shaped (.list item) (.list items)
  | nothing {item : Shape} : Shaped (.listOrNull item) .null
  | something {item : Shape} {v : Value} (h : Shaped (.list item) v) : Shaped (.listOrNull item) v
  | map {entry : Shape} {members : List (String × Value)} (h : ∀ m ∈ members, Shaped entry m.2) :
      Shaped (.map entry) (.record members)
  | complete : Shaped (.record []) (.record [])
  | field {name : String} {required : Bool} {shape : Shape} {v : Value}
      {fields : List (String × Bool × Shape)} {members : List (String × Value)}
      (h : Shaped shape v) (rest : Shaped (.record fields) (.record members)) :
      Shaped (.record ((name, required, shape) :: fields)) (.record ((name, v) :: members))
  | bounds {v : Value} (h : Shaped (.record Shape.boundsFields) v) : Shaped .bounds v

/-- The second value is the first one with a fault somewhere in it. -/
inductive Fault : Shape → Value → Value → Prop
  | unknown {fields : List (String × Bool × Shape)} {before after : List (String × Value)}
      {name : String} (hname : name ∉ fields.map (·.1)) (v : Value) :
      Fault (.record fields) (.record (before ++ after)) (.record (before ++ (name, v) :: after))
  | missing {fields : List (String × Bool × Shape)} {members : List (String × Value)}
      {name : String} {shape : Shape} (hfield : (name, true, shape) ∈ fields) :
      Fault (.record fields) (.record members) (.record (members.filter (·.1 ≠ name)))
  | upsideDown {min max : Nat} (v : Value) (hbounds : max < min)
      (hmin : min ≤ Decimal.maxHalfWord) :
      Fault .bounds v (.record [("min", .natural min), ("max", .natural max)])
  | inField {fields : List (String × Bool × Shape)} {before after : List (String × Value)}
      {name : String} {required : Bool} {shape : Shape} {v v' : Value}
      (hfield : (name, required, shape) ∈ fields) (h : Fault shape v v') :
      Fault (.record fields) (.record (before ++ (name, v) :: after))
        (.record (before ++ (name, v') :: after))
  | inItem {item : Shape} {before after : List Value} {v v' : Value} (h : Fault item v v') :
      Fault (.list item) (.list (before ++ v :: after)) (.list (before ++ v' :: after))
  | inEntry {entry : Shape} {before after : List (String × Value)} {name : String} {v v' : Value}
      (h : Fault entry v v') :
      Fault (.map entry) (.record (before ++ (name, v) :: after))
        (.record (before ++ (name, v') :: after))
  | inSomething {item : Shape} {v v' : Value} (h : Fault (.list item) v v') :
      Fault (.listOrNull item) v v'
  | inBounds {v v' : Value} (h : Fault (.record Shape.boundsFields) v v') : Fault .bounds v v'

/-- A record without the members of some names. -/
def Value.without (v : Value) (removed : List String) : Value :=
  match v with
  | .record members => .record (members.filter (·.1 ∉ removed))
  | v => v

namespace Rendering

variable {ν σ α β : Type} [Source ν] {R : Rendering ν}

def Refuses (R : Rendering ν) (read : ν → Decoded α) (v : Value) : Prop :=
  ∃ e, read (R.node v) = .error e

/-- Every value of the shape with a fault in it is refused. -/
def Guards (R : Rendering ν) (read : ν → Decoded α) (shape : Shape) : Prop :=
  ∀ v v', Fault shape v v' → R.Refuses read v'

theorem refuses_iff {read : ν → Decoded α} {v : Value} :
    R.Refuses read v ↔ ∀ a, read (R.node v) ≠ .ok a := by
  unfold Refuses
  cases read (R.node v) <;> simp

theorem guards_scalar (read : ν → Decoded α) : R.Guards read .scalar := fun _ _ h => nomatch h

theorem guards_list {read : ν → Decoded α} {item : Shape} (h : R.Guards read item) :
    R.Guards (readList read) (.list item) := by
  intro _ _ hfault
  cases hfault with
  | @inItem _ before after v v' hfault =>
    obtain ⟨e, he⟩ := h v v' hfault
    rw [refuses_iff]
    intro results hresults
    unfold readList at hresults
    rw [R.items_node] at hresults
    obtain ⟨a, ha⟩ := (exists_mapM_eq_ok_iff _).mp ⟨results, hresults⟩ (R.node v') (by simp)
    rw [he] at ha
    contradiction

theorem guards_optional {read : ν → Decoded α} {item : Shape} (h : R.Guards read item) :
    R.Guards (readOptional (readList read)) (.listOrNull item) := by
  intro v v' hfault
  cases hfault with
  | inSomething hfault =>
    obtain ⟨e, he⟩ := guards_list h v v' hfault
    cases hfault with
    | inItem _ =>
      refine ⟨e, ?_⟩
      unfold readOptional
      rw [R.isNull_list, he]
      rfl

theorem exists_readEntries {read : ν → Decoded α} {members : List (ν × ν)}
    {entries : List (String × α)} (h : readEntries read members = .ok entries) :
    ∀ member ∈ members, ∃ a, read member.2 = .ok a := by
  induction members generalizing entries with
  | nil => simp
  | cons member rest ih =>
    simp only [readEntries, bind_eq_ok_iff] at h
    obtain ⟨name, -, a, ha, more, hmore, -⟩ := h
    exact List.forall_mem_cons.mpr ⟨⟨a, ha⟩, ih hmore⟩

theorem guards_map {read : ν → Decoded α} {entry : Shape} (h : R.Guards read entry) :
    R.Guards (readMap read) (.map entry) := by
  intro _ _ hfault
  cases hfault with
  | @inEntry _ before after name v v' hfault =>
    obtain ⟨e, he⟩ := h v v' hfault
    rw [refuses_iff]
    intro m hm
    unfold readMap at hm
    rw [R.members_node] at hm
    simp only [bind_eq_ok_iff, Except.ok.injEq, exists_eq_left'] at hm
    obtain ⟨entries, hentries, -⟩ := hm
    obtain ⟨a, ha⟩ := exists_readEntries hentries (R.name name, R.node v') (by simp)
    rw [he] at ha
    contradiction

/-- The field of a reader is the one of a shape, and guards it. -/
structure GuardsField (R : Rendering ν) (f : Field ν σ) (entry : String × Bool × Shape) : Prop where
  name_eq : f.name = entry.1
  required_eq : f.required = entry.2.1
  refuses : ∀ v v', Fault entry.2.2 v v' → ∀ record, ∃ e, f.read (R.node v') record = .error e

theorem Guards.required {read : ν → Decoded α} {shape : Shape} (h : R.Guards read shape)
    (name : String) (set : σ → α → σ) :
    R.GuardsField (Field.of name read set) (Shape.required name shape) := by
  refine ⟨rfl, rfl, fun v v' hfault record => ?_⟩
  obtain ⟨e, he⟩ := h v v' hfault
  exact ⟨e, by simp [Field.of, he, Except.map]⟩

theorem Guards.defaulted {read : ν → Decoded α} {shape : Shape} (h : R.Guards read shape)
    (name : String) (set : σ → α → σ) :
    R.GuardsField (Field.optional name read set) (Shape.defaulted name shape) :=
  ⟨rfl, rfl, (h.required name set).refuses⟩

/-- A record that was read has no other members than fields, and all required ones. -/
theorem readRecord_refuse {fields : List (Field ν σ)} {members : List (String × Value)}
    {start result : σ}
    (h : readRecord fields .refuse start (R.node (.record members)) = .ok result) :
    (∀ m ∈ members, ∃ f before after, fields.find? (fun g => g.name = m.1) = some f ∧
      f.read (R.node m.2) before = .ok after) ∧
    ∀ f ∈ fields, f.required = true → ∃ m ∈ members, m.1 = f.name := by
  unfold readRecord at h
  rw [R.members_node] at h
  obtain ⟨hmembers, hrequired⟩ := readNamed_refuse h
  constructor
  · intro m hm
    obtain ⟨name, f, before, after, hname, hf, hread⟩ :=
      hmembers (R.name m.1, R.node m.2) (List.mem_map_of_mem hm)
    obtain rfl := Except.ok.inj ((R.text_name m.1).symm.trans hname)
    exact ⟨f, before, after, hf, hread⟩
  · intro f hf hneeded
    obtain ⟨node, hnode, hname⟩ := (hrequired f hf hneeded).resolve_left (by simp)
    obtain ⟨m, hm, rfl⟩ := List.mem_map.mp hnode
    exact ⟨m, hm, Except.ok.inj ((R.text_name m.1).symm.trans hname)⟩

theorem guards_record {fields : List (Field ν σ)} {entries : List (String × Bool × Shape)}
    {start : σ} (hnames : (fields.map (·.name)).Nodup)
    (h : List.Forall₂ R.GuardsField fields entries) :
    R.Guards (readRecord fields .refuse start) (.record entries) := by
  have hfield : ∀ entry ∈ entries, ∃ f ∈ fields, R.GuardsField f entry := fun _ hentry =>
    exists_of_forall₂ h.flip hentry
  intro v v' hfault
  rw [refuses_iff]
  intro result hread
  cases hfault with
  | @unknown _ before after name hname v =>
    obtain ⟨f, -, -, hf, -⟩ := (readRecord_refuse hread).1 (name, v) (by simp)
    obtain ⟨entry, hentry, hguards⟩ := exists_of_forall₂ h (List.mem_of_find?_eq_some hf)
    have hfname : f.name = name := by simpa using List.find?_some hf
    exact hname (List.mem_map.mpr ⟨entry, hentry, hguards.name_eq.symm.trans hfname⟩)
  | @missing _ members name shape hentry =>
    obtain ⟨f, hf, hguards⟩ := hfield _ hentry
    obtain ⟨m, hm, hname⟩ := (readRecord_refuse hread).2 f hf hguards.required_eq
    have hne : m.1 ≠ name := by simpa using (List.mem_filter.mp hm).2
    exact hne (hname.trans hguards.name_eq)
  | @inField _ before after name required shape v v' hentry hfault =>
    obtain ⟨f, hf, hguards⟩ := hfield _ hentry
    obtain ⟨g, record, changed, hg, hchanged⟩ := (readRecord_refuse hread).1 (name, v') (by simp)
    obtain rfl : f = g := Option.some.inj
      ((find?_field hnames hf).symm.trans (hguards.name_eq ▸ hg))
    obtain ⟨e, he⟩ := hguards.refuses v v' hfault record
    rw [he] at hchanged
    contradiction

end Rendering

end BenchCharts.Format
