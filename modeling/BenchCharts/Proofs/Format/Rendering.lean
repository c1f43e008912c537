import BenchCharts.Format.Value
import BenchCharts.Proofs.Decimal.Digits
import BenchCharts.Proofs.Format.Records
import BenchCharts.Proofs.SortedMap

/-!
Values that are read from the nodes they were written as. A rendering shows every value as a node
of some format, and the node is read as that value. Lists, maps and records are then read back as
soon as their parts are: a record that was written holds its fields in their order.
-/
namespace BenchCharts.Format

/-- The largest number of 64 bits, or one of at most 32 bits. -/
def IsBound (bound : Nat) : Prop := bound ≤ Decimal.maxHalfWord ∨ bound = Decimal.maxWord

theorem IsBound.le_maxWord {bound : Nat} (h : IsBound bound) : bound ≤ Decimal.maxWord := by
  rcases h with h | rfl
  · exact Nat.le_trans h (by decide)
  · exact Nat.le_refl _

/-- A way in which a format shows values as nodes. -/
structure Rendering (ν : Type) [Source ν] where
  node : Value → ν
  /-- The node of the name of a member. -/
  name : String → ν
  form : Decimal.NumberForm
  /-- Whole numbers up to this one are read exactly. -/
  largest : Nat
  text_name (s : String) : Source.text (name s) = .ok s
  text_node (s : String) : Source.text (node (.text s)) = .ok s
  choice_node (s : String) : Source.choice (node (.text s)) = .ok (s, .ok ())
  natural_node {n bound : Nat} : n ≤ bound → IsBound bound → n ≤ largest →
    Source.natural bound (node (.natural n)) = .ok n
  real_node {x : Float} : x.isFinite = true → form.Keeps x → Source.real (node (.real x)) = .ok x
  isNull_null : Source.isNull (node .null) = .ok true
  isNull_text (s : String) : Source.isNull (node (.text s)) = .ok false
  isNull_list (items : List Value) : Source.isNull (node (.list items)) = .ok false
  items_node (items : List Value) : Source.items (node (.list items)) = .ok (items.map node)
  members_node (members : List (String × Value)) : Source.members (node (.record members)) =
    .ok (.named (members.map fun (n, v) => (name n, node v)))

namespace Rendering

variable {ν σ α β : Type} [Source ν] (R : Rendering ν)

/-- The node of the value is read as `a`. -/
def Reads (read : ν → Decoded α) (v : Value) (a : α) : Prop := read (R.node v) = .ok a

variable {R}

theorem Reads.map {read : ν → Decoded α} {v : Value} {a : α} (h : R.Reads read v a) (f : α → β) :
    R.Reads (fun node => (read node).map f) v (f a) := by
  have hread : read (R.node v) = .ok a := h
  simp [Reads, hread, Except.map]

theorem reads_text (s : String) : R.Reads Source.text (.text s) s := R.text_node s

theorem reads_natural {n bound : Nat} (h : n ≤ bound) (hbound : IsBound bound)
    (hlargest : n ≤ R.largest) : R.Reads (Source.natural bound) (.natural n) n :=
  R.natural_node h hbound hlargest

theorem reads_real {x : Float} (hfinite : x.isFinite = true) (h : R.form.Keeps x) :
    R.Reads Source.real (.real x) x := R.real_node hfinite h

theorem reads_choice {choices : List (String × α)} {s : String} {a : α}
    (h : choices.lookup s = some a) : R.Reads (readChoice choices) (.text s) a := by
  simp [Reads, readChoice, R.choice_node, h, bind, Except.bind, Except.map]

theorem reads_meaning {parse? : String → Option α} {s : String} {a : α}
    (message : String → String) (h : parse? s = some a) :
    R.Reads (readMeaning parse? message) (.text s) a := by
  simp [Reads, readMeaning, R.text_node, h, bind, Except.bind, pure, Except.pure]

theorem reads_list {read : ν → Decoded α} {write : α → Value} {items : List α}
    (h : ∀ a ∈ items, R.Reads read (write a) a) :
    R.Reads (readList read) (.ofList write items) items := by
  have hmapM : ((items.map write).map R.node).mapM read = .ok items := by
    induction items with
    | nil => rfl
    | cons a rest ih =>
      rw [List.forall_mem_cons] at h
      have hhead : read (R.node (write a)) = .ok a := h.1
      rw [List.map_cons, List.map_cons, List.mapM_cons, hhead, ih h.2]
      rfl
  unfold Reads readList Value.ofList
  rw [R.items_node]
  exact hmapM

theorem reads_optional {read : ν → Decoded α} {write : α → Value} {o : Option α}
    (hthere : ∀ a ∈ o, Source.isNull (R.node (write a)) = .ok false)
    (h : ∀ a ∈ o, R.Reads read (write a) a) :
    R.Reads (readOptional read) (.ofOption write o) o := by
  unfold Reads readOptional
  cases o with
  | none =>
    simp only [Value.ofOption, R.isNull_null]
    rfl
  | some a =>
    have hread : read (R.node (write a)) = .ok a := h a rfl
    simp only [Value.ofOption, hthere a rfl, hread]
    rfl

theorem reads_pair {first : ν → Decoded α} {second : ν → Decoded β} {v w : Value} {a : α} {b : β}
    (ha : R.Reads first v a) (hb : R.Reads second w b) :
    R.Reads (readPair first second) (.list [v, w]) (a, b) := by
  have hfirst : first (R.node v) = .ok a := ha
  have hsecond : second (R.node w) = .ok b := hb
  simp [Reads, readPair, R.items_node, hfirst, hsecond, bind, Except.bind, pure, Except.pure]

theorem reads_map {read : ν → Decoded α} {write : α → Value} {m : SortedMap α}
    (hm : m.Ascending) (h : ∀ entry ∈ m.entries, R.Reads read (write entry.2) entry.2) :
    R.Reads (readMap read) (.record (m.entries.map fun (name, a) => (name, write a))) m := by
  have hentries : ∀ entries : List (String × α),
      (∀ entry ∈ entries, R.Reads read (write entry.2) entry.2) →
        readEntries read ((entries.map fun (name, a) => (name, write a)).map
          fun (n, v) => (R.name n, R.node v)) = .ok entries := by
    intro entries
    induction entries with
    | nil => exact fun _ => rfl
    | cons entry rest ih =>
      intro h
      rw [List.forall_mem_cons] at h
      have hhead : read (R.node (write entry.2)) = .ok entry.2 := h.1
      simp only [List.map_cons, readEntries, R.text_name, hhead, ih h.2]
      rfl
  unfold Reads readMap
  rw [R.members_node]
  simp only [bind, Except.bind, hentries m.entries h, SortedMap.ofList_entries hm]
  rfl

/-- The members are the fields in their order, and reading them leads from one record to
another. -/
inductive Fills (R : Rendering ν) : List (Field ν σ) → List (String × Value) → σ → σ → Prop
  | nil {record : σ} : Fills R [] [] record record
  | cons {f : Field ν σ} {fields : List (Field ν σ)} {v : Value}
      {members : List (String × Value)} {record changed result : σ}
      (h : f.read (R.node v) record = .ok changed) (rest : Fills R fields members changed result) :
      Fills R (f :: fields) ((f.name, v) :: members) record result

omit [Source ν] in
@[simp] theorem name_of (name : String) (read : ν → Decoded α) (set : σ → α → σ) :
    (Field.of name read set).name = name := rfl

omit [Source ν] in
@[simp] theorem name_optional (name : String) (read : ν → Decoded α) (set : σ → α → σ) :
    (Field.optional name read set).name = name := rfl

namespace Fills

variable {fields : List (Field ν σ)} {members : List (String × Value)} {record result : σ}

theorem of {name : String} {read : ν → Decoded α} {set : σ → α → σ} {v : Value} {a : α}
    (h : R.Reads read v a) (rest : R.Fills fields members (set record a) result) :
    R.Fills (Field.of name read set :: fields) ((name, v) :: members) record result :=
  .cons (f := Field.of name read set) (h.map (set record)) rest

theorem optional {name : String} {read : ν → Decoded α} {set : σ → α → σ} {v : Value} {a : α}
    (h : R.Reads read v a) (rest : R.Fills fields members (set record a) result) :
    R.Fills (Field.optional name read set :: fields) ((name, v) :: members) record result :=
  .cons (f := Field.optional name read set) (h.map (set record)) rest

end Fills

/-- The members that are not removed fill their fields. -/
def FillsWithout (R : Rendering ν) (removed : List String) (fields : List (Field ν σ))
    (members : List (String × Value)) (record result : σ) : Prop :=
  R.Fills (fields.filter (·.name ∉ removed)) (members.filter (·.1 ∉ removed)) record result

namespace FillsWithout

variable {removed : List String} {fields : List (Field ν σ)} {members : List (String × Value)}
  {record result : σ}

theorem nil : R.FillsWithout removed [] [] record record := Fills.nil

/-- A field that is left out keeps the value that it has. -/
theorem optional {name : String} {read : ν → Decoded α} {set : σ → α → σ} {v : Value} {a kept : α}
    (h : R.Reads read v a) (hkept : set record kept = record)
    (rest : R.FillsWithout removed fields members (set record (if name ∈ removed then kept else a))
      result) :
    R.FillsWithout removed (Field.optional name read set :: fields) ((name, v) :: members) record
      result := by
  unfold FillsWithout at rest ⊢
  by_cases hremoved : name ∈ removed
  · rw [if_pos hremoved, hkept] at rest
    rwa [List.filter_cons_of_neg (by simp [hremoved]), List.filter_cons_of_neg (by simp [hremoved])]
  · rw [if_neg hremoved] at rest
    rw [List.filter_cons_of_pos (by simp [hremoved]), List.filter_cons_of_pos (by simp [hremoved])]
    exact .optional h rest

end FillsWithout

omit [Source ν] in
theorem find?_field {fields : List (Field ν σ)} (hnames : (fields.map (·.name)).Nodup)
    {f : Field ν σ} (hf : f ∈ fields) : fields.find? (fun g => g.name = f.name) = some f := by
  induction fields with
  | nil => contradiction
  | cons g rest ih =>
    rw [List.map_cons, List.nodup_cons] at hnames
    rcases List.mem_cons.mp hf with rfl | hrest
    · simp
    · have hne : g.name ≠ f.name := fun heq => hnames.1 (heq ▸ List.mem_map_of_mem hrest)
      rw [List.find?_cons_of_neg (by simpa using hne)]
      exact ih hnames.2 hrest

/-- The members of some fields of a record are read one after the other if none was seen before, and
the record is complete if every required field is there. -/
theorem readNamed_of_fills {all fields : List (Field ν σ)} {members : List (String × Value)}
    {record result : σ} {seen : List String} (unknown : Unknown)
    (hall : (all.map (·.name)).Nodup) (hnames : (fields.map (·.name)).Nodup)
    (hfields : ∀ f ∈ fields, f ∈ all) (hnew : ∀ f ∈ fields, f.name ∉ seen)
    (hcomplete : ∀ f ∈ all, f.required = true → f.name ∈ seen ∨ f ∈ fields)
    (h : R.Fills fields members record result) :
    readNamed all unknown seen record (members.map fun (n, v) => (R.name n, R.node v)) =
      .ok result := by
  induction h generalizing seen with
  | nil =>
    have hmissing : missing? all seen = none := by
      rw [missing?_eq_none_iff]
      intro f hf hrequired
      exact (hcomplete f hf hrequired).resolve_right (by simp)
    simp only [List.map_nil, readNamed, hmissing]
  | @cons f fields v members record changed result hread _ ih =>
    rw [List.map_cons, List.nodup_cons] at hnames
    rw [List.forall_mem_cons] at hfields hnew
    have hfind := find?_field hall hfields.1
    have hcontains : seen.contains f.name = false := by simpa using hnew.1
    simp only [List.map_cons, readNamed, R.text_name, hfind, hcontains, hread]
    refine ih hnames.2 hfields.2 ?_ ?_
    · intro g hg hseen
      rcases List.mem_cons.mp hseen with heq | hseen
      · exact hnames.1 (heq ▸ List.mem_map_of_mem hg)
      · exact hnew.2 g hg hseen
    · intro g hg hrequired
      rcases hcomplete g hg hrequired with hseen | hmem
      · exact Or.inl (List.mem_cons_of_mem _ hseen)
      · rcases List.mem_cons.mp hmem with rfl | hrest
        · exact Or.inl List.mem_cons_self
        · exact Or.inr hrest

/-- A record is read from the members of some of its fields, as long as no required field is left
out. -/
theorem reads_record_of_sublist {all fields : List (Field ν σ)} {members : List (String × Value)}
    {start result : σ} {unknown : Unknown} (hall : (all.map (·.name)).Nodup)
    (hfields : fields.Sublist all) (hcomplete : ∀ f ∈ all, f.required = true → f ∈ fields)
    (h : R.Fills fields members start result) :
    R.Reads (readRecord all unknown start) (.record members) result := by
  unfold Reads readRecord
  rw [R.members_node]
  exact readNamed_of_fills unknown hall (hall.sublist (hfields.map _))
    (fun f hf => hfields.subset hf) (by simp)
    (fun f hf hrequired => Or.inr (hcomplete f hf hrequired)) h

theorem reads_record {fields : List (Field ν σ)} {members : List (String × Value)}
    {start result : σ} {unknown : Unknown} (hnames : (fields.map (·.name)).Nodup)
    (h : R.Fills fields members start result) :
    R.Reads (readRecord fields unknown start) (.record members) result :=
  reads_record_of_sublist hnames (List.Sublist.refl _) (fun _ hf _ => hf) h

end Rendering

end BenchCharts.Format
