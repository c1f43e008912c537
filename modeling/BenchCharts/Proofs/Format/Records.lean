import BenchCharts.Format.Decoding

/-!
What is known of a record that was read. Every field that was seen has changed the record, and no
required field was left out. Both hold in either layout of a record: named members come in any
order, while ordered items follow the order of the fields.
-/
namespace BenchCharts.Format

variable {ν σ : Type}

theorem missing?_eq_none_iff (fields : List (Field ν σ)) (seen : List String) :
    missing? fields seen = none ↔ ∀ f ∈ fields, f.required = true → f.name ∈ seen := by
  simp [missing?]

theorem Field.read_of {α : Type} {name : String} {read : ν → Decoded α} {set : σ → α → σ}
    {node : ν} {record result : σ} (h : (Field.of name read set).read node record = .ok result) :
    ∃ value, read node = .ok value ∧ set record value = result := by
  simp only [Field.of] at h
  cases hread : read node with
  | error e => simp [hread, Except.map] at h
  | ok value => exact ⟨value, rfl, by simpa [hread, Except.map] using h⟩

/-- A property of the names seen and of the record, which every field keeps when it is read. -/
def Kept (fields : List (Field ν σ)) (P : List String → σ → Prop) : Prop :=
  ∀ f ∈ fields, ∀ node seen record result,
    P seen record → f.read node record = .ok result → P (f.name :: seen) result

theorem readNamed_kept [Source ν] {fields : List (Field ν σ)} {P : List String → σ → Prop}
    (hkept : Kept fields P) {unknown : Unknown} {members : List (ν × ν)} {seen : List String}
    {record result : σ} (hstart : P seen record)
    (h : readNamed fields unknown seen record members = .ok result) :
    ∃ all, P all result ∧ missing? fields all = none := by
  induction members generalizing seen record with
  | nil =>
    unfold readNamed at h
    split at h
    · simp at h
    · next hmissing =>
      simp only [Except.ok.injEq] at h
      exact ⟨seen, h ▸ hstart, hmissing⟩
  | cons member rest ih =>
    obtain ⟨key, value⟩ := member
    unfold readNamed at h
    split at h
    · simp at h
    · next name hname =>
      split at h
      · -- A member that is no field leaves the record as it is.
        split at h
        · simp at h
        · split at h
          · simp at h
          · exact ih hstart h
      · next f hf =>
        have hmem : f ∈ fields := List.mem_of_find?_eq_some hf
        have hfname : f.name = name := by simpa using List.find?_some hf
        split at h
        · simp at h
        · split at h
          · simp at h
          · next changed hread =>
            exact ih (hfname ▸ hkept f hmem value seen record changed hstart hread) h

theorem readOrdered_kept {fields : List (Field ν σ)} {P : List String → σ → Prop}
    (hkept : Kept fields P) {items : List ν} {seen : List String} {record result : σ}
    (hstart : P seen record) (h : readOrdered record fields items = .ok result) :
    ∃ all, P all result ∧ seen ⊆ all ∧ missing? fields all = none := by
  induction fields generalizing items seen record with
  | nil =>
    simp only [readOrdered, Except.ok.injEq] at h
    exact ⟨seen, h ▸ hstart, List.Subset.refl seen, rfl⟩
  | cons f fields ih =>
    have hrest : Kept fields P := fun g hg => hkept g (List.mem_cons_of_mem f hg)
    cases items with
    | nil =>
      unfold readOrdered at h
      split at h
      · simp at h
      · next hoptional =>
        obtain ⟨all, hall, hsub, hmissing⟩ := ih hrest hstart h
        refine ⟨all, hall, hsub, ?_⟩
        rw [missing?_eq_none_iff] at hmissing ⊢
        intro g hg hrequired
        rcases List.mem_cons.mp hg with rfl | hg
        · exact absurd hrequired hoptional
        · exact hmissing g hg hrequired
    | cons item rest =>
      unfold readOrdered at h
      split at h
      · simp at h
      · next changed hread =>
        have hnext := hkept f List.mem_cons_self item seen record changed hstart hread
        obtain ⟨all, hall, hsub, hmissing⟩ := ih hrest hnext h
        refine ⟨all, hall, fun name hname => hsub (List.mem_cons_of_mem _ hname), ?_⟩
        rw [missing?_eq_none_iff] at hmissing ⊢
        intro g hg hrequired
        rcases List.mem_cons.mp hg with rfl | hg
        · exact hsub List.mem_cons_self
        · exact hmissing g hg hrequired

/-- What every field keeps holds of a record that was read, with all required fields seen. -/
theorem readRecord_kept [Source ν] {fields : List (Field ν σ)} {P : List String → σ → Prop}
    (hkept : Kept fields P) {unknown : Unknown} {start result : σ} {node : ν}
    (hstart : P [] start) (h : readRecord fields unknown start node = .ok result) :
    ∃ seen, P seen result ∧ ∀ f ∈ fields, f.required = true → f.name ∈ seen := by
  unfold readRecord at h
  split at h
  · simp at h
  · obtain ⟨seen, hseen, hmissing⟩ := readNamed_kept hkept hstart h
    exact ⟨seen, hseen, (missing?_eq_none_iff fields seen).mp hmissing⟩
  · obtain ⟨seen, hseen, -, hmissing⟩ := readOrdered_kept hkept hstart h
    exact ⟨seen, hseen, (missing?_eq_none_iff fields seen).mp hmissing⟩

/-- What holds of the members of a record that was read, if no unknown ones are passed over: each
was read as a field, and no required field is missing among them. -/
theorem readNamed_refuse [Source ν] {fields : List (Field ν σ)} {members : List (ν × ν)}
    {seen : List String} {record result : σ}
    (h : readNamed fields .refuse seen record members = .ok result) :
    (∀ member ∈ members, ∃ name f before after, Source.text member.1 = .ok name ∧
      fields.find? (fun g => g.name = name) = some f ∧ f.read member.2 before = .ok after) ∧
    ∀ f ∈ fields, f.required = true →
      f.name ∈ seen ∨ ∃ member ∈ members, Source.text member.1 = .ok f.name := by
  induction members generalizing seen record with
  | nil =>
    unfold readNamed at h
    split at h
    · simp at h
    · next hmissing =>
      refine ⟨by simp, fun f hf hrequired => Or.inl ?_⟩
      exact (missing?_eq_none_iff fields seen).mp hmissing f hf hrequired
  | cons member rest ih =>
    obtain ⟨key, value⟩ := member
    unfold readNamed at h
    split at h
    · simp at h
    · next name hname =>
      split at h
      · simp at h
      · next f hf =>
        split at h
        · simp at h
        · split at h
          · simp at h
          · next changed hread =>
            obtain ⟨hmembers, hrequired⟩ := ih h
            refine ⟨List.forall_mem_cons.mpr ⟨⟨name, f, _, _, hname, hf, hread⟩, hmembers⟩, ?_⟩
            intro g hg hneeded
            rcases hrequired g hg hneeded with hseen | ⟨member, hmember, hkey⟩
            · rcases List.mem_cons.mp hseen with heq | hseen
              · exact Or.inr ⟨(key, value), List.mem_cons_self, heq ▸ hname⟩
              · exact Or.inl hseen
            · exact Or.inr ⟨member, List.mem_cons_of_mem _ hmember, hkey⟩

end BenchCharts.Format
