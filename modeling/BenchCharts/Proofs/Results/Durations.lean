import BenchCharts.Series.Recovery
import BenchCharts.Proofs.Csv
import BenchCharts.Proofs.Decimal.Words
import BenchCharts.Proofs.Traversal

/-!
The durations of a recovery read from a file. Every record has to give a duration, known phase or
not, and the last record of a phase decides. So the lines of a file may come in any order and in any
spelling, with lines of other labels between them.
-/
namespace BenchCharts.Results

namespace PhaseDeltas

theorem ext_get? {d e : PhaseDeltas} (h : ∀ p, d.get? p = e.get? p) : d = e := by
  obtain ⟨getPeer, connect, recover, syncPeers, endRecover⟩ := d
  exact (mk.injEq ..).mpr ⟨h .getPeer, h .connect, h .recover, h .syncPeers, h .endRecover⟩

theorem get?_empty (p : RawPhase) : empty.get? p = none := by cases p <;> rfl

/-- Durations taken one after another. -/
def setAll (d : PhaseDeltas) (entries : List (RawPhase × Nat)) : PhaseDeltas :=
  entries.foldl (fun d entry => d.set entry.1 entry.2) d

/-- The phases that have a duration. -/
def entries (d : PhaseDeltas) : List (RawPhase × Nat) :=
  RawPhase.all.filterMap fun p => (d.get? p).map fun n => (p, n)

theorem get?_setAll_eq_some_iff (d : PhaseDeltas) (entries : List (RawPhase × Nat)) (p : RawPhase)
    (n : Nat) : (d.setAll entries).get? p = some n ↔
      (∃ before after, entries = before ++ (p, n) :: after ∧ ∀ entry ∈ after, entry.1 ≠ p) ∨
      d.get? p = some n ∧ ∀ entry ∈ entries, entry.1 ≠ p := by
  induction entries generalizing d with
  | nil => simp [setAll]
  | cons entry rest ih =>
    obtain ⟨q, m⟩ := entry
    have hset : (d.setAll ((q, m) :: rest)).get? p = ((d.set q m).setAll rest).get? p := rfl
    rw [hset, ih, get?_set, List.forall_mem_cons]
    constructor
    · rintro (⟨before, after, rfl, hafter⟩ | ⟨hget, hrest⟩)
      · exact .inl ⟨(q, m) :: before, after, rfl, hafter⟩
      · split at hget
        · next heq =>
          obtain rfl := Option.some.inj hget
          exact .inl ⟨[], rest, by rw [heq]; rfl, hrest⟩
        · next hne => exact .inr ⟨hget, fun heq => hne heq.symm, hrest⟩
    · rintro (⟨before, after, heq, hafter⟩ | ⟨hget, hne, hrest⟩)
      · rcases before with _ | ⟨first, before⟩
        · obtain ⟨⟨rfl, rfl⟩, rfl⟩ : (q = p ∧ m = n) ∧ rest = after := by simpa using heq
          exact .inr ⟨by simp, hafter⟩
        · exact .inl ⟨before, after, (List.cons.inj heq).2, hafter⟩
      · exact .inr ⟨by rw [if_neg (Ne.symm hne), hget], hrest⟩

theorem get?_setAll_eq_none_iff (d : PhaseDeltas) (entries : List (RawPhase × Nat)) (p : RawPhase) :
    (d.setAll entries).get? p = none ↔ d.get? p = none ∧ ∀ entry ∈ entries, entry.1 ≠ p := by
  induction entries generalizing d with
  | nil => simp [setAll]
  | cons entry rest ih =>
    have hset : (d.setAll (entry :: rest)).get? p = ((d.set entry.1 entry.2).setAll rest).get? p :=
      rfl
    rw [hset, ih, get?_set, List.forall_mem_cons]
    by_cases heq : p = entry.1
    · simp [heq]
    · simp [heq, Ne.symm heq]

theorem mem_entries {d : PhaseDeltas} {p : RawPhase} {n : Nat} :
    (p, n) ∈ d.entries ↔ d.get? p = some n := by
  have hall : p ∈ RawPhase.all := by cases p <;> decide
  simp [entries, hall]

theorem nodup_entries (d : PhaseDeltas) : (d.entries.map Prod.fst).Nodup := by
  have hkeys : d.entries.map Prod.fst = RawPhase.all.filter fun p => (d.get? p).isSome := by
    rw [entries, List.map_filterMap, ← List.filterMap_eq_filter]
    refine List.filterMap_congr fun p _ => ?_
    cases hget : d.get? p <;> simp [Option.guard, hget]
  rw [hkeys]
  exact (by decide : RawPhase.all.Nodup).sublist List.filter_sublist

/-- Durations of different phases are kept, whatever their order. -/
theorem setAll_perm {d : PhaseDeltas} {given : List (RawPhase × Nat)} (h : given.Perm d.entries) :
    empty.setAll given = d := by
  refine ext_get? fun p => Option.ext fun n => ?_
  rw [get?_setAll_eq_some_iff, ← mem_entries (d := d), ← h.mem_iff]
  constructor
  · rintro (⟨before, after, rfl, -⟩ | ⟨hempty, -⟩)
    · simp
    · simp [get?_empty] at hempty
  · intro hmem
    obtain ⟨before, after, rfl⟩ := List.append_of_mem hmem
    have hnodup := (h.map Prod.fst).nodup_iff.mpr (nodup_entries d)
    refine .inl ⟨before, after, rfl, fun entry hentry heq => ?_⟩
    simp only [List.map_append, List.map_cons] at hnodup
    have hnew := (List.nodup_cons.mp (List.nodup_append.mp hnodup).2.1).1
    exact hnew (List.mem_map.mpr ⟨entry, hentry, heq⟩)

end PhaseDeltas

/-! ## Records of a phase -/

/-- A label names a phase: trimmed, put in lower case, and its blanks turned into underscores. -/
def RawPhase.IsNamed (p : RawPhase) (label : List Char) : Prop :=
  (((Text.trim label).map Char.toLower).map fun c => if c = ' ' then '_' else c) = p.name.toList

instance (p : RawPhase) (label : List Char) : Decidable (p.IsNamed label) :=
  inferInstanceAs (Decidable (_ = _))

theorem RawPhase.ofLabel?_eq_some_iff (label : List Char) (p : RawPhase) :
    ofLabel? label = some p ↔ p.IsNamed label := by
  have hname : p.IsNamed label ↔ p.name = normalize label := by
    rw [IsNamed, normalize, List.map_map, eq_comm, ← String.toList_inj, String.toList_ofList]
    rfl
  rw [hname, ofLabel?]
  constructor
  · intro hfind
    simpa using List.find?_some hfind
  · intro heq
    have hfind : all.find? (fun q => q.name = p.name) = some p := by cases p <;> decide
    rwa [heq] at hfind

/-- The first cell of a record names a phase. -/
def Names (record : Csv.Record) (p : RawPhase) : Prop :=
  ∃ label, record.head? = some label ∧ p.IsNamed label

/-- The second cell of a record is a whole number of 64 bits. -/
def HasDuration (record : Csv.Record) (n : Nat) : Prop :=
  ∃ cell, record[1]? = some cell ∧ Decimal.IsWord cell n

theorem phase_eq_some_iff (record : Csv.Record) (p : RawPhase) :
    record.head?.bind RawPhase.ofLabel? = some p ↔ Names record p := by
  simp [Names, Option.bind_eq_some_iff, RawPhase.ofLabel?_eq_some_iff]

theorem readDuration_eq_ok_iff (record : Csv.Record) (n : Nat) :
    PhaseDeltas.readDuration record = .ok n ↔ HasDuration record n := by
  unfold PhaseDeltas.readDuration HasDuration
  cases record[1]? with
  | none => simp
  | some cell =>
    simp only [Option.some.injEq, exists_eq_left', ← Decimal.readNatural_eq_ok_iff]
    cases Decimal.readNatural 10 Decimal.maxWord cell <;> simp

/-- What a record with a duration says, if it names a phase. -/
def entryOf (record : Csv.Record) : Option (RawPhase × Nat) :=
  (record.head?.bind RawPhase.ofLabel?).bind fun p =>
    (PhaseDeltas.readDuration record).toOption.map fun n => (p, n)

theorem entryOf_eq_some_iff (record : Csv.Record) (p : RawPhase) (n : Nat) :
    entryOf record = some (p, n) ↔ Names record p ∧ HasDuration record n := by
  rw [← phase_eq_some_iff, ← readDuration_eq_ok_iff]
  simp [entryOf, Option.bind_eq_some_iff, toOption_eq_some_iff]

namespace PhaseDeltas

/-- Records are taken one after another as long as they have durations. -/
theorem addRecords_eq {records : List Csv.Record}
    (h : ∀ record ∈ records, ∃ n, HasDuration record n)
    (d : PhaseDeltas) (row : Nat) :
    addRecords d row records = .ok (d.setAll (records.filterMap entryOf)) := by
  induction records generalizing d row with
  | nil => rfl
  | cons record rest ih =>
    obtain ⟨⟨n, hn⟩, hrest⟩ := List.forall_mem_cons.mp h
    have hread := (readDuration_eq_ok_iff record n).mpr hn
    cases hphase : record.head?.bind RawPhase.ofLabel? with
    | none =>
      have hentry : entryOf record = none := by simp [entryOf, hphase]
      simp [addRecords, hread, hphase, ih hrest, hentry]
    | some p =>
      have hnames := (phase_eq_some_iff record p).mp hphase
      have hentry := (entryOf_eq_some_iff record p n).mpr ⟨hnames, hn⟩
      simp [addRecords, hread, hphase, ih hrest, hentry, setAll]

theorem hasDuration_of_addRecords {records : List Csv.Record} {d e : PhaseDeltas} {row : Nat}
    (h : addRecords d row records = .ok e) : ∀ record ∈ records, ∃ n, HasDuration record n := by
  induction records generalizing d row with
  | nil => simp
  | cons record rest ih =>
    unfold addRecords at h
    split at h
    · simp at h
    · next n hread =>
      have hn := (readDuration_eq_ok_iff record n).mp hread
      refine List.forall_mem_cons.mpr ⟨⟨n, hn⟩, ?_⟩
      split at h <;> exact ih h

theorem parse_eq {text : String} {d : PhaseDeltas} (h : parse text = .ok d) :
    (∀ record ∈ Csv.records text, ∃ n, HasDuration record n) ∧
      d = empty.setAll ((Csv.records text).filterMap entryOf) := by
  have hdurations := hasDuration_of_addRecords h
  exact ⟨hdurations, Except.ok.inj (h.symm.trans (addRecords_eq hdurations empty 1))⟩

end PhaseDeltas

theorem entryOf_ne {records : List Csv.Record} (h : ∀ record ∈ records, ∃ n, HasDuration record n)
    (p : RawPhase) : (∀ entry ∈ records.filterMap entryOf, entry.1 ≠ p) ↔
      ∀ record ∈ records, ¬Names record p := by
  constructor
  · intro hne record hrecord hnames
    obtain ⟨n, hn⟩ := h record hrecord
    have hentry := (entryOf_eq_some_iff record p n).mpr ⟨hnames, hn⟩
    exact hne (p, n) (List.mem_filterMap.mpr ⟨record, hrecord, hentry⟩) rfl
  · rintro hnames ⟨q, n⟩ hentry rfl
    obtain ⟨record, hrecord, hread⟩ := List.mem_filterMap.mp hentry
    exact hnames record hrecord ((entryOf_eq_some_iff record q n).mp hread).1

/-- Some record is the last that names the phase, and has this duration. -/
def LastNaming (records : List Csv.Record) (p : RawPhase) (n : Nat) : Prop :=
  ∃ before record after, records = before ++ record :: after ∧ Names record p ∧
    HasDuration record n ∧ ∀ later ∈ after, ¬Names later p

theorem lastNaming_iff {records : List Csv.Record}
    (h : ∀ record ∈ records, ∃ n, HasDuration record n) (p : RawPhase) (n : Nat) :
    (∃ before after, records.filterMap entryOf = before ++ (p, n) :: after ∧
      ∀ entry ∈ after, entry.1 ≠ p) ↔ LastNaming records p n := by
  constructor
  · rintro ⟨before, after, hsplit, hafter⟩
    obtain ⟨left, right, rfl, -, hright⟩ := List.filterMap_eq_append_iff.mp hsplit
    obtain ⟨skipped, record, rest, rfl, -, hentry, rfl⟩ := List.filterMap_eq_cons_iff.mp hright
    obtain ⟨hnames, hn⟩ := (entryOf_eq_some_iff record p n).mp hentry
    refine ⟨left ++ skipped, record, rest, by simp, hnames, hn, ?_⟩
    exact (entryOf_ne (fun later hlater => h later (by simp [hlater])) p).mp hafter
  · rintro ⟨before, record, after, rfl, hnames, hn, hafter⟩
    have hentry := (entryOf_eq_some_iff record p n).mpr ⟨hnames, hn⟩
    refine ⟨before.filterMap entryOf, after.filterMap entryOf, ?_, ?_⟩
    · rw [List.filterMap_append, List.filterMap_cons_some hentry]
    · exact (entryOf_ne (fun later hlater => h later (by simp [hlater])) p).mpr hafter

/-! ## Written lines -/

/-- How a character of a name may be written. -/
def IsLetter (c s : Char) : Prop := s = c ∨ s = c.toUpper ∨ c = '_' ∧ s = ' '

/-- A label in letters of either case, with underscores or blanks between its words. -/
def RawPhase.IsSpelled (p : RawPhase) (label : List Char) : Prop :=
  List.Forall₂ IsLetter p.name.toList label

def IsPad (pad : List Char) : Prop := ∀ c ∈ pad, Text.isBlank c = true ∧ Csv.State.isBreak c = false

/-- A line with the label and the duration of a phase, perhaps with blanks around them. -/
inductive PhaseLine (p : RawPhase) (n : Nat) : List Char → Prop
  | padded {before label between next number after : List Char} :
      IsPad before → p.IsSpelled label → IsPad between → IsPad next → Decimal.IsWord number n →
        IsPad after →
        PhaseLine p n ((before ++ label ++ between) ++ ',' :: (next ++ number ++ after))

/-- A line with a duration whose label names no phase. -/
inductive UnknownLine : List Char → Prop
  | unnamed {line label number : List Char} {further : List (List Char)} {n : Nat} :
      Csv.WritesCells line (label :: number :: further) → (∀ p : RawPhase, ¬p.IsNamed label) →
        Decimal.IsWord (Text.trim number) n → UnknownLine line

/-- A file with one line for each of these entries, in their order; other lines are empty or have
unknown labels. -/
inductive WritesEntries : List Char → List (RawPhase × Nat) → Prop
  | nil : WritesEntries [] []
  | skip {c : Char} {rest : List Char} {entries : List (RawPhase × Nat)} :
      Csv.State.isBreak c = true → WritesEntries rest entries → WritesEntries (c :: rest) entries
  | phase {p : RawPhase} {n : Nat} {line rest : List Char} {entries : List (RawPhase × Nat)} :
      PhaseLine p n line → Csv.EndsLine rest → WritesEntries rest entries →
        WritesEntries (line ++ rest) ((p, n) :: entries)
  | unknown {line rest : List Char} {entries : List (RawPhase × Nat)} :
      UnknownLine line → Csv.EndsLine rest → WritesEntries rest entries →
        WritesEntries (line ++ rest) entries

instance (pad : List Char) : Decidable (IsPad pad) :=
  inferInstanceAs (Decidable (∀ c ∈ pad, _ ∧ _))

/-- A character that may stand in a cell without quotes. -/
def IsPlain (c : Char) : Prop := Csv.State.isBreak c = false ∧ c ≠ ',' ∧ c ≠ '"'

instance (c : Char) : Decidable (IsPlain c) := inferInstanceAs (Decidable (_ ∧ _ ∧ _))

theorem writesCell_of_isPlain {text : List Char} (h : ∀ c ∈ text, IsPlain c) :
    Csv.WritesCell text text :=
  .plain (fun c hc => ⟨(h c hc).1, (h c hc).2.1⟩) fun hhead =>
    (h '"' (List.mem_of_mem_head? hhead)).2.2 rfl

theorem IsPad.isPlain {pad : List Char} (h : IsPad pad) : ∀ c ∈ pad, IsPlain c := by
  intro c hc
  refine ⟨(h c hc).2, ?_, ?_⟩ <;> rintro rfl <;> exact absurd (h _ hc).1 (by decide)

theorem trim_padded {before text after : List Char} (hbefore : IsPad before)
    (htext : Text.IsTrimmed text) (hafter : IsPad after) :
    Text.trim (before ++ text ++ after) = text :=
  htext.trim_padded (fun c hc => (hbefore c hc).1) fun c hc => (hafter c hc).1

theorem isPlain_padded {before text after : List Char} (hbefore : IsPad before)
    (htext : ∀ c ∈ text, IsPlain c) (hafter : IsPad after) :
    ∀ c ∈ before ++ text ++ after, IsPlain c := by
  simp only [List.mem_append]
  rintro c ((hc | hc) | hc)
  · exact hbefore.isPlain c hc
  · exact htext c hc
  · exact hafter.isPlain c hc

section
variable {number : List Char} {n : Nat}

theorem isPlain_of_isWord (h : Decimal.IsWord number n) :
    ∀ c ∈ number, IsPlain c ∧ Text.isBlank c = false := by
  have hdigit : ∀ c, Decimal.isDigit c = true → IsPlain c ∧ Text.isBlank c = false := by
    intro c hc
    have hbetween : 48 ≤ c.toNat ∧ c.toNat ≤ 57 := by
      simpa [Decimal.isDigit, Char.le_def, UInt32.le_iff_toNat_le] using hc
    refine ⟨⟨?_, ?_, ?_⟩, ?_⟩
    · refine Bool.eq_false_iff.mpr fun hbreak => ?_
      rcases (by simpa [Csv.State.isBreak] using hbreak : c = '\n' ∨ c = '\r') with rfl | rfl <;>
        exact absurd hc (by decide)
    · rintro rfl
      exact absurd hc (by decide)
    · rintro rfl
      exact absurd hc (by decide)
    · simp only [Text.isBlank, Text.inRanges, Text.blankRanges]
      simp
      omega
  obtain ⟨digits, rfl | rfl, -, hdigits, -⟩ := h
  · exact fun c hc => hdigit c (hdigits c hc)
  · exact List.forall_mem_cons.mpr ⟨by decide, fun c hc => hdigit c (hdigits c hc)⟩

theorem isTrimmed_of_isWord (h : Decimal.IsWord number n) : Text.IsTrimmed number where
  head_not_blank c hc := (isPlain_of_isWord h c (List.mem_of_mem_head? hc)).2
  last_not_blank c hc := (isPlain_of_isWord h c (List.mem_of_mem_getLast? hc)).2

end

namespace RawPhase.IsSpelled
variable {p : RawPhase} {label : List Char}

theorem isPlain (h : p.IsSpelled label) : ∀ s ∈ label, IsPlain s := by
  have hname : ∀ c ∈ p.name.toList, IsPlain c ∧ IsPlain c.toUpper := by cases p <;> decide
  unfold IsSpelled at h
  generalize p.name.toList = name at h hname
  induction h with
  | nil => simp
  | @cons c s name label hc _ ih =>
    obtain ⟨⟨hsame, hupper⟩, hrest⟩ := List.forall_mem_cons.mp hname
    refine List.forall_mem_cons.mpr ⟨?_, ih hrest⟩
    rcases hc with rfl | rfl | ⟨-, rfl⟩
    · exact hsame
    · exact hupper
    · decide

theorem lower_eq (h : p.IsSpelled label) :
    ((label.map Char.toLower).map fun c => if c = ' ' then '_' else c) = p.name.toList := by
  have hname : ∀ c ∈ p.name.toList, c.toLower = c ∧ c.toUpper.toLower = c ∧ c ≠ ' ' := by
    cases p <;> decide
  unfold IsSpelled at h
  generalize p.name.toList = name at h hname
  induction h with
  | nil => rfl
  | @cons c s name label hc _ ih =>
    obtain ⟨⟨hsame, hupper, hblank⟩, hrest⟩ := List.forall_mem_cons.mp hname
    rw [List.map_cons, List.map_cons, ih hrest]
    rcases hc with rfl | rfl | ⟨rfl, rfl⟩
    · rw [hsame, if_neg hblank]
    · rw [hupper, if_neg hblank]
    · rfl

theorem head_not_blank {name : List Char} (h : List.Forall₂ IsLetter name label)
    (hname : ∀ c ∈ name.head?, c ≠ '_' ∧ Text.isBlank c = false ∧ Text.isBlank c.toUpper = false) :
    ∀ s ∈ label.head?, Text.isBlank s = false := by
  cases h with
  | nil => simp
  | @cons c s _ _ hc _ =>
    obtain ⟨hword, hsame, hupper⟩ := hname c rfl
    rintro _ ⟨⟩
    rcases hc with rfl | rfl | ⟨heq, -⟩
    · exact hsame
    · exact hupper
    · exact absurd heq hword

theorem isTrimmed (h : p.IsSpelled label) : Text.IsTrimmed label where
  head_not_blank := head_not_blank h (by cases p <;> rintro _ ⟨⟩ <;> decide)
  last_not_blank := by
    rw [← List.head?_reverse]
    exact head_not_blank (List.forall₂_reverse_iff.mpr h) (by cases p <;> rintro _ ⟨⟩ <;> decide)

theorem isNamed (h : p.IsSpelled label) : p.IsNamed label := by
  rw [IsNamed, h.isTrimmed.trim_eq, h.lower_eq]

end RawPhase.IsSpelled

/-- Every duration of 64 bits can be written, and every name spelled. -/
theorem phaseLine_name (p : RawPhase) {n : Nat} (h : n ≤ 2 ^ 64 - 1) :
    PhaseLine p n (p.name.toList ++ ',' :: Nat.toDigits 10 n) := by
  have hname : p.IsSpelled p.name.toList := List.forall₂_same.mpr fun c _ => .inl rfl
  have hnil : IsPad [] := by decide
  simpa using PhaseLine.padded hnil hname hnil hnil (Decimal.isWord_toDigits h) hnil

theorem RawPhase.isNamed_trim (p : RawPhase) (label : List Char) :
    p.IsNamed (Text.trim label) ↔ p.IsNamed label := by
  rw [IsNamed, IsNamed, Text.trim_trim]

theorem PhaseLine.writesCells {p : RawPhase} {n : Nat} {line : List Char} (h : PhaseLine p n line) :
    ∃ label number, Csv.WritesCells line [label, number] ∧ p.IsNamed label ∧
      Decimal.IsWord (Text.trim number) n := by
  obtain ⟨hbefore, hlabel, hbetween, hnext, hnumber, hafter⟩ := h
  refine ⟨_, _, .cons (writesCell_of_isPlain (isPlain_padded hbefore hlabel.isPlain hbetween))
    (.last (writesCell_of_isPlain (isPlain_padded hnext ?_ hafter))), ?_, ?_⟩
  · exact fun c hc => (isPlain_of_isWord hnumber c hc).1
  · rw [← p.isNamed_trim, trim_padded hbefore hlabel.isTrimmed hbetween]
    exact hlabel.isNamed
  · rw [trim_padded hnext (isTrimmed_of_isWord hnumber) hafter]
    exact hnumber

/-- What is read from a line of a label, a duration and perhaps more. -/
theorem read_entryOf {line label number rest : List Char} {further : List (List Char)} {n : Nat}
    (hline : Csv.WritesCells line (label :: number :: further))
    (hnumber : Decimal.IsWord (Text.trim number) n) (hrest : Csv.EndsLine rest) :
    ∃ record, Csv.read (line ++ rest) = record :: Csv.read rest ∧ HasDuration record n ∧
      ∀ p, Names record p ↔ p.IsNamed label := by
  have hne : line ≠ [] := by
    cases hline
    simp
  refine ⟨_, Csv.read_line hline hne hrest, ⟨_, rfl, hnumber⟩, fun p => ?_⟩
  simp [Names, p.isNamed_trim]

/-- Every record of a written file has a duration, and those that name a phase are its entries. -/
theorem WritesEntries.read {text : List Char} {entries : List (RawPhase × Nat)}
    (h : WritesEntries text entries) :
    (∀ record ∈ Csv.read text, ∃ n, HasDuration record n) ∧
      (Csv.read text).filterMap entryOf = entries := by
  induction h with
  | nil => simp [Csv.read_nil]
  | skip hbreak _ ih => rwa [Csv.read_break hbreak]
  | @phase p n line rest entries hline hends _ ih =>
    obtain ⟨label, number, hcells, hnamed, hnumber⟩ := hline.writesCells
    obtain ⟨record, hread, hn, hnames⟩ := read_entryOf hcells hnumber hends
    have hentry := (entryOf_eq_some_iff record p n).mpr ⟨(hnames p).mpr hnamed, hn⟩
    rw [hread, List.filterMap_cons_some hentry, ih.2]
    exact ⟨List.forall_mem_cons.mpr ⟨⟨n, hn⟩, ih.1⟩, rfl⟩
  | @unknown line rest entries hline hends _ ih =>
    obtain ⟨hcells, hunnamed, hnumber⟩ := hline
    obtain ⟨record, hread, hn, hnames⟩ := read_entryOf hcells hnumber hends
    have hentry : entryOf record = none := by
      refine Option.eq_none_iff_forall_ne_some.mpr fun ⟨p, m⟩ hentry => hunnamed p ?_
      exact (hnames p).mp ((entryOf_eq_some_iff record p m).mp hentry).1
    rw [hread, List.filterMap_cons_none hentry]
    exact ⟨List.forall_mem_cons.mpr ⟨⟨_, hn⟩, ih.1⟩, ih.2⟩

theorem WritesEntries.parse_eq {text : String} {entries : List (RawPhase × Nat)}
    (h : WritesEntries (Csv.unmarked text.toList) entries) :
    PhaseDeltas.parse text = .ok (PhaseDeltas.empty.setAll entries) := by
  obtain ⟨hdurations, hentries⟩ := h.read
  rw [PhaseDeltas.parse, Csv.records_eq_read, PhaseDeltas.addRecords_eq hdurations, hentries]

end BenchCharts.Results

namespace BenchCharts.Series

open Results (HasDuration LastNaming Names PhaseDeltas PhaseLine RawPhase UnknownLine WritesEntries
  phaseLine_name)

/-- A file of durations is read if all its records have one, and then the last record of a phase
decides. So a file written in any order and spelling gives back the durations, and with them the
trace of the recovery. -/
theorem durations_read (text : String) :
    ((∃ d, PhaseDeltas.parse text = .ok d) ↔
      ∀ record ∈ Csv.records text, ∃ n, HasDuration record n) ∧
    (∀ d, PhaseDeltas.parse text = .ok d → ∀ p,
      (∀ n, d.get? p = some n ↔ LastNaming (Csv.records text) p n) ∧
      (d.get? p = none ↔ ∀ record ∈ Csv.records text, ¬Names record p)) ∧
    ∀ (d : PhaseDeltas) (entries : List (RawPhase × Nat)), entries.Perm d.entries →
      WritesEntries (Csv.unmarked text.toList) entries →
      PhaseDeltas.parse text = .ok d ∧
        ∀ {α : Type} [Quantity α],
          (PhaseDeltas.parse text).map RecoveryTrace.ofDeltas =
            .ok (RecoveryTrace.ofDeltas d : RecoveryTrace α) := by
  refine ⟨⟨?_, ?_⟩, ?_, ?_⟩
  · rintro ⟨d, hparse⟩
    exact (PhaseDeltas.parse_eq hparse).1
  · exact fun hdurations => ⟨_, PhaseDeltas.addRecords_eq hdurations PhaseDeltas.empty 1⟩
  · intro d hparse p
    obtain ⟨hdurations, rfl⟩ := PhaseDeltas.parse_eq hparse
    refine ⟨fun n => ?_, ?_⟩
    · rw [PhaseDeltas.get?_setAll_eq_some_iff, Results.lastNaming_iff hdurations]
      simp [PhaseDeltas.get?_empty]
    · rw [PhaseDeltas.get?_setAll_eq_none_iff, Results.entryOf_ne hdurations]
      simp [PhaseDeltas.get?_empty]
  · intro d entries hperm hwrites
    have hparse : PhaseDeltas.parse text = .ok d := by
      rw [hwrites.parse_eq, PhaseDeltas.setAll_perm hperm]
    refine ⟨hparse, fun {α} _ => ?_⟩
    rw [hparse]
    rfl

/-- The later phase comes first, in other letters and among blanks; the lines between have labels
that are unknown, one of them in quotes. -/
theorem durations_read_mixed :
    let text := "\ufeffsomething else,1,x\n\t Sync PEERS , +5 \r\n\n\"a,\"\"b\",007\n" ++
      "connect,18446744073709551615"
    let entries : List (RawPhase × Nat) := [(.syncPeers, 5), (.connect, 2 ^ 64 - 1)]
    let d : PhaseDeltas := ⟨none, some (2 ^ 64 - 1), none, some 5, none⟩
    entries.Perm d.entries ∧ WritesEntries (Csv.unmarked text.toList) entries ∧
      PhaseDeltas.parse text = .ok d := by
  intro text entries d
  have hperm : entries.Perm d.entries := by decide
  have hfirst : UnknownLine ("something else".toList ++ ',' :: (['1'] ++ ',' :: ['x'])) :=
    .unnamed (.cons (.plain (by decide) (by decide)) (.cons (.plain (by decide) (by decide))
      (.last (.plain (by decide) (by decide))))) (by rintro (_ | _) <;> decide)
      (by decide : Decimal.IsWord ['1'] 1)
  have hsync : PhaseLine .syncPeers 5
      (['\t', ' '] ++ "Sync PEERS".toList ++ [' '] ++ ',' :: ([' '] ++ ['+', '5'] ++ [' '])) :=
    .padded (by decide) (by simp [RawPhase.IsSpelled, RawPhase.name, Results.IsLetter])
      (by decide) (by decide) (by decide) (by decide)
  have hquoted : UnknownLine ("\"a,\"\"b\"".toList ++ ',' :: ['0', '0', '7']) :=
    .unnamed (.cons (.quoted "a,\"b".toList) (.last (.plain (by decide) (by decide))))
      (by rintro (_ | _) <;> decide)
      (by decide : Decimal.IsWord ['0', '0', '7'] 7)
  have hconnect : PhaseLine .connect (2 ^ 64 - 1) ("connect,18446744073709551615".toList) :=
    phaseLine_name .connect le_rfl
  have hchars : Csv.unmarked text.toList =
      ("something else".toList ++ ',' :: (['1'] ++ ',' :: ['x'])) ++ '\n' ::
        ((['\t', ' '] ++ "Sync PEERS".toList ++ [' '] ++ ',' :: ([' '] ++ ['+', '5'] ++ [' '])) ++
          '\r' :: '\n' :: '\n' :: (("\"a,\"\"b\"".toList ++ ',' :: ['0', '0', '7']) ++ '\n' ::
            ("connect,18446744073709551615".toList ++ []))) := by
    decide
  have hwrites : WritesEntries (Csv.unmarked text.toList) entries := by
    rw [hchars]
    refine .unknown hfirst (Csv.endsLine_cons.mpr rfl) (.skip rfl ?_)
    refine .phase hsync (Csv.endsLine_cons.mpr rfl) (.skip rfl (.skip rfl (.skip rfl ?_)))
    refine .unknown hquoted (Csv.endsLine_cons.mpr rfl) (.skip rfl ?_)
    exact .phase hconnect (by rintro _ ⟨⟩) .nil
  exact ⟨hperm, hwrites, ((durations_read text).2.2 d entries hperm hwrites).1⟩

end BenchCharts.Series
