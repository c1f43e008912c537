import BenchCharts.Proofs.Files.Places
import BenchCharts.Results.Layout

/-!
Requests for records. The names that lead to a record below the base determine what was asked for:
the number of names tells the kinds of records apart, databases and backends stand in directories of
their own or before an extension, and numbers end where no digit follows.
-/
namespace BenchCharts.Results

open Files (Location Path PlainName plainName_extension)

inductive Request
  | trial (database : String) (phase : TrialPhase) (backend : String)
      (configuration : Configuration) (number : Nat)
  | size (backend : String) (transfer : Transfer)
  | recovery (database backend : String)
  deriving DecidableEq, Repr

theorem isDigit_of_mem_toString {n : Nat} {c : Char} (h : c ∈ (toString n).toList) :
    c.isDigit = true := by
  rw [Nat.toString_eq_ofList_toDigits, String.toList_ofList] at h
  exact Nat.isDigit_of_mem_toDigits (by decide) (by decide) h

theorem toString_inj {m n : Nat} (h : toString m = toString n) : m = n := by
  rw [Nat.toString_eq_ofList_toDigits, Nat.toString_eq_ofList_toDigits, String.ofList_inj] at h
  have hvalue := congrArg (fun digits => Nat.ofDigitChars 10 digits 0) h
  simpa using hvalue

theorem slash_not_mem_toString (n : Nat) : '/' ∉ (toString n).toList := by
  intro h
  have hdigit := isDigit_of_mem_toString h
  revert hdigit
  decide

theorem slash_not_mem_text (w : Workload) : '/' ∉ w.text.toList := by
  intro h
  have hletter : '/' = w.letter := by simpa [Workload.text] using h
  have hvalid := w.valid.1
  rw [← hletter] at hvalid
  revert hvalid
  decide

/-- A number ends before what is no digit. -/
theorem number_append_inj {m n : Nat} {c : Char} (hc : c.isDigit = false) {s t : List Char}
    (h : (toString m).toList ++ c :: s = (toString n).toList ++ c :: t) : m = n ∧ s = t := by
  have hdigits : ∀ (k : Nat) (rest : List Char),
      ((toString k).toList ++ c :: rest).takeWhile Char.isDigit = (toString k).toList := by
    intro k rest
    rw [List.takeWhile_append_of_pos fun d hd => isDigit_of_mem_toString hd,
      List.takeWhile_cons_of_neg (by simp [hc]), List.append_nil]
  have hnumber := congrArg (List.takeWhile Char.isDigit) h
  rw [hdigits, hdigits, String.toList_inj] at hnumber
  rw [hnumber] at h
  have hrest := List.append_cancel_left h
  exact ⟨toString_inj hnumber, (List.cons.inj hrest).2⟩

namespace Layout

/-- The name of a trial's file tells the configuration and the number of the trial. -/
theorem trialName_inj {database backend name : String} {phase : TrialPhase}
    {configuration configuration' : Configuration} {number number' : Nat}
    (h : trialName database phase backend configuration number = .ok name)
    (h' : trialName database phase backend configuration' number' = .ok name) :
    configuration = configuration' ∧ number = number' := by
  have hnumber : ∀ {k k' : Nat}, toString k ++ ".yml" = toString k' ++ ".yml" → k = k' := by
    intro k k' heq
    exact toString_inj ((String.append_left_inj ".yml").mp heq)
  cases phase with
  | load =>
    cases configuration with
    | threads n =>
      cases configuration' with
      | threads n' =>
        have heq := (Except.ok.inj h).trans (Except.ok.inj h').symm
        simp only [String.append_assoc, String.append_right_inj] at heq
        have hlist := congrArg String.toList heq
        have htrail : "_trail".toList = '_' :: "trail".toList := by decide
        simp only [String.toList_append, htrail, List.cons_append] at hlist
        obtain ⟨hn, hrest⟩ := number_append_inj (c := '_') (by decide) hlist
        rw [List.append_cancel_left_eq, ← String.toList_append, ← String.toList_append,
          String.toList_inj] at hrest
        exact ⟨congrArg Configuration.threads hn, hnumber hrest⟩
      | workload w' => contradiction
      | size n' => contradiction
    | workload w => contradiction
    | size n => contradiction
  | run =>
    cases configuration with
    | threads n => contradiction
    | workload w =>
      cases configuration' with
      | threads n' => contradiction
      | workload w' =>
        have heq := (Except.ok.inj h).trans (Except.ok.inj h').symm
        simp only [String.append_assoc, String.append_right_inj] at heq
        have hlist := congrArg String.toList heq
        simp only [String.toList_append, Workload.text, String.toList_ofList,
          List.singleton_append, List.cons.injEq, List.append_cancel_left_eq] at hlist
        obtain ⟨hletter, hrest⟩ := hlist
        rw [← String.toList_append, ← String.toList_append, String.toList_inj] at hrest
        refine ⟨?_, hnumber hrest⟩
        cases w
        cases w'
        simpa using hletter
      | size n' => contradiction
    | size n => contradiction

theorem trialName_eq {database backend name : String} {phase : TrialPhase}
    {configuration : Configuration} {number : Nat} (hdatabase : PlainName database)
    (hbackend : PlainName backend)
    (h : trialName database phase backend configuration number = .ok name) :
    ∃ stem, '/' ∉ stem.toList ∧ name = stem ++ ".yml" := by
  have hnumber := slash_not_mem_toString number
  unfold trialName at h
  split at h
  · next threads =>
    have hthreads := slash_not_mem_toString threads
    refine ⟨_, ?_, (Except.ok.inj h).symm⟩
    simp only [String.toList_append, List.mem_append, hdatabase.2.1, hbackend.2.1, hnumber,
      hthreads, or_false, false_or]
    decide
  · next w =>
    have hw := slash_not_mem_text w
    refine ⟨_, ?_, (Except.ok.inj h).symm⟩
    simp only [String.toList_append, List.mem_append, hdatabase.2.1, hbackend.2.1, hnumber,
      hw, or_false, false_or]
    decide
  · contradiction

end Layout

namespace Request

/-- The names below the base that lead to the record. -/
def names : Request → Except LayoutError (List String)
  | trial database phase backend configuration number =>
      (Layout.trialName database phase backend configuration number).map fun name =>
        [database, phase.name, backend, name]
  | size backend transfer => .ok ["raw", backend ++ "_" ++ transfer.name ++ ".csv"]
  | recovery database backend => .ok ["recover", database, backend ++ ".csv"]

/-- Databases and backends have plain names. -/
def Plain : Request → Prop
  | trial database _ backend _ _ => PlainName database ∧ PlainName backend
  | size backend _ => PlainName backend
  | recovery database backend => PlainName database ∧ PlainName backend

instance (r : Request) : Decidable r.Plain := by
  cases r <;> exact inferInstanceAs (Decidable (_ ∧ _))

variable {r r' : Request} {below : List String}

theorem names_trial_eq_ok_iff {database backend : String} {phase : TrialPhase}
    {configuration : Configuration} {number : Nat} :
    (trial database phase backend configuration number).names = .ok below ↔
      ∃ name, Layout.trialName database phase backend configuration number = .ok name ∧
        below = [database, phase.name, backend, name] := by
  rw [names]
  cases Layout.trialName database phase backend configuration number with
  | error e => simp [Except.map]
  | ok name => simp [Except.map, eq_comm]

theorem phaseName_inj {phase phase' : TrialPhase} (h : phase.name = phase'.name) :
    phase = phase' := by
  cases phase with
  | load =>
    cases phase' with
    | load => rfl
    | run => exact absurd h (by decide)
  | run =>
    cases phase' with
    | load => exact absurd h (by decide)
    | run => rfl

/-- Reads and writes end in different letters. -/
theorem sizeName_inj {backend backend' : String} {transfer transfer' : Transfer}
    (h : backend ++ "_" ++ transfer.name = backend' ++ "_" ++ transfer'.name) :
    backend' = backend ∧ transfer' = transfer := by
  have hread : Transfer.read.name.toList = ['r', 'e', 'a', 'd'] := by decide
  have hwrite : Transfer.write.name.toList = ['w', 'r', 'i', 't', 'e'] := by decide
  have hlast := congrArg (fun name => name.toList.getLast?) h
  have htransfer : transfer' = transfer := by
    cases transfer <;> cases transfer' <;> simp [hread, hwrite] at hlast ⊢
  subst htransfer
  rw [String.append_left_inj, String.append_left_inj] at h
  exact ⟨h.symm, rfl⟩

/-- No two requests lead to the same record. -/
theorem names_inj (h : r.names = .ok below) (h' : r'.names = .ok below) : r = r' := by
  cases r with
  | trial database phase backend configuration number =>
    obtain ⟨name, hname, rfl⟩ := names_trial_eq_ok_iff.mp h
    cases r' with
    | trial database' phase' backend' configuration' number' =>
      obtain ⟨name', hname', heq⟩ := names_trial_eq_ok_iff.mp h'
      simp only [List.cons.injEq, and_true] at heq
      obtain ⟨rfl, hphase, rfl, rfl⟩ := heq
      obtain rfl := phaseName_inj hphase
      obtain ⟨rfl, rfl⟩ := Layout.trialName_inj hname hname'
      rfl
    | size backend' transfer' => simp [names] at h'
    | recovery database' backend' => simp [names] at h'
  | size backend transfer =>
    obtain rfl := Except.ok.inj h
    cases r' with
    | trial database' phase' backend' configuration' number' =>
      obtain ⟨name, -, heq⟩ := names_trial_eq_ok_iff.mp h'
      simp at heq
    | size backend' transfer' =>
      have heq := (List.cons.inj (List.cons.inj (Except.ok.inj h')).2).1
      rw [String.append_left_inj] at heq
      obtain ⟨rfl, rfl⟩ := sizeName_inj heq
      rfl
    | recovery database' backend' => simp [names] at h'
  | recovery database backend =>
    obtain rfl := Except.ok.inj h
    cases r' with
    | trial database' phase' backend' configuration' number' =>
      obtain ⟨name, -, heq⟩ := names_trial_eq_ok_iff.mp h'
      simp at heq
    | size backend' transfer' => simp [names] at h'
    | recovery database' backend' =>
      simp only [names, Except.ok.injEq, List.cons.injEq, true_and, and_true,
        String.append_left_inj] at h'
      rw [h'.1, h'.2]

theorem names_ne_nil (h : r.names = .ok below) : below ≠ [] := by
  cases r with
  | trial database phase backend configuration number =>
    obtain ⟨name, -, rfl⟩ := names_trial_eq_ok_iff.mp h
    simp
  | size backend transfer => simp [← Except.ok.inj h]
  | recovery database backend => simp [← Except.ok.inj h]

theorem plain_names (hplain : r.Plain) (h : r.names = .ok below) :
    ∀ name ∈ below, PlainName name := by
  cases r with
  | trial database phase backend configuration number =>
    obtain ⟨name, hname, rfl⟩ := names_trial_eq_ok_iff.mp h
    obtain ⟨stem, hstem, rfl⟩ := Layout.trialName_eq hplain.1 hplain.2 hname
    have hphase : PlainName phase.name := by cases phase <;> decide
    have hfile : PlainName (stem ++ ".yml") := plainName_extension hstem (by decide) (by decide)
    simp only [List.forall_mem_cons]
    exact ⟨hplain.1, hphase, hplain.2, hfile, by simp⟩
  | size backend transfer =>
    obtain rfl := Except.ok.inj h
    have htransfer : '/' ∉ ("_" ++ transfer.name).toList := by cases transfer <;> decide
    have hstem : '/' ∉ (backend ++ "_" ++ transfer.name).toList := by
      rw [String.append_assoc, String.toList_append, List.mem_append, not_or]
      exact ⟨hplain.2.1, htransfer⟩
    simp only [List.forall_mem_cons]
    exact ⟨by decide, plainName_extension hstem (by decide) (by decide), by simp⟩
  | recovery database backend =>
    obtain rfl := Except.ok.inj h
    simp only [List.forall_mem_cons]
    exact ⟨by decide, hplain.1, plainName_extension hplain.2.2.1 (by decide) (by decide), by simp⟩

end Request

namespace Layout

/-- The path of a record. -/
def path (layout : Layout) (r : Request) : Except LayoutError Path :=
  r.names.map layout.base.joinAll

theorem path_trial (layout : Layout) (database : String) (phase : TrialPhase) (backend : String)
    (configuration : Configuration) (number : Nat) :
    layout.path (.trial database phase backend configuration number) =
      layout.trialPath database phase backend configuration number := by
  unfold path trialPath
  rw [Request.names]
  cases trialName database phase backend configuration number <;> rfl

theorem path_size (layout : Layout) (backend : String) (transfer : Transfer) :
    layout.path (.size backend transfer) = .ok (layout.sizePath backend transfer) := rfl

theorem path_recovery (layout : Layout) (database backend : String) :
    layout.path (.recovery database backend) = .ok (layout.recoveryPath database backend) := rfl

variable {layout : Layout} {r r' : Request} {p : Path} {place : Location}

theorem path_eq_ok_iff : layout.path r = .ok p ↔
    ∃ below, r.names = .ok below ∧ p = layout.base.joinAll below := by
  unfold path
  cases r.names with
  | error e => simp [Except.map]
  | ok below => simp [Except.map, eq_comm]

/-- Records lie below the base. -/
theorem below_of_path (hplain : r.Plain) (h : layout.path r = .ok p) :
    ∃ last, layout.base.Below last p := by
  obtain ⟨below, hbelow, rfl⟩ := path_eq_ok_iff.mp h
  have hnames := Request.plain_names hplain hbelow
  have hne := Request.names_ne_nil hbelow
  rw [← List.dropLast_concat_getLast hne] at hnames ⊢
  rw [List.forall_mem_append, List.forall_mem_singleton] at hnames
  exact ⟨_, Path.below_joinAll layout.base hnames.1 hnames.2⟩

/-- A record is looked for at a place. -/
def Locates (layout : Layout) (r : Request) (place : Location) : Prop :=
  ∃ p, layout.path r = .ok p ∧ p.LeadsTo place

theorem locates_iff :
    layout.Locates r place ↔ ∃ p ∈ (layout.path r).toOption, p.LeadsTo place := by
  unfold Locates
  cases layout.path r <;> simp [Except.toOption]

instance (layout : Layout) (r : Request) (place : Location) : Decidable (layout.Locates r place) :=
  decidable_of_iff _ locates_iff.symm

/-- No place has two records. -/
theorem Locates.unique (hplain : r.Plain) (hplain' : r'.Plain) (h : layout.Locates r place)
    (h' : layout.Locates r' place) : r = r' := by
  obtain ⟨p, hp, hplace⟩ := h
  obtain ⟨p', hp', hplace'⟩ := h'
  obtain ⟨below, hbelow, rfl⟩ := path_eq_ok_iff.mp hp
  obtain ⟨below', hbelow', rfl⟩ := path_eq_ok_iff.mp hp'
  obtain ⟨b, hb, rfl⟩ :=
    hplace.of_joinAll (Request.plain_names hplain hbelow) (Request.names_ne_nil hbelow)
  obtain ⟨b', hb', heq⟩ :=
    hplace'.of_joinAll (Request.plain_names hplain' hbelow') (Request.names_ne_nil hbelow')
  obtain rfl := Option.some.inj (hb.symm.trans hb')
  obtain rfl := List.append_cancel_left heq
  exact Request.names_inj hbelow hbelow'

end Layout

end BenchCharts.Results
