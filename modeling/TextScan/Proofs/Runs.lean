import TextScan.Program

/-! Whole runs of the program. What is logged stands apart from what is dumped, so that the
standard output of a run is that of its dumps and its exit code says whether all went well.
Files are dumped one after the other up to the first that cannot be read, of which nothing
is seen (`run_files`). -/

namespace TextScan

theorem ReadFile.text_cases (read : ReadFile) (path : String) :
    (∃ text, read.text path = .ok text) ∨ ∃ cause, read.text path = .error (.file cause) := by
  unfold ReadFile.text
  cases read path >>= decode with
  | ok text => exact .inl ⟨text, rfl⟩
  | error cause => exact .inr ⟨cause, rfl⟩

namespace Program

variable {env : Environment} {args : List String} {a : Arguments}

/-! ## Files one after the other -/

section Files

variable (limit : LogLevel) (o : Dump.Options) (many : Bool) {path text : String}

theorem dumpFiles_of_error {e : Error} (h : env.read.text path = .error e)
    (rest : List String) :
    (dumpFiles env limit o many (path :: rest)).1 = .error e ∧
      (dumpFiles env limit o many (path :: rest)).2.stdout = "" := by
  rw [dumpFiles, h]
  exact ⟨rfl, log_stdout ..⟩

theorem dumpFiles_of_ok (h : env.read.text path = .ok text) (rest : List String) :
    (dumpFiles env limit o many (path :: rest)).1 = (dumpFiles env limit o many rest).1 ∧
      (dumpFiles env limit o many (path :: rest)).2.stdout =
        block o many path text ++ (dumpFiles env limit o many rest).2.stdout := by
  rw [dumpFiles, h]
  simp

/-- The files fall into those that are dumped and those from the first on that cannot be
read. -/
theorem dumpFiles_cases (env : Environment) (files : List String) :
    ∃ (done : List (String × String)) (rest : List String),
      files = done.map Prod.fst ++ rest ∧
      (∀ entry ∈ done, env.read.text entry.1 = .ok entry.2) ∧
      (dumpFiles env limit o many files).2.stdout =
        String.join (done.map fun entry => block o many entry.1 entry.2) ∧
      (rest = [] ∧ (dumpFiles env limit o many files).1 = .ok () ∨
        ∃ path later cause, rest = path :: later ∧
          env.read.text path = .error (.file cause) ∧
          (dumpFiles env limit o many files).1 = .error (.file cause)) := by
  induction files with
  | nil => exact ⟨[], [], rfl, nofun, rfl, .inl ⟨rfl, rfl⟩⟩
  | cons path files ih =>
    rcases env.read.text_cases path with ⟨text, htext⟩ | ⟨cause, htext⟩
    · obtain ⟨done, rest, hfiles, hread, hstdout, hends⟩ := ih
      obtain ⟨hresult, hblock⟩ := dumpFiles_of_ok limit o many htext files
      refine ⟨(path, text) :: done, rest, ?_, ?_, ?_, ?_⟩
      · rw [hfiles]
        rfl
      · exact List.forall_mem_cons.mpr ⟨htext, hread⟩
      · rw [hblock, hstdout]
        simp [String.join_cons]
      · rwa [hresult]
    · obtain ⟨hresult, hstdout⟩ := dumpFiles_of_error limit o many htext files
      exact ⟨[], path :: files, rfl, nofun, hstdout,
        .inr ⟨path, files, cause, rfl, htext, hresult⟩⟩

theorem dumpInput_of_ok (h : ReadFile.decode env.input = .ok text) :
    (dumpInput env limit o).1 = .ok () ∧
      (dumpInput env limit o).2.stdout = Dump.render Quote.isShown o (.ofString text) := by
  unfold dumpInput
  simp [h]

theorem dumpInput_of_error {cause : FileError} (h : ReadFile.decode env.input = .error cause) :
    (dumpInput env limit o).1 = .error (.file cause) ∧ (dumpInput env limit o).2.stdout = "" := by
  unfold dumpInput
  simp [h]

end Files

/-! ## From the arguments to the dumps -/

section Stages

variable (limit : LogLevel)

@[simp] theorem baseConfig_stdout (env : Environment) : (baseConfig env limit).2.stdout = "" := by
  unfold baseConfig
  split
  · rfl
  · exact log_stdout ..

/-- Without an override the configuration of the file is asked. -/
theorem options_of_none (env : Environment) (h : a.value? .config = none) :
    (options env limit a).1 = a.dumpOptions (baseConfig env limit).1 ∧
      (options env limit a).2.stdout = "" := by
  have hbase := baseConfig_stdout limit env
  unfold options
  rw [h]
  generalize baseConfig env limit = base at hbase ⊢
  simp only [bind, Except.bind]
  cases a.dumpOptions base.1 with
  | error e => simp [hbase]
  | ok o => simp [hbase]

/-- An override hides the configuration of the file, as merging takes every setting from it. -/
theorem options_of_some (env : Environment) {text : String} (h : a.value? .config = some text) :
    (options env limit a).1 = Config.parseOverride env.read text >>= a.dumpOptions ∧
      (options env limit a).2.stdout = "" := by
  have hbase := baseConfig_stdout limit env
  unfold options
  rw [h]
  generalize baseConfig env limit = base at hbase ⊢
  dsimp only
  cases Config.parseOverride env.read text with
  | error e => simp [hbase, bind, Except.bind]
  | ok other =>
    have hmerge : base.1.merge other = other := rfl
    simp only [bind, Except.bind, hmerge]
    cases a.dumpOptions other with
    | error e => simp [hbase]
    | ok o => simp [hbase]

@[simp] theorem options_stdout (env : Environment) (a : Arguments) :
    (options env limit a).2.stdout = "" := by
  cases h : a.value? .config with
  | none => exact (options_of_none limit env h).2
  | some text => exact (options_of_some limit env h).2

theorem work_of_error (env : Environment) {e : Error} (h : (options env limit a).1 = .error e) :
    (work env limit a).1 = .error e ∧ (work env limit a).2.stdout = "" := by
  have hstdout := options_stdout limit env a
  unfold work
  generalize options env limit a = resolved at h hstdout ⊢
  obtain ⟨result, logged⟩ := resolved
  subst h
  exact ⟨rfl, hstdout⟩

/-- With options, a run dumps its files, or its input if there are none. -/
theorem work_of_ok (env : Environment) {o : Dump.Options} (h : (options env limit a).1 = .ok o) :
    let dumped := if a.readsInput then dumpInput env limit o
      else dumpFiles env limit o (decide (1 < a.files.length)) a.files
    (work env limit a).1 = dumped.1 ∧ (work env limit a).2.stdout = dumped.2.stdout := by
  have hstdout := options_stdout limit env a
  unfold work
  generalize options env limit a = resolved at h hstdout ⊢
  obtain ⟨result, logged⟩ := resolved
  subst h
  simp_all

end Stages

/-- The log of a run ends with an error. -/
def EndsIn (outcome : Outcome) (e : Error) : Prop :=
  ∃ earlier, outcome.output.stderr =
    earlier ++ LogLevel.error.line programName ("Error: " ++ e.message)

theorem run_of_ok (env : Environment) (hargs : Arguments.parse args = .ok a)
    (hpaths : a.has .paths = false)
    (h : (work env (.ofText a.logLevel) a).1 = .ok ()) :
    (run env args).output.stdout = (work env (.ofText a.logLevel) a).2.stdout ∧
      (run env args).code = 0 := by
  unfold run runWith
  simp [hargs, hpaths, h]

theorem run_of_error (env : Environment) {e : Error} (hargs : Arguments.parse args = .ok a)
    (hpaths : a.has .paths = false)
    (h : (work env (.ofText a.logLevel) a).1 = .error e) :
    (run env args).output.stdout = (work env (.ofText a.logLevel) a).2.stdout ∧
      (run env args).code = 1 ∧ EndsIn (run env args) e := by
  unfold run runWith EndsIn
  simp [hargs, hpaths, h]

/-- **Files are dumped up to the first that cannot be read.** Without options nothing is
dumped. With them the standard output is made of the blocks of the files in their order, each
by a scanner of its own; of the file that cannot be read, and of those behind it, nothing is
seen but the error in the log. Without files it is the input that is dumped. -/
theorem run_files (env : Environment) (hargs : Arguments.parse args = .ok a)
    (hpaths : a.has .paths = false) :
    let resolved := (options env (.ofText a.logLevel) a).1
    let outcome := run env args
    (∀ e, resolved = .error e →
      outcome.output.stdout = "" ∧ outcome.code = 1 ∧ EndsIn outcome e) ∧
    (∀ o, resolved = .ok o → a.files ≠ [] →
      ∃ (done : List (String × String)) (rest : List String),
        a.files = done.map Prod.fst ++ rest ∧
        (∀ entry ∈ done, env.read.text entry.1 = .ok entry.2) ∧
        outcome.output.stdout = String.join (done.map fun entry =>
          block o (decide (1 < a.files.length)) entry.1 entry.2) ∧
        (rest = [] ∧ outcome.code = 0 ∨
          ∃ path later cause, rest = path :: later ∧
            env.read.text path = .error (.file cause) ∧
            outcome.code = 1 ∧ EndsIn outcome (.file cause))) ∧
    ∀ o, resolved = .ok o → a.files = [] →
      (∃ text, ReadFile.decode env.input = .ok text ∧ outcome.code = 0 ∧
        outcome.output.stdout = Dump.render Quote.isShown o (.ofString text)) ∨
      ∃ cause, ReadFile.decode env.input = .error cause ∧ outcome.code = 1 ∧
        outcome.output.stdout = "" ∧ EndsIn outcome (.file cause) := by
  intro resolved outcome
  refine ⟨fun e he => ?_, fun o ho hfiles => ?_, fun o ho hfiles => ?_⟩
  · obtain ⟨hresult, hstdout⟩ := work_of_error _ env he
    obtain ⟨hout, hcode, hlog⟩ := run_of_error env hargs hpaths hresult
    exact ⟨hout.trans hstdout, hcode, hlog⟩
  · obtain ⟨hresult, hstdout⟩ := work_of_ok _ env ho
    have hreads : a.readsInput = false := by simpa [Arguments.readsInput] using hfiles
    obtain ⟨done, rest, hcut, hread, hblocks, hends⟩ := dumpFiles_cases (.ofText a.logLevel) o
      (decide (1 < a.files.length)) env a.files
    rw [if_neg (by simp [hreads])] at hresult hstdout
    refine ⟨done, rest, hcut, hread, ?_⟩
    rcases hends with ⟨hnil, hok⟩ | ⟨path, later, cause, hrest, hpath, herror⟩
    · obtain ⟨hout, hcode⟩ := run_of_ok env hargs hpaths (hresult.trans hok)
      exact ⟨hout.trans (hstdout.trans hblocks), .inl ⟨hnil, hcode⟩⟩
    · obtain ⟨hout, hcode, hlog⟩ := run_of_error env hargs hpaths (hresult.trans herror)
      refine ⟨hout.trans (hstdout.trans hblocks), .inr ?_⟩
      exact ⟨path, later, cause, hrest, hpath, hcode, hlog⟩
  · obtain ⟨hresult, hstdout⟩ := work_of_ok _ env ho
    have hreads : a.readsInput = true := by simp [Arguments.readsInput, hfiles]
    rw [if_pos hreads] at hresult hstdout
    cases hinput : ReadFile.decode env.input with
    | ok text =>
      have hdump := dumpInput_of_ok (.ofText a.logLevel) o hinput
      obtain ⟨hout, hcode⟩ := run_of_ok env hargs hpaths (hresult.trans hdump.1)
      exact .inl ⟨text, rfl, hcode, hout.trans (hstdout.trans hdump.2)⟩
    | error cause =>
      have hdump := dumpInput_of_error (.ofText a.logLevel) o hinput
      obtain ⟨hout, hcode, hlog⟩ := run_of_error env hargs hpaths (hresult.trans hdump.1)
      exact .inr ⟨cause, rfl, hcode, hout.trans (hstdout.trans hdump.2), hlog⟩

/-- The first of two files is dumped before the other one is found missing. -/
theorem run_files_of_missing :
    let env : Environment :=
      ⟨none, fun path => if path = "a" then .ok "x".toUTF8 else .error .notFound, .empty⟩
    let outcome := run env ["a", "b"]
    outcome.output.stdout = "==> a <==\n1:1@0\t1:2@1\t'x'\n" ∧ outcome.code = 1 ∧
      EndsIn outcome (.file .notFound) := by
  intro env outcome
  have hargs : Arguments.parse ["a", "b"] = .ok ⟨["a", "b"], [], []⟩ := rfl
  have hoptions : (options env (.ofText "warn") ⟨["a", "b"], [], []⟩).1 =
      .ok ⟨.spans, false, true, .origin⟩ := by
    have hbase : (baseConfig env (.ofText "warn")).1 = {} := rfl
    rw [(options_of_none _ env rfl).1, hbase]
    rfl
  have hfirst : env.read.text "a" = .ok "x" := rfl
  have hsecond : env.read.text "b" = .error (.file .notFound) := rfl
  have hrender : Dump.render Quote.isShown ⟨.spans, false, true, .origin⟩ (.ofString "x") =
      "1:1@0\t1:2@1\t'x'\n" := by decide +kernel
  obtain ⟨done, rest, hcut, hread, hstdout, hends⟩ :=
    (run_files env hargs rfl).2.1 _ hoptions (List.cons_ne_nil _ _)
  rcases done with _ | ⟨⟨path, text⟩, _ | ⟨⟨path', text'⟩, done⟩⟩
  · obtain rfl : rest = ["a", "b"] := hcut.symm
    simp [hfirst] at hends
  · obtain ⟨rfl, rfl⟩ : path = "a" ∧ rest = ["b"] := by simpa using hcut.symm
    obtain rfl : text = "x" := by simpa [hfirst] using (hread _ List.mem_cons_self).symm
    obtain ⟨hnil, -⟩ | ⟨path, later, cause, hrest, hpath, hcode, hlog⟩ := hends
    · exact absurd hnil (List.cons_ne_nil _ _)
    · obtain ⟨rfl, -⟩ : path = "b" ∧ later = [] := by simpa using hrest.symm
      obtain rfl : cause = .notFound := by simpa [hsecond] using hpath.symm
      exact ⟨hstdout.trans (by simp [block, hrender]), hcode, hlog⟩
  · obtain ⟨rfl, rfl, -⟩ : path = "a" ∧ path' = "b" ∧ _ := by simpa using hcut.symm
    simp [hsecond] at hread

end Program

end TextScan
