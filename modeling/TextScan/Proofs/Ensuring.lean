import TextScan.Proofs.Directories
import TextScan.Proofs.Saving

/-! Making the configuration file. It cannot be made, it is there already, or the standard
one is written where there was none (`ensures_ensureFile`), and the standard one is
loaded as the configuration that stands in for a missing file. So nothing that is loaded
changes (`load_ensureFile`), unless a directory that is made on the way opens a way up again
to a file that is there (`load_ensureFile_up_out_of_missing`). -/

namespace TextScan

namespace FileTree

/-- What is there for a reader is what is there in the tree. -/
theorem exists?_read (t : FileTree) (base : Location) (path : String) :
    ReadFile.exists? (t.read base) path = t.exists? base path := by
  simp only [ReadFile.exists?, read, exists?]
  cases hlocate : t.locate base path with
  | error e =>
    simp [bind, Except.bind, isAbsence_of_locate hlocate]
  | ok l =>
    cases hentry : t.entry? l with
    | none => simp [bind, Except.bind, hentry, FileError.isAbsence]
    | some found => cases found <;> simp [bind, Except.bind, hentry, FileError.isAbsence]

end FileTree

namespace Config

open FileTree (checkName components origin)

variable {files made after : FileTree} {base l : Location} {d : String}

/-! ## The file in its directory -/

theorem components_pathIn (d : String) : components (pathIn d) = components d ++ [fileName] := by
  have hcut := fields_append_cons '/' d.toList fileName.toList
  have hname : fields '/' fileName.toList = [fileName.toList] := rfl
  have hpath : (pathIn d).toList = d.toList ++ '/' :: fileName.toList := by
    simp [pathIn]
  rw [components, components, hpath, hcut, hname, List.map_append, List.map_singleton,
    String.ofList_toList]

theorem origin_pathIn (base : Location) (h : d ≠ "") : origin base (pathIn d) = origin base d := by
  have hpath : (pathIn d).toList = d.toList ++ '/' :: fileName.toList := by
    simp [pathIn]
  obtain ⟨c, cs, hd⟩ := List.exists_cons_of_ne_nil (mt String.toList_eq_nil_iff.mp h)
  rw [origin, origin, hpath, hd]
  rfl

/-- The file is found by following the way to its directory. -/
theorem follow_of_locate (hd : checkName d = .ok ()) (h : files.locate base (pathIn d) = .ok l) :
    files.follow (origin base d) (components d ++ [fileName]) = .ok l := by
  obtain ⟨-, hfollow⟩ := FileTree.locate_eq_ok_iff.mp h
  rwa [components_pathIn, origin_pathIn base (FileTree.checkName_eq_ok_iff.mp hd).1] at hfollow

theorem load_of_not_exists (h : files.exists? base (pathIn d) = false) :
    load (files.read base) (some d) = .ok {} := by
  rw [load, FileTree.exists?_read, h]
  rfl

/-- The standard document is loaded as the configuration that stands in for a missing one. -/
theorem load_of_standard (h : files.read base (pathIn d) = .ok standardToml.toUTF8) :
    load (files.read base) (some d) = .ok {} := by
  have hexists : ReadFile.exists? (files.read base) (pathIn d) = true := by
    rw [ReadFile.exists?, h]
  rw [load, hexists, loadFrom, ReadFile.text_of_read h]
  simp only [if_true, bind, Except.bind, ofToml?_standardToml]

/-! ## Making the file -/

theorem enter_fileName (l : Location) : FileTree.enter l fileName = l ++ [fileName] :=
  FileTree.enter_of_name (by decide) (by decide)

/-- There is no file in a directory that cannot be made. -/
theorem not_exists_of_makeDirectories_error {e : FileError} (hd : checkName d = .ok ())
    (h : files.makeDirectories base d = (.error e, made)) :
    made.exists? base (pathIn d) = false := by
  rw [FileTree.makeDirectories_of_checkName hd] at h
  obtain ⟨herror, rfl⟩ := Prod.ext_iff.mp h
  refine Bool.eq_false_iff.mpr fun hexists => ?_
  obtain ⟨l, hlocate, -⟩ := FileTree.exists?_iff.mp hexists
  exact FileTree.follow_of_makeAlong_error herror (follow_of_locate hd hlocate)

/-- Nothing has been made where the file is there afterwards. -/
theorem makeDirectories_eq_of_exists {result : Except FileError Unit} (hd : checkName d = .ok ())
    (h : files.makeDirectories base d = (result, made))
    (hexists : made.exists? base (pathIn d) = true)
    (hup : ¬ files.GoesUpOutOfMissing (origin base d) (components d)) : made = files := by
  rw [FileTree.makeDirectories_of_checkName hd] at h
  obtain ⟨-, rfl⟩ := Prod.ext_iff.mp h
  obtain ⟨l, hlocate, hentry⟩ := FileTree.exists?_iff.mp hexists
  refine (FileTree.makeAlong_eq_or_entry?_eq_none enter_fileName hup
    (follow_of_locate hd hlocate)).resolve_right fun hnone => ?_
  rw [hnone] at hentry
  exact nomatch hentry

/-- Where the file is there, its whole way is. -/
theorem makeDirectories_of_exists (hd : checkName d = .ok ())
    (hexists : files.exists? base (pathIn d) = true) :
    files.makeDirectories base d = (.ok (), files) := by
  obtain ⟨l, hlocate, -⟩ := FileTree.exists?_iff.mp hexists
  rw [FileTree.makeDirectories_of_checkName hd,
    FileTree.makeAlong_of_follow (follow_of_locate hd hlocate)]

/-- A file that is there is left as it is. -/
theorem ensureFile_of_exists (hd : checkName d = .ok ())
    (hexists : files.exists? base (pathIn d) = true) :
    ensureFile files base (some d) = (.ok (pathIn d), files) := by
  simp only [ensureFile, makeDirectories_of_exists hd hexists, hexists, if_true]

/-- What can come of making the file: it cannot be made, it is there already, or the
standard one is written. -/
inductive Ensures (files : FileTree) (base : Location) (d : String) :
    Except Error String → FileTree → Prop
  | failed {e : Error} {after : FileTree} (hkeeps : files.Keeps after)
      (habsent : after = files ∨ after.exists? base (pathIn d) = false) :
      Ensures files base d (.error e) after
  | present {after : FileTree} (hkeeps : files.Keeps after) (hd : checkName d = .ok ())
      (hexists : after.exists? base (pathIn d) = true)
      (hsame : ¬ files.GoesUpOutOfMissing (origin base d) (components d) → after = files) :
      Ensures files base d (.ok (pathIn d)) after
  | written {after : FileTree} (hkeeps : files.Keeps after) (hd : checkName d = .ok ())
      (habsent : files.exists? base (pathIn d) = false)
      (hread : after.read base (pathIn d) = .ok standardToml.toUTF8) :
      Ensures files base d (.ok (pathIn d)) after

theorem ensures_ensureFile (files : FileTree) (base : Location) (d : String) :
    Ensures files base d (ensureFile files base (some d)).1
      (ensureFile files base (some d)).2 := by
  cases hd : checkName d with
  | error e =>
    simp only [ensureFile, FileTree.makeDirectories, hd]
    exact .failed (.refl files) (.inl rfl)
  | ok _ =>
    have hkeeps := FileTree.keeps_makeDirectories files base d
    rcases hmade : files.makeDirectories base d with ⟨result, made⟩
    rw [hmade] at hkeeps
    simp only [ensureFile, hmade]
    cases result with
    | error e => exact .failed hkeeps (.inr (not_exists_of_makeDirectories_error hd hmade))
    | ok _ =>
      dsimp only
      split
      · next hexists =>
        exact .present hkeeps hd hexists (makeDirectories_eq_of_exists hd hmade hexists)
      · next hexists =>
        have habsent := Bool.eq_false_iff.mpr hexists
        cases hwrite : made.write base (pathIn d) standardToml.toUTF8 with
        | error e => exact .failed hkeeps (.inr habsent)
        | ok written =>
          exact .written (hkeeps.trans (.write habsent hwrite)) hd
            (Bool.eq_false_iff.mpr (mt hkeeps.exists? hexists)) (FileTree.read_of_write hwrite)

namespace Ensures

variable {result : Except Error String}

theorem keeps (h : Ensures files base d result after) : files.Keeps after := by
  cases h with
  | failed hkeeps habsent => exact hkeeps
  | present hkeeps hd hexists hsame => exact hkeeps
  | written hkeeps hd habsent hread => exact hkeeps

/-- What was loaded is loaded still: if the file was not there, then it still is not, or it
is the standard one. -/
theorem load_eq (h : Ensures files base d result after)
    (hup : ¬ files.GoesUpOutOfMissing (origin base d) (components d)) :
    load (after.read base) (some d) = load (files.read base) (some d) := by
  cases h with
  | failed hkeeps habsent =>
    obtain rfl | habsent := habsent
    · rfl
    · have hbefore : files.exists? base (pathIn d) = false :=
        Bool.eq_false_iff.mpr (mt hkeeps.exists? (Bool.eq_false_iff.mp habsent))
      rw [load_of_not_exists habsent, load_of_not_exists hbefore]
  | present hkeeps hd hexists hsame => rw [hsame hup]
  | written hkeeps hd habsent hread =>
    rw [load_of_standard hread, load_of_not_exists habsent]

theorem exists? {path : String} (h : Ensures files base d (.ok path) after) :
    checkName d = .ok () ∧ path = pathIn d ∧ after.exists? base path = true := by
  cases h with
  | present hkeeps hd hexists hsame => exact ⟨hd, rfl, hexists⟩
  | written hkeeps hd habsent hread =>
    refine ⟨hd, rfl, ?_⟩
    rw [← FileTree.exists?_read, ReadFile.exists?, hread]

end Ensures

/-- **Making the configuration file keeps all files and what is loaded**, on any tree and
whether the file can be made or not. Only the way to the directory must not go up again
out of a directory that is missing, and one without `..` never does. If the file can be
made, then it is there, and making it again gives the same path and changes nothing. -/
theorem load_ensureFile (files : FileTree) (base : Location) (directory : Option String) :
    let (result, after) := ensureFile files base directory
    files.Keeps after ∧
      ((∀ d ∈ directory, ¬ files.GoesUpOutOfMissing (origin base d) (components d)) →
        load (after.read base) directory = load (files.read base) directory) ∧
      ∀ path, result = .ok path →
        after.exists? base path = true ∧ ensureFile after base directory = (.ok path, after) := by
  cases directory with
  | none => exact ⟨.refl files, fun _ => rfl, nofun⟩
  | some d =>
    have hensures := ensures_ensureFile files base d
    rcases hresult : ensureFile files base (some d) with ⟨result, after⟩
    rw [hresult] at hensures
    refine ⟨hensures.keeps, fun hup => hensures.load_eq (hup d rfl), ?_⟩
    intro path hpath
    subst hpath
    obtain ⟨hd, rfl, hexists⟩ := hensures.exists?
    exact ⟨hexists, ensureFile_of_exists hd hexists⟩

/-- A directory that has to be made first. -/
theorem load_ensureFile_of_new :
    let files : FileTree := ⟨[("etc", .directory [("notes", .file .empty)])]⟩
    let after : FileTree := ⟨[("etc", .directory [("scan", .directory
      [("config.toml", .file standardToml.toUTF8)]), ("notes", .file .empty)])]⟩
    let path := "/etc/scan/config.toml"
    ensureFile files [] (some "/etc/scan") = (.ok path, after) ∧
      ¬ files.GoesUpOutOfMissing (origin [] "/etc/scan") (components "/etc/scan") ∧
      load (after.read []) (some "/etc/scan") = load (files.read []) (some "/etc/scan") ∧
      ensureFile after [] (some "/etc/scan") = (.ok path, after) := by
  intro files after path
  let d := "/etc/scan"
  let made : FileTree := ⟨[("etc", .directory
    [("scan", .directory []), ("notes", .file .empty)])]⟩
  have hpath : pathIn d = path := rfl
  have horigin : origin [] d = [] ∧ origin [] path = [] := by decide
  have hwords : components d = ["", "etc", "scan"] ∧
      components path = ["", "etc", "scan", "config.toml"] := by decide
  have hmade : files.makeDirectories [] d = (.ok (), made) := by
    rw [FileTree.makeDirectories_of_checkName (FileTree.checkName_eq_ok_iff.mpr (by decide)),
      horigin.1, hwords.1]
    rfl
  have hlocate : made.locate [] path = .ok ["etc", "scan", "config.toml"] := by
    rw [FileTree.locate_of_checkName (FileTree.checkName_eq_ok_iff.mpr (by decide)), horigin.2,
      hwords.2]
    rfl
  have habsent : made.exists? [] path = false := by
    rw [FileTree.exists?, hlocate]
    rfl
  have hplace : ¬ made.HasDirectory ["etc", "scan", "config.toml"] := by
    intro hdirectory
    cases hdirectory.choose_spec
  have hwrite : made.write [] path standardToml.toUTF8 = .ok after := by
    rw [FileTree.write_of_locate hlocate (by decide) hplace]
    rfl
  have hensure : ensureFile files [] (some d) = (.ok path, after) := by
    simp only [ensureFile, hmade, hpath, habsent, hwrite]
    rfl
  have hup : ¬ files.GoesUpOutOfMissing (origin [] d) (components d) :=
    FileTree.not_goesUpOutOfMissing_of_notMem (by decide)
  have h := load_ensureFile files [] (some d)
  rw [hensure] at h
  obtain ⟨-, hload, hagain⟩ := h
  exact ⟨hensure, hup, hload fun d hd => Option.some.inj hd ▸ hup, (hagain path rfl).2⟩

/-- Where the way goes up out of a missing directory, making this directory opens the way to a
configuration that could not be reached before. -/
theorem load_ensureFile_up_out_of_missing :
    let c : Config := { mode := .chars }
    let files : FileTree := ⟨[("old", .directory [("runescan", .directory
      [("config.toml", .file c.toToml.toUTF8)])])]⟩
    let d := "/new/../old/runescan"
    let (result, after) := ensureFile files [] (some d)
    result = .ok (pathIn d) ∧ load (files.read []) (some d) = .ok {} ∧
      load (after.read []) (some d) = .ok c ∧
      load (after.read []) (some d) ≠ load (files.read []) (some d) := by
  intro c
  -- the places of the files do not depend on what stands in them
  generalize hcontent : c.toToml.toUTF8 = content
  intro files d
  let path := "/new/../old/runescan/config.toml"
  let made : FileTree := ⟨("new", .directory []) :: files.top⟩
  have hpath : pathIn d = path := rfl
  have hcheck : checkName path = .ok () := FileTree.checkName_eq_ok_iff.mpr (by decide)
  have horigin : origin [] d = [] ∧ origin [] path = [] := by decide
  have hwords : components d = ["", "new", "..", "old", "runescan"] ∧
      components path = ["", "new", "..", "old", "runescan", "config.toml"] := by decide
  have hmade : files.makeDirectories [] d = (.ok (), made) := by
    rw [FileTree.makeDirectories_of_checkName (FileTree.checkName_eq_ok_iff.mpr (by decide)),
      horigin.1, hwords.1]
    rfl
  have habsent : files.exists? [] path = false := by
    rw [FileTree.exists?, FileTree.locate_of_checkName hcheck, horigin.2, hwords.2]
    rfl
  have hlocate : made.locate [] path = .ok ["old", "runescan", "config.toml"] := by
    rw [FileTree.locate_of_checkName hcheck, horigin.2, hwords.2]
    rfl
  have hexists : made.exists? [] path = true := by
    rw [FileTree.exists?, hlocate]
    rfl
  have hread : made.read [] path = .ok c.toToml.toUTF8 := by
    rw [FileTree.read, hlocate, hcontent]
    rfl
  have hensure : ensureFile files [] (some d) = (.ok path, made) := by
    simp only [ensureFile, hmade, hpath, hexists, if_true]
  have hbefore : load (files.read []) (some d) = .ok {} := load_of_not_exists habsent
  have hafter : load (made.read []) (some d) = .ok c := by
    rw [load, hpath, FileTree.exists?_read, hexists, if_pos rfl, loadFrom_of_read hread]
  rw [hensure]
  refine ⟨rfl, hbefore, hafter, ?_⟩
  rw [hbefore, hafter]
  intro h
  exact absurd (Except.ok.inj h) (by decide)

end Config

end TextScan
