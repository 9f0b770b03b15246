import TextScan.Proofs.FileTrees

/-! Making directories. Only places where nothing stands are given an entry, so that no file
and no directory is lost, also if a directory cannot be made (`keeps_makeAlong`). Where the
way is there nothing is made, and where something has been made there is nothing in the
directory at the end of the way (`makeAlong_eq_or_entry?_eq_none`). -/

namespace TextScan

namespace Children

variable {cs cs' : Children} {name other : String} {rest l m : Location} {e : Option Entry}

/-- Where a name is looked up with the same result, the same stands below it. -/
theorem entry?_cons_congr (h : cs.lookup name = cs'.lookup name) (rest : Location) :
    cs.entry? (name :: rest) = cs'.entry? (name :: rest) := by
  cases rest with
  | nil => exact h
  | cons next rest => simp [h, entry?]

theorem entry?_cons_of_not_directory
    (h : ∀ inner : Children, cs.lookup name ≠ some (.directory inner)) (hrest : rest ≠ []) :
    cs.entry? (name :: rest) = none := by
  cases rest with
  | nil => exact absurd rfl hrest
  | cons next rest =>
    unfold entry?
    split
    · next inner hlookup => exact absurd hlookup (h inner)
    · rfl

theorem lookup_ne_none_of_entry? {found : Entry} (h : cs.entry? (name :: rest) = some found) :
    cs.lookup name ≠ none := by
  intro hnone
  cases rest with
  | nil => exact nomatch hnone.symm.trans h
  | cons next rest =>
    rw [entry?_cons_of_not_directory (by simp [hnone]) (List.cons_ne_nil next rest)] at h
    exact nomatch h

theorem entry?_nil (hm : m ≠ []) : Children.entry? [] m = none := by
  cases m with
  | nil => exact absurd rfl hm
  | cons name rest =>
    cases rest with
    | nil => rfl
    | cons next rest => exact entry?_cons_of_not_directory nofun (List.cons_ne_nil next rest)

theorem put_cons_of_not_directory
    (h : ∀ inner : Children, cs.lookup name ≠ some (.directory inner)) (hrest : rest ≠ []) :
    put e cs (name :: rest) = cs := by
  rw [put]
  · split
    · next inner hlookup => exact absurd hlookup (h inner)
    · rfl
  · exact hrest

theorem lookup_put_of_ne (h : other ≠ name) :
    (put e cs (name :: rest)).lookup other = cs.lookup other := by
  cases rest with
  | nil => exact (lookup_set name other e cs).trans (if_neg h)
  | cons next rest =>
    rw [put]
    · split
      · exact (lookup_set name other _ cs).trans (if_neg h)
      · rfl
    · exact List.cons_ne_nil next rest

/-- What is put where nothing stood leaves each file as it was. -/
theorem entry?_put_of_file {content : ByteArray} (hm : cs.entry? m = some (.file content))
    (hl : cs.entry? l = none) : Children.entry? (put e cs l) m = some (.file content) := by
  induction l generalizing cs m with
  | nil => exact nomatch hl
  | cons name rest ih =>
    cases m with
    | nil => exact nomatch hm
    | cons other m =>
      by_cases hname : other = name
      · subst hname
        have hrest : rest ≠ [] := by
          rintro rfl
          exact lookup_ne_none_of_entry? hm hl
        by_cases hdirectory : ∃ inner : Children, cs.lookup other = some (.directory inner)
        · obtain ⟨inner, hlookup⟩ := hdirectory
          rw [entry?_cons_of_directory hlookup] at hm hl
          rw [put_cons_of_directory hlookup hrest,
            entry?_cons_of_directory ((lookup_set other other _ cs).trans (if_pos rfl))]
          exact ih hm hl
        · rw [put_cons_of_not_directory (fun inner hlookup => hdirectory ⟨inner, hlookup⟩) hrest]
          exact hm
      · rw [entry?_cons_congr (lookup_put_of_ne hname)]
        exact hm

/-- There is nothing in a directory that has been made where nothing stood. -/
theorem entry?_put_below (hl : cs.entry? l = none) (hm : m ≠ []) :
    Children.entry? (put (some (.directory [])) cs l) (l ++ m) = none := by
  induction l generalizing cs with
  | nil => exact nomatch hl
  | cons name rest ih =>
    have hself (e : Option Entry) : (set name e cs).lookup name = e :=
      (lookup_set name name e cs).trans (if_pos rfl)
    by_cases hrest : rest = []
    · subst hrest
      exact (entry?_cons_of_directory (hself _)).trans (entry?_nil hm)
    · by_cases hdirectory : ∃ inner : Children, cs.lookup name = some (.directory inner)
      · obtain ⟨inner, hlookup⟩ := hdirectory
        rw [entry?_cons_of_directory hlookup] at hl
        rw [put_cons_of_directory hlookup hrest, List.cons_append,
          entry?_cons_of_directory (hself _)]
        exact ih hl
      · have hnone : ∀ inner : Children, cs.lookup name ≠ some (.directory inner) :=
          fun inner hlookup => hdirectory ⟨inner, hlookup⟩
        rw [put_cons_of_not_directory hnone hrest]
        exact entry?_cons_of_not_directory hnone (List.append_ne_nil_of_right_ne_nil rest hm)

end Children

namespace FileTree

variable {t t' u : FileTree} {l l' base : Location} {names : List String} {name last path : String}

theorem not_hasDirectory_of_none (h : t.entry? l = none) : ¬ t.HasDirectory l := by
  intro hdirectory
  obtain ⟨inner, hinner⟩ := hdirectory
  exact nomatch hinner.symm.trans h

theorem not_hasDirectory_of_file {content : ByteArray} (h : t.entry? l = some (.file content)) :
    ¬ t.HasDirectory l := by
  intro hdirectory
  obtain ⟨inner, hinner⟩ := hdirectory
  exact nomatch hinner.symm.trans h

/-- Every file keeps its content, and every directory is still there. -/
structure Keeps (t t' : FileTree) : Prop where
  file {l : Location} {content : ByteArray} :
    t.entry? l = some (.file content) → t'.entry? l = some (.file content)
  directory {l : Location} : t.HasDirectory l → t'.HasDirectory l

namespace Keeps

theorem refl (t : FileTree) : t.Keeps t := ⟨id, id⟩

theorem trans (h : t.Keeps t') (h' : t'.Keeps u) : t.Keeps u :=
  ⟨fun hfile => h'.file (h.file hfile), fun hdirectory => h'.directory (h.directory hdirectory)⟩

theorem put (hl : t.entry? l = none) (e : Option Entry) : t.Keeps (t.put l e) := by
  refine ⟨fun hfile => Children.entry?_put_of_file hfile hl, fun hdirectory => ?_⟩
  exact Children.hasDirectory_put hdirectory (not_hasDirectory_of_none hl)

theorem isSome_entry? (h : t.Keeps t') (hl : (t.entry? l).isSome) : (t'.entry? l).isSome := by
  obtain ⟨found, hfound⟩ := Option.isSome_iff_exists.mp hl
  cases found with
  | file content => exact Option.isSome_of_eq_some (h.file hfound)
  | directory children =>
    obtain ⟨inner, hinner⟩ := h.directory ⟨children, hfound⟩
    exact Option.isSome_of_eq_some hinner

/-- A new file leaves all others as they were. -/
theorem write {content : ByteArray} (habsent : t.exists? base path = false)
    (h : t.write base path content = .ok t') : t.Keeps t' := by
  obtain ⟨l, hlocate, -, rfl⟩ := write_cases h
  refine put ?_ _
  rw [exists?, hlocate] at habsent
  exact Option.isNone_iff_eq_none.mp (Option.isSome_eq_false_iff.mp habsent)

theorem exists? (h : t.Keeps t') (hpath : t.exists? base path = true) :
    t'.exists? base path = true := by
  obtain ⟨l, hlocate, hentry⟩ := exists?_iff.mp hpath
  exact exists?_iff.mpr
    ⟨l, locate_of_hasDirectory (fun _ => h.directory) hlocate, h.isSome_entry? hentry⟩

end Keeps

/-! ## Directories on the way -/

theorem keeps_makeAlong (t : FileTree) (l : Location) (names : List String) :
    t.Keeps (t.makeAlong l names).2 := by
  fun_induction makeAlong t l names with
  | case1 t l => exact .refl t
  | case2 t l name rest hlong => exact .refl t
  | case3 t l name rest hlong hhere ih => exact ih
  | case4 t l rest hlong hhere ih => exact ih
  | case5 t l name rest hlong hhere hup inner hentry ih => exact ih
  | case6 t l name rest hlong hhere hup content hentry => exact .refl t
  | case7 t l name rest hlong hhere hup hentry ih => exact (Keeps.put hentry _).trans ih

theorem makeDirectories_of_checkName (h : checkName path = .ok ()) :
    t.makeDirectories base path = t.makeAlong (origin base path) (components path) := by
  rw [makeDirectories, h]

theorem keeps_makeDirectories (t : FileTree) (base : Location) (path : String) :
    t.Keeps (t.makeDirectories base path).2 := by
  cases h : checkName path with
  | error e =>
    rw [makeDirectories, h]
    exact .refl t
  | ok _ =>
    rw [makeDirectories_of_checkName h]
    exact keeps_makeAlong t (origin base path) (components path)

/-! ## The way to a directory -/

theorem follow_of_cons (h : t.follow l (name :: names) = .ok l') :
    ¬ maxNameSize < name.utf8ByteSize ∧ t.follow (enter l name) names = .ok l' := by
  rw [follow_cons (hasDirectory_of_follow h)] at h
  split at h
  · contradiction
  · next hshort => exact ⟨hshort, h⟩

theorem enter_of_here (hhere : name = "" ∨ name = ".") : enter l name = l := if_pos hhere

theorem enter_of_name (hhere : ¬ (name = "" ∨ name = ".")) (hup : name ≠ "..") :
    enter l name = l ++ [name] := by
  rw [enter, if_neg hhere, if_neg hup]

theorem follow_of_here (hhere : name = "" ∨ name = ".")
    (h : t.follow l (name :: names) = .ok l') : t.follow l names = .ok l' := by
  have hrest := (follow_of_cons h).2
  rwa [enter_of_here hhere] at hrest

theorem follow_of_name (hhere : ¬ (name = "" ∨ name = ".")) (hup : name ≠ "..")
    (h : t.follow l (name :: names) = .ok l') : t.follow (l ++ [name]) names = .ok l' := by
  have hrest := (follow_of_cons h).2
  rwa [enter_of_name hhere hup] at hrest

theorem hasDirectory_of_follow_concat (h : t.follow l (names ++ [last]) = .ok l') :
    t.HasDirectory l := by
  cases names with
  | nil => exact hasDirectory_of_follow h
  | cons name names => exact hasDirectory_of_follow h

/-- Where the whole way is there, nothing has to be made. -/
theorem makeAlong_of_follow (h : t.follow l (names ++ [last]) = .ok l') :
    t.makeAlong l names = (.ok (), t) := by
  fun_induction makeAlong t l names with
  | case1 t l => rfl
  | case2 t l name rest hlong => exact absurd hlong (follow_of_cons h).1
  | case3 t l name rest hlong hhere ih => exact ih (follow_of_here hhere h)
  | case4 t l rest hlong hhere ih => exact ih (follow_of_cons h).2
  | case5 t l name rest hlong hhere hup inner hentry ih => exact ih (follow_of_name hhere hup h)
  | case6 t l name rest hlong hhere hup content hentry =>
    have hdirectory := hasDirectory_of_follow_concat (follow_of_name hhere hup h)
    exact absurd hdirectory (not_hasDirectory_of_file hentry)
  | case7 t l name rest hlong hhere hup hentry ih =>
    have hdirectory := hasDirectory_of_follow_concat (follow_of_name hhere hup h)
    exact absurd hdirectory (not_hasDirectory_of_none hentry)

/-- Where a directory cannot be made, nothing can be reached in it afterwards. -/
theorem follow_of_makeAlong_error {e : FileError} (h : (t.makeAlong l names).1 = .error e) :
    (t.makeAlong l names).2.follow l (names ++ [last]) ≠ .ok l' := by
  intro hfollow
  fun_induction makeAlong t l names with
  | case1 t l => exact nomatch h
  | case2 t l name rest hlong => exact (follow_of_cons hfollow).1 hlong
  | case3 t l name rest hlong hhere ih => exact ih h (follow_of_here hhere hfollow)
  | case4 t l rest hlong hhere ih => exact ih h (follow_of_cons hfollow).2
  | case5 t l name rest hlong hhere hup inner hentry ih =>
    exact ih h (follow_of_name hhere hup hfollow)
  | case6 t l name rest hlong hhere hup content hentry =>
    have hdirectory := hasDirectory_of_follow_concat (follow_of_name hhere hup hfollow)
    exact absurd hdirectory (not_hasDirectory_of_file hentry)
  | case7 t l name rest hlong hhere hup hentry ih => exact ih h (follow_of_name hhere hup hfollow)

/-! ## What has been made -/

/-- Nothing stands below a location. -/
def IsEmptyBelow (t : FileTree) (l : Location) : Prop := ∀ m, m ≠ [] → t.entry? (l ++ m) = none

/-- Where the way only goes down, a directory that has been made has nothing in it. -/
theorem entry?_of_makeAlong_down (hlast : ∀ l, enter l last = l ++ [last])
    (hempty : t.IsEmptyBelow l) (hdown : ".." ∉ names)
    (hfollow : (t.makeAlong l names).2.follow l (names ++ [last]) = .ok l') :
    FileTree.entry? (t.makeAlong l names).2 l' = none := by
  fun_induction makeAlong t l names with
  | case1 t l =>
    have hfollow := (follow_of_cons hfollow).2
    rw [hlast] at hfollow
    obtain rfl := Except.ok.inj hfollow
    exact hempty [last] (List.cons_ne_nil last [])
  | case2 t l name rest hlong => exact absurd hlong (follow_of_cons hfollow).1
  | case3 t l name rest hlong hhere ih =>
    exact ih hempty (fun hmem => hdown (List.mem_cons_of_mem name hmem))
      (follow_of_here hhere hfollow)
  | case4 t l rest hlong hhere ih => exact absurd List.mem_cons_self hdown
  | case5 t l name rest hlong hhere hup inner hentry ih =>
    exact nomatch (hempty [name] (List.cons_ne_nil name [])).symm.trans hentry
  | case6 t l name rest hlong hhere hup content hentry =>
    exact nomatch (hempty [name] (List.cons_ne_nil name [])).symm.trans hentry
  | case7 t l name rest hlong hhere hup hentry ih =>
    exact ih (fun m hm => Children.entry?_put_below hentry hm)
      (fun hmem => hdown (List.mem_cons_of_mem name hmem)) (follow_of_name hhere hup hfollow)

/-- Somewhere the way goes up again out of a directory that is missing. -/
def GoesUpOutOfMissing (t : FileTree) (l : Location) (names : List String) : Prop :=
  ∃ front, front ++ [".."] <+: names ∧ t.follow l (front ++ [".."]) = .error .notFound

theorem not_goesUpOutOfMissing_of_notMem (h : ".." ∉ names) : ¬ t.GoesUpOutOfMissing l names := by
  rintro ⟨front, hfront, -⟩
  exact h (hfront.subset (by simp))

theorem follow_of_none (hl : t.entry? l = none) (hnames : names ≠ []) :
    t.follow l names = .error .notFound := by
  obtain ⟨name, rest, rfl⟩ := List.exists_cons_of_ne_nil hnames
  rw [follow, hl]

theorem goesUpOutOfMissing_of_mem (hl : t.entry? l = none) (h : ".." ∈ names) :
    t.GoesUpOutOfMissing l names := by
  obtain ⟨front, back, rfl⟩ := List.append_of_mem h
  exact ⟨front, ⟨back, by simp⟩, follow_of_none hl (by simp)⟩

theorem GoesUpOutOfMissing.cons (hl : ∀ content, t.entry? l ≠ some (.file content))
    (hshort : ¬ maxNameSize < name.utf8ByteSize) (h : t.GoesUpOutOfMissing (enter l name) names) :
    t.GoesUpOutOfMissing l (name :: names) := by
  obtain ⟨front, hfront, hmissing⟩ := h
  refine ⟨name :: front, List.cons_prefix_cons.mpr ⟨rfl, hfront⟩, ?_⟩
  cases hentry : t.entry? l with
  | none => exact follow_of_none hentry (List.cons_ne_nil name _)
  | some found =>
    cases found with
    | file content => exact absurd hentry (hl content)
    | directory inner =>
      rw [List.cons_append, follow_cons ⟨inner, hentry⟩, if_neg hshort]
      exact hmissing

/-- A way that can be followed afterwards did not begin at a file. -/
theorem Keeps.ne_file_of_follow (h : t.Keeps t') (hfollow : t'.follow l (names ++ [last]) = .ok l')
    (content : ByteArray) : t.entry? l ≠ some (.file content) := by
  intro hfile
  exact not_hasDirectory_of_file (h.file hfile) (hasDirectory_of_follow_concat hfollow)

/-- If making a directory has changed anything, there is nothing in this directory. -/
theorem makeAlong_eq_or_entry?_eq_none (hlast : ∀ l, enter l last = l ++ [last])
    (hup : ¬ t.GoesUpOutOfMissing l names)
    (hfollow : (t.makeAlong l names).2.follow l (names ++ [last]) = .ok l') :
    (t.makeAlong l names).2 = t ∨ FileTree.entry? (t.makeAlong l names).2 l' = none := by
  have hl := (keeps_makeAlong t l names).ne_file_of_follow hfollow
  fun_induction makeAlong t l names with
  | case1 t l => exact .inl rfl
  | case2 t l name rest hlong => exact .inl rfl
  | case3 t l name rest hlong hhere ih =>
    have hrest := follow_of_here hhere hfollow
    refine ih (fun hmissing => hup (.cons hl hlong ?_)) hrest hl
    rwa [enter_of_here hhere]
  | case4 t l rest hlong hhere ih =>
    have hrest := (follow_of_cons hfollow).2
    exact ih (fun hmissing => hup (.cons hl hlong hmissing)) hrest
      ((keeps_makeAlong t l.dropLast rest).ne_file_of_follow hrest)
  | case5 t l name rest hlong hhere hparent inner hentry ih =>
    have hrest := follow_of_name hhere hparent hfollow
    refine ih (fun hmissing => hup (.cons hl hlong ?_)) hrest
      ((keeps_makeAlong t (l ++ [name]) rest).ne_file_of_follow hrest)
    rwa [enter_of_name hhere hparent]
  | case6 t l name rest hlong hhere hparent content hentry => exact .inl rfl
  | case7 t l name rest hlong hhere hparent hentry ih =>
    have hdown : ".." ∉ rest := by
      intro hmem
      refine hup (.cons hl hlong ?_)
      rw [enter_of_name hhere hparent]
      exact goesUpOutOfMissing_of_mem hentry hmem
    exact .inr (entry?_of_makeAlong_down hlast (fun m hm => Children.entry?_put_below hentry hm)
      hdown (follow_of_name hhere hparent hfollow))

/-- The condition is needed: making the missing directory opens the way to another one. -/
example :
    let t : FileTree := ⟨[("old", .directory [])]⟩
    let names := ["new", "..", "old"]
    t.follow [] names = .error .notFound ∧ (t.makeAlong [] names).2.follow [] names = .ok ["old"] :=
  ⟨rfl, rfl⟩

end FileTree

end TextScan
