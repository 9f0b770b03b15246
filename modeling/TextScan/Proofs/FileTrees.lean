import TextScan.FileTree

/-! Changes in a tree of files. What is put at a location is found there, if it lies in a
directory, and where no directory was replaced each one is still there. So a path that a
file was written to leads to the same location afterwards, and gives the file that was
written (`read_of_write`). -/

namespace TextScan

namespace Children

variable {cs : Children} {name : String} {rest l m : Location} {e : Option Entry}

theorem lookup_cons_of_ne {key other : String} (h : other ≠ key) (content : Entry)
    (cs : Children) : List.lookup other ((key, content) :: cs) = cs.lookup other := by
  rw [List.lookup_cons, beq_false_of_ne h]

theorem lookup_filter_ne (name other : String) (cs : Children) :
    (cs.filter (·.1 ≠ name)).lookup other = if other = name then none else cs.lookup other := by
  induction cs with
  | nil => simp
  | cons first cs ih =>
    obtain ⟨key, content⟩ := first
    by_cases hname : key = name
    · subst hname
      rw [List.filter_cons_of_neg (by simp), ih]
      by_cases hother : other = key
      · rw [if_pos hother, if_pos hother]
      · rw [if_neg hother, if_neg hother, lookup_cons_of_ne hother]
    · rw [List.filter_cons_of_pos (by simpa using hname)]
      by_cases hother : other = key
      · subst hother
        rw [List.lookup_cons_self, List.lookup_cons_self, if_neg hname]
      · rw [lookup_cons_of_ne hother, lookup_cons_of_ne hother, ih]

theorem lookup_set (name other : String) (e : Option Entry) (cs : Children) :
    (set name e cs).lookup other = if other = name then e else cs.lookup other := by
  unfold set
  rw [List.lookup_append, lookup_filter_ne]
  by_cases hother : other = name
  · subst hother
    cases e <;> simp
  · cases e with
    | none => simp [hother]
    | some content => simp [hother, lookup_cons_of_ne]

/-- A directory stands at the location. -/
def HasDirectory (cs : Children) (l : Location) : Prop :=
  ∃ inner, cs.entry? l = some (.directory inner)

theorem hasDirectory_nil (cs : Children) : cs.HasDirectory [] := ⟨cs, rfl⟩

theorem entry?_cons_of_directory {inner : Children}
    (h : cs.lookup name = some (.directory inner)) :
    cs.entry? (name :: rest) = inner.entry? rest := by
  cases rest with
  | nil => exact h
  | cons next rest => simp [h, entry?]

theorem hasDirectory_cons_iff : cs.HasDirectory (name :: rest) ↔
    ∃ inner : Children, cs.lookup name = some (.directory inner) ∧ inner.HasDirectory rest := by
  constructor
  · rintro ⟨found, hfound⟩
    cases rest with
    | nil => exact ⟨found, hfound, hasDirectory_nil found⟩
    | cons next rest =>
      unfold entry? at hfound
      split at hfound
      · next inner hlookup => exact ⟨inner, hlookup, found, hfound⟩
      · contradiction
  · rintro ⟨inner, hlookup, found, hfound⟩
    exact ⟨found, (entry?_cons_of_directory hlookup).trans hfound⟩

theorem HasDirectory.dropLast (h : cs.HasDirectory l) : cs.HasDirectory l.dropLast := by
  induction l generalizing cs with
  | nil => exact h
  | cons name rest ih =>
    cases rest with
    | nil => exact hasDirectory_nil cs
    | cons next rest =>
      obtain ⟨inner, hlookup, hinner⟩ := hasDirectory_cons_iff.mp h
      exact hasDirectory_cons_iff.mpr ⟨inner, hlookup, ih hinner⟩

theorem put_cons_of_directory {inner : Children} (h : cs.lookup name = some (.directory inner))
    (hrest : rest ≠ []) :
    put e cs (name :: rest) = set name (some (.directory (put e inner rest))) cs := by
  rw [put, h]
  exact hrest

/-- What is put in a directory is there. -/
theorem entry?_put (h : cs.HasDirectory m) :
    Children.entry? (put e cs (m ++ [name])) (m ++ [name]) = e := by
  induction m generalizing cs with
  | nil => exact (lookup_set name name e cs).trans (if_pos rfl)
  | cons first m ih =>
    obtain ⟨inner, hlookup, hinner⟩ := hasDirectory_cons_iff.mp h
    rw [List.cons_append, put_cons_of_directory hlookup (by simp), entry?_cons_of_directory]
    · exact ih hinner
    · rw [lookup_set, if_pos rfl]

/-- No directory is lost but one that is replaced. -/
theorem hasDirectory_put (h : cs.HasDirectory m) (hl : ¬ cs.HasDirectory l) :
    (put e cs l).HasDirectory m := by
  induction l generalizing cs m with
  | nil => exact absurd (hasDirectory_nil cs) hl
  | cons name rest ih =>
    cases m with
    | nil => exact hasDirectory_nil _
    | cons other m =>
      obtain ⟨inner, hlookup, hinner⟩ := hasDirectory_cons_iff.mp h
      by_cases hname : other = name
      · subst hname
        have hrest : ¬ inner.HasDirectory rest := fun hrest =>
          hl (hasDirectory_cons_iff.mpr ⟨inner, hlookup, hrest⟩)
        have hne : rest ≠ [] := by
          rintro rfl
          exact hrest (hasDirectory_nil inner)
        rw [put_cons_of_directory hlookup hne, hasDirectory_cons_iff]
        exact ⟨put e inner rest, by rw [lookup_set, if_pos rfl], ih hinner hrest⟩
      · -- another name is looked up as before, whatever this one is given
        have hset (e : Option Entry) : (set name e cs).HasDirectory (other :: m) :=
          hasDirectory_cons_iff.mpr ⟨inner, by rwa [lookup_set, if_neg hname], hinner⟩
        cases rest with
        | nil => exact hset e
        | cons next rest =>
          rw [put]
          · split
            · exact hset _
            · exact h
          · exact List.cons_ne_nil next rest

end Children

namespace FileTree

variable {t t' : FileTree} {l l' base : Location} {names : List String} {path : String}
  {e : FileError}

/-- A directory stands at the location. -/
def HasDirectory (t : FileTree) (l : Location) : Prop := t.top.HasDirectory l

/-- Where one component leads to. -/
def enter (l : Location) (name : String) : Location :=
  if name = "" ∨ name = "." then l
  else if name = ".." then l.dropLast
  else l ++ [name]

theorem hasDirectory_of_follow {name : String} (h : t.follow l (name :: names) = .ok l') :
    t.HasDirectory l := by
  unfold follow at h
  split at h
  · contradiction
  · contradiction
  · next inner hentry => exact ⟨inner, hentry⟩

theorem follow_cons (h : t.HasDirectory l) (name : String) (names : List String) :
    t.follow l (name :: names) =
      if maxNameSize < name.utf8ByteSize then .error .nameTooLong
      else t.follow (enter l name) names := by
  obtain ⟨inner, hentry⟩ := h
  have hentry : t.entry? l = some (.directory inner) := hentry
  rw [follow, hentry]
  unfold enter
  dsimp only
  split
  · rfl
  · split
    · rfl
    · split <;> rfl

/-- A path leads to the same location where the directories are still there. -/
theorem follow_of_hasDirectory (hkept : ∀ m, t.HasDirectory m → t'.HasDirectory m)
    (h : t.follow l names = .ok l') : t'.follow l names = .ok l' := by
  induction names generalizing l with
  | nil => exact h
  | cons name names ih =>
    have hl := hasDirectory_of_follow h
    rw [follow_cons hl] at h
    rw [follow_cons (hkept l hl)]
    split
    · next hlong => simp [hlong] at h
    · next hlong =>
      rw [if_neg hlong] at h
      exact ih h

/-- A path leads to a directory or to a name in one. -/
theorem follow_cases (hl : t.HasDirectory l ∨ ∃ m name, l = m ++ [name] ∧ t.HasDirectory m)
    (h : t.follow l names = .ok l') :
    t.HasDirectory l' ∨ ∃ m name, l' = m ++ [name] ∧ t.HasDirectory m := by
  induction names generalizing l with
  | nil =>
    cases h
    exact hl
  | cons name names ih =>
    have hdirectory := hasDirectory_of_follow h
    rw [follow_cons hdirectory] at h
    split at h
    · contradiction
    · refine ih ?_ h
      unfold enter
      split
      · exact .inl hdirectory
      · split
        · exact .inl (Children.HasDirectory.dropLast hdirectory)
        · exact .inr ⟨l, name, rfl, hdirectory⟩

theorem checkName_eq_ok_iff : checkName path = .ok () ↔
    path ≠ "" ∧ '\x00' ∉ path.toList ∧ path.utf8ByteSize ≤ maxPathSize := by
  unfold checkName
  split
  · next hempty => simp [String.isEmpty_iff.mp hempty]
  · next hname =>
    have hname : path ≠ "" := mt String.isEmpty_iff.mpr hname
    split
    · next hnull =>
      have hnull : '\x00' ∈ path.toList := by simpa using hnull
      simp [hnull]
    · next hnull =>
      have hnull : '\x00' ∉ path.toList := by simpa using hnull
      rw [← Nat.not_lt, and_iff_right hname, and_iff_right hnull]
      split
      · next hlong => simp [hlong]
      · next hshort => simp [hshort]

theorem locate_of_checkName (h : checkName path = .ok ()) :
    t.locate base path = t.follow (origin base path) (components path) := by
  rw [locate, h]
  rfl

theorem locate_eq_ok_iff : t.locate base path = .ok l ↔
    checkName path = .ok () ∧ t.follow (origin base path) (components path) = .ok l := by
  cases h : checkName path with
  | error e =>
    rw [locate, h]
    exact ⟨nofun, fun h => nomatch h.1⟩
  | ok _ => rw [locate_of_checkName h, and_iff_right rfl]

theorem locate_cases (h : t.locate base path = .ok l) :
    t.HasDirectory l ∨ ∃ m name, l = m ++ [name] ∧ t.HasDirectory m := by
  obtain ⟨-, hfollow⟩ := locate_eq_ok_iff.mp h
  obtain ⟨name, names, hnames⟩ : ∃ name names, components path = name :: names :=
    List.exists_cons_of_ne_nil (by simp [components, fields_ne_nil])
  rw [hnames] at hfollow
  exact follow_cases (.inl (hasDirectory_of_follow hfollow)) hfollow

theorem locate_of_hasDirectory (hkept : ∀ m, t.HasDirectory m → t'.HasDirectory m)
    (h : t.locate base path = .ok l) : t'.locate base path = .ok l := by
  obtain ⟨hcheck, hfollow⟩ := locate_eq_ok_iff.mp h
  exact locate_eq_ok_iff.mpr ⟨hcheck, follow_of_hasDirectory hkept hfollow⟩

theorem exists?_iff : t.exists? base path = true ↔
    ∃ l, t.locate base path = .ok l ∧ (t.entry? l).isSome = true := by
  rw [exists?]
  cases t.locate base path with
  | error e => exact ⟨nofun, fun h => nomatch h.choose_spec.1⟩
  | ok l =>
    refine ⟨fun h => ⟨l, rfl, h⟩, fun h => ?_⟩
    obtain ⟨found, hfound, hsome⟩ := h
    cases hfound
    exact hsome

theorem isAbsence_of_follow (h : t.follow l names = .error e) : e.isAbsence = true := by
  fun_induction follow t l names with
  | case1 l => exact nomatch h
  | case2 l name rest hentry => cases h; rfl
  | case3 l name rest content hentry => cases h; rfl
  | case4 l name rest inner hentry hlong => cases h; rfl
  | case5 l name rest inner hentry hlong hhere ih => exact ih h
  | case6 l rest inner hentry hlong hhere ih => exact ih h
  | case7 l name rest inner hentry hlong hhere hup ih => exact ih h

theorem isAbsence_of_locate (h : t.locate base path = .error e) : e.isAbsence = true := by
  unfold locate at h
  cases hcheck : checkName path with
  | ok _ =>
    rw [hcheck] at h
    exact isAbsence_of_follow h
  | error cause =>
    rw [hcheck] at h
    obtain rfl := Except.error.inj h
    unfold checkName at hcheck
    split at hcheck
    · cases hcheck; rfl
    split at hcheck
    · cases hcheck; rfl
    split at hcheck
    · cases hcheck; rfl
    · exact nomatch hcheck

/-- A file is written where its path leads to, if no directory stands there. -/
theorem write_cases {content : ByteArray} (h : t.write base path content = .ok t') :
    ∃ l, t.locate base path = .ok l ∧ ¬ t.HasDirectory l ∧
      t' = t.put l (some (.file content)) := by
  unfold write at h
  cases hcheck : checkName path with
  | error e => simp [hcheck, bind, Except.bind] at h
  | ok _ =>
    simp only [hcheck, bind, Except.bind] at h
    split at h
    · cases hway : t.follow (origin base path) _ <;> rw [hway] at h <;> contradiction
    · cases hlocate : t.locate base path with
      | error e => simp [hlocate] at h
      | ok l =>
        rw [hlocate] at h
        dsimp only at h
        split at h
        · contradiction
        · next hentry =>
          refine ⟨l, rfl, ?_, (Except.ok.inj h).symm⟩
          rintro ⟨inner, hinner⟩
          exact hentry inner hinner

theorem write_of_locate (hlocate : t.locate base path = .ok l)
    (hname : (components path).getLast? ≠ some "") (hl : ¬ t.HasDirectory l)
    (content : ByteArray) :
    t.write base path content = .ok (t.put l (some (.file content))) := by
  have hcheck := (locate_eq_ok_iff.mp hlocate).1
  simp only [write, hcheck, hname, hlocate, bind, Except.bind, if_false]
  split
  · next inner hentry => exact absurd ⟨inner, hentry⟩ hl
  · rfl

/-- A file is read as it was written. -/
theorem read_of_write {content : ByteArray} (h : t.write base path content = .ok t') :
    t'.read base path = .ok content := by
  obtain ⟨l, hlocate, hl, rfl⟩ := write_cases h
  obtain ⟨m, name, rfl, hm⟩ := (locate_cases hlocate).resolve_left hl
  have hlocate' : (t.put (m ++ [name]) (some (.file content))).locate base path =
      .ok (m ++ [name]) :=
    locate_of_hasDirectory (fun _ hdirectory => Children.hasDirectory_put hdirectory hl) hlocate
  have hentry : FileTree.entry? (t.put (m ++ [name]) (some (.file content))) (m ++ [name]) =
      some (.file content) := Children.entry?_put hm
  simp only [read, hlocate', bind, Except.bind, hentry]

end FileTree

end TextScan
