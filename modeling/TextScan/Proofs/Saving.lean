import TextScan.Config.Files
import TextScan.Proofs.FileTrees
import TextScan.Proofs.TomlDocuments

/-! Configurations that are saved and loaded again. The file tree gives the bytes that were
written, they are the document of the configuration, and that is read as the
configuration whatever its start is (`loadFrom_save`). -/

namespace TextScan

theorem ReadFile.decode_toUTF8 (s : String) : decode s.toUTF8 = .ok s := by
  have hread : String.fromUTF8? s.toUTF8 = some s := by
    simp only [String.fromUTF8?, String.toUTF8_eq_toByteArray, dif_pos s.isValidUTF8]
    rfl
  rw [decode, hread]

theorem ReadFile.text_of_read {read : ReadFile} {path s : String} (h : read path = .ok s.toUTF8) :
    read.text path = .ok s := by
  rw [text, h]
  exact congrArg (Except.mapError Error.file) (decode_toUTF8 s)

namespace Config

variable {files saved : FileTree} {base : Location} {path : String} {c : Config}

theorem loadFrom_of_read {read : ReadFile} (h : read path = .ok c.toToml.toUTF8) :
    loadFrom read path = .ok c := by
  rw [loadFrom, ReadFile.text_of_read h]
  simp only [bind, Except.bind, ofToml?_toToml]

/-- **Saved configurations are loaded as they were**, in all their settings. -/
theorem loadFrom_save (h : c.save files base path = .ok saved) :
    loadFrom (saved.read base) path = .ok c := by
  unfold save at h
  cases hwrite : files.write base path c.toToml.toUTF8 with
  | error e =>
    rw [hwrite] at h
    exact nomatch h
  | ok written =>
    rw [hwrite] at h
    obtain rfl := Except.ok.inj h
    exact loadFrom_of_read (FileTree.read_of_write hwrite)

/-- A start with quotes of both kinds, more of them in a row than a long string may have,
a backslash, line breaks and a control character, saved over another file. -/
theorem loadFrom_save_of_quotes :
    let c : Config := ⟨.lines, true, false, "\n\"\"\"'''\\\r\n\x1b"⟩
    let saved : FileTree := ⟨[("c.toml", .file c.toToml.toUTF8)]⟩
    c.save ⟨[("c.toml", .file .empty)]⟩ [] "c.toml" = .ok saved ∧
      loadFrom (saved.read []) "c.toml" = .ok c := by
  intro c saved
  let files : FileTree := ⟨[("c.toml", .file .empty)]⟩
  have hwords : FileTree.components "c.toml" = ["c.toml"] := by decide
  have hlocate : files.locate [] "c.toml" = .ok ["c.toml"] := by
    rw [FileTree.locate_of_checkName (FileTree.checkName_eq_ok_iff.mpr (by decide)), hwords]
    rfl
  have hplace : ¬ files.HasDirectory ["c.toml"] := by
    intro hdirectory
    cases hdirectory.choose_spec
  have h : c.save files [] "c.toml" = .ok saved := by
    rw [save, FileTree.write_of_locate hlocate (by decide) hplace]
    rfl
  exact ⟨h, loadFrom_save h⟩

end Config

end TextScan
