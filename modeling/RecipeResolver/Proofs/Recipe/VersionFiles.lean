import Mathlib.Control.Monad.Basic
import RecipeResolver.Proofs.Report.Outcome
import RecipeResolver.Recipe.Identity

/-!
# The version in a file

A version file counts as text only if all of it is UTF-8, although only its first line is used. The
version is this line without the blanks around it. `VersionSource.BeginsWith` says of bytes that
they are a text with a given first line, and `load_of_beginsWith` what a source then gives; bytes of
which this cannot be said are no text (`exists_beginsWith_iff`).
-/

namespace RecipeResolver

/-- Bytes are read as the text that they encode. -/
theorem fromUTF8?_eq_some_iff {bytes : ByteArray} {text : String} :
    String.fromUTF8? bytes = some text ↔ text.toUTF8 = bytes := by
  unfold String.fromUTF8?
  by_cases hvalid : bytes.IsValidUTF8
  · rw [dif_pos hvalid, Option.some.injEq]
    constructor
    · rintro rfl
      rfl
    · rintro rfl
      rfl
  · rw [dif_neg hvalid]
    constructor
    · intro h
      cases h
    · rintro rfl
      exact absurd text.isValidUTF8 hvalid

theorem fromUTF8?_eq_none_iff {bytes : ByteArray} :
    String.fromUTF8? bytes = none ↔ ¬ bytes.IsValidUTF8 := by
  unfold String.fromUTF8?
  by_cases hvalid : bytes.IsValidUTF8
  · rw [dif_pos hvalid]
    exact iff_of_false (by simp) (not_not_intro hvalid)
  · rw [dif_neg hvalid]
    exact iff_of_true rfl hvalid

theorem FileTree.readText_eq_ok_iff {files : FileTree} {path text : String} :
    files.readText path = .ok text ↔
      ∃ content, files.read path = .ok content ∧ String.fromUTF8? content = some text := by
  unfold readText
  show (files.read path).bind _ = _ ↔ _
  rw [bind_eq_ok_iff]
  refine exists_congr fun content => and_congr_right fun _ => ?_
  cases String.fromUTF8? content <;> simp

namespace VersionSource

theorem readFile_eq_ok_iff {files : FileTree} {path version : String} :
    readFile files path = .ok version ↔
      ∃ text, files.readText path = .ok text ∧ firstLine text ≠ "" ∧ firstLine text = version := by
  unfold readFile
  cases files.readText path with
  | error e => simp
  | ok text =>
    by_cases hempty : firstLine text = ""
    · simp [hempty]
    · simp [hempty]

/-! ## First lines -/

/-- A text up to its first line feed, or all of it if there is none. -/
def IsFirstLine (text line : String) : Prop :=
  '\n' ∉ line.toList ∧ (text = line ∨ ∃ rest, text = line ++ "\n" ++ rest)

/-- Bytes are a text in UTF-8 with this first line. -/
def BeginsWith (content : ByteArray) (line : String) : Prop :=
  ∃ text : String, text.toUTF8 = content ∧ IsFirstLine text line

theorem exists_isFirstLine (text : String) : ∃ line, IsFirstLine text line := by
  cases hcut : Text.cut? '\n' text with
  | none => exact ⟨text, Text.cut?_eq_none_iff.1 hcut, .inl rfl⟩
  | some parts =>
    obtain ⟨htext, hbefore⟩ := Text.cut?_eq_some_iff.1 hcut
    exact ⟨parts.1, hbefore, .inr ⟨parts.2, htext⟩⟩

theorem exists_beginsWith_iff {content : ByteArray} :
    (∃ line, BeginsWith content line) ↔ content.IsValidUTF8 := by
  constructor
  · rintro ⟨line, text, rfl, -⟩
    exact text.isValidUTF8
  · intro hvalid
    obtain ⟨line, hline⟩ := exists_isFirstLine (.fromUTF8 content hvalid)
    exact ⟨line, _, rfl, hline⟩

/-- The version in a text is its first line without the blanks around it. -/
theorem IsFirstLine.firstLine_eq {text line : String} (h : IsFirstLine text line) :
    firstLine text = Text.trim line := by
  obtain ⟨hline, htext⟩ := h
  have hkept : ∀ c ∈ line.toList, (c != '\n') = true := by
    intro c hc
    rw [bne_iff_ne]
    rintro rfl
    exact hline hc
  have htaken : text.toList.takeWhile (· != '\n') = line.toList := by
    rcases htext with rfl | ⟨rest, rfl⟩
    · rw [← List.append_nil text.toList, List.takeWhile_append_of_pos hkept]
      rfl
    · rw [String.toList_append, String.toList_append, List.append_assoc,
        List.takeWhile_append_of_pos hkept]
      -- the line feed ends the line
      exact List.append_nil _
  unfold firstLine
  rw [htaken, String.ofList_toList]

/-! ## What a source gives -/

variable {files : FileTree} {folder name : String} {content : ByteArray}

theorem load_of_beginsWith (hread : files.read (Paths.join folder name) = .ok content)
    {line : String} (h : BeginsWith content line) :
    (file name).load files folder =
      if Text.trim line = "" then .error (.of (.emptyVersion (Paths.join folder name)))
      else .ok (Text.trim line) := by
  obtain ⟨text, htext, hline⟩ := h
  have hreadText : files.readText (Paths.join folder name) = .ok text :=
    FileTree.readText_eq_ok_iff.2 ⟨content, hread, fromUTF8?_eq_some_iff.2 htext⟩
  show readFile files (Paths.join folder name) = _
  unfold readFile
  rw [hreadText]
  dsimp only
  rw [hline.firstLine_eq]

theorem load_of_not_text (hread : files.read (Paths.join folder name) = .ok content)
    (h : ¬ content.IsValidUTF8) :
    (file name).load files folder =
      .error ⟨[.readingVersion (Paths.join folder name)], .file .notText⟩ := by
  have hreadText : files.readText (Paths.join folder name) = .error .notText := by
    unfold FileTree.readText
    rw [hread]
    dsimp only [bind, Except.bind]
    rw [fromUTF8?_eq_none_iff.2 h]
  show readFile files (Paths.join folder name) = _
  unfold readFile
  rw [hreadText]

/-- A version from a file is the first line of a text without the blanks around it. There is none if
some of the file is no text, or if its first line is blank. -/
theorem load_file_eq_iff (hread : files.read (Paths.join folder name) = .ok content) :
    (∀ version, (file name).load files folder = .ok version ↔ version ≠ "" ∧
      ∃ line, BeginsWith content line ∧ Text.Padded line version ∧ Text.Trimmed version) ∧
    ∀ f, (file name).load files folder = .error f ↔
      (¬ content.IsValidUTF8 ∧ f = ⟨[.readingVersion (Paths.join folder name)], .file .notText⟩) ∨
        (∃ line, BeginsWith content line ∧ Text.AllBlank line) ∧
          f = .of (.emptyVersion (Paths.join folder name)) := by
  refine outcome_iff ?_ ?_ ?_
  · rintro version ⟨hne, line, hline, hversion⟩
    rw [load_of_beginsWith hread hline, Text.trim_eq_iff.2 hversion, if_neg hne]
  · rintro f (⟨hvalid, rfl⟩ | ⟨⟨line, hline, hblank⟩, rfl⟩)
    · exact load_of_not_text hread hvalid
    · rw [load_of_beginsWith hread hline, if_pos (Text.trim_eq_empty_iff.2 hblank)]
  · by_cases hvalid : content.IsValidUTF8
    · obtain ⟨line, hline⟩ := exists_beginsWith_iff.2 hvalid
      by_cases hempty : Text.trim line = ""
      · exact .inr ⟨_, .inr ⟨⟨line, hline, Text.trim_eq_empty_iff.1 hempty⟩, rfl⟩⟩
      · exact .inl ⟨_, hempty, line, hline, Text.trim_eq_iff.1 rfl⟩
    · exact .inr ⟨_, .inl ⟨hvalid, rfl⟩⟩

/-- A source that is a file gives no empty version. -/
theorem ne_empty_of_load_file {version : String}
    (h : (file name).load files folder = .ok version) : version ≠ "" := by
  obtain ⟨text, -, hne, rfl⟩ := readFile_eq_ok_iff.1 h
  exact hne

/-- What is left of a first line is on one line. -/
theorem newline_not_mem_of_padded {text line version : String} (hline : IsFirstLine text line)
    (hpadded : Text.Padded line version) : '\n' ∉ version.toList := by
  obtain ⟨front, back, -, -, rfl⟩ := hpadded
  intro hmem
  refine hline.1 ?_
  rw [String.toList_append, String.toList_append]
  exact List.mem_append_left _ (List.mem_append_right _ hmem)

/-- A version file with these bytes gives the version that its first line is with blanks around it.
It gives none if some of its bytes, wherever they stand, are no UTF-8, and none if its first line is
blank, whatever stands below. So a version is not empty, stands on one line and has no blanks at its
ends, and files whose first lines differ only in the blanks around them, of which the carriage
return is one, give the same. -/
theorem load_reads_first_line (hread : files.read (Paths.join folder name) = .ok content) :
    (∀ version, (file name).load files folder = .ok version ↔ version ≠ "" ∧
      ∃ line, BeginsWith content line ∧ Text.Padded line version ∧ Text.Trimmed version) ∧
    (∀ f, (file name).load files folder = .error f ↔
      (¬ content.IsValidUTF8 ∧ f = ⟨[.readingVersion (Paths.join folder name)], .file .notText⟩) ∨
        (∃ line, BeginsWith content line ∧ Text.AllBlank line) ∧
          f = .of (.emptyVersion (Paths.join folder name))) ∧
    (∀ version, (file name).load files folder = .ok version →
      version ≠ "" ∧ '\n' ∉ version.toList ∧ Text.Trimmed version) ∧
    (∀ (files' : FileTree) (content' : ByteArray) (line line' core : String),
      files'.read (Paths.join folder name) = .ok content' → BeginsWith content line →
        BeginsWith content' line' → Text.Padded line core → Text.Padded line' core →
          (file name).load files' folder = (file name).load files folder) := by
  obtain ⟨hversion, herror⟩ := load_file_eq_iff hread
  refine ⟨hversion, herror, ?_, ?_⟩
  · intro version h
    obtain ⟨hne, line, ⟨text, -, hline⟩, hpadded, htrimmed⟩ := (hversion version).1 h
    exact ⟨hne, newline_not_mem_of_padded hline hpadded, htrimmed⟩
  · intro files' content' line line' core hread' hline hline' hpadded hpadded'
    rw [load_of_beginsWith hread hline, load_of_beginsWith hread' hline',
      Text.trim_of_padded hpadded, Text.trim_of_padded hpadded']

/-- An ideographic space and a carriage return are around this version, and it is the same without
them and without the second line. -/
theorem load_reads_first_line_between_blanks :
    let content := "\u3000 2.3.1\r\n9.9.9\n".toUTF8
    let files := FileTree.empty.put ["VERSION"] (.file content)
    let files' := FileTree.empty.put ["VERSION"] (.file "2.3.1".toUTF8)
    files.read (Paths.join "/" "VERSION") = .ok content ∧
      (file "VERSION").load files "/" = .ok "2.3.1" ∧
      (file "VERSION").load files' "/" = (file "VERSION").load files "/" := by
  intro content files files'
  have hread : files.read (Paths.join "/" "VERSION") = .ok content := by decide +kernel
  have hread' : files'.read (Paths.join "/" "VERSION") = .ok "2.3.1".toUTF8 := by decide +kernel
  have hline : BeginsWith content "\u3000 2.3.1\r" :=
    ⟨_, rfl, by decide, .inr ⟨"9.9.9\n", by decide⟩⟩
  have hline' : BeginsWith "2.3.1".toUTF8 "2.3.1" := ⟨_, rfl, by decide, .inl rfl⟩
  have hpadded : Text.Padded "\u3000 2.3.1\r" "2.3.1" :=
    ⟨"\u3000 ", "\r", by decide, by decide, by decide⟩
  have hpadded' : Text.Padded "2.3.1" "2.3.1" :=
    ⟨"", "", by decide, by decide, by decide⟩
  have htrimmed : Text.Trimmed "2.3.1" := Text.trimmed_of_trim_eq (by decide)
  obtain ⟨hversion, -, -, hsame⟩ := load_reads_first_line hread
  exact ⟨hread, (hversion "2.3.1").2 ⟨by decide, _, hline, hpadded, htrimmed⟩,
    hsame files' _ _ _ "2.3.1" hread' hline hline' hpadded hpadded'⟩

end VersionSource

end RecipeResolver
