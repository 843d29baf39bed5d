import Mathlib.Data.List.Forall2
import ConnectorLifecycle.Definition.Loading

/-!
# What the files of a directory yield

Each file of a directory yields one thing: a definition, the report that it was skipped, or the
report that no definition is read from it. Which of the three it is depends on the file alone, on
its name and on what stands under it, so a directory is loaded by taking what its files yield in the
order of their names. The order of the listing plays no part, and a file that is added, removed or
spoiled leaves what all others yield in its place.
-/

namespace ConnectorLifecycle

/-- A text without a point is not split. -/
theorem splitAtLastPoint_eq_none_iff {cs : List Char} :
    splitAtLastPoint cs = none ↔ '.' ∉ cs := by
  induction cs with
  | nil => simp [splitAtLastPoint]
  | cons c rest ih =>
    rw [splitAtLastPoint, List.mem_cons, not_or]
    cases hrest : splitAtLastPoint rest with
    | some parts =>
      have hpoint : '.' ∈ rest := by
        rw [← Classical.not_not (a := '.' ∈ rest), ← ih, hrest]
        exact Option.some_ne_none parts
      simp [hpoint]
    | none =>
      have hpointless : '.' ∉ rest := ih.mp hrest
      by_cases hc : c = '.'
      · simp [hc]
      · simp [hc, Ne.symm hc, hpointless]

/-- What stands after the last point of a text has none, and the text is put together again. -/
theorem eq_of_splitAtLastPoint {cs before after : List Char}
    (h : splitAtLastPoint cs = some (before, after)) :
    cs = before ++ '.' :: after ∧ '.' ∉ after := by
  induction cs generalizing before with
  | nil => cases h
  | cons c rest ih =>
    rw [splitAtLastPoint] at h
    cases hrest : splitAtLastPoint rest with
    | some parts =>
      rw [hrest] at h
      cases h
      obtain ⟨hsplit, hlast⟩ := ih hrest
      exact ⟨congrArg (c :: ·) hsplit, hlast⟩
    | none =>
      rw [hrest] at h
      by_cases hc : c = '.'
      · rw [if_pos hc] at h
        cases h
        exact ⟨by rw [hc]; rfl, splitAtLastPoint_eq_none_iff.mp hrest⟩
      · rw [if_neg hc] at h
        cases h

/-- A text is split at a point after which there is none. -/
theorem splitAtLastPoint_append {before after : List Char} (h : '.' ∉ after) :
    splitAtLastPoint (before ++ '.' :: after) = some (before, after) := by
  induction before with
  | nil =>
    rw [List.nil_append, splitAtLastPoint, splitAtLastPoint_eq_none_iff.mpr h]
    rfl
  | cons c before ih => rw [List.cons_append, splitAtLastPoint, ih]

namespace File

/-- A file may hold a definition, and without its extension it is called `stem`. -/
def IsNamed (file : File) (stem : String) : Prop :=
  stem ≠ "" ∧ (file.name = stem ++ ".yaml" ∨ file.name = stem ++ ".yml")

/-- A name with an extension is split in front of it. -/
theorem stem_and_extension {file : File} {stem : String} (extension : String) (hne : stem ≠ "")
    (hpoint : '.' ∉ extension.toList) (hname : file.name = stem ++ ("." ++ extension)) :
    file.stem = stem ∧ file.extension? = some extension := by
  have hsplit : splitAtLastPoint file.name.toList = some (stem.toList, extension.toList) := by
    rw [hname, String.toList_append, String.toList_append]
    exact splitAtLastPoint_append hpoint
  have hcons : ∃ c rest, stem.toList = c :: rest :=
    List.exists_cons_of_ne_nil fun h => hne (String.toList_eq_nil_iff.mp h)
  obtain ⟨c, rest, hstem⟩ := hcons
  rw [hstem] at hsplit
  constructor
  · rw [File.stem, hsplit]
    change String.ofList (c :: rest) = stem
    rw [← hstem, String.ofList_toList]
  · rw [extension?, hsplit]
    change some (String.ofList extension.toList) = some extension
    rw [String.ofList_toList]

/-- A file with an extension has a name in front of it. -/
theorem name_of_extension {file : File} {extension : String}
    (h : file.extension? = some extension) :
    file.stem ≠ "" ∧ file.name = file.stem ++ ("." ++ extension) := by
  rw [extension?] at h
  rw [File.stem]
  cases hsplit : splitAtLastPoint file.name.toList with
  | none => simp [hsplit] at h
  | some parts =>
    obtain ⟨before, after⟩ := parts
    cases before with
    | nil => simp [hsplit] at h
    | cons c before =>
      have hafter : String.ofList after = extension := by simpa [hsplit] using h
      obtain ⟨hname, _⟩ := eq_of_splitAtLastPoint hsplit
      constructor
      · intro hempty
        have hnil := congrArg String.toList hempty
        rw [String.toList_ofList] at hnil
        cases hnil
      · apply String.toList_inj.mp
        rw [hname, ← hafter]
        simp only [String.toList_append, String.toList_ofList]
        rfl

/-- Definitions are read from the files with one of the two extensions and a name in front. -/
theorem isNamed_iff {file : File} {stem : String} :
    file.IsNamed stem ↔ file.mayDefine = true ∧ file.stem = stem := by
  constructor
  · rintro ⟨hne, hname | hname⟩
    · obtain ⟨hstem, hext⟩ := stem_and_extension "yaml" hne (by decide) hname
      exact ⟨by simp [mayDefine, hext], hstem⟩
    · obtain ⟨hstem, hext⟩ := stem_and_extension "yml" hne (by decide) hname
      exact ⟨by simp [mayDefine, hext], hstem⟩
  · rintro ⟨hmay, rfl⟩
    rw [mayDefine, Bool.or_eq_true, decide_eq_true_eq, decide_eq_true_eq] at hmay
    rcases hmay with hext | hext
    · obtain ⟨hne, hname⟩ := name_of_extension hext
      exact ⟨hne, .inl (hname)⟩
    · obtain ⟨hne, hname⟩ := name_of_extension hext
      exact ⟨hne, .inr (hname)⟩

/-- What a file of a directory gives rise to. -/
inductive Yield where
  /-- The definition that the file holds. -/
  | definition (definition : Definition)
  /-- The report that the file holds no definition. -/
  | skipped (notice : Notice)
  /-- The report that no definition is read from the file. -/
  | passedOver (notice : Notice)

namespace Yield

/-- The definition that a file yields. -/
@[simp] def definition? : Yield → Option Definition
  | definition d => some d
  | _ => none

/-- The report that a file was skipped. -/
@[simp] def skipped? : Yield → Option Notice
  | skipped n => some n
  | _ => none

/-- The report that a file was passed over. -/
@[simp] def passedOver? : Yield → Option Notice
  | passedOver n => some n
  | _ => none

/-- Every yield is of one of the three kinds. -/
theorem length_kinds (yields : List Yield) :
    (yields.filterMap definition?).length + (yields.filterMap skipped?).length +
      (yields.filterMap passedOver?).length = yields.length := by
  induction yields with
  | nil => rfl
  | cons y rest ih =>
    cases y <;> simp only [List.filterMap_cons, definition?, skipped?, passedOver?,
      List.length_cons] <;> omega

end Yield

/-- What a file yields, given the directory that it is in. -/
inductive Yields (directory : String) (file : File) : Yield → Prop where
  /-- A file whose name has neither extension is passed over. -/
  | other (unnamed : ∀ stem, ¬ file.IsNamed stem) :
      Yields directory file (.passedOver (.skippedOther (pathIn directory file.name)))
  /-- What holds no text is skipped. -/
  | unreadable {stem : String} (named : file.IsNamed stem) (illegible : file.content.text? = none) :
      Yields directory file (.skipped (.skippedUnreadable (pathIn directory file.name)))
  /-- A text that is no definition is skipped. -/
  | undecodable {stem text : String} (named : file.IsNamed stem)
      (readable : file.content.text? = some text) (invalid : Definition.ofYaml? text = none) :
      Yields directory file (.skipped (.skippedUndecodable (pathIn directory file.name)))
  /-- A definition is called what it declares, and else what its file is called. -/
  | definition {stem text : String} {d : Definition} (named : file.IsNamed stem)
      (readable : file.content.text? = some text) (decoded : Definition.ofYaml? text = some d) :
      Yields directory file
        (.definition
          { d with settings := { d.settings with name := some (d.settings.name.getD stem) } })

/-- The yield of a file. -/
def yield (directory : String) (file : File) : Yield :=
  if file.mayDefine then
    match Definition.ofFile directory file with
    | .ok definition => .definition definition
    | .error notice => .skipped notice
  else .passedOver (.skippedOther (pathIn directory file.name))

variable {directory : String} {file : File}

/-- A file yields one thing. -/
theorem yields_iff {y : Yield} : file.Yields directory y ↔ y = file.yield directory := by
  constructor
  · intro h
    cases h with
    | other unnamed =>
      have hmay : file.mayDefine = false :=
        Bool.eq_false_iff.mpr fun hmay => unnamed _ (isNamed_iff.mpr ⟨hmay, rfl⟩)
      simp [yield, hmay]
    | unreadable named illegible =>
      simp [yield, (isNamed_iff.mp named).1, Definition.ofFile, illegible]
    | undecodable named readable invalid =>
      simp [yield, (isNamed_iff.mp named).1, Definition.ofFile, readable, invalid]
    | definition named readable decoded =>
      obtain ⟨hmay, rfl⟩ := isNamed_iff.mp named
      simp [yield, hmay, Definition.ofFile, readable, decoded, Definition.withNameOr,
        Option.or_some]
  · rintro rfl
    cases hmay : file.mayDefine with
    | false =>
      have unnamed : ∀ stem, ¬ file.IsNamed stem := by
        intro stem named
        rw [(isNamed_iff.mp named).1] at hmay
        cases hmay
      simpa [yield, hmay] using Yields.other unnamed
    | true =>
      have named : file.IsNamed file.stem := isNamed_iff.mpr ⟨hmay, rfl⟩
      cases readable : file.content.text? with
      | none =>
        simpa [yield, hmay, Definition.ofFile, readable] using Yields.unreadable named readable
      | some text =>
        cases decoded : Definition.ofYaml? text with
        | none =>
          simpa [yield, hmay, Definition.ofFile, readable, decoded] using
            Yields.undecodable named readable decoded
        | some d =>
          simpa [yield, hmay, Definition.ofFile, readable, decoded, Definition.withNameOr,
            Option.or_some] using Yields.definition named readable decoded

/-- What is read from a file has a name. -/
theorem Yields.named {y : Yield} {d : Definition} (h : file.Yields directory y)
    (hd : y.definition? = some d) : ∃ name, d.settings.name = some name := by
  cases h with
  | definition => cases hd; exact ⟨_, rfl⟩
  | _ => cases hd

end File

namespace Definition

/-- What was loaded is what some files yield: the definitions and the reports of skipped files in
the order of the files, and the reports of the files that were passed over. -/
structure Loaded.Comprises (loaded : Loaded) (yields : List File.Yield) : Prop where
  /-- The definitions are those of the files, in their order. -/
  definitions : loaded.definitions = yields.filterMap File.Yield.definition?
  /-- The skipped files are reported in their order. -/
  skipped : loaded.skipped = yields.filterMap File.Yield.skipped?
  /-- The files that were passed over are reported in some order. -/
  passedOver : loaded.passedOver.Perm (yields.filterMap File.Yield.passedOver?)

/-- Each file adds what it yields. -/
theorem ofFiles_eq (directory : String) (files : List File) :
    (ofFiles directory (files.filter File.mayDefine)).definitions =
        (files.map (File.yield directory)).filterMap File.Yield.definition? ∧
      (ofFiles directory (files.filter File.mayDefine)).skipped =
        (files.map (File.yield directory)).filterMap File.Yield.skipped? := by
  induction files with
  | nil => exact ⟨rfl, rfl⟩
  | cons file rest ih =>
    obtain ⟨hdefinitions, hskipped⟩ := ih
    cases hmay : file.mayDefine with
    | false => simp [hmay, File.yield, hdefinitions, hskipped, List.filterMap_cons]
    | true =>
      cases hfile : ofFile directory file with
      | ok d => simp [hmay, File.yield, ofFiles, hfile, hdefinitions, hskipped,
          List.filterMap_cons]
      | error n => simp [hmay, File.yield, ofFiles, hfile, hdefinitions, hskipped,
          List.filterMap_cons]

/-- Each file that no definition is read from is reported. -/
theorem passedOver_eq (directory : String) (files : List File) :
    (files.filter fun file => !file.mayDefine).map
        (fun file => Notice.skippedOther (pathIn directory file.name)) =
      (files.map (File.yield directory)).filterMap File.Yield.passedOver? := by
  induction files with
  | nil => rfl
  | cons file rest ih =>
    cases hmay : file.mayDefine with
    | false => simp [hmay, File.yield, ih]
    | true =>
      cases hfile : ofFile directory file with
      | ok d => simp [hmay, File.yield, hfile, ih, List.filterMap_cons]
      | error n => simp [hmay, File.yield, hfile, ih, List.filterMap_cons]

/-- The files of a directory in the order of their names, with what each of them yields and what
that means for loading the directory. -/
structure LoadsAs (directory : String) (files ordered : List File) (yields : List File.Yield) :
    Prop where
  /-- The files are put in another order only. -/
  perm : ordered.Perm files
  /-- They are ordered by the bytes of their names. -/
  ascending : AscendingTexts (ordered.map File.name)
  /-- Each of them yields one thing. -/
  each : List.Forall₂ (File.Yields directory) ordered yields
  /-- In whatever order they are listed, what is loaded is what they yield. -/
  loads : ∀ listing : List File, listing.Perm files →
    ∃ loaded, loadAll directory (some listing) = .ok loaded ∧ loaded.Comprises yields ∧
      loaded.definitions.length + loaded.skipped.length + loaded.passedOver.length =
        files.length ∧
      ∀ d ∈ loaded.definitions, ∃ name, d.settings.name = some name

variable {directory : String}

/-- Files stand beside their yields. -/
theorem forall₂_yield (files : List File) :
    List.Forall₂ (File.Yields directory) files (files.map (File.yield directory)) := by
  rw [List.forall₂_map_right_iff]
  exact List.forall₂_same.mpr fun file _ => File.yields_iff.mpr rfl

/-- The files in the order of their names determine what is loaded. -/
theorem loadsAs_yield {files ordered : List File} (perm : ordered.Perm files)
    (ascending : AscendingTexts (ordered.map File.name)) :
    LoadsAs directory files ordered (ordered.map (File.yield directory)) := by
  refine ⟨perm, ascending, forall₂_yield ordered, ?_⟩
  intro listing hlisting
  have distinct : (listing.map File.name).Nodup := by
    have hordered : (ordered.map File.name).Nodup := ascending.imp Precedes.ne
    exact ((perm.trans hlisting.symm).map File.name).nodup_iff.mp hordered
  have same : orderByText File.name listing = ordered :=
    eq_of_ascending ((perm_orderByText File.name listing).trans (hlisting.trans perm.symm))
      (ascending_orderByText distinct) ascending
  obtain ⟨hdefinitions, hskipped⟩ := ofFiles_eq directory ordered
  have hpassedOver := passedOver_eq directory ordered
  refine ⟨_, rfl, ?_, ?_, ?_⟩
  · rw [same]
    exact ⟨hdefinitions, hskipped, .of_eq hpassedOver⟩
  · rw [same]
    change (ofFiles directory _).definitions.length + (ofFiles directory _).skipped.length +
      (List.map _ _).length = _
    rw [hdefinitions, hskipped, hpassedOver, File.Yield.length_kinds, List.length_map,
      perm.length_eq]
  · intro d hd
    rw [same] at hd
    change d ∈ (ofFiles directory _).definitions at hd
    rw [hdefinitions, List.mem_filterMap] at hd
    obtain ⟨y, hy, hyd⟩ := hd
    obtain ⟨file, _, rfl⟩ := List.mem_map.mp hy
    exact (File.yields_iff.mpr rfl).named hyd

/-- A directory is loaded file by file. Its files are taken in the order of the bytes of their names
and each yields one thing, whatever the others are and in whatever order they are listed. A file
that is added puts what it yields between what the files before and after it yield, and so does
anything else under its name. -/
theorem directory_is_loaded_file_by_file (directory : String) (files : List File)
    (distinct : (files.map File.name).Nodup) :
    ∃ ordered yields, LoadsAs directory files ordered yields ∧
      (∀ file ∈ files, ∃! y, file.Yields directory y) ∧
      ∀ name, name ∉ files.map File.name →
        ∃ filesBefore filesAfter before after,
          ordered = filesBefore ++ filesAfter ∧ yields = before ++ after ∧
          filesBefore.length = before.length ∧
          ∀ content y, File.Yields directory ⟨name, content⟩ y →
            LoadsAs directory (⟨name, content⟩ :: files)
              (filesBefore ++ ⟨name, content⟩ :: filesAfter) (before ++ y :: after) := by
  have perm := perm_orderByText File.name files
  have ascending := ascending_orderByText distinct
  refine ⟨orderByText File.name files, _, loadsAs_yield perm ascending, ?_, ?_⟩
  · intro file _
    exact ⟨file.yield directory, File.yields_iff.mpr rfl, fun y hy => File.yields_iff.mp hy⟩
  · intro name fresh
    have hfresh : name ∉ (orderByText File.name files).map File.name :=
      fun hmem => fresh ((perm.map File.name).mem_iff.mp hmem)
    obtain ⟨before, after, hsplit, hbefore, hafter⟩ := exists_split_of_ascending ascending hfresh
    refine ⟨before, after, before.map (File.yield directory), after.map (File.yield directory),
      hsplit, ?_, (List.length_map _).symm, ?_⟩
    · rw [hsplit, List.map_append]
    · intro content y hy
      cases File.yields_iff.mp hy
      have hinsert : (before ++ ⟨name, content⟩ :: after).Perm (⟨name, content⟩ :: files) := by
        refine List.perm_middle.trans (List.Perm.cons _ ?_)
        rw [← hsplit]
        exact perm
      have hordered :
          AscendingTexts ((before ++ (⟨name, content⟩ : File) :: after).map File.name) := by
        rw [hsplit] at ascending
        exact ascending_between ascending hbefore hafter
      have hloads : LoadsAs directory _ _ _ := loadsAs_yield hinsert hordered
      rwa [List.map_append, List.map_cons] at hloads

/-- Notes, a definition, a text without a kind and a directory, listed out of order. -/
def fourFiles : List File :=
  [⟨"notes.md", .bytes "kind: a\n".toUTF8⟩, ⟨"b.yml", .bytes "kind: web\n".toUTF8⟩,
    ⟨"c.yaml", .bytes "name: c\n".toUTF8⟩, ⟨"a.yaml", .directory⟩]

/-- Only one of the four files is a definition, and it is called like its file. -/
theorem four_files_are_loaded :
    (fourFiles.map File.name).Nodup ∧
      (∃ ordered yields, LoadsAs "conf" fourFiles ordered yields) ∧
      loadAll "conf" (some fourFiles) =
        .ok
          { definitions := [⟨"web", { name := some "b" }⟩]
            skipped := [.skippedUnreadable "conf/a.yaml", .skippedUndecodable "conf/c.yaml"]
            passedOver := [.skippedOther "conf/notes.md"] } := by
  have distinct : (fourFiles.map File.name).Nodup := by decide
  obtain ⟨ordered, yields, hloads, _⟩ := directory_is_loaded_file_by_file "conf" fourFiles distinct
  exact ⟨distinct, ⟨ordered, yields, hloads⟩, by decide +kernel⟩

end Definition

end ConnectorLifecycle
