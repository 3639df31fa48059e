import BlockRules.Library.Export
import BlockRules.Proofs.Document.JsonData
import BlockRules.Proofs.Json.Direct
import BlockRules.Proofs.Json.Reading
import BlockRules.Proofs.Library.Loading
import BlockRules.Proofs.Library.Writing
import BlockRules.Proofs.Yaml.Direct

set_option autoImplicit false

/-!
# Exports that are loaded

A document that is exported to a file and loaded from it keeps its graph, its name, its summary and its times. It is
known by the name of the file, and everything else about it is as in a document of which nothing is known. That
reading the text of an export undoes writing it is taken from the formats.
-/
namespace BlockRules
open Value Text

namespace Document

/-- What an export keeps of a document, known by another name. -/
def reloaded (d : Document) (id : String) : Document :=
  { ofGraph d.toGraph with
    id := some id
    name := d.name
    naturalLanguage := d.naturalLanguage
    createdAt := d.createdAt
    updatedAt := d.updatedAt }

/-- Reading the text of the export of a document undoes writing it. -/
def ReadsBack (d : Document) (format : FileFormat) : Prop :=
  Library.readText format (d.exportText format) = .ok d.exportValue

theorem allDirect_exportText (d : Document) (format : FileFormat) : AllDirect (d.exportText format) := by
  cases format with
  | json => exact Json.allDirect_indented d.exportValue 0
  | yaml => exact Yaml.allDirect_write d.exportValue

theorem lookup_filterMap_lookup (fields : List (String × Value)) (names : List String) (key : String) :
    (names.filterMap fun name => (fields.lookup name).map fun v => (name, v)).lookup key =
      if key ∈ names then fields.lookup key else none := by
  induction names with
  | nil => rfl
  | cons name rest ih =>
    by_cases hkey : key = name
    · subst hkey
      cases hname : fields.lookup key with
      | none => simp [hname, ih]
      | some v => simp [hname]
    · have hne : (key == name) = false := beq_eq_false_iff_ne.2 hkey
      cases hname : fields.lookup name with
      | none => simp [hname, ih, hkey]
      | some v => simp [hname, ih, hkey, List.lookup_cons, hne]

theorem lookup_exportFields (d : Document) (key : String) :
    d.exportFields.lookup key = if key ∈ exportNames then d.toFields.lookup key else none :=
  lookup_filterMap_lookup d.toFields exportNames key

def identifiedFields (d : Document) (id : String) : List (String × Value) := d.exportFields ++ [("id", .text id)]

theorem lookup_kept (d : Document) (id : String) {key : String} (h : key ∈ exportNames) :
    (d.identifiedFields id).lookup key = d.toFields.lookup key := by
  have hid : key ≠ "id" := by
    rintro rfl
    revert h
    decide
  rw [identifiedFields, List.lookup_append, lookup_exportFields, if_pos h, List.lookup_cons,
    beq_eq_false_iff_ne.2 hid]
  exact Option.or_none

theorem lookup_dropped (d : Document) (id : String) {key : String} (h : key ∉ exportNames) (hid : key ≠ "id") :
    (d.identifiedFields id).lookup key = none := by
  rw [identifiedFields, List.lookup_append, lookup_exportFields, if_neg h, List.lookup_cons,
    beq_eq_false_iff_ne.2 hid]
  rfl

theorem lookup_id (d : Document) (id : String) : (d.identifiedFields id).lookup "id" = some (.text id) := by
  rw [identifiedFields, List.lookup_append, lookup_exportFields, if_neg (by decide)]
  rfl

theorem written_identifiedFields (d : Document) (id : String) : Written (d.identifiedFields id) (d.reloaded id) where
  nodes := (d.lookup_kept id (by decide)).trans d.written_toFields.nodes
  edges := (d.lookup_kept id (by decide)).trans d.written_toFields.edges
  id := d.lookup_id id
  name := (d.lookup_kept id (by decide)).trans d.written_toFields.name
  alarm := d.lookup_dropped id (by decide) (by decide)
  naturalLanguage := (d.lookup_kept id (by decide)).trans d.written_toFields.naturalLanguage
  isValid := .inr ⟨d.lookup_dropped id (by decide) (by decide), rfl⟩
  createdAt := (d.lookup_kept id (by decide)).trans d.written_toFields.createdAt
  updatedAt := (d.lookup_kept id (by decide)).trans d.written_toFields.updatedAt
  userId := d.lookup_dropped id (by decide) (by decide)
  unnamed := by
    have hnames : ∀ other ∈ ["alarm_config", "natural_language", "is_valid", "created_at", "updated_at", "user_id"],
        other ∉ exportNames ∧ other ≠ "id" := by decide
    exact fun other hother => d.lookup_dropped id (hnames other hother).1 (hnames other hother).2

theorem isPlain_reloaded {d : Document} (h : d.IsPlain) (id : String) : (d.reloaded id).IsPlain :=
  ⟨h.conditions, h.createdAt, h.updatedAt⟩

theorem name_mem_of_mem_exportFields {d : Document} {f : String × Value} (h : f ∈ d.exportFields) :
    f.1 ∈ exportNames := by
  obtain ⟨name, hname, hf⟩ := List.mem_filterMap.1 h
  obtain ⟨v, -, rfl⟩ := Option.map_eq_some_iff.1 hf
  exact hname

theorem put_id (d : Document) (id : String) :
    put (namedFields d.exportFields) (.text "id") (.text id) = namedFields (d.identifiedFields id) := by
  -- An export has no identifier, so the new one comes last.
  have hunused : ∀ f ∈ namedFields d.exportFields, f.1 ≠ .text "id" := by
    intro f hf hid
    obtain ⟨g, hg, rfl⟩ := List.mem_map.1 hf
    have hname := name_mem_of_mem_exportFields hg
    rw [Scalar.text.inj hid] at hname
    revert hname
    decide
  rw [put_of_not_mem _ hunused, identifiedFields, namedFields, namedFields, List.map_append]
  rfl

theorem readItem_exportValue {d : Document} (h : d.IsPlain) (root : String) (path : Path) :
    Library.readItem root path 1 1 d.exportValue = .ok (d.reloaded path.stem) := by
  have hunnamed : get? (namedFields d.exportFields) "id" = none := by
    rw [get?_namedFields, lookup_exportFields, if_neg (by decide)]
  have hread : Document.ofValue .document (.object (namedFields (d.identifiedFields path.stem))) =
      .ok (d.reloaded path.stem) := by
    rw [ofValue_object, ofFields_eq_ok_iff]
    exact (d.written_identifiedFields path.stem).readFrom (isPlain_reloaded h path.stem)
  change Library.readItem root path 1 1 (.object (namedFields d.exportFields)) = _
  have hblank : ((none : Option Value).getD .null).isBlank = true := rfl
  have hfile : Library.fileId path 1 1 = path.stem := rfl
  rw [Library.readItem, hunnamed, hfile, put_id, if_pos hblank, hread]
  rfl

/-- A file that holds the export of a document is loaded as that one document, into any library. -/
theorem loadFile_exportValue {d : Document} (h : d.IsPlain) {files : Files} {path : Path}
    (hread : Library.readFile files path = .ok d.exportValue) (l : Library) :
    l.loadFile files path = (l.keepAll [d.reloaded path.stem], .ok [d.reloaded path.stem]) := by
  have hdocuments : Library.readDocuments files path = ([d.reloaded path.stem], none) := by
    rw [Library.readDocuments, hread]
    change Library.readItems files.root path 1 1 [d.exportValue] = _
    rw [Library.readItems, readItem_exportValue h]
    rfl
  rw [Library.loadFile_eq, hdocuments]
  rfl

theorem get?_keepAll_reloaded (d : Document) {path : Path} (hstem : path.stem ≠ "") (l : Library) :
    (l.keepAll [d.reloaded path.stem]).get? path.stem = some (d.reloaded path.stem) := by
  have hkey : (d.reloaded path.stem).key = path.stem := key_of_id rfl hstem
  rw [Library.get?_keepAll, last?_cons, if_pos hkey]
  rfl

theorem readFile_withFile {files : Files} {path : Path} {place : List String} (htarget : files.Target path place)
    {format : FileFormat} (hformat : FileFormat.ofSuffix? path.suffix = some format) {text : List Char}
    (htext : AllDirect text) :
    Library.readFile (files.withFile place (bytes text)) path = Library.readText format text := by
  obtain ⟨hfound, hshort⟩ := htarget.find?_withFile (bytes text)
  exact Library.readFile_of_allDirect hshort hfound hformat htext

theorem exportTo_eq_withFile {d : Document} (hobstacle : d.obstacle? = none) (hshort : d.hasLongInteger = false)
    {files : Files} {path : Path} {place : List String} (htarget : files.Target path place)
    {format : FileFormat} (hformat : FileFormat.ofSuffix? path.suffix = some format) :
    d.exportTo files path = (files.withFile place (bytes (d.exportText format)), .ok (d.exportText format)) := by
  have hwritten : d.written format = (d.exportText format, none) := by
    rw [written, hshort]
    rfl
  have hwrite : files.write path (bytes (d.exportText format)) =
      .ok (files.withFile place (bytes (d.exportText format))) :=
    Files.write_eq_ok_iff.2 ⟨place, htarget, rfl⟩
  unfold exportTo
  rw [hformat, hobstacle]
  dsimp only
  rw [hwritten]
  dsimp only
  rw [← bytes, hwrite]

/-- A document that was read from JSON text with finite numbers is written to any file that can be written, and
loaded from it into any library as what an export keeps of it, under the stem of the file's name. Where conditions
compare with something too deep, nothing is written. -/
theorem exportTo_then_loadFile {mode : ReadMode} {text : List Char} {v : Value} {d : Document}
    (hv : Json.read text = .ok v) (h : Document.ofValue mode v = .ok d) (hfinite : d.comparesFinite = true)
    {path : Path} {format : FileFormat} (hformat : FileFormat.ofSuffix? path.suffix = some format)
    {files : Files} (hwritable : files.IsWritable path) (hreads : d.ReadsBack format) :
    if d.comparedDepth ≤ Obstacle.depthLimit then
      ∃ files', d.exportTo files path = (files', .ok (d.exportText format)) ∧
        ∀ l : Library, ∃ l', l.loadFile files' path = (l', .ok [d.reloaded path.stem]) ∧
          l'.get? path.stem = some (d.reloaded path.stem)
    else d.exportTo files path = (files, .error (.obstacle .tooDeep)) := by
  obtain ⟨hjson, hintegers⟩ := Json.isData_of_read hv
  have hobstacle := obstacle?_eq_depthObstacle? (inherits hereditary_isJson hjson h)
  rw [depthObstacle?] at hobstacle
  split
  · rename_i hdepth
    rw [if_pos hdepth] at hobstacle
    have hshort : d.hasLongInteger = false := by
      refine List.any_eq_false.2 fun c hc => ?_
      exact Bool.eq_false_iff.1 (inherits hereditary_short hintegers h c hc)
    -- Where the path leads does not depend on what is written there.
    obtain ⟨_, hempty⟩ := hwritable
    obtain ⟨place, htarget, -⟩ := Files.write_eq_ok_iff.1 hempty
    have hread := (readFile_withFile htarget hformat (d.allDirect_exportText format)).trans hreads
    refine ⟨_, exportTo_eq_withFile hobstacle hshort htarget hformat, fun l => ?_⟩
    refine ⟨l.keepAll [d.reloaded path.stem], ?_, d.get?_keepAll_reloaded (Path.stem_ne_empty hformat) l⟩
    exact loadFile_exportValue (isPlain_of_ofValue hjson h hfinite) hread l
  · rename_i hdeep
    rw [if_neg hdeep] at hobstacle
    unfold exportTo
    rw [hformat, hobstacle]

def ownedText : List Char :=
  ("\x7b\"id\":\"k\",\"name\":\"Kettle\",\"nodes\":[\x7b\"id\":\"c\",\"type\":\"condition\"," ++
    "\"data\":\x7b\"value\":[null]\x7d\x7d],\"userId\":\"7\"\x7d").toList

def ownedValue : Value :=
  named [("id", .text "k"), ("name", .text "Kettle"), ("nodes", .list [named [("id", .text "c"),
    ("type", .text "condition"), ("data", named [("value", .list [.null])])]]), ("userId", .text "7")]

def ownedRule : Document :=
  { comparingRule (.list [.null]) with
    id := some "k"
    name := "Kettle"
    userId := some "7" }

theorem read_ownedText : Json.read ownedText = .ok ownedValue := by
  cbv

def ownedExport : Value :=
  named [("name", .text "Kettle"), ("nodes", .list [named [("id", .text "c"), ("type", .text "condition"),
    ("position", named [("x", .float (.finite false .zero)), ("y", .float (.finite false .zero))]),
    ("data", named [("value", .list [.null])])]]), ("edges", .list [])]

theorem exportValue_ownedRule : ownedRule.exportValue = ownedExport := rfl

set_option maxRecDepth 2000 in
theorem readsBack_ownedRule : ownedRule.ReadsBack .json := by
  rw [ReadsBack, exportText, exportValue_ownedRule]
  cbv

def kettlePath : Path := ⟨["kettle.JSON"]⟩

theorem target_kettlePath : (Files.empty "rules").Target kettlePath ["kettle.JSON"] :=
  ⟨by cbv, by decide, by decide, by decide⟩

theorem isWritable_kettlePath : (Files.empty "rules").IsWritable kettlePath :=
  ⟨_, Files.write_eq_ok_iff.2 ⟨_, target_kettlePath, rfl⟩⟩

/-- The rule that is loaded from the file has the file's name for its identifier, and nobody owns it. -/
theorem ownedRule_exported : ∃ files, ownedRule.exportTo (Files.empty "rules") kettlePath =
      (files, .ok (ownedRule.exportText .json)) ∧
    ∀ l : Library, ∃ l', l.loadFile files kettlePath =
        (l', .ok [{ comparingRule (.list [.null]) with id := some "kettle", name := "Kettle" }]) ∧
      l'.get? "kettle" = some { comparingRule (.list [.null]) with id := some "kettle", name := "Kettle" } :=
  exportTo_then_loadFile read_ownedText (rfl : Document.ofValue .document ownedValue = .ok ownedRule) rfl
    (by decide : FileFormat.ofSuffix? kettlePath.suffix = some .json) isWritable_kettlePath readsBack_ownedRule

def deepText : List Char :=
  "\x7b\"nodes\":[\x7b\"id\":\"c\",\"type\":\"condition\",\"data\":\x7b\"value\":".toList ++
    List.replicate 256 '[' ++ List.replicate 256 ']' ++ "\x7d\x7d]\x7d".toList

set_option maxRecDepth 5000 in
theorem read_deepText : Json.read deepText = .ok (comparing (nestedLists 255)) := by
  cbv

/-- A rule that was read from JSON text and compares with finite numbers only, of which nothing is written to a file
that can be written. -/
theorem deepText_notExported : ∃ d, Json.read deepText = .ok (comparing (nestedLists 255)) ∧
    Document.ofValue .document (comparing (nestedLists 255)) = .ok d ∧ d.comparesFinite = true ∧
    FileFormat.ofSuffix? kettlePath.suffix = some .json ∧ (Files.empty "rules").IsWritable kettlePath ∧
    d.exportTo (Files.empty "rules") kettlePath = (Files.empty "rules", .error (.obstacle .tooDeep)) := by
  have hformat : FileFormat.ofSuffix? kettlePath.suffix = some .json := by decide
  refine ⟨_, read_deepText, ofValue_comparing _, ?_, hformat, isWritable_kettlePath, ?_⟩
  · rw [comparesFinite_comparingRule, isFinite_nestedLists]
  · unfold exportTo
    rw [hformat, obstacle?_comparingRule, obstacle?_nestedLists]

end Document

end BlockRules
