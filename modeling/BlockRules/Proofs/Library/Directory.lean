import BlockRules.Proofs.Library.Loading
import BlockRules.Proofs.Library.Writing

set_option autoImplicit false

/-!
# Directories of files

A directory is loaded file by file, in the order of the names. What a file gives does not depend on what is in the
library when its turn comes, and a file that cannot be loaded gives nothing. So a directory gives what each of its
entries gives on its own.
-/
namespace BlockRules

namespace Files

/-- A path that can be looked up and leads to a directory at some place. -/
structure IsDirectoryAt (f : Files) (p : Path) (place : List String) : Prop where
  short : f.isTooLong p = false
  located : f.locate? [] p.names = some place
  directory : f.entry? place = some .directory

variable {f : Files} {p : Path} {place : List String}

theorem IsDirectoryAt.find?_eq (h : f.IsDirectoryAt p place) : f.find? p = some .directory := by
  rw [find?, h.located, Option.bind_some, h.directory]

theorem names_sorted (f : Files) (p : Path) : (f.names p).Pairwise (· ≤ ·) := by
  unfold names
  split
  · exact .nil
  · have htrans : ∀ a b c : String, decide (a ≤ b) = true → decide (b ≤ c) = true → decide (a ≤ c) = true := by
      simp only [decide_eq_true_eq]
      exact fun a b c => String.le_trans
    have htotal : ∀ a b : String, (decide (a ≤ b) || decide (b ≤ a)) = true := by
      simp only [Bool.or_eq_true, decide_eq_true_eq]
      exact String.le_total
    simpa only [decide_eq_true_eq] using List.pairwise_mergeSort htrans htotal _

theorem last_below_iff {names : List String} {name : String} :
    (if names.length = place.length + 1 ∧ place.isPrefixOf names then names.getLast? else none) = some name ↔
      names = place ++ [name] := by
  constructor
  · intro h
    split at h
    · rename_i hbelow
      obtain ⟨more, rfl⟩ := List.isPrefixOf_iff_prefix.1 hbelow.2
      have hone : more.length = 1 := by simpa using hbelow.1
      obtain ⟨last, rfl⟩ := List.length_eq_one_iff.1 hone
      rw [List.getLast?_concat] at h
      rw [Option.some.inj h]
    · cases h
  · rintro rfl
    rw [if_pos ⟨List.length_append, List.isPrefixOf_iff_prefix.2 (List.prefix_append _ _)⟩]
    exact List.getLast?_concat

theorem IsDirectoryAt.mem_names (h : f.IsDirectoryAt p place) {name : String} :
    name ∈ f.names p ↔ (f.entry? (place ++ [name])).isSome := by
  have hbelow : place ++ [name] ≠ [] := by simp
  rw [names, h.located, entry?, if_neg hbelow, Keyed.get?, Option.isSome_map, List.find?_isSome]
  simp only [List.mem_mergeSort, List.mem_filterMap, last_below_iff, decide_eq_true_eq]

theorem locate?_append {start names found : List String} (h : f.locate? start names = some found)
    (more : List String) : f.locate? start (names ++ more) = f.locate? found more := by
  induction names generalizing start with
  | nil =>
    cases h
    rfl
  | cons name rest ih =>
    rw [List.cons_append, locate?]
    rw [locate?] at h
    split at h
    · cases h
    · rename_i hdirectory
      rw [if_neg hdirectory]
      split at h
      · rename_i hup
        rw [if_pos hup]
        split at h
        · cases h
        · rename_i htop
          rw [if_neg htop, ih h]
      · rename_i hdown
        rw [if_neg hdown, ih h]

theorem IsDirectoryAt.locate?_child (h : f.IsDirectoryAt p place) {name : String} (hname : name ≠ "..") :
    f.locate? [] (p.child name).names = some (place ++ [name]) := by
  have hnames : (p.child name).names = p.names ++ [name] := rfl
  rw [hnames, locate?_append h.located, locate?, h.directory, if_neg (· rfl), if_neg hname, locate?]

theorem IsDirectoryAt.find?_child_withFile (h : f.IsDirectoryAt p place) {name other : String} (hname : name ≠ "..")
    (hother : other ≠ name) (hfree : f.entry? (place ++ [other]) ≠ some .directory) (content : List UInt8) :
    (f.withFile (place ++ [other]) content).find? (p.child name) = f.find? (p.child name) ∧
      (f.withFile (place ++ [other]) content).isTooLong (p.child name) = f.isTooLong (p.child name) := by
  have hlocated := h.locate?_child hname
  have hne : place ++ [name] ≠ place ++ [other] := by simpa using hother.symm
  constructor
  · rw [find?, find?, (locate?_withFile hfree hlocated).1, hlocated, Option.bind_some, Option.bind_some,
      entry?_withFile_of_ne hne]
  · rw [isTooLong, isTooLong, (locate?_withFile hfree hlocated).2]

end Files

namespace Library
open Gathering

variable {files : Files} {p : Path}

/-- What loading a file gives on its own, in an empty library: nothing if that fails. -/
def loadedAlone (files : Files) (p : Path) : List Document :=
  ((empty none).loadFile files p).2.toOption.getD []

/-- A failed load may count as one that gives nothing. -/
def passOver : Except LoadError (List Document) → Except LoadError (List Document)
  | .ok ds => .ok ds
  | .error e => if e.isPassedOver then .ok [] else .error e

theorem loadFile_result (l l' : Library) (files : Files) (p : Path) :
    (l.loadFile files p).2 = (l'.loadFile files p).2 := by
  rw [loadFile_eq, loadFile_eq]

theorem loadedAlone_of_ok {l : Library} {ds : List Document} (h : (l.loadFile files p).2 = .ok ds) :
    loadedAlone files p = ds := by
  rw [loadedAlone, loadFile_result _ l, h]
  rfl

theorem loadedAlone_of_error {l : Library} {e : LoadError} (h : (l.loadFile files p).2 = .error e) :
    loadedAlone files p = [] := by
  rw [loadedAlone, loadFile_result _ l, h]
  rfl

theorem exists_error_of_format (files : Files) (h : FileFormat.ofSuffix? p.suffix = none) (l : Library) :
    ∃ e, (l.loadFile files p).2 = .error e ∧ e.isPassedOver = true := by
  have hread : ∃ e, readFile files p = .error e ∧ e.isPassedOver = true := by
    unfold readFile
    split
    · exact ⟨_, rfl, rfl⟩
    · rw [h]
      cases files.find? p with
      | none => exact ⟨_, rfl, rfl⟩
      | some entry => exact ⟨_, rfl, rfl⟩
  obtain ⟨e, he, hpassed⟩ := hread
  refine ⟨e, ?_, hpassed⟩
  rw [loadFile, he]

theorem loadedAlone_congr {files' : Files} (hroot : files'.root = files.root) (hfound : files'.find? p = files.find? p)
    (hlong : files'.isTooLong p = files.isTooLong p) : loadedAlone files' p = loadedAlone files p := by
  have hread : readFile files' p = readFile files p := by rw [readFile, readFile, hroot, hfound, hlong]
  rw [loadedAlone, loadedAlone, loadFile, loadFile, hread, hroot]

/-- Files give one after the other what they give alone, up to one that fails in a way that is not passed over. -/
theorem loadFiles_result (files : Files) (l : Library) (paths : List Path) :
    (loadFiles files l paths).2 = paths.flatMapM fun p => passOver ((empty none).loadFile files p).2 := by
  induction paths generalizing l with
  | nil => rfl
  | cons p rest ih =>
    rw [loadFiles, List.flatMapM_cons, loadFile_result (empty none) l]
    obtain ⟨l', result⟩ := l.loadFile files p
    cases result with
    | ok ds =>
      change (loadFiles files l' rest).2.map (ds ++ ·) = _
      rw [ih]
      cases rest.flatMapM fun p => passOver ((empty none).loadFile files p).2 <;> rfl
    | error e =>
      dsimp only
      rw [passOver]
      split
      · rw [ih]
        cases rest.flatMapM fun p => passOver ((empty none).loadFile files p).2 <;> rfl
      · rfl

theorem passOver_of_format (h : FileFormat.ofSuffix? p.suffix = none) :
    passOver ((empty none).loadFile files p).2 = .ok [] := by
  obtain ⟨e, he, hpassed⟩ := exists_error_of_format files h (empty none)
  rw [he, passOver, if_pos hpassed]

theorem passOver_eq_loadedAlone
    (h : ∀ e, ((empty none).loadFile files p).2 = .error e → e.isPassedOver = true) :
    passOver ((empty none).loadFile files p).2 = .ok (loadedAlone files p) := by
  cases hload : ((empty none).loadFile files p).2 with
  | ok ds => rw [loadedAlone_of_ok hload, passOver]
  | error e => rw [loadedAlone_of_error hload, passOver, if_pos (h e hload)]

theorem loadDirectory_result {l : Library} {directory : Option Path} {path : Path} {place : List String}
    (hpath : directory.or l.directory = some path) (hdir : files.IsDirectoryAt path place) :
    (l.loadDirectory files directory).2 =
      (files.names path).flatMapM fun name => passOver ((empty none).loadFile files (path.child name)).2 := by
  have hskipped : ∀ p ∈ (files.names path).map path.child, (FileFormat.ofSuffix? p.suffix).isSome = false →
      passOver ((empty none).loadFile files p).2 = .ok [] := by
    intro p _ hformat
    exact passOver_of_format (by simpa using hformat)
  have hfiles : l.loadDirectory files directory = loadFiles files l
      (((files.names path).map path.child).filter fun p => (FileFormat.ofSuffix? p.suffix).isSome) := by
    simp only [loadDirectory, hpath, hdir.short, hdir.find?_eq, Bool.false_eq_true, if_false]
  rw [hfiles, loadFiles_result, flatMapM_filter hskipped, flatMapM_map]

theorem loadedAlone_of_format (h : FileFormat.ofSuffix? p.suffix = none) : loadedAlone files p = [] := by
  obtain ⟨e, he, -⟩ := exists_error_of_format files h (empty none)
  exact loadedAlone_of_error he

theorem loadedAlone_up (files : Files) (p : Path) : loadedAlone files (p.child "..") = [] := by
  have hname : (p.child "..").name = ['.', '.'] := by
    rw [Path.name, Path.child, List.getLast?_concat]
    rfl
  apply loadedAlone_of_format
  rw [Path.suffix, hname]
  rfl

/-- Loading a directory whose files can be loaded, or fail in a way that is passed over, gives what each entry gives
on its own, in the order of the names. An entry gives what loading it gives from any library, nothing if that fails or
if it is of another format, and this does not change with the content of the files beside it. -/
theorem loadDirectory_gives (l : Library) {files : Files} {directory : Option Path} {path : Path} {place : List String}
    (hpath : directory.or l.directory = some path) (hdir : files.IsDirectoryAt path place)
    (hpassed : ∀ name ∈ files.names path, (FileFormat.ofSuffix? (path.child name).suffix).isSome = true →
      ∀ e, ((empty none).loadFile files (path.child name)).2 = .error e → e.isPassedOver = true) :
    (l.loadDirectory files directory).2 =
      .ok ((files.names path).flatMap fun name => loadedAlone files (path.child name)) ∧
    ((files.names path).Pairwise (· ≤ ·) ∧
      ∀ name, name ∈ files.names path ↔ (files.entry? (place ++ [name])).isSome = true) ∧
    (∀ p, FileFormat.ofSuffix? p.suffix = none → loadedAlone files p = []) ∧
    (∀ (l' : Library) p,
      (∀ ds, (l'.loadFile files p).2 = .ok ds → loadedAlone files p = ds) ∧
      ∀ e, (l'.loadFile files p).2 = .error e → loadedAlone files p = []) ∧
    ∀ name other content, other ≠ name → files.entry? (place ++ [other]) ≠ some .directory →
      loadedAlone (files.withFile (place ++ [other]) content) (path.child name) =
        loadedAlone files (path.child name) := by
  refine ⟨?_, ⟨files.names_sorted path, fun name => hdir.mem_names⟩, fun p => loadedAlone_of_format, ?_, ?_⟩
  · rw [loadDirectory_result hpath hdir]
    apply flatMapM_ok
    intro name hname
    cases hformat : FileFormat.ofSuffix? (path.child name).suffix with
    | none => rw [passOver_of_format hformat, loadedAlone_of_format hformat]
    | some format => exact passOver_eq_loadedAlone (hpassed name hname (by rw [hformat]; rfl))
  · exact fun l' p => ⟨fun ds => loadedAlone_of_ok, fun e => loadedAlone_of_error⟩
  · intro name other content hother hfree
    by_cases hname : name = ".."
    · rw [hname, loadedAlone_up, loadedAlone_up]
    · obtain ⟨hfound, hlong⟩ := hdir.find?_child_withFile hname hother hfree content
      exact loadedAlone_congr rfl hfound hlong

def ruleText (name : String) : List UInt8 :=
  ("\x7b\"name\": \"" ++ name ++ "\"\x7d").toList.map fun c => UInt8.ofNat c.toNat

/-- Two rules among a file that fails half-way, a note and a directory. -/
def shelf : Files where
  root := "home"
  entries :=
    [(["rules"], .directory), (["rules", "lamp.json"], .file (ruleText "Lamp")), (["rules", "old.yaml"], .directory),
      (["rules", "pair.json"], .file ("[\x7b\"name\": \"First\"\x7d, 1]".toList.map fun c => UInt8.ofNat c.toNat)),
      (["rules", "notes.txt"], .file (ruleText "Note")), (["rules", "fan.json"], .file (ruleText "Fan"))]

def shelfPath : Path := ⟨["rules"]⟩

def namedRule (id name : String) : Document := { Document.ofGraph ⟨[], []⟩ with id := some id, name := name }

theorem shelf_isDirectory : shelf.IsDirectoryAt shelfPath ["rules"] := ⟨by decide, by decide, by decide⟩

theorem shelf_names : shelf.names shelfPath = ["fan.json", "lamp.json", "notes.txt", "old.yaml", "pair.json"] := by
  have hinside : (shelf.entries.filterMap fun e =>
      if e.1.length = ["rules"].length + 1 ∧ ["rules"].isPrefixOf e.1 then e.1.getLast? else none) =
      ["lamp.json", "old.yaml", "pair.json", "notes.txt", "fan.json"] := rfl
  rw [Files.names, shelf_isDirectory.located]
  dsimp only
  rw [hinside]
  simp [List.mergeSort, List.MergeSort.Internal.splitInTwo]

theorem readFile_shelf :
    readFile shelf (shelfPath.child "fan.json") = .ok (.object [(.text "name", .text "Fan")]) ∧
    readFile shelf (shelfPath.child "lamp.json") = .ok (.object [(.text "name", .text "Lamp")]) ∧
    readFile shelf (shelfPath.child "pair.json") = .ok (.list [.object [(.text "name", .text "First")], .int 1]) ∧
    readFile shelf (shelfPath.child "old.yaml") = .error .isDirectory ∧
    readFile shelf (shelfPath.child "notes.txt") = .error (.unsupportedType ".txt") := by
  have hfan : readText .json "\x7b\"name\": \"Fan\"\x7d".toList = .ok (.object [(.text "name", .text "Fan")]) := by cbv
  have hlamp : readText .json "\x7b\"name\": \"Lamp\"\x7d".toList = .ok (.object [(.text "name", .text "Lamp")]) := by
    cbv
  refine ⟨(readFile_of_allDirect (by decide) rfl (by decide) (by decide)).trans hfan,
    (readFile_of_allDirect (by decide) rfl (by decide) (by decide)).trans hlamp,
    (readFile_of_allDirect (by decide) rfl (by decide) (by decide)).trans readText_pair, ?_, ?_⟩
  · rfl
  · rfl

theorem shelf_loads (l : Library) :
    (l.loadFile shelf (shelfPath.child "fan.json")).2 = .ok [namedRule "fan" "Fan"] ∧
    (l.loadFile shelf (shelfPath.child "lamp.json")).2 = .ok [namedRule "lamp" "Lamp"] := by
  obtain ⟨hfan, hlamp, -⟩ := readFile_shelf
  rw [loadFile, hfan, loadFile, hlamp]
  exact ⟨rfl, rfl⟩

theorem shelf_fails (l : Library) :
    (l.loadFile shelf (shelfPath.child "pair.json")).2 = .error (.notMapping "home/rules/pair.json") ∧
    (l.loadFile shelf (shelfPath.child "old.yaml")).2 = .error .isDirectory ∧
    (l.loadFile shelf (shelfPath.child "notes.txt")).2 = .error (.unsupportedType ".txt") := by
  obtain ⟨-, -, hpair, hold, hnotes⟩ := readFile_shelf
  rw [loadFile, hpair, loadFile, hold, loadFile, hnotes]
  exact ⟨rfl, rfl, rfl⟩

/-- A library that holds a rule already loads the two, also when the file that fails is emptied. -/
theorem shelf_gives : shelf.IsDirectoryAt shelfPath ["rules"] ∧
    (∀ name ∈ shelf.names shelfPath, (FileFormat.ofSuffix? (shelfPath.child name).suffix).isSome = true →
      ∀ e, ((empty none).loadFile shelf (shelfPath.child name)).2 = .error e → e.isPassedOver = true) ∧
    (((empty none).keepAll [pairFirst]).loadDirectory shelf (some shelfPath)).2 =
      .ok [namedRule "fan" "Fan", namedRule "lamp" "Lamp"] ∧
    loadedAlone (shelf.withFile ["rules", "pair.json"] []) (shelfPath.child "fan.json") = [namedRule "fan" "Fan"] := by
  obtain ⟨hfan, hlamp⟩ := shelf_loads (empty none)
  obtain ⟨hpair, hold, hnotes⟩ := shelf_fails (empty none)
  have hpassed : ∀ name ∈ shelf.names shelfPath, (FileFormat.ofSuffix? (shelfPath.child name).suffix).isSome = true →
      ∀ e, ((empty none).loadFile shelf (shelfPath.child name)).2 = .error e → e.isPassedOver = true := by
    rw [shelf_names]
    simp only [List.forall_mem_cons, hfan, hlamp, hnotes, hold, hpair, Except.error.injEq]
    simp [LoadError.isPassedOver]
  have hpath : (some shelfPath).or ((empty none).keepAll [pairFirst]).directory = some shelfPath := rfl
  obtain ⟨hresult, -, -, -, hbeside⟩ := loadDirectory_gives _ hpath shelf_isDirectory hpassed
  refine ⟨shelf_isDirectory, hpassed, ?_, ?_⟩
  · rw [hresult, shelf_names]
    simp only [List.flatMap_cons, List.flatMap_nil, loadedAlone_of_ok hfan, loadedAlone_of_ok hlamp,
      loadedAlone_of_error hnotes, loadedAlone_of_error hold, loadedAlone_of_error hpair]
    rfl
  · rw [← loadedAlone_of_ok hfan]
    exact hbeside "fan.json" "pair.json" [] (by decide) (by decide)

end Library

end BlockRules
