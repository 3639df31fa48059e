import BlockRules.Proofs.Library.Directory
import BlockRules.Proofs.Library.Export
import BlockRules.Proofs.Service.Paths
import BlockRules.Proofs.Service.Rules

set_option autoImplicit false

/-!
# The list of rules and the page of a rule

Every document in the library of a service has an identifier of its own, under which it is kept, whatever files the
library was read from. So the list of the rules has each identifier once, and the page of a rule shows what the list
says of it. A page can still fail, since it holds the document itself, or be out of reach, where a slash is in the
identifier.
-/
namespace BlockRules
open Value

variable {s : Service} {l : Library}

namespace Service

theorem keeps_readLibrary (s : Service) : s.readLibrary.1.Keeps Document.HasId := by
  obtain ⟨ds, hds, hread⟩ := Library.exists_loadDirectory_eq (.empty s.rulesPlace.2) s.rulesPlace.1 none
  rw [readLibrary, hread]
  exact (Library.keeps_empty _ _).keepAll hds

theorem keeps_of_rules {settings : Settings} {files : Files} {uses : List Use}
    (h : ((start settings files).after uses).rules.2 = .ok l) : l.Keeps Document.HasId := by
  have hl : l = (start settings files).readLibrary.1 := by
    obtain hfirst | hread := ((start settings files).leadsTo_after uses).rules_eq rfl
    · exact (reading_eq_ok_iff.1 (hfirst.symm.trans h)).1
    · exact Except.ok.inj (h.symm.trans hread)
  rw [hl]
  exact keeps_readLibrary _

end Service

namespace Value

def hasType (kind : BlockKind) (node : Value) : Bool :=
  match node with
  | .object fields => match get? fields "type" with
    | some (.text name) => name == kind.name
    | _ => false
  | _ => false

def blockCount (kind : BlockKind) (document : Value) : Nat :=
  match document with
  | .object fields => match get? fields "nodes" with
    | some (.list nodes) => nodes.countP (hasType kind)
    | _ => 0
  | _ => 0

end Value

namespace Document

variable (d : Document)

theorem blockCount_toValue (kind : BlockKind) :
    blockCount kind d.toValue = d.nodes.countP fun n => n.block.kind.name == kind.name := by
  have hnodes : get? (namedFields d.toFields) "nodes" = some (.list (d.nodes.map Node.toValue)) := by
    rw [get?_namedFields, (written_toFields d).nodes]
  change (match get? (namedFields d.toFields) "nodes" with
    | some (.list nodes) => nodes.countP (hasType kind)
    | _ => 0) = _
  rw [hnodes]
  exact List.countP_map

theorem conditions_length : d.conditions.length = blockCount .condition d.toValue := by
  rw [blockCount_toValue, Graph.conditions, List.length_filterMap_eq_countP]
  refine List.countP_congr fun n _ => ?_
  cases n.block <;> simp [Block.kind, BlockKind.name]

theorem actions_length : d.actions.length = blockCount .action d.toValue := by
  rw [blockCount_toValue, Graph.actions, List.length_filterMap_eq_countP]
  refine List.countP_congr fun n _ => ?_
  cases n.block <;> simp [Block.kind, BlockKind.name]

end Document

/-- The page of a rule shows what the list says of it. -/
structure RuleDetail.Shows (r : RuleDetail) (i : RuleInfo) : Prop where
  id : r.id = i.id
  ownId : r.document.id = some i.id
  name : r.document.name = i.name
  isValid : r.preview.validation.isValid = i.isValid
  naturalLanguage : r.preview.naturalLanguage = i.naturalLanguage
  conditions : blockCount .condition r.document.toValue = i.conditions
  actions : blockCount .action r.document.toValue = i.actions

theorem RuleInfo.ofDocument_id {d : Document} (h : d.HasId) : (ofDocument d).id = d.key := by
  rw [ofDocument, h.id_eq]
  rfl

theorem RuleInfo.shows_ofDocument {d : Document} (h : d.HasId) :
    RuleDetail.Shows ⟨(ofDocument d).id, d, d.preview⟩ (ofDocument d) where
  id := rfl
  ownId := by rw [ofDocument_id h, h.id_eq]
  name := rfl
  isValid := rfl
  naturalLanguage := rfl
  conditions := d.conditions_length.symm
  actions := d.actions_length.symm

namespace Service

theorem answer_rules (hrules : s.rules.2 = .ok l) (device : Device) (body : List Char) :
    s.answer device .rules body = (s.rules.1, if ∀ d ∈ l.documents, d.isShowable = true then
      .ok (.rules (l.documents.map .ofDocument)) else .error .failed) := by
  change s.withRules (fun l => (list l).map Answer.rules) = _
  rw [withRules_of_ok hrules, list]
  simp only [List.all_eq_true]
  split <;> rfl

theorem answer_rule (hrules : s.rules.2 = .ok l) {id : String} {d : Document} (hfound : l.get? id = some d)
    (hshowable : d.isShowable = true) (device : Device) (body : List Char) :
    (s.answer device (.rule id) body).2 =
      if d.partObstacle? = none then .ok (.rule ⟨id, d, d.preview⟩) else .error .failed := by
  change (s.withRules fun l => (detail l id).map Answer.rule).2 = _
  rw [withRules_of_ok hrules, detail, lookUp, hfound]
  simp only [Except.bind, hshowable, Bool.true_and, Option.isNone_iff_eq_none]
  split <;> rfl

end Service

/-- Whether a file was read but escapes a surrogate on its own. -/
def LoadError.isLoneSurrogate : LoadError → Bool
  | json .loneSurrogate => true
  | yaml .loneSurrogate => true
  | _ => false

namespace Service

/-- Of the files that the rules are read from none escapes a surrogate on its own. -/
def ReadsText (s : Service) : Prop :=
  ∀ path, s.rulesPlace.2 = some path → ∀ name ∈ s.rulesPlace.1.names path, ∀ e,
    Library.readFile s.rulesPlace.1 (path.child name) = .error e → e.isLoneSurrogate = false

/-- Whatever a service has been used for, once it gives a library it lists all of its rules, each under another
identifier that is not empty, unless one of them cannot be shown. The page of a listed rule, now and later, shows
what the list says of it if its document can be a part of an answer, and there is a path to that page if no slash is
in the identifier. This is said of files that hold texts: what escapes a surrogate on its own is loaded as well, but
cannot be sent. -/
theorem list_agrees_with_pages (settings : Settings) (files : Files) (uses uses' : List Use) (l : Library)
    (hrules : ((start settings files).after uses).rules.2 = .ok l) : (start settings files).ReadsText →
    let s := (start settings files).after uses
    let infos := l.documents.map RuleInfo.ofDocument
    (∀ device body, s.answer device .rules body =
        (s.rules.1, if ∀ d ∈ l.documents, d.isShowable = true then .ok (.rules infos) else .error .failed)) ∧
      (∃ fields, (Answer.rules infos).toValue = .object fields ∧
        get? fields "total" = some (.int infos.length)) ∧
      (infos.map (·.id)).Nodup ∧
      ∀ i ∈ infos, i.id ≠ "" ∧ ∃ d, l.get? i.id = some d ∧ RuleDetail.Shows ⟨i.id, d, d.preview⟩ i ∧
        (d.isShowable = true → ∀ device body, ((s.rules.1.after uses').answer device (.rule i.id) body).2 =
          if d.partObstacle? = none then .ok (.rule ⟨i.id, d, d.preview⟩) else .error .failed) ∧
        ∀ path, Page.find "GET" path = .ok (.rule i.id) ↔
          path = "/rules/".toList ++ i.id.toList ∧ '/' ∉ i.id.toList := by
  intro _ s infos
  have hkeeps : l.Keeps Document.HasId := keeps_of_rules hrules
  have hinfo : ∀ x ∈ l.rules, (RuleInfo.ofDocument x.2).id = x.1 ∧ x.2.HasId := fun x hx => by
    obtain ⟨hkey, hid⟩ := hkeeps.own x.1 x.2 hx
    exact ⟨(RuleInfo.ofDocument_id hid).trans hkey, hid⟩
  have hids : infos.map (·.id) = l.rules.keys := by
    rw [List.map_map, Library.documents, List.map_map]
    exact List.map_congr_left fun x hx => (hinfo x hx).1
  refine ⟨answer_rules hrules, ⟨_, rfl, rfl⟩, hids ▸ hkeeps.nodup, fun i hi => ?_⟩
  obtain ⟨d, hd, rfl⟩ := List.mem_map.1 hi
  obtain ⟨x, hx, rfl⟩ := List.mem_map.1 hd
  obtain ⟨hid, hasId⟩ := hinfo x hx
  have hne : (RuleInfo.ofDocument x.2).id ≠ "" := (RuleInfo.ofDocument_id hasId).symm ▸ hasId.key_ne
  have hfound : l.get? (RuleInfo.ofDocument x.2).id = some x.2 := hkeeps.get?_eq_some_iff.2 (hid.symm ▸ hx)
  have hlater : (s.rules.1.after uses').rules.2 = .ok l :=
    (leadsTo_after _ uses').rules_of_some (library_rules_of_ok hrules)
  refine ⟨hne, x.2, hfound, RuleInfo.shows_ofDocument hasId, answer_rule hlater hfound, fun path => ?_⟩
  rw [Page.find_rule_iff, and_iff_right hne]

def shelfService : Service := start { Settings.default with rulesDirectory := some "rules" } Library.shelf

theorem rulesPlace_shelf : shelfService.rulesPlace = (Library.shelf, some Library.shelfPath) := by
  have hpath : Path.ofText "rules" = Library.shelfPath := by cbv
  change (Library.shelf, some (Path.ofText "rules")) = _
  rw [hpath]

theorem readsText_shelf : shelfService.ReadsText := by
  obtain ⟨hfan, hlamp, hpair, hold, hnotes⟩ := Library.readFile_shelf
  intro path hpath name hname e he
  rw [rulesPlace_shelf] at hpath hname he
  cases hpath
  rw [Library.shelf_names] at hname
  simp only [List.mem_cons, List.not_mem_nil, or_false] at hname
  obtain rfl | rfl | rfl | rfl | rfl := hname
  · cases hfan.symm.trans he
  · cases hlamp.symm.trans he
  · cases hnotes.symm.trans he
    rfl
  · cases hold.symm.trans he
    rfl
  · cases hpair.symm.trans he

def shelfLibrary : Library :=
  ⟨some Library.shelfPath, [("fan", Library.namedRule "fan" "Fan"), ("lamp", Library.namedRule "lamp" "Lamp"),
    ("pair-1", Library.pairFirst)]⟩

theorem rules_shelf : shelfService.rules.2 = .ok shelfLibrary := by
  obtain ⟨hfan, hlamp, hpair, hold, -⟩ := Library.readFile_shelf
  have hfiles : (["fan.json", "lamp.json", "notes.txt", "old.yaml", "pair.json"].map Library.shelfPath.child).filter
      (fun p => (FileFormat.ofSuffix? p.suffix).isSome) =
      ["fan.json", "lamp.json", "old.yaml", "pair.json"].map Library.shelfPath.child := by decide
  have hread : shelfService.readLibrary = (shelfLibrary, .ok [Library.namedRule "fan" "Fan",
      Library.namedRule "lamp" "Lamp"]) := by
    rw [readLibrary, rulesPlace_shelf, Library.loadDirectory]
    dsimp only [Library.empty, Option.none_or]
    rw [Library.shelf_isDirectory.short, if_neg Bool.false_ne_true, Library.shelf_isDirectory.find?_eq]
    dsimp only
    rw [Library.shelf_names, hfiles]
    simp only [List.map_cons, List.map_nil, Library.loadFiles, Library.loadFile, hfan, hlamp, hpair, hold]
    rfl
  rw [rules_of_none rfl, reading, hread]

/-- The file of this rule is loaded before one that fails half-way, and its page is there after the rules were asked
for once more. -/
theorem fan_shown :
    let d := Library.namedRule "fan" "Fan"
    (shelfService.after []).rules.2 = .ok shelfLibrary ∧ shelfService.ReadsText ∧
      (∀ device body, (shelfService.answer device .rules body).2 =
        .ok (.rules (shelfLibrary.documents.map .ofDocument))) ∧
      RuleDetail.Shows ⟨"fan", d, d.preview⟩ (.ofDocument d) ∧
      (∀ device body, (((shelfService.after []).rules.1.after [.rules]).answer device (.rule "fan") body).2 =
        .ok (.rule ⟨"fan", d, d.preview⟩)) ∧
      Page.find "GET" "/rules/fan".toList = .ok (.rule "fan") := by
  intro d
  have hrules : (shelfService.after []).rules.2 = .ok shelfLibrary := rules_shelf
  obtain ⟨hlist, -, -, hpages⟩ := list_agrees_with_pages { Settings.default with rulesDirectory := some "rules" }
    Library.shelf [] [.rules] shelfLibrary hrules readsText_shelf
  have hlisted : RuleInfo.ofDocument d ∈ shelfLibrary.documents.map .ofDocument := List.mem_map_of_mem (.head _)
  obtain ⟨-, d', hfound, hshows, hpage, hpath⟩ := hpages _ hlisted
  obtain rfl : d = d' := Option.some.inj hfound
  have hall : ∀ d ∈ shelfLibrary.documents, d.isShowable = true := by decide
  refine ⟨hrules, readsText_shelf, fun device body => ?_, hshows, fun device body => ?_, ?_⟩
  · have hanswer := hlist device body
    rw [if_pos hall] at hanswer
    exact congrArg Prod.snd hanswer
  · exact (hpage rfl device body).trans (if_pos rfl)
  · exact (hpath _).2 ⟨by decide, by decide⟩

def oneFile (text : List Char) : Files := ⟨"rules", [(["rule.json"], .file (Text.bytes text))]⟩

def oneFilePath : Path := ⟨["rule.json"]⟩

def oneFileService (text : List Char) : Service :=
  start { Settings.default with rulesDirectory := some "." } (oneFile text)

theorem readLibrary_oneFile (text : List Char) : (oneFileService text).readLibrary =
    Library.loadFiles (oneFile text) (.empty (some ⟨[]⟩)) [oneFilePath] := by
  have hdirectory : Path.ofText "." = ⟨[]⟩ := by cbv
  have hshort : (oneFile text).isTooLong ⟨[]⟩ = false := rfl
  have hfound : (oneFile text).find? ⟨[]⟩ = some .directory := rfl
  have hnames : (oneFile text).names ⟨[]⟩ = ["rule.json"] := by cbv
  change (Library.empty (some (.ofText "."))).loadDirectory (oneFile text) none = _
  rw [hdirectory, Library.loadDirectory]
  dsimp only [Library.empty, Option.none_or]
  rw [hshort, hfound, hnames]
  rfl

theorem readFile_oneFile {text : List Char} (h : Text.AllDirect text) :
    Library.readFile (oneFile text) oneFilePath = Library.readText .json text := by
  have hshort : (oneFile text).isTooLong oneFilePath = false := rfl
  have hfound : (oneFile text).find? oneFilePath = some (.file (Text.bytes text)) := rfl
  exact Library.readFile_of_allDirect hshort hfound (by decide) h

/-- A file with one rule makes a library of that rule. -/
theorem rules_oneFile {text : List Char} {v : Value} {d : Document} {id : String} (hdirect : Text.AllDirect text)
    (hread : Library.readText .json text = .ok v) (hone : Library.itemsOf v = [v])
    (hitem : Library.readItem "rules" oneFilePath 1 1 v = .ok d) (hid : d.id = some id) (hne : id ≠ "") :
    (oneFileService text).rules.2 = .ok ⟨some ⟨[]⟩, [(id, d)]⟩ := by
  have hkey : d.key = id := Document.key_of_id hid hne
  have hfile : (Library.empty (some ⟨[]⟩)).loadFile (oneFile text) oneFilePath =
      (⟨some ⟨[]⟩, [(id, d)]⟩, .ok [d]) := by
    have hadd : (Library.empty (some ⟨[]⟩)).add d = .ok (⟨some ⟨[]⟩, [(id, d)]⟩, d) := by
      rw [Library.add_hasId _ ⟨id, hid, hne⟩, ← hkey]
      rfl
    rw [Library.loadFile, readFile_oneFile hdirect, hread]
    change Library.addItems "rules" oneFilePath (Library.itemsOf v).length _ 1 (Library.itemsOf v) = _
    have hkept : (Library.readItem "rules" oneFilePath 1 1 v >>= (Library.empty (some ⟨[]⟩)).add) =
        .ok (⟨some ⟨[]⟩, [(id, d)]⟩, d) := by
      rw [hitem]
      exact hadd
    rw [hone, Library.addItems, List.length_singleton, hkept]
    rfl
  rw [rules_of_none rfl, reading, readLibrary_oneFile, Library.loadFiles, hfile]
  rfl

def comparingDeep (v : Value) : Document := { Document.comparingRule v with id := some "rule" }

theorem readItem_comparing (v : Value) :
    Library.readItem "rules" oneFilePath 1 1 (Document.comparing v) = .ok (comparingDeep v) := by
  cbv

theorem allDirect_deepText : Text.AllDirect Document.deepText :=
  Text.allDirect_append.2 ⟨Text.allDirect_append.2 ⟨Text.allDirect_append.2 ⟨by decide,
    Text.allDirect_replicate (by decide) 256⟩, Text.allDirect_replicate (by decide) 256⟩, by decide⟩

theorem readText_deepText :
    Library.readText .json Document.deepText = .ok (Document.comparing (nestedLists 255)) := by
  have hmark : Document.deepText.head? ≠ some '\uFEFF' := by decide
  rw [Library.readText, Json.readFile, if_neg hmark, Document.read_deepText]
  rfl

theorem hasLongInteger_nestedLists (n : Nat) : (nestedLists n).hasLongInteger = false := by
  induction n with
  | zero => rfl
  | succ n ih => rw [nestedLists, hasLongInteger, haveLongInteger, ih]; rfl

theorem isShowable_comparingDeep (v : Value) : (comparingDeep v).isShowable = !v.hasLongInteger :=
  congrArg (!·) (Bool.or_false _)

def slashText : List Char := "\x7b\"id\":\"a/b\"\x7d".toList

def slashRule : Document := { Document.ofGraph ⟨[], []⟩ with id := some "a/b" }

theorem readItem_slash :
    Library.readItem "rules" oneFilePath 1 1 (named [("id", .text "a/b")]) = .ok slashRule := by
  cbv

theorem readText_slashText : Library.readText .json slashText = .ok (named [("id", .text "a/b")]) := by
  cbv

theorem answer_rules_one {directory : Option Path} {id : String} {d : Document}
    (hrules : s.rules.2 = .ok ⟨directory, [(id, d)]⟩) (hshowable : d.isShowable = true) (device : Device)
    (body : List Char) : (s.answer device .rules body).2 = .ok (.rules [.ofDocument d]) := by
  have hall : ∀ d' ∈ [d], d'.isShowable = true := fun d' hd => List.mem_singleton.1 hd ▸ hshowable
  rw [answer_rules hrules]
  exact if_pos hall

/-- A rule that compares with something too deep is listed, but its page fails; and no path leads to the page of a
listed rule with a slash in its identifier. -/
theorem rules_withoutPage :
    (∀ device body, ((oneFileService Document.deepText).answer device .rules body).2 =
        .ok (.rules [.ofDocument (comparingDeep (nestedLists 255))]) ∧
      ((oneFileService Document.deepText).answer device (.rule "rule") body).2 = .error .failed) ∧
    (∀ device body, ((oneFileService slashText).answer device .rules body).2 =
      .ok (.rules [.ofDocument slashRule])) ∧
    (RuleInfo.ofDocument (comparingDeep (nestedLists 255))).id = "rule" ∧
    (RuleInfo.ofDocument slashRule).id = "a/b" ∧ ∀ path, Page.find "GET" path ≠ .ok (.rule "a/b") := by
  have hdeep : (oneFileService Document.deepText).rules.2 = _ :=
    rules_oneFile allDirect_deepText readText_deepText rfl (readItem_comparing _) rfl (by decide)
  have hslash : (oneFileService slashText).rules.2 = _ :=
    rules_oneFile (by decide) readText_slashText rfl readItem_slash rfl (by decide)
  have hshowable : (comparingDeep (nestedLists 255)).isShowable = true := by
    rw [isShowable_comparingDeep, hasLongInteger_nestedLists]
    rfl
  have hobstacle : (comparingDeep (nestedLists 255)).partObstacle? = some .tooDeep := by
    have hdocument : (comparingDeep (nestedLists 255)).obstacle? = some .tooDeep :=
      (Document.obstacle?_comparingRule _).trans Document.obstacle?_nestedLists
    rw [Document.partObstacle?, hdocument, Option.some_or]
  refine ⟨fun device body => ⟨answer_rules_one hdeep hshowable device body, ?_⟩,
    answer_rules_one hslash rfl, rfl, rfl, fun path hpath => ?_⟩
  · rw [answer_rule hdeep rfl hshowable, hobstacle]
    rfl
  · exact absurd (Page.find_rule_iff.1 hpath).2.2 (by decide)

end Service

end BlockRules
