import BlockRules.Proofs.Text.Direct
import BlockRules.Yaml.Writing

set_option autoImplicit false

namespace BlockRules.Yaml
open Text

theorem Style.isDirect_iff {c : Char} : Style.isDirect c = true ↔ IsDirect c := by
  simp [Style.isDirect, IsDirect]

theorem allDirect_of_not_any {s : List Char} (h : ¬s.any (fun c => !Style.isDirect c) = true) : AllDirect s := by
  intro c hc
  rw [Bool.not_eq_true, List.any_eq_false] at h
  exact Style.isDirect_iff.1 (by simpa using h c hc)

namespace Pen

def IsDirect (p : Pen) : Prop := AllDirect p.written

variable {p : Pen}

theorem IsDirect.put (h : p.IsDirect) {s : List Char} (hs : AllDirect s) : (p.put s).IsDirect :=
  allDirect_append.2 ⟨fun c hc => hs c (List.mem_reverse.1 hc), h⟩

theorem IsDirect.putSpaces (h : p.IsDirect) (n : Nat) : (p.put (List.replicate n ' ')).IsDirect :=
  h.put (allDirect_replicate (by decide) n)

theorem IsDirect.newLine (h : p.IsDirect) : p.newLine.IsDirect := allDirect_cons.2 ⟨by decide, h⟩

theorem IsDirect.ite {q : Pen} {c : Prop} [Decidable c] (hp : p.IsDirect) (hq : q.IsDirect) :
    (if c then p else q).IsDirect := by
  split
  · exact hp
  · exact hq

theorem IsDirect.indentTo (h : p.IsDirect) (indent : Nat) : (p.indentTo indent).IsDirect := by
  have hline : ∀ {c : Prop} [Decidable c], (if c then p.newLine else p).IsDirect := h.newLine.ite h
  unfold Pen.indentTo
  exact IsDirect.ite (hline.putSpaces _) hline

theorem IsDirect.mark (h : p.IsDirect) {s : List Char} (hs : AllDirect s) (spaced collection : Bool) :
    (p.mark s spaced collection).IsDirect :=
  (IsDirect.ite (h.putSpaces 1) h).put hs

theorem IsDirect.breaks (h : p.IsDirect) (indent count : Nat) : (p.breaks indent count).IsDirect := by
  refine IsDirect.indentTo ?_ indent
  generalize List.replicate (count + 1) () = lines
  induction lines generalizing p with
  | nil => exact h
  | cons _ lines ih => exact ih h.newLine

theorem IsDirect.plainBody (h : p.IsDirect) {s : List Char} (hs : AllDirect s) (folds : Bool) (indent spaces : Nat) :
    (Pen.plainBody folds indent p spaces s).IsDirect := by
  fun_induction Pen.plainBody folds indent p spaces s with
  | case1 p spaces => exact h.putSpaces spaces
  | case2 p spaces rest ih => exact ih h (allDirect_cons.1 hs).2
  | case3 p spaces c rest _ p' ih =>
    obtain ⟨hc, hrest⟩ := allDirect_cons.1 hs
    have hp' : p'.IsDirect := IsDirect.ite h (IsDirect.ite (h.indentTo indent) (h.putSpaces spaces))
    exact ih (hp'.put (allDirect_cons.2 ⟨hc, allDirect_nil⟩)) hrest

theorem IsDirect.plain (h : p.IsDirect) {s : List Char} (hs : AllDirect s) (folds : Bool) (indent : Nat) :
    (p.plain folds indent s).IsDirect := by
  have hblank : (if p.afterBlank then p else p.put [' ']).IsDirect := IsDirect.ite h (h.putSpaces 1)
  refine IsDirect.plainBody ?_ hs folds indent 0
  exact hblank

theorem IsDirect.singleBody (h : p.IsDirect) {s : List Char} (hs : AllDirect s) (folds : Bool) (indent : Nat)
    (atStart : Bool) (spaces ends : Nat) : (Pen.singleBody folds indent p atStart spaces ends s).IsDirect := by
  fun_induction Pen.singleBody folds indent p atStart spaces ends s with
  | case1 p atStart spaces => exact h.putSpaces spaces
  | case2 p atStart spaces ends => exact h.breaks indent ends
  | case3 p atStart spaces ends rest p' ih =>
    have hp' : p'.IsDirect := IsDirect.ite h (h.breaks indent ends)
    exact ih hp' (allDirect_cons.1 hs).2
  | case4 p atStart spaces ends rest p' ih => exact ih (h.putSpaces spaces) (allDirect_cons.1 hs).2
  | case5 p atStart spaces ends c rest _ _ p' ih =>
    obtain ⟨hc, hrest⟩ := allDirect_cons.1 hs
    have hp' : p'.IsDirect := IsDirect.ite (h.breaks indent ends)
      (IsDirect.ite h (IsDirect.ite (h.indentTo indent) (h.putSpaces spaces)))
    have hquoted : AllDirect (if c = '\'' then ['\'', '\''] else [c]) :=
      AllDirect.ite (by decide) (allDirect_cons.2 ⟨hc, allDirect_nil⟩)
    exact ih (hp'.put hquoted) hrest

theorem IsDirect.single (h : p.IsDirect) {s : List Char} (hs : AllDirect s) (folds : Bool) (indent : Nat) :
    (p.single folds indent s).IsDirect :=
  IsDirect.mark ((h.mark (by decide) true false).singleBody hs folds indent true 0 0) (by decide) false false

theorem IsDirect.foldDouble (h : p.IsDirect) (indent : Nat) (next : Option Char) :
    (p.foldDouble indent next).IsDirect := by
  have hfolded : ((p.put ['\\']).indentTo indent).IsDirect := IsDirect.indentTo (h.put (by decide)) indent
  unfold Pen.foldDouble
  split
  · exact IsDirect.put hfolded (by decide)
  · exact hfolded

theorem allDirect_escapeLetter {c letter : Char} (h : escapeLetter? c = some letter) : Text.IsDirect letter := by
  unfold escapeLetter? at h
  split at h <;> cases h <;> decide

theorem isDirect_or_escaped (c : Char) :
    (escapedChar? c = none ∧ Text.IsDirect c) ∨ ∃ e, escapedChar? c = some e ∧ AllDirect e := by
  unfold escapedChar?
  split
  · rename_i hc
    exact .inl ⟨rfl, .inr ⟨hc.1, hc.2.1⟩⟩
  · refine .inr ⟨_, rfl, allDirect_cons.2 ⟨by decide, ?_⟩⟩
    split
    · exact allDirect_cons.2 ⟨allDirect_escapeLetter ‹_›, allDirect_nil⟩
    · dsimp only
      split
      · exact allDirect_cons.2 ⟨by decide, allDirect_upperHex 2 _⟩
      · split
        · exact allDirect_cons.2 ⟨by decide, allDirect_upperHex 4 _⟩
        · exact allDirect_cons.2 ⟨by decide, allDirect_upperHex 8 _⟩

theorem IsDirect.doubleBody (h : p.IsDirect) (folds : Bool) (indent : Nat) (atStart : Bool) {direct : List Char}
    (hdirect : AllDirect direct) (s : List Char) : (Pen.doubleBody folds indent p atStart direct s).IsDirect := by
  induction s generalizing p atStart direct with
  | nil => exact h.put fun c hc => hdirect c (List.mem_reverse.1 hc)
  | cons c rest ih =>
    have hput : (p.put direct.reverse).IsDirect := h.put fun c hc => hdirect c (List.mem_reverse.1 hc)
    rw [Pen.doubleBody]
    obtain ⟨hnone, hc⟩ | ⟨e, hsome, he⟩ := isDirect_or_escaped c
    · rw [hnone]
      simp only [Bool.false_eq_true, if_false]
      split
      · exact ih (IsDirect.foldDouble hput indent _) false (allDirect_cons.2 ⟨hc, allDirect_nil⟩)
      · exact ih h false (allDirect_cons.2 ⟨hc, hdirect⟩)
    · rw [hsome]
      simp only [if_true]
      have hescaped : ((p.put direct.reverse).put e).IsDirect := IsDirect.put hput he
      split
      · exact ih (IsDirect.foldDouble (IsDirect.put hescaped allDirect_nil) indent _) false allDirect_nil
      · exact ih hescaped false allDirect_nil

theorem IsDirect.double (h : p.IsDirect) (folds : Bool) (indent : Nat) (s : List Char) :
    (p.double folds indent s).IsDirect :=
  IsDirect.mark ((h.mark (by decide) true false).doubleBody folds indent true allDirect_nil s) (by decide) false false

theorem allDirect_of_style {asKey : Bool} {s : List Char} {style : Style} (h : Style.ofText asKey s = style)
    (hstyle : style ≠ .double) : AllDirect s := by
  unfold Style.ofText at h
  dsimp only at h
  split at h
  · rename_i hplain
    have hallowed := hplain.2.2
    simp only [Style.allowsPlain, Bool.and_eq_true, Bool.not_eq_true'] at hallowed
    exact allDirect_of_not_any (by simp [hallowed.1.1.1.1])
  · split at h
    · rename_i hsingle
      have hallowed := hsingle.1
      simp only [Style.allowsSingle, Bool.and_eq_true, Bool.not_eq_true'] at hallowed
      exact allDirect_of_not_any (by simp [hallowed.1.1])
    · exact absurd h.symm hstyle

theorem IsDirect.styled (h : p.IsDirect) (asKey : Bool) (indent : Nat) (s : List Char) :
    (p.styled asKey indent s).IsDirect := by
  unfold Pen.styled
  split
  · rename_i hstyle
    exact h.plain (allDirect_of_style hstyle nofun) _ _
  · rename_i hstyle
    exact h.single (allDirect_of_style hstyle nofun) _ _
  · exact h.double _ _ _

end Pen

theorem allDirect_writtenNumber (x : Binary64) : AllDirect (writtenNumber x) := by
  cases x with
  | nan => decide
  | infinite negative => cases negative <;> decide
  | finite negative magnitude =>
    have htext := (Binary64.finite negative magnitude).allDirect_text
    have hdigits := htext.of_subset (List.takeWhile_sublist (· != 'e')).subset
    unfold writtenNumber
    dsimp only
    refine htext.ite (allDirect_append.2 ⟨allDirect_append.2 ⟨hdigits, ?_⟩, htext.of_subset (List.drop_subset _ _)⟩)
    exact AllDirect.ite (by decide) allDirect_nil

namespace Pen

variable {p : Pen}

theorem IsDirect.scalar (h : p.IsDirect) (asKey : Bool) (indent : Nat) (s : Scalar) :
    (p.scalar asKey indent s).IsDirect := by
  unfold Pen.scalar
  split
  · exact h.plain (by decide) _ _
  · rename_i b
    exact h.plain (by cases b <;> decide) _ _
  · exact h.plain (allDirect_writtenInt _) _ _
  · exact h.plain (allDirect_writtenNumber _) _ _
  · exact h.styled _ _ _
  · exact h.styled _ _ _

theorem IsDirect.key (h : p.IsDirect) (indent : Nat) (s : List Char) : (p.key indent s).IsDirect := by
  have hplace := h.indentTo indent
  unfold Pen.key
  dsimp only
  split
  · exact IsDirect.mark (hplace.styled _ _ _) (by decide) _ _
  · have hmarked := (hplace.mark (by decide : AllDirect ['?']) true true).styled false (indent + indentStep) s
    exact IsDirect.mark (hmarked.indentTo indent) (by decide) _ _

theorem IsDirect.item (h : p.IsDirect) (indent : Nat) : (p.item indent).IsDirect :=
  IsDirect.mark (h.indentTo indent) (by decide) true true

theorem IsDirect.pair (h : p.IsDirect) {first last : Char} (hfirst : Text.IsDirect first) (hlast : Text.IsDirect last) :
    ((p.mark [first] true false).mark [last] false false).IsDirect :=
  IsDirect.mark (h.mark (allDirect_cons.2 ⟨hfirst, allDirect_nil⟩) _ _) (allDirect_cons.2 ⟨hlast, allDirect_nil⟩) _ _

mutual

theorem IsDirect.value : (v : Value) → {p : Pen} → p.IsDirect → (indent : Nat) → (inMapping : Bool) →
    (p.value indent inMapping v).IsDirect
  | .scalar s, _, h, indent, _ => h.scalar false (indent + indentStep) s
  | .list items, _, h, _, _ => IsDirect.ite (h.pair (by decide) (by decide)) (IsDirect.items items h _)
  | .object fields, _, h, _, _ => IsDirect.ite (h.pair (by decide) (by decide)) (IsDirect.fields fields h _)
  | .entry key content, p, h, indent, inMapping => by
    have hfirst := IsDirect.value key (h.item (p.itemIndent indent inMapping)) (p.itemIndent indent inMapping) false
    exact IsDirect.value content (hfirst.item _) _ false
  | .set members, p, h, indent, inMapping => by
    rw [Pen.value]
    generalize p.itemIndent indent inMapping = inner
    induction members generalizing p with
    | nil => exact h
    | cons s rest ih => exact ih _ ((h.item inner).scalar false (inner + indentStep) s)
  | .again isObject, _, h, _, _ =>
    IsDirect.ite (h.pair (by decide) (by decide)) (h.pair (by decide) (by decide))

theorem IsDirect.items : (items : List Value) → {p : Pen} → p.IsDirect → (indent : Nat) →
    (p.items indent items).IsDirect
  | [], _, h, _ => h
  | v :: rest, _, h, indent => IsDirect.items rest (IsDirect.value v (h.item indent) indent false) indent

theorem IsDirect.fields : (fields : List (Scalar × Value)) → {p : Pen} → p.IsDirect → (indent : Nat) →
    (p.fields indent fields).IsDirect
  | [], _, h, _ => h
  | (k, v) :: rest, _, h, indent =>
    IsDirect.fields rest (IsDirect.value v (h.key indent k.keyText.toList) indent true) indent

end

end Pen

theorem allDirect_write (v : Value) : AllDirect (write v) := by
  have hstart : Pen.start.IsDirect := allDirect_nil
  have hvalue : ∀ v, (Pen.start.value 0 false v).IsDirect := fun v => Pen.IsDirect.value v hstart 0 false
  intro c hc
  have hwritten : ∀ {p : Pen}, p.IsDirect → c ∈ p.newLine.text → IsDirect c := fun hp hc =>
    hp.newLine c (List.mem_reverse.1 hc)
  unfold write at hc
  refine hwritten ?_ hc
  split
  · exact hstart.scalar _ _ _
  · exact Pen.IsDirect.ite (hvalue _) (Pen.IsDirect.items _ hstart 0)
  · exact Pen.IsDirect.ite (hvalue _) (Pen.IsDirect.fields _ hstart 0)
  · exact hvalue _

end BlockRules.Yaml
