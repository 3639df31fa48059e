import BlockRules.Json.Writing
import BlockRules.Proofs.Text.Direct

set_option autoImplicit false

namespace BlockRules.Json
open Text

theorem allDirect_writtenChar (c : Char) : AllDirect (writtenChar c) := by
  unfold writtenChar
  split
  case h_8 =>
    split
    · exact allDirect_cons.2 ⟨.inr ‹_›, allDirect_nil⟩
    · intro d hd
      obtain ⟨n, -, hn⟩ := List.mem_flatMap.1 hd
      have hescaped : AllDirect ('\\' :: 'u' :: lowerHex 4 n) :=
        allDirect_cons.2 ⟨by decide, allDirect_cons.2 ⟨by decide, allDirect_lowerHex 4 n⟩⟩
      exact hescaped d hn
  all_goals decide

theorem allDirect_writtenText (s : String) : AllDirect (writtenText s) := by
  refine allDirect_append.2 ⟨allDirect_cons.2 ⟨by decide, fun d hd => ?_⟩, by decide⟩
  obtain ⟨c, -, hc⟩ := List.mem_flatMap.1 hd
  exact allDirect_writtenChar c d hc

theorem allDirect_writtenNumber (x : Binary64) : AllDirect (writtenNumber x) := by
  cases x with
  | nan => decide
  | infinite negative => cases negative <;> decide
  | finite negative magnitude => exact Binary64.allDirect_text _

theorem allDirect_writtenScalar (s : Scalar) : AllDirect (writtenScalar s) := by
  cases s with
  | null => decide
  | bool b => cases b <;> decide
  | int n => exact allDirect_writtenInt n
  | float x => exact allDirect_writtenNumber x
  | text s => exact allDirect_writtenText s
  | bytes data => exact allDirect_writtenText _
  | date d => exact allDirect_writtenText _
  | moment m => exact allDirect_writtenText _

theorem allDirect_newLine (level : Nat) : AllDirect (newLine level) :=
  allDirect_cons.2 ⟨by decide, allDirect_replicate (by decide) _⟩

theorem allDirect_bracketed {first last : Char} (hfirst : IsDirect first) (hlast : IsDirect last) (level : Nat)
    {parts : List (List Char)} (h : ∀ s ∈ parts, AllDirect s) : AllDirect (bracketed first last level parts) := by
  have hends : AllDirect [first, last] := allDirect_cons.2 ⟨hfirst, allDirect_cons.2 ⟨hlast, allDirect_nil⟩⟩
  have hcomma : AllDirect (',' :: newLine (level + 1)) := allDirect_cons.2 ⟨by decide, allDirect_newLine _⟩
  refine hends.ite ?_
  refine allDirect_append.2 ⟨allDirect_append.2 ⟨allDirect_append.2 ⟨?_, ?_⟩, allDirect_newLine level⟩, ?_⟩
  · exact allDirect_cons.2 ⟨hfirst, allDirect_newLine _⟩
  · exact allDirect_joinWith hcomma h
  · exact allDirect_cons.2 ⟨hlast, allDirect_nil⟩

mutual

theorem allDirect_indented : (v : Value) → (level : Nat) → AllDirect (indented level v)
  | .scalar s, level => allDirect_writtenScalar s
  | .list items, level => allDirect_bracketed (by decide) (by decide) level (allDirect_indentedItems items (level + 1))
  | .object fields, level =>
    allDirect_bracketed (by decide) (by decide) level (allDirect_indentedFields fields (level + 1))
  | .entry key content, level => by
    refine allDirect_bracketed (by decide) (by decide) level (List.forall_mem_cons.2 ⟨?_, ?_⟩)
    · exact allDirect_indented key (level + 1)
    · exact List.forall_mem_singleton.2 (allDirect_indented content (level + 1))
  | .set members, level => by
    refine allDirect_bracketed (by decide) (by decide) level fun s hs => ?_
    obtain ⟨member, -, rfl⟩ := List.mem_map.1 hs
    exact allDirect_writtenScalar member
  | .again isObject, level => by
    rw [indented]
    split <;> decide

theorem allDirect_indentedItems : (items : List Value) → (level : Nat) → ∀ s ∈ indentedItems level items, AllDirect s
  | [], _ => fun _ h => absurd h List.not_mem_nil
  | item :: rest, level =>
    List.forall_mem_cons.2 ⟨allDirect_indented item level, allDirect_indentedItems rest level⟩

theorem allDirect_indentedFields :
    (fields : List (Scalar × Value)) → (level : Nat) → ∀ s ∈ indentedFields level fields, AllDirect s
  | [], _ => fun _ h => absurd h List.not_mem_nil
  | (key, content) :: rest, level => by
    refine List.forall_mem_cons.2 ⟨?_, allDirect_indentedFields rest level⟩
    refine allDirect_append.2 ⟨allDirect_writtenText _, ?_⟩
    exact allDirect_cons.2 ⟨by decide, allDirect_cons.2 ⟨by decide, allDirect_indented content level⟩⟩

end

end BlockRules.Json
