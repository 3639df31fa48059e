import BlockRules.Service.Exchange

set_option autoImplicit false

/-!
# Paths to pages

Two families of pages are told apart by an identifier, the page of a rule and the evaluation of a stored rule. Their
paths are a fixed beginning and the identifier, which is one part of the path: no page is found for an identifier with
a slash in it.
-/
namespace BlockRules

namespace Page

theorem idAfter?_eq_some_iff {first : String} {path : List Char} {id : String} :
    idAfter? first path = some id ↔
      path = '/' :: first.toList ++ '/' :: id.toList ∧ id ≠ "" ∧ '/' ∉ id.toList := by
  unfold idAfter?
  dsimp only
  constructor
  · intro h
    split at h
    · rename_i hpath
      obtain ⟨hstart, hne, hslash⟩ := hpath
      obtain ⟨rest, rfl⟩ := List.isPrefixOf_iff_prefix.1 hstart
      rw [List.drop_left] at h hne hslash
      obtain rfl : String.ofList rest = id := Option.some.inj h
      rw [String.toList_ofList]
      refine ⟨by simp, ?_, hslash⟩
      simpa using hne
    · cases h
  · rintro ⟨rfl, hne, hslash⟩
    have hsplit : '/' :: first.toList ++ '/' :: id.toList = ('/' :: first.toList ++ ['/']) ++ id.toList := by simp
    rw [hsplit, List.drop_left, if_pos, String.ofList_toList]
    refine ⟨List.isPrefixOf_iff_prefix.2 (List.prefix_append _ _), ?_, hslash⟩
    simpa using hne

variable {method : String} {path : List Char} {page : Page} {id : String}

theorem find_eq_ok_iff : find method path = .ok page ↔ (all path).find? (·.method == method) = some page := by
  unfold find
  split
  · rename_i found hfound
    rw [hfound, Except.ok.injEq, Option.some.injEq]
  · rename_i hnone
    rw [hnone]
    split
    · exact iff_of_false (fun h => nomatch h) fun h => nomatch h
    · split <;> exact iff_of_false (fun h => nomatch h) fun h => nomatch h

theorem mem_all_of_find (h : find method path = .ok page) : page ∈ all path :=
  List.mem_of_find?_eq_some (find_eq_ok_iff.1 h)

/-- The pages with a path of their own, of those that a method asks for. -/
theorem find?_fixed_eq_none (h : ∀ f ∈ fixed, isAt path f.1 = true → f.2.method ≠ method) :
    ((fixed.filter fun f => isAt path f.1).map (·.2)).find? (·.method == method) = none := by
  rw [List.find?_eq_none]
  intro page hpage
  obtain ⟨f, hf, rfl⟩ := List.mem_map.1 hpage
  obtain ⟨hf, hat⟩ := List.mem_filter.1 hf
  exact fun hmethod => h f hf hat (beq_iff_eq.1 hmethod)

theorem method_ne_get_of_isAt {f : String × Page} (hf : f ∈ fixed)
    (hat : isAt ("/rules/".toList ++ id.toList) f.1 = true) : f.2.method ≠ "GET" := by
  simp only [fixed, List.mem_cons, List.not_mem_nil, or_false] at hf
  obtain rfl | rfl | rfl | rfl | rfl | rfl | rfl | rfl := hf <;> simp [isAt, Page.method] at hat ⊢

theorem mem_all_rule : rule id ∈ all path ↔ idAfter? "rules" path = some id := by
  simp [all, fixed]

/-- A path leads to the page of a rule just where the identifier comes after a fixed beginning and is no more than
one part of the path. -/
theorem find_rule_iff :
    find "GET" path = .ok (.rule id) ↔ path = "/rules/".toList ++ id.toList ∧ id ≠ "" ∧ '/' ∉ id.toList := by
  have hid : idAfter? "rules" path = some id ↔ path = "/rules/".toList ++ id.toList ∧ id ≠ "" ∧ '/' ∉ id.toList :=
    idAfter?_eq_some_iff
  rw [← hid]
  refine ⟨fun h => mem_all_rule.1 (mem_all_of_find h), fun h => ?_⟩
  obtain ⟨rfl, -⟩ := hid.1 h
  rw [find_eq_ok_iff, all, h, List.append_assoc, List.find?_append]
  rw [find?_fixed_eq_none fun f hf hat => method_ne_get_of_isAt hf hat]
  rfl

end Page

def Request.page (r : Request) : Except PageError Page := Page.find (Text.upper r.method) (Target.path r.target)

namespace Service

variable {s : Service} {r : Request} {page : Page}

end Service

end BlockRules
