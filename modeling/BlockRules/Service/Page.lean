import BlockRules.Library.Path
import BlockRules.Text.Escaped

set_option autoImplicit false

/-!
# Pages

The pages of the service, and which one a request asks for. A page stands under a path and is asked for by one
method. A path with a slash too much or too few leads elsewhere.
-/
namespace BlockRules

inductive Page where
  | home
  | health
  | rules
  | rule (id : String)
  | validate
  | render
  | prepare
  | evaluate
  | evaluateStored (id : String)
  | metrics
  deriving DecidableEq

inductive PageError where
  | notFound
  | methodNotAllowed
  /-- There is a page under the path with or without a slash at its end. -/
  | elsewhere
  deriving DecidableEq

namespace Page

def method : Page → String
  | home => "GET"
  | health => "GET"
  | rules => "GET"
  | rule _ => "GET"
  | validate => "POST"
  | render => "POST"
  | prepare => "POST"
  | evaluate => "POST"
  | evaluateStored _ => "POST"
  | metrics => "GET"

def fixed : List (String × Page) :=
  [("/", home), ("/health", health), ("/rules", rules), ("/rules/validate", validate), ("/rules/render", render),
    ("/rules/prepare", prepare), ("/evaluate", evaluate), ("/metrics/snapshot", metrics)]

/-- Whether a path is a given one; a line feed at its end does not count. -/
def isAt (path : List Char) (given : String) : Bool :=
  path == given.toList || path == given.toList ++ ['\n']

def idAfter? (first : String) (path : List Char) : Option String :=
  let start := '/' :: first.toList ++ ['/']
  let id := path.drop start.length
  if start.isPrefixOf path ∧ id ≠ [] ∧ '/' ∉ id then some (String.ofList id) else none

def all (path : List Char) : List Page :=
  (fixed.filter fun f => isAt path f.1).map (·.2) ++ ((idAfter? "rules" path).map rule).toList ++
    ((idAfter? "evaluate" path).map evaluateStored).toList

def otherSpelling (path : List Char) : List Char :=
  if path.getLast? = some '/' then (path.reverse.dropWhile (· == '/')).reverse else path ++ ['/']

def find (method : String) (path : List Char) : Except PageError Page :=
  match (all path).find? fun page => page.method == method with
  | some page => .ok page
  | none =>
    if all path ≠ [] then .error .methodNotAllowed
    else if all (otherSpelling path) ≠ [] then .error .elsewhere
    else .error .notFound

end Page

namespace Target

/-- A path goes into the parts between its slashes. A single point is left out, and two points take back the
part before them. -/
def resolved (parts : List (List Char)) : List (List Char) :=
  parts.foldl (fun done part =>
    if part = ['.'] then done
    else if part = ['.', '.'] then (if done = [] ∨ done = [[]] then done else done.dropLast)
    else done ++ [part]) []

/-- The path in a target. Two slashes at the start begin the name of a host, which is left out together with what
follows the path. Escapes are undone twice, so that an escaped percent sign may begin an escape. -/
def path (target : String) : List Char :=
  let s := target.toList.takeWhile fun c => c ≠ '?' ∧ c ≠ '#'
  let s := if "//".toList.isPrefixOf s then (s.drop 2).dropWhile (· ≠ '/') else s
  let parts := resolved (Path.betweenSlashes ('/' :: s.dropWhile (· = '/')))
  let joined := (parts.intersperse ['/']).flatten
  Text.unescaped (Text.unescaped (if joined = [] then ['/'] else joined))

end Target

end BlockRules
