set_option autoImplicit false

namespace BlockRules.Text

def withLineFeeds : List Char → List Char
  | '\r' :: '\n' :: rest => '\n' :: withLineFeeds rest
  | '\r' :: rest => '\n' :: withLineFeeds rest
  | c :: rest => c :: withLineFeeds rest
  | [] => []

def withoutLastFeed (s : List Char) : List Char := if s.getLast? = some '\n' then s.dropLast else s

end BlockRules.Text
