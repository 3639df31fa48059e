import BlockRules.Schema.Checked

set_option autoImplicit false

namespace BlockRules

inductive AllowedOrigins where
  | every
  | only (origins : List String)

namespace AllowedOrigins

def betweenCommas (s : String) : List String := (s.toList.splitOn ',').map String.ofList

/-- Origins listed with commas between them; a star among them stands for every origin. -/
def ofText (s : String) : AllowedOrigins :=
  let origins := betweenCommas s
  if origins.contains "*" then every else only origins

def allows (allowed : AllowedOrigins) (origin : String) : Bool :=
  match allowed with
  | every => true
  | only origins => origins.contains origin

end AllowedOrigins

abbrev Headers := List (String × String)

namespace Headers

def find? (headers : Headers) (name : String) : Option String :=
  (List.find? (fun h => String.ofList (h.1.toList.map Char.toLower) == name) headers).map (·.2)

end Headers

namespace AllowedOrigins

def headersFor (allowed : AllowedOrigins) (origin : String) : Headers :=
  ("access-control-allow-credentials", "true") ::
    if allowed.allows origin then [("access-control-allow-origin", origin)] else []

def methods : List String := ["DELETE", "GET", "HEAD", "OPTIONS", "PATCH", "POST", "PUT", "QUERY"]

def refused (allowed : AllowedOrigins) (origin method : String) (privateNetwork : Bool) : List String :=
  (if allowed.allows origin then [] else ["origin"]) ++ (if methods.contains method then [] else ["method"]) ++
    (if privateNetwork then ["private-network"] else [])

/-- The further headers of the answer to an origin that asks beforehand. An answer may be kept for ten minutes. -/
def headersBeforehand : Headers :=
  [("access-control-allow-methods", ", ".intercalate methods), ("access-control-max-age", "600")]

end AllowedOrigins

end BlockRules
