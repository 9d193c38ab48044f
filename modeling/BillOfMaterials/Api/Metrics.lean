import BillOfMaterials.Engine

/-!
# Metrics

The service counts the requests it answered by method, route pattern and status, and reports
the size of its graph. `exposition` writes both in the text format scrapers read: families in
order of name, each with a help and a type line, its samples in order of their label values.
A family with no sample is left out. A request is counted once it is answered, so a scrape
does not see itself.

Request latencies are also observed by the service, but they are not part of what this
module reports.
-/

namespace BillOfMaterials

/-- One label set of the request counter. -/
structure RequestKey where
  method : String
  route : String
  status : String
  deriving DecidableEq, Inhabited

/-- Label sets in order of their values, method first. -/
def RequestKey.lt (a b : RequestKey) : Bool :=
  a.method < b.method ||
    (a.method = b.method && (a.route < b.route || (a.route = b.route && a.status < b.status)))

/-- How many requests of each label set were answered, in the order first seen. -/
structure RequestCounts where
  entries : List (RequestKey × Nat) := []
  deriving Inhabited

namespace RequestCounts

/-- Counts one more answered request. -/
def bump (c : RequestCounts) (k : RequestKey) : RequestCounts :=
  if c.entries.any (·.1 = k) then
    { entries := c.entries.map fun (k', n) => if k' = k then (k', n + 1) else (k', n) }
  else { entries := c.entries ++ [(k, 1)] }

/-- The count of a label set. -/
def count (c : RequestCounts) (k : RequestKey) : Nat := (c.entries.lookup k).getD 0

end RequestCounts

/-- A sample value as the text format writes it: integers below a million in full, larger ones
as a mantissa of at most the significant digits and a two-digit exponent. -/
def formatSample (n : Nat) : String :=
  if n < 1000000 then toString n
  else
    let digits := (toString n).toList
    let exp := digits.length - 1
    let significant := (digits.reverse.dropWhile (· = '0')).reverse
    let mantissa := match significant with
      | d :: [] => String.singleton d
      | d :: rest => String.ofList (d :: '.' :: rest)
      | [] => "0"
    mantissa ++ "e+" ++ (if exp < 10 then "0" else "") ++ toString exp

/-- A label value with backslash, quote and newline escaped. -/
def escapeLabel (s : String) : String :=
  String.join (s.toList.map fun c =>
    if c = '\\' then "\\\\" else if c = '"' then "\\\"" else if c = '\n' then "\\n"
    else String.singleton c)

/-- A family: help, type and sample lines. -/
def family (name help kind : String) (samples : List (String × Nat)) : String :=
  if samples.isEmpty then ""
  else
    "# HELP " ++ name ++ " " ++ help ++ "\n# TYPE " ++ name ++ " " ++ kind ++ "\n" ++
      String.join (samples.map fun (labels, v) => name ++ labels ++ " " ++ formatSample v ++ "\n")

/-- Label sets sorted by their values. -/
def sortKeys (entries : List (RequestKey × Nat)) : List (RequestKey × Nat) :=
  entries.mergeSort fun a b => !b.1.lt a.1

/-- The text of all metrics: the graph's edges, the answered requests and its parts by
category. -/
def exposition (s : Stats) (c : RequestCounts) : String :=
  let label (k v : String) := k ++ "=\"" ++ escapeLabel v ++ "\""
  family "bom_edges" "Parent to child edges in the graph." "gauge" [("", s.edges)] ++
  family "bom_http_requests_total" "HTTP requests served, by route and status." "counter"
    ((sortKeys c.entries).map fun (k, n) =>
      ("\x7b" ++ label "method" k.method ++ "," ++ label "route" k.route ++ "," ++
        label "status" k.status ++ "\x7d", n)) ++
  family "bom_parts" "Parts in the graph, by category." "gauge"
    ([("all", s.parts), ("component", s.component), ("orphan", s.orphan),
      ("subassembly", s.subassembly), ("top_level", s.topLevel)].map fun (cat, n) =>
      ("\x7b" ++ label "category" cat ++ "\x7d", n))

end BillOfMaterials
