import Mathlib
import BillOfMaterials.Proofs.Api.Handlers
import BillOfMaterials.Proofs.Http.Escape

/-!
# Where the router sends the paths of a part

What the service asks of its router is stated apart from the router, as `HonoursPatterns`: with
any segment as the id (not empty, no slash), the path of an endpoint's registered pattern
(`Endpoint.pattern`, filled by `Endpoint.fill`) reaches that endpoint in the tree of its method
(`Endpoint.method`) with the segment as the parameter `id`, and the same path with one slash more
reaches no endpoint and is worth a redirect. The route trees of the service honour it
(`routesFor_honoursPatterns`). Through it alone, a request with an endpoint's method and the path
of its pattern goes to that endpoint (`Service.route?_of_pattern`, `Service.route?_partTail`,
`Service.route?_collection`), and the path with one slash more is answered with the redirect
(`Service.handle_trailing_slash`).

The walk is taken a node at a time: a static node whose run is a prefix of the path hands the
rest to its child with the right first byte or to its parameter (`lookup_static_append`,
`lookupChild_cons_of_eq`, `lookupChild_cons_of_ne`), and a parameter takes the bytes up to the
next slash (`lookup_param_last`, `lookup_param_more`). Below `/v1/parts/` each method's tree takes
the id and walks the rest (`getRoutes_lookup_part`, `postRoutes_lookup_part`,
`deleteRoutes_lookup_id`).
-/

namespace BillOfMaterials

open Http

namespace RouteTree

variable {run rest : List UInt8} {root : Bool} {ep : Option Endpoint} {children : RouteForest}

/-- A static node whose run is a proper prefix of the path walks the rest into its children, or
into its parameter when no child starts with the rest's first byte. -/
theorem lookup_static_append (hrest : rest ≠ []) (wild : RouteForest) :
    (static run root ep children wild).lookup (run ++ rest) =
      lookupChild children rest (lookupWild ep wild rest) := by
  have hpos : 0 < rest.length := List.length_pos_iff.2 hrest
  rw [lookup, if_pos (by simp [hpos, List.isPrefixOf_iff_prefix]), List.drop_left]

theorem lookupWild_cons (p : RouteTree) (ps : RouteForest) (path : List UInt8) :
    lookupWild ep (.cons p ps) path = p.lookup path := by
  rw [lookupWild]

theorem lookupChild_cons_of_eq {t : RouteTree} {ts : RouteForest} {path : List UInt8}
    (h : t.first? = path.head?) (other : RouteMatch) :
    lookupChild (.cons t ts) path other = t.lookup path := by
  rw [lookupChild, if_pos h]

theorem lookupChild_cons_of_ne {t : RouteTree} {ts : RouteForest} {path : List UInt8}
    (h : t.first? ≠ path.head?) (other : RouteMatch) :
    lookupChild (.cons t ts) path other = lookupChild ts path other := by
  rw [lookupChild, if_neg h]

theorem lookupChild_nil (path : List UInt8) (other : RouteMatch) :
    lookupChild .nil path other = other := by
  rw [lookupChild]

section Param
variable {name : String} {v : List UInt8} (hv : byte '/' ∉ v)
include hv

theorem takeWhile_segment (hrest : rest = [] ∨ rest.head? = some (byte '/')) :
    (v ++ rest).takeWhile (· ≠ byte '/') = v := by
  rw [List.takeWhile_append_of_pos fun a ha => by
    simp only [ne_eq, decide_eq_true_eq]
    rintro rfl
    exact hv ha]
  rcases hrest with rfl | hrest
  · simp
  · obtain ⟨r, rs, rfl⟩ : ∃ r rs, rest = r :: rs :=
      List.exists_cons_of_ne_nil (by rintro rfl; simp at hrest)
    simp only [List.head?_cons, Option.some.injEq] at hrest
    simp [hrest]

/-- A parameter at the end of the path takes the whole segment. -/
theorem lookup_param_last (e : Endpoint) (next : RouteForest) :
    (param name (some e) next).lookup v = { endpoint := some e, params := [(name, v)] } := by
  have ht : (v ++ []).takeWhile (· ≠ byte '/') = v := takeWhile_segment hv (.inl rfl)
  rw [List.append_nil] at ht
  rw [lookup]
  simp only [ht, List.drop_length, List.isEmpty_nil, if_true, paramMatch, Option.isSome_some]

theorem lookup_param_more (hrest : rest.head? = some (byte '/')) (next : RouteForest) :
    (param name ep next).lookup (v ++ rest) =
      { lookupNext next rest with params := (name, v) :: (lookupNext next rest).params } := by
  have ht := takeWhile_segment hv (.inr hrest)
  have hne : rest.isEmpty = false := by
    cases rest with
    | nil => cases hrest
    | cons r rs => rfl
  rw [lookup]
  simp only [ht, List.drop_left, hne, Bool.false_eq_true, if_false]

/-- A parameter followed by more path takes the segment and hands the rest to its static node. -/
theorem lookup_param_cons (hrest : rest.head? = some (byte '/')) (n : RouteTree)
    (ns : RouteForest) :
    (param name ep (.cons n ns)).lookup (v ++ rest) =
      { n.lookup rest with params := (name, v) :: (n.lookup rest).params } := by
  rw [lookup_param_more hv hrest, lookupNext]

/-- A parameter that ends its route takes the segment, and a rest of one slash is worth a
redirect. -/
theorem lookup_param_end (hrest : rest.head? = some (byte '/')) :
    (param name ep .nil).lookup (v ++ rest) =
      { redirect := rest.length = 1, params := [(name, v)] } := by
  rw [lookup_param_more hv hrest, lookupNext]

end Param

end RouteTree

/-! ## The trees below `/v1/parts/` -/

theorem bytesOf_parts_slash (rest : List UInt8) :
    bytesOf "/v1/parts/" ++ rest = bytesOf "/" ++ (bytesOf "v1/parts" ++ (bytesOf "/" ++ rest)) := by
  rw [show bytesOf "/v1/parts/" = bytesOf "/" ++ (bytesOf "v1/parts" ++ bytesOf "/") by cbv]
  simp

theorem route_bytes :
    bytesOf "/" = [47] ∧ bytesOf "v1/parts" = [118, 49, 47, 112, 97, 114, 116, 115] ∧
    bytesOf "health" = [104, 101, 97, 108, 116, 104] ∧
    bytesOf "metrics" = [109, 101, 116, 114, 105, 99, 115] ∧
    bytesOf "/v1/parts/" = bytesOf "/v1/parts" ++ [47] := by
  cbv
  decide

/-- The `GET` routes below a part id: its children, the assemblies containing it and its
descendants. -/
def partGetRoutes : RouteTree :=
  inner "/" [inner "c" [leaf "hildren" .getChildren, leaf "ontained" .getContained] none,
    leaf "descendants" .getDescendants] none

open RouteTree

section Segment
variable {id tail : List UInt8}

theorem getRoutes_lookup_id {rest : List UInt8} (hrest : rest ≠ []) :
    getRoutes.lookup (bytesOf "/v1/parts/" ++ rest) =
      (param "id" (some .getPart) (.ofList [partGetRoutes])).lookup rest := by
  obtain ⟨h1, h2, h3, h4, -⟩ := route_bytes
  rw [bytesOf_parts_slash, getRoutes]
  simp only [RouteForest.ofList, leaf, inner, Option.toList, h1, h2, h3, h4]
  rw [lookup_static_append (by simp), lookupChild_cons_of_ne (by simp [first?]),
    lookupChild_cons_of_ne (by simp [first?]), lookupChild_cons_of_eq (by simp [first?]),
    lookup_static_append (by simp), lookupChild_cons_of_eq (by simp [first?]),
    lookup_static_append hrest, lookupChild_nil, lookupWild_cons]
  simp only [partGetRoutes, inner, leaf, RouteForest.ofList, Option.toList, h1]

theorem deleteRoutes_lookup_id {rest : List UInt8} (hrest : rest ≠ []) :
    deleteRoutes.lookup (bytesOf "/v1/parts/" ++ rest) =
      (param "id" (some .deletePart) .nil).lookup rest := by
  rw [deleteRoutes, RouteForest.ofList, RouteForest.ofList, lookup_static_append hrest,
    lookupChild_nil, lookupWild_cons]

theorem append_ne_nil_of_head (htail : tail.head? = some (byte '/')) : id ++ tail ≠ [] := by
  cases tail with
  | nil => cases htail
  | cons b bs => simp

/-- Below a part id, the `GET` tree walks the rest of the path in `partGetRoutes`. -/
theorem getRoutes_lookup_part (hs : byte '/' ∉ id) (htail : tail.head? = some (byte '/')) :
    getRoutes.lookup (bytesOf "/v1/parts/" ++ (id ++ tail)) =
      { partGetRoutes.lookup tail with params := ("id", id) :: (partGetRoutes.lookup tail).params } := by
  rw [getRoutes_lookup_id (append_ne_nil_of_head htail), RouteForest.ofList, RouteForest.ofList,
    lookup_param_cons hs htail]

/-- Below a part id, the `POST` tree walks the rest of the path in its one leaf. -/
theorem postRoutes_lookup_part (hs : byte '/' ∉ id) (htail : tail.head? = some (byte '/')) :
    postRoutes.lookup (bytesOf "/v1/parts/" ++ (id ++ tail)) =
      { (leaf "/children" .updateChildren).lookup tail with
        params := ("id", id) :: ((leaf "/children" .updateChildren).lookup tail).params } := by
  rw [route_bytes.2.2.2.2, postRoutes]
  simp only [RouteForest.ofList, inner, Option.toList, List.append_assoc]
  rw [lookup_static_append (by simp), lookupChild_cons_of_eq (by simp [first?, route_bytes.1]),
    ← route_bytes.1, lookup_static_append (append_ne_nil_of_head htail), lookupChild_nil,
    lookupWild_cons, lookup_param_cons hs htail]

end Segment

/-! ## The routing the service asks of its router -/

/-- The method each endpoint is registered under. -/
def Endpoint.method : Endpoint → String
  | .createPart | .updateChildren => "POST"
  | .deletePart => "DELETE"
  | .index | .health | .metrics | .listParts | .getPart | .getChildren | .getContained
  | .getDescendants => "GET"

/-- The path of the characters of a pattern with `value` in place of its `:id` segment, and the
parameters that value makes. -/
def fillPattern (value : List UInt8) : List Char → List UInt8 × List (String × List UInt8)
  | ':' :: 'i' :: 'd' :: rest =>
    (value ++ (fillPattern value rest).1, ("id", value) :: (fillPattern value rest).2)
  | c :: rest => (String.utf8EncodeChar c ++ (fillPattern value rest).1, (fillPattern value rest).2)
  | [] => ([], [])

/-- The path of an endpoint's pattern with `id` as its `:id`, and the parameters of that path. -/
def Endpoint.fill (e : Endpoint) (id : List UInt8) : List UInt8 × List (String × List UInt8) :=
  fillPattern id e.pattern.toList

/-- What the service asks of the route trees of its methods: the routing of registered patterns.
With any segment as the id (not empty, no slash), the path of an endpoint's pattern reaches that
endpoint in the tree of the endpoint's method, with the path's parameters; with any id without a
slash, the same path with one slash more reaches no endpoint and is worth a redirect. -/
structure HonoursPatterns (routes : String → Option RouteTree) : Prop where
  reaches : ∀ (e : Endpoint) {id : List UInt8}, id ≠ [] → byte '/' ∉ id → ∃ tree,
    routes e.method = some tree ∧ (tree.lookup (e.fill id).1).endpoint = some e ∧
      (tree.lookup (e.fill id).1).params = (e.fill id).2
  redirects : ∀ (e : Endpoint) {id : List UInt8}, byte '/' ∉ id → ∃ tree,
    routes e.method = some tree ∧ (tree.lookup ((e.fill id).1 ++ [byte '/'])).endpoint = none ∧
      (tree.lookup ((e.fill id).1 ++ [byte '/'])).redirect = true

/-- What follows the id in the pattern of an endpoint below a part id. -/
def Endpoint.partTail? : Endpoint → Option String
  | .getPart | .deletePart => some ""
  | .getChildren | .updateChildren => some "/children"
  | .getContained => some "/contained"
  | .getDescendants => some "/descendants"
  | .index | .health | .metrics | .listParts | .createPart => none

theorem fill_of_partTail {e : Endpoint} {tail : String} (h : e.partTail? = some tail)
    (id : List UInt8) : e.fill id = (bytesOf "/v1/parts/" ++ (id ++ bytesOf tail), [("id", id)]) := by
  cases e <;> simp only [Endpoint.partTail?, reduceCtorEq, Option.some.injEq] at h <;> subst h <;>
    simp [Endpoint.fill, Endpoint.pattern, fillPattern, bytesOf_eq]

theorem fill_collection {e : Endpoint} (h : e = .listParts ∨ e = .createPart) (id : List UInt8) :
    e.fill id = (bytesOf "/v1/parts", []) := by
  rcases h with rfl | rfl <;> simp [Endpoint.fill, Endpoint.pattern, fillPattern, bytesOf_eq]

theorem fill_head (e : Endpoint) (id : List UInt8) : (e.fill id).1.head? = some (byte '/') := by
  cases e <;> rfl

section Honours
variable {id : List UInt8} (hs : byte '/' ∉ id)
include hs

theorem routesFor_reaches (hid : id ≠ []) (e : Endpoint) : ∃ tree, routesFor e.method = some tree ∧
    (tree.lookup (e.fill id).1).endpoint = some e ∧
    (tree.lookup (e.fill id).1).params = (e.fill id).2 := by
  cases e with
  | index | health | metrics | listParts => exact ⟨getRoutes, rfl, by cbv, by cbv⟩
  | createPart => exact ⟨postRoutes, rfl, by cbv, by cbv⟩
  | getPart =>
    refine ⟨getRoutes, rfl, ?_⟩
    rw [fill_of_partTail rfl, bytesOf_empty, List.append_nil, getRoutes_lookup_id hid,
      lookup_param_last hs]
    exact ⟨rfl, rfl⟩
  | deletePart =>
    refine ⟨deleteRoutes, rfl, ?_⟩
    rw [fill_of_partTail rfl, bytesOf_empty, List.append_nil, deleteRoutes_lookup_id hid,
      lookup_param_last hs]
    exact ⟨rfl, rfl⟩
  | getChildren | getContained | getDescendants =>
    refine ⟨getRoutes, rfl, ?_⟩
    rw [fill_of_partTail rfl, getRoutes_lookup_part hs (by cbv)]
    exact ⟨by cbv, by cbv⟩
  | updateChildren =>
    refine ⟨postRoutes, rfl, ?_⟩
    rw [fill_of_partTail rfl, postRoutes_lookup_part hs (by cbv)]
    exact ⟨by cbv, by cbv⟩

theorem routesFor_redirects (e : Endpoint) : ∃ tree, routesFor e.method = some tree ∧
    (tree.lookup ((e.fill id).1 ++ [byte '/'])).endpoint = none ∧
    (tree.lookup ((e.fill id).1 ++ [byte '/'])).redirect = true := by
  cases e with
  | index | health | metrics | listParts => exact ⟨getRoutes, rfl, by cbv, by cbv⟩
  | createPart => exact ⟨postRoutes, rfl, by cbv, by cbv⟩
  | getPart | getChildren | getContained | getDescendants =>
    refine ⟨getRoutes, rfl, ?_⟩
    rw [fill_of_partTail rfl, List.append_assoc, List.append_assoc,
      getRoutes_lookup_part hs (by cbv)]
    exact ⟨by cbv, by cbv⟩
  | deletePart =>
    have hslash : (bytesOf "" ++ [byte '/']).head? = some (byte '/') := by cbv
    refine ⟨deleteRoutes, rfl, ?_⟩
    rw [fill_of_partTail rfl, List.append_assoc, List.append_assoc,
      deleteRoutes_lookup_id (append_ne_nil_of_head hslash), lookup_param_end hs hslash]
    exact ⟨rfl, by cbv⟩
  | updateChildren =>
    refine ⟨postRoutes, rfl, ?_⟩
    rw [fill_of_partTail rfl, List.append_assoc, List.append_assoc,
      postRoutes_lookup_part hs (by cbv)]
    exact ⟨by cbv, by cbv⟩

end Honours

theorem routesFor_honoursPatterns : HonoursPatterns routesFor where
  reaches e _ hid hs := routesFor_reaches hs hid e
  redirects e _ hs := routesFor_redirects hs e

namespace Service

theorem route?_of_lookup {req : Request} {tree : RouteTree} (ht : routesFor req.method = some tree)
    {ep : Endpoint} {params : List (String × List UInt8)}
    (he : (tree.lookup req.url.path).endpoint = some ep)
    (hp : (tree.lookup req.url.path).params = params) :
    route? req = some (ep, params) := by
  simp only [route?, ht, he, hp, Option.map_some]

section Honoured
variable (hr : HonoursPatterns routesFor) {req : Request}
include hr

/-- A request with an endpoint's method and the path of its pattern goes to that endpoint, with
the parameters of the path. -/
theorem route?_of_pattern (e : Endpoint) {id : List UInt8} (hid : id ≠ []) (hs : byte '/' ∉ id)
    (hm : req.method = e.method) (hp : req.url.path = (e.fill id).1) :
    route? req = some (e, (e.fill id).2) := by
  obtain ⟨tree, ht, he, hps⟩ := hr.reaches e hid hs
  exact route?_of_lookup (by rw [hm, ht]) (by rw [hp, he]) (by rw [hp, hps])

theorem route?_partTail {e : Endpoint} {tail : String} (ht : e.partTail? = some tail)
    {id : List UInt8} (hid : id ≠ []) (hs : byte '/' ∉ id) (hm : req.method = e.method)
    (hp : req.url.path = bytesOf "/v1/parts/" ++ (id ++ bytesOf tail)) :
    route? req = some (e, [("id", id)]) := by
  have hroute := route?_of_pattern hr e hid hs hm (by rw [hp, fill_of_partTail ht])
  rwa [fill_of_partTail ht] at hroute

theorem route?_collection {e : Endpoint} (he : e = .listParts ∨ e = .createPart)
    (hm : req.method = e.method) (hp : req.url.path = bytesOf "/v1/parts") :
    route? req = some (e, []) := by
  have hroute := route?_of_pattern hr e (show ([0] : List UInt8) ≠ [] by simp) (by decide) hm
    (by rw [hp, fill_collection he])
  rwa [fill_collection he] at hroute

/-- A request with an endpoint's method and the path of its pattern with one slash more is
answered with the redirect to the path without it, and the service is left as it was. -/
theorem handle_trailing_slash (s : Service) (e : Endpoint) {id : List UInt8} (hs : byte '/' ∉ id)
    (hm : req.method = e.method) (hp : req.url.path = (e.fill id).1 ++ [byte '/']) :
    s.handle req = (trailingSlashRedirect req, s) := by
  obtain ⟨tree, ht, hnone, hredirect⟩ := hr.redirects e hs
  have hconnect : req.method ≠ "CONNECT" := by
    rw [hm]
    cases e <;> decide
  have hroot : req.url.path ≠ [byte '/'] := by
    rw [hp]
    obtain ⟨b, bs, hb⟩ := List.exists_cons_of_ne_nil
      (fun h => by simpa [h] using fill_head e id : (e.fill id).1 ≠ [])
    simp [hb]
  unfold handle
  rw [hm, ht]
  simp only [hp, hnone, hredirect]
  rw [← hm, ← hp, if_pos (by simp [hconnect, hroot])]

end Honoured

end Service

end BillOfMaterials
