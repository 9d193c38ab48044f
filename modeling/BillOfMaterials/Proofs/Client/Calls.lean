import Mathlib
import BillOfMaterials.Client.Api
import BillOfMaterials.Client.Local
import BillOfMaterials.Proofs.Api.PartRoutes
import BillOfMaterials.Proofs.Client.Wire
import BillOfMaterials.Proofs.Engine.Calls
import BillOfMaterials.Proofs.Http.Escape

/-!
# What a client call answers

A client at `http://bom.test` linked to the service in the same process makes each call of the
parts API as one request: the path `/v1/parts` followed by the escaped id and the route's last
word, the filter or the action as a query of one key, the name or the child ids as a JSON body.

* The URL parses back to what the call wrote (`parse_call`): the path reads back as its segments
  and the query as its value.
* When the id is not empty and holds no slash, a router that honours the registered patterns
  (`HonoursPatterns`) sends the request to the call's endpoint with the id as its parameter, and
  the service reads it as the operation the call's arguments name (`Call.operation`), or refuses
  it with the first failing check.
* No answer of a parts route is a redirect, so the client reads the answer itself
  (`callParts_served`): a fault as the server error with its status, code and message, parts as
  their views (`Client.viewsOf`).

`call_served` puts these together for every call, given that the route trees honour the
patterns, and `call_answers` reads off what a caller sees: the engine after the call is the one
the operation leaves; failures of the checks and of the engine arrive as server errors; a call
that answers one part gets exactly the part of the id it names. An empty id leaves the path
`/v1/parts/`, which the router redirects to the list of all parts (`Client.get_empty_id`), so the
condition on the id is needed.
-/

namespace BillOfMaterials

open Http

theorem base_bom : (Client.new "http://bom.test" none).base = "http://bom.test" := by decide

theorem parts_bytes : bytesOf "/v1/parts" = [47, 118, 49, 47, 112, 97, 114, 116, 115] ∧
    bytesOf "/" = [byte '/'] ∧ bytesOf "" = [] := by
  cbv
  decide

theorem bytesOf_partsPath (segs : List String) :
    bytesOf (Client.partsPath segs) =
      bytesOf "/v1/parts" ++ segs.flatMap fun s => byte '/' :: escape .pathSegment (bytesOf s) := by
  rw [Client.partsPath, bytesOf_append, bytesOf_join, List.flatMap_map]
  simp only [bytesOf_append, bytesOf_pathEscape, parts_bytes.2.1,
    List.singleton_append]

theorem unescape_plain_append {xs : List UInt8} (hx : ∀ b ∈ xs, b.toNat ≠ 0x25) (rest : List UInt8) :
    unescape .path (xs ++ rest) = (unescape .path rest).map (xs ++ ·) := by
  induction xs with
  | nil =>
    rw [List.nil_append]
    cases unescape .path rest <;> rfl
  | cons c xs ih =>
    rw [List.cons_append, unescape_cons_plain ⟨by decide, by decide⟩ (hx c List.mem_cons_self)
      (fun h => by cases h), ih (fun b hb => hx b (List.mem_cons_of_mem c hb))]
    cases unescape .path rest <;> rfl

theorem unescape_segments (segs : List String) :
    unescape .path (segs.flatMap fun s => byte '/' :: escape .pathSegment (bytesOf s)) =
      .ok (segs.flatMap fun s => byte '/' :: bytesOf s) := by
  have hr : Reads .path .pathSegment := .inl ⟨rfl, rfl⟩
  induction segs with
  | nil => rw [List.flatMap_nil, unescape.eq_def]; rfl
  | cons s segs ih =>
    rw [List.flatMap_cons, List.flatMap_cons, List.cons_append,
      unescape_cons_plain ⟨by decide, by decide⟩ (by decide) (fun h => by cases h),
      unescape_escape_append hr, ih]
    rfl

theorem unescape_partsPath (segs : List String) :
    unescape .path (bytesOf (Client.partsPath segs)) =
      .ok (bytesOf "/v1/parts" ++ segs.flatMap fun s => byte '/' :: bytesOf s) := by
  rw [bytesOf_partsPath, unescape_plain_append (by rw [parts_bytes.1]; simp), unescape_segments]
  rfl

theorem plain_partsPath (segs : List String) : ∀ b ∈ bytesOf (Client.partsPath segs), Plain b := by
  have hparts : ∀ b ∈ bytesOf "/v1/parts", Plain b := by
    rw [parts_bytes.1]
    simp [Plain]
  rw [bytesOf_partsPath]
  intro b hb
  rcases List.mem_append.1 hb with hb | hb
  · exact hparts b hb
  · obtain ⟨s, -, hb⟩ := List.mem_flatMap.1 hb
    rcases List.mem_cons.1 hb with rfl | hb
    · decide
    · exact (mem_escape_pathSegment hb).1


theorem query_empty (key : String) : Client.query key "" = "" := by simp [Client.query]

theorem query_reads (key v : String) :
    ∃ q, bytesOf (Client.query key v) = (if q = [] then [] else byte '?' :: q) ∧
      (∀ b ∈ q, Plain b) ∧ (queryValue? q key).getD [] = bytesOf v := by
  by_cases hv : v.isEmpty
  · have hv' : v = "" := String.isEmpty_iff.1 hv
    subst hv'
    refine ⟨[], ?_, by simp, by rw [queryValue?_nil, Option.getD_none]; cbv⟩
    rw [query_empty, if_pos rfl]
    cbv
  · refine ⟨escape .queryComponent (bytesOf key) ++ byte '=' :: escape .queryComponent (bytesOf v),
      ?_, ?_, by rw [queryValue?_single]; rfl⟩
    · rw [if_neg (by simp), Client.query, if_neg hv]
      simp only [bytesOf_append, bytesOf_queryEscape]
      have h1 : bytesOf "?" = [byte '?'] ∧ bytesOf "=" = [byte '='] := by cbv
      rw [h1.1, h1.2]
      simp
    · intro b hb
      simp only [List.mem_append, List.mem_cons] at hb
      rcases hb with hb | rfl | hb
      · exact (mem_escape_queryComponent hb).1
      · decide
      · exact (mem_escape_queryComponent hb).1


theorem parse_call (segs : List String) (key v : String) :
    ∃ u : Url, Url.parse ((Client.new "http://bom.test" none).base ++ Client.partsPath segs ++
        Client.query key v) = .ok u ∧
      u.dropEmptyPort.path = bytesOf "/v1/parts" ++ segs.flatMap (fun s => byte '/' :: bytesOf s) ∧
      (queryValue? u.dropEmptyPort.rawQuery key).getD [] = bytesOf v := by
  obtain ⟨q, hq, hqp, hqv⟩ := query_reads key v
  have hs : bytesOf ((Client.new "http://bom.test" none).base ++ Client.partsPath segs ++
      Client.query key v) =
      bytesOf "http://bom.test" ++ bytesOf (Client.partsPath segs) ++
        (if q = [] then [] else byte '?' :: q) := by
    rw [base_bom, bytesOf_append, bytesOf_append, hq]
  have hP : (bytesOf (Client.partsPath segs)).head? = some (byte '/') := by
    rw [bytesOf_partsPath, parts_bytes.1]
    rfl
  obtain ⟨u, hu, hpath, hquery⟩ := parse_bom hs hP (plain_partsPath segs) hqp (unescape_partsPath segs)
  exact ⟨u, hu, hpath, by rw [hquery, hqv]⟩


namespace PartsCall

/-- The parts the service answers an operation read from a request with, or its fault: that of
the first failing check, or of the engine. -/
def outcome (e : Engine) (r : Except Fault PartsCall) : Except Fault (List Part) :=
  r >>= fun c => Prod.fst <$> c.run e

end PartsCall

namespace Client

/-- What a client takes from the service's answer to an outcome: a fault as the server error
with its status, code and message; parts as their views, refused when one has no name. -/
def viewsOf : Except Fault (List Part) → Except ClientError (List PartView)
  | .error f => .error (.server (classify f).1 ⟨(classify f).2.toInt, f.message⟩)
  | .ok ps =>
    if ps.any (·.name.isEmpty) then .error (.invalidView ⟨"name", "cannot be empty"⟩)
    else .ok (ps.map PartView.ofPart)

end Client

theorem fits64_code (c : ErrorCode) : Fits64 c.toInt := by
  cases c <;> simp [Fits64, ErrorCode.toInt]

theorem fits64_status (c : PartsCall) : Fits64 (c.status : Int) ∧ c.status < 400 := by
  cases c <;> simp [Fits64, PartsCall.status]

theorem status_failureResponse (f : Fault) : (failureResponse f).status = (classify f).1 := rfl

theorem redirectBehavior_failure (method : String) (f : Fault) :
    redirectBehavior method (failureResponse f).status = none := by
  rw [status_failureResponse]
  unfold classify
  split <;> rfl

theorem readParts_failureResponse (f : Fault) :
    Client.readParts (failureResponse f).status (.ok (failureResponse f).body) =
      Client.viewsOf (.error f) :=
  readParts_failure (fits64_code _) _ _

namespace PartsCall

theorem redirectBehavior_answer (method : String) (e : Engine) (r : Except Fault PartsCall) :
    redirectBehavior method (answer e r).1.status = none := by
  rcases r with f | c
  · exact redirectBehavior_failure method f
  · simp only [answer, respond]
    rcases c.run e with f | ⟨ps, e'⟩
    · exact redirectBehavior_failure method f
    · cases c <;> rfl

theorem readParts_answer (e : Engine) (r : Except Fault PartsCall) :
    Client.readParts (answer e r).1.status (.ok (answer e r).1.body) =
      Client.viewsOf (outcome e r) := by
  rcases r with f | c
  · exact readParts_failureResponse f
  · simp only [answer, respond, outcome, ok_bind]
    rcases c.run e with f | ⟨ps, e'⟩
    · exact readParts_failureResponse f
    · exact readParts_success (fits64_status c).1 (fits64_status c).2 _ ps

end PartsCall

namespace Service

theorem fetch_of_settled (s : Service) (req : Request)
    (h : redirectBehavior req.method (s.handle req).1.status = none) :
    (link none none).fetch req s = (.ok (s.handle req).1, (s.handle req).2) := by
  rw [Link.fetch, Link.follow]
  simp only [link, h]

end Service

namespace Client

theorem callParts_served (s : Service) (M : String) (segs : List String) (key v : String)
    (body : Option Json) (r : Except Fault PartsCall)
    (hroute : ∀ req : Request, req.method = M →
      req.url.path = bytesOf "/v1/parts" ++ segs.flatMap (fun s => byte '/' :: bytesOf s) →
      (queryValue? req.url.rawQuery key).getD [] = bytesOf v →
      req.body = (body.map (·.render {})).getD "" →
      ∃ ep params, Service.route? req = some (ep, params) ∧ ep.read req params = some r) :
    ((Client.new "http://bom.test" none).callParts (Service.link none none) s M (partsPath segs)
        (query key v) body).1 = viewsOf (PartsCall.outcome s.engine r) ∧
    ((Client.new "http://bom.test" none).callParts (Service.link none none) s M (partsPath segs)
        (query key v) body).2.2.engine = (PartsCall.answer s.engine r).2 := by
  obtain ⟨u, hu, hpath, hquery⟩ := parse_call segs key v
  let req : Request := { method := M, url := u.dropEmptyPort, body := (body.map (·.render {})).getD "" }
  obtain ⟨ep, params, hr, hread⟩ := hroute req rfl hpath hquery rfl
  have hanswer := (Service.handle_parts_route s hr hread).2.1
  have hfetch := Service.fetch_of_settled s req (by
    rw [congrArg Prod.fst hanswer]
    exact PartsCall.redirectBehavior_answer _ _ _)
  simp only [callParts, exchange, hu]
  rw [hfetch]
  refine ⟨?_, congrArg Prod.snd hanswer⟩
  rw [congrArg Prod.fst hanswer]
  exact PartsCall.readParts_answer _ _

end Client


/-! ## What a call names -/

namespace Call

/-- The engine operation a call's arguments name, read in the order the service checks them:
the part id with `PartId.read`, the filter with `Filter.parse` and the action with
`Action.parse` (the empty text naming `all` and `add`), the name of a create, then the child ids
in order; the fault of the first that fails otherwise. The index names none. -/
def operation : Call → Option (Except Fault PartsCall)
  | .index => none
  | .list f => some do pure (.list (← Filter.parse f))
  | .create name =>
    some (if name.isEmpty then
      .error (.invalid "request body" (BindError.required "NewPartRequest" "Name").message)
    else .ok (.create name))
  | .get id => some do pure (.get (← PartId.read id))
  | .delete id => some do pure (.delete (← PartId.read id))
  | .children id f => some do
    let i ← PartId.read id
    pure (.children i (← Filter.parse f))
  | .update id a cs => some do
    let i ← PartId.read id
    let act ← Action.parse a
    pure (.update i act (← cs.mapM PartId.read))
  | .contained id => some do pure (.contained (← PartId.read id))
  | .descendants id f => some do
    let i ← PartId.read id
    pure (.descendants i (← Filter.parse f))

/-- The part id a call writes into its path. -/
def pathId? : Call → Option String
  | .get id | .delete id | .children id _ | .update id _ _ | .contained id | .descendants id _ =>
    some id
  | .index | .list _ | .create _ => none

/-- Whether a call answers one part. -/
def single : Call → Bool
  | .create _ | .get _ | .delete _ | .update .. => true
  | _ => false

end Call

/-! ## The request the service reads -/

theorem readPartId_bytesOf (id : String) : readPartId (bytesOf id) = PartId.read id := rfl

theorem readFilter_bytesOf (f : String) : readFilter (bytesOf f) = Filter.parse f := by
  rw [readFilter, show bytesOf f = Text.Utf8.bytes f from rfl, Text.Utf8.decode?_bytes]

theorem readAction_bytesOf (a : String) : readAction (bytesOf a) = Action.parse a := by
  rw [readAction, show bytesOf a = Text.Utf8.bytes a from rfl, Text.Utf8.decode?_bytes]

theorem lookup_id (v : List UInt8) : (([("id", v)] : List (String × List UInt8)).lookup "id").getD [] = v :=
  rfl

theorem partsPath_one (x : String) :
    bytesOf "/v1/parts" ++ [x].flatMap (fun s => byte '/' :: bytesOf s) =
      bytesOf "/v1/parts/" ++ bytesOf x := by
  rw [route_bytes.2.2.2.2]
  simp [show byte '/' = 47 from rfl]

theorem partsPath_two (x t : String) :
    bytesOf "/v1/parts" ++ [x, t].flatMap (fun s => byte '/' :: bytesOf s) =
      bytesOf "/v1/parts/" ++ (bytesOf x ++ bytesOf ("/" ++ t)) := by
  rw [route_bytes.2.2.2.2, bytesOf_append, parts_bytes.2.1]
  simp [show byte '/' = 47 from rfl]

/-- Every call but the index is one request that the router sends to the call's endpoint and
the service reads as the call's operation; the client reads the answer as the views of the
operation's parts, or as the server error of its fault. -/
theorem call_served (hr : HonoursPatterns routesFor) (s : Service) {k : Call} {r : Except Fault PartsCall} (hk : k.operation = some r)
    (hid : ∀ id, k.pathId? = some id → id ≠ "" ∧ '/' ∉ id.toList) :
    ((Client.new "http://bom.test" none).call (Service.link none none) s k).1 =
      (if k.single then Client.one (Client.viewsOf (PartsCall.outcome s.engine r))
        else (Client.viewsOf (PartsCall.outcome s.engine r)).map .parts) ∧
    ((Client.new "http://bom.test" none).call (Service.link none none) s k).2.2.engine =
      (PartsCall.answer s.engine r).2 := by
  cases k with
  | index => cases hk
  | list f =>
    obtain ⟨h1, h2⟩ := Client.callParts_served s "GET" [] "filter" f none r
      (fun req hm hp hq _ => ⟨.listParts, [], Service.route?_collection hr (.inl rfl) hm (by simpa using hp), by
        rw [← hk]
        simp only [Call.operation, Endpoint.read, hq, readFilter_bytesOf]⟩)
    exact ⟨by simp only [Client.call, Call.single, h1]; rfl, h2⟩
  | create name =>
    obtain ⟨h1, h2⟩ := Client.callParts_served s "POST" [] "filter" ""
      (some (.object [("name", .string name)])) r
      (fun req hm hp _ hb => ⟨.createPart, [], Service.route?_collection hr (.inr rfl) hm (by simpa using hp), by
        rw [← hk]
        simp only [Call.operation, Endpoint.read, hb, Option.map_some, Option.getD_some, bind_name]
        by_cases h : name.isEmpty <;> simp [h, Except.mapError]⟩)
    rw [query_empty] at h1 h2
    exact ⟨by simp only [Client.call, Call.single, h1]; rfl, h2⟩
  | get id =>
    obtain ⟨hne, hsl⟩ := hid id rfl
    obtain ⟨h1, h2⟩ := Client.callParts_served s "GET" [id] "filter" "" none r
      (fun req hm hp _ _ => ⟨.getPart, [("id", bytesOf id)],
        Service.route?_partTail hr (e := .getPart) rfl
          (bytesOf_ne_nil hne) (slash_not_mem_bytesOf hsl) hm
          (by rw [hp, partsPath_one, bytesOf_empty, List.append_nil]), by
        rw [← hk]
        simp only [Call.operation, Endpoint.read, lookup_id, readPartId_bytesOf]⟩)
    rw [query_empty] at h1 h2
    exact ⟨by simp only [Client.call, Call.single, h1]; rfl, h2⟩
  | delete id =>
    obtain ⟨hne, hsl⟩ := hid id rfl
    obtain ⟨h1, h2⟩ := Client.callParts_served s "DELETE" [id] "filter" "" none r
      (fun req hm hp _ _ => ⟨.deletePart, [("id", bytesOf id)],
        Service.route?_partTail hr (e := .deletePart) rfl
          (bytesOf_ne_nil hne) (slash_not_mem_bytesOf hsl) hm
          (by rw [hp, partsPath_one, bytesOf_empty, List.append_nil]), by
        rw [← hk]
        simp only [Call.operation, Endpoint.read, lookup_id, readPartId_bytesOf]⟩)
    rw [query_empty] at h1 h2
    exact ⟨by simp only [Client.call, Call.single, h1]; rfl, h2⟩
  | children id f =>
    obtain ⟨hne, hsl⟩ := hid id rfl
    obtain ⟨h1, h2⟩ := Client.callParts_served s "GET" [id, "children"] "filter" f none r
      (fun req hm hp hq _ => ⟨.getChildren, [("id", bytesOf id)],
        Service.route?_partTail hr (e := .getChildren) rfl
          (bytesOf_ne_nil hne) (slash_not_mem_bytesOf hsl) hm (by rw [hp, partsPath_two]; rfl), by
        rw [← hk]
        simp only [Call.operation, Endpoint.read, lookup_id, readPartId_bytesOf, hq, readFilter_bytesOf]⟩)
    exact ⟨by simp only [Client.call, Call.single, h1]; rfl, h2⟩
  | update id a cs =>
    obtain ⟨hne, hsl⟩ := hid id rfl
    obtain ⟨h1, h2⟩ := Client.callParts_served s "POST" [id, "children"] "action" a
      (some (.object [("children", Json.strings cs)])) r
      (fun req hm hp hq hb => ⟨.updateChildren, [("id", bytesOf id)],
        Service.route?_partTail hr (e := .updateChildren) rfl
          (bytesOf_ne_nil hne) (slash_not_mem_bytesOf hsl) hm (by rw [hp, partsPath_two]; rfl), by
        rw [← hk]
        simp only [Call.operation, Endpoint.read, lookup_id, readPartId_bytesOf, hq, readAction_bytesOf, hb,
          Option.map_some, Option.getD_some, bind_children]
        rfl⟩)
    exact ⟨by simp only [Client.call, Call.single, h1]; rfl, h2⟩
  | contained id =>
    obtain ⟨hne, hsl⟩ := hid id rfl
    obtain ⟨h1, h2⟩ := Client.callParts_served s "GET" [id, "contained"] "filter" "" none r
      (fun req hm hp _ _ => ⟨.getContained, [("id", bytesOf id)],
        Service.route?_partTail hr (e := .getContained) rfl
          (bytesOf_ne_nil hne) (slash_not_mem_bytesOf hsl) hm (by rw [hp, partsPath_two]; rfl), by
        rw [← hk]
        simp only [Call.operation, Endpoint.read, lookup_id, readPartId_bytesOf]⟩)
    rw [query_empty] at h1 h2
    exact ⟨by simp only [Client.call, Call.single, h1]; rfl, h2⟩
  | descendants id f =>
    obtain ⟨hne, hsl⟩ := hid id rfl
    obtain ⟨h1, h2⟩ := Client.callParts_served s "GET" [id, "descendants"] "filter" f none r
      (fun req hm hp hq _ => ⟨.getDescendants, [("id", bytesOf id)],
        Service.route?_partTail hr (e := .getDescendants) rfl
          (bytesOf_ne_nil hne) (slash_not_mem_bytesOf hsl) hm (by rw [hp, partsPath_two]; rfl), by
        rw [← hk]
        simp only [Call.operation, Endpoint.read, lookup_id, readPartId_bytesOf, hq, readFilter_bytesOf]⟩)
    exact ⟨by simp only [Client.call, Call.single, h1]; rfl, h2⟩

/-! ## Calls that answer one part -/

theorem Engine.deletePart_id {e e' : Engine} {id : PartId} {p : Part}
    (h : e.deletePart id = .ok (p, e')) : p.id = id := by
  unfold Engine.deletePart at h
  simp only [bind_eq_ok, pure_eq_ok, Prod.mk.injEq] at h
  obtain ⟨q, hq, -, -, rfl, -⟩ := h
  exact Graph.get_id hq

theorem Engine.updateChildren_id {e e' : Engine} {id : PartId} {a : Action} {cs : List PartId}
    {p : Part} (h : e.updateChildren id a cs = .ok (p, e')) : p.id = id := by
  unfold Engine.updateChildren at h
  simp only [bind_eq_ok, pure_eq_ok, Prod.mk.injEq] at h
  obtain ⟨g, -, q, hq, rfl, -⟩ := h
  exact Graph.get_id hq

theorem outcome_single {e : Engine} {k : Call} {r : Except Fault PartsCall}
    (hk : k.operation = some r) (hs : k.single = true) {ps : List Part}
    (h : PartsCall.outcome e r = .ok ps) :
    ∃ p, ps = [p] ∧ ∀ id, k.pathId? = some id → PartId.read id = .ok p.id := by
  cases k with
  | create name =>
    obtain rfl := Option.some.inj hk
    split_ifs at h
    · simp [PartsCall.outcome] at h
    · rcases hc : e.createPart name with f | ⟨p, e'⟩
      · simp [hc, PartsCall.outcome, PartsCall.run, Except.map] at h
      · simp [hc, PartsCall.outcome, PartsCall.run, Except.map] at h
        exact ⟨p, h.symm, fun _ hid => by cases hid⟩
  | get id =>
    obtain rfl := Option.some.inj hk
    rcases hi : PartId.read id with f | i
    · simp [hi, PartsCall.outcome] at h
    · rcases hg : e.getPart i with f | p
      · simp [hi, hg, PartsCall.outcome, PartsCall.run, Except.map] at h
      · simp [hi, hg, PartsCall.outcome, PartsCall.run, Except.map] at h
        refine ⟨p, h.symm, fun id' hid => ?_⟩
        cases hid
        rw [hi, Graph.get_id hg]
  | delete id =>
    obtain rfl := Option.some.inj hk
    rcases hi : PartId.read id with f | i
    · simp [hi, PartsCall.outcome] at h
    · rcases hd : e.deletePart i with f | ⟨p, e'⟩
      · simp [hi, hd, PartsCall.outcome, PartsCall.run, Except.map] at h
      · simp [hi, hd, PartsCall.outcome, PartsCall.run, Except.map] at h
        refine ⟨p, h.symm, fun id' hid => ?_⟩
        cases hid
        rw [hi, Engine.deletePart_id hd]
  | update id a cs =>
    obtain rfl := Option.some.inj hk
    rcases hi : PartId.read id with f | i
    · simp [hi, PartsCall.outcome] at h
    · rcases ha : Action.parse a with f | act
      · simp [hi, ha, PartsCall.outcome] at h
      · rcases hcs : cs.mapM PartId.read with f | ids
        · simp [hi, ha, hcs, PartsCall.outcome] at h
        · rcases hu : e.updateChildren i act ids with f | ⟨p, e'⟩
          · simp [hi, ha, hcs, hu, PartsCall.outcome, PartsCall.run, Except.map] at h
          · simp [hi, ha, hcs, hu, PartsCall.outcome, PartsCall.run, Except.map] at h
            refine ⟨p, h.symm, fun id' hid => ?_⟩
            cases hid
            rw [hi, Engine.updateChildren_id hu]
  | _ => simp [Call.single] at hs

/-! ## What every call answers -/

/-- A client at `http://bom.test` linked to the service answers every call of the parts API whose
path id is not empty and holds no slash with the answer of the one operation the call's arguments
name, and leaves the engine as that operation leaves it: a fault of a check or of the engine
comes back as the server error with the fault's status, code and message; parts come back as
their views, refused when one has no name; a call that answers one part gets exactly one, the
part of the id it names. -/
theorem call_answers (s : Service) (k : Call) {r : Except Fault PartsCall}
    (hk : k.operation = some r) (hid : ∀ id, k.pathId? = some id → id ≠ "" ∧ '/' ∉ id.toList) :
    let out := (Client.new "http://bom.test" none).call (Service.link none none) s k
    out.2.2.engine = (PartsCall.answer s.engine r).2 ∧
    (∀ f, PartsCall.outcome s.engine r = .error f →
      out.1 = .error (.server (classify f).1 ⟨(classify f).2.toInt, f.message⟩)) ∧
    (∀ ps, PartsCall.outcome s.engine r = .ok ps → (∃ p ∈ ps, p.name = "") →
      out.1 = .error (.invalidView ⟨"name", "cannot be empty"⟩)) ∧
    (∀ ps, PartsCall.outcome s.engine r = .ok ps → (∀ p ∈ ps, p.name ≠ "") → k.single = false →
      out.1 = .ok (.parts (ps.map PartView.ofPart))) ∧
    (∀ ps, PartsCall.outcome s.engine r = .ok ps → (∀ p ∈ ps, p.name ≠ "") → k.single = true →
      ∃ p, ps = [p] ∧ out.1 = .ok (.part (PartView.ofPart p)) ∧
        ∀ id, k.pathId? = some id → PartId.read id = .ok p.id) := by
  dsimp only
  obtain ⟨hout, hengine⟩ := call_served routesFor_honoursPatterns s hk hid
  refine ⟨hengine, fun f hf => ?_, fun ps hps hname => ?_, fun ps hps hnames hs => ?_,
    fun ps hps hnames hs => ?_⟩
  · rw [hout, hf]
    cases k.single <;> rfl
  · -- the first view without a name is refused, whatever the call
    obtain ⟨p, hp, hpn⟩ := hname
    have hany : ps.any (·.name.isEmpty) = true := List.any_eq_true.2 ⟨p, hp, by simp [hpn]⟩
    rw [hout, hps]
    simp only [Client.viewsOf, hany, if_true]
    cases k.single <;> rfl
  · have hany : ps.any (·.name.isEmpty) = false := by simpa using hnames
    rw [hout, hps, hs]
    simp only [Client.viewsOf, hany]
    rfl
  · obtain ⟨p, rfl, hpid⟩ := outcome_single hk hs hps
    have hany : [p].any (·.name.isEmpty) = false := by simpa using hnames
    refine ⟨p, rfl, ?_, hpid⟩
    rw [hout, hps, hs]
    simp only [Client.viewsOf, hany]
    rfl

/-- After one create of `A`, a get of its id answers the part `A`. -/
theorem call_answers_get_of_created :
    let s : Service := { engine := (({} : Engine).run (.create "A")).2 }
    ((Client.new "http://bom.test" none).call (Service.link none none) s
        (.get "00000000-0000-4000-8000-000000000001")).1 =
      .ok (.part ⟨"00000000-0000-4000-8000-000000000001", "A", [], []⟩) := by
  intro s
  have hid : ∀ id, (Call.get "00000000-0000-4000-8000-000000000001").pathId? = some id →
      id ≠ "" ∧ '/' ∉ id.toList := by
    intro id h
    cases h
    decide +kernel
  have hout : (PartsCall.outcome s.engine
      (do pure (.get (← PartId.read "00000000-0000-4000-8000-000000000001")))).toOption =
      some [⟨IdStream.ofSerial 1, "A", [], []⟩] := by
    decide +kernel
  have hok : PartsCall.outcome s.engine
      (do pure (.get (← PartId.read "00000000-0000-4000-8000-000000000001"))) =
      .ok [⟨IdStream.ofSerial 1, "A", [], []⟩] := by
    revert hout
    cases PartsCall.outcome s.engine _ <;> simp [Except.toOption]
  obtain ⟨p, hp, hcall, -⟩ :=
    (call_answers s (.get "00000000-0000-4000-8000-000000000001") rfl hid).2.2.2.2 _ hok
      (by simp) rfl
  rw [hcall, (List.cons_eq_cons.1 hp).1.symm]
  decide +kernel

end BillOfMaterials
