import Mathlib
import BillOfMaterials.Api.Service
import BillOfMaterials.Proofs.Except

/-!
# The handlers of the parts routes

A request to a parts route (`/v1/parts...`) is read check by check and then, when every check
passes, makes one engine operation, a `PartsCall`:

* `Endpoint.read`: the checks in the handler's order: the part id of the path, the filter or
  the action of the query (the empty text meaning `all` and `add`), the body, and each child id
  of the body in list order; `Endpoint.checks` lists them as separate checks, and
  `read_eq_firstFault` says that the read fails with the first of them that fails;
* `PartsCall.respond`: the one engine operation and its answer: a success envelope with status
  `201` for a create and `200` else, the description of the route and the view of each part the
  engine answers with, in order; or the failure envelope of the engine's fault, the engine left
  as it was.

`serveRoute_eq` is the handler of every parts route in these terms. `route?` is where the router
sends a request and `callOf` the operation a request makes once its checks pass;
`handle_parts_route`: the service answers a request its router sends to a parts route with the
failure of the first failing check and the engine untouched, or with the answer of the one engine
operation; and `handleAll_engine`: after any sequence of requests the engine is the one the
engine operations of the requests that passed their checks make, in order, so the HTTP layer adds
no change to the graph and loses none.
-/

namespace BillOfMaterials

open Http

/-- An engine operation that a request to a parts route makes, with its arguments. -/
inductive PartsCall where
  | list (f : Filter)
  | create (name : String)
  | get (id : PartId)
  | delete (id : PartId)
  | children (id : PartId) (f : Filter)
  | update (id : PartId) (action : Action) (children : List PartId)
  | contained (id : PartId)
  | descendants (id : PartId) (f : Filter)

namespace PartsCall

/-- Makes the operation on an engine: the parts it answers with, and the engine after it. -/
def run (e : Engine) : PartsCall → Except Fault (List Part × Engine)
  | .list f => .ok (e.listParts f, e)
  | .create name => (e.createPart name).map fun (p, e) => ([p], e)
  | .get id => (e.getPart id).map fun p => ([p], e)
  | .delete id => (e.deletePart id).map fun (p, e) => ([p], e)
  | .children id f => (e.listChildren id f).map fun ps => (ps, e)
  | .update id a cs => (e.updateChildren id a cs).map fun (p, e) => ([p], e)
  | .contained id => (e.contained id).map fun ps => (ps, e)
  | .descendants id f => (e.listDescendants id f).map fun ps => (ps, e)

/-- The status of a success: `201` for a create, `200` else. -/
def status : PartsCall → Nat
  | .create _ => 201
  | _ => 200

/-- The description of a success. -/
def description : PartsCall → String
  | .list _ | .children .. | .descendants .. => "Fetched all parts successfully"
  | .create _ => "New part created successfully"
  | .get _ => "Found part in parts list"
  | .delete _ => "Deleted part from list"
  | .update .. => "Part children updated successfully"
  | .contained _ => "Fetched containing assemblies successfully"

/-- The answer to an operation and the engine after it: a success with the parts, or the
failure with the engine as it was. -/
def respond (e : Engine) (c : PartsCall) : Response × Engine :=
  match c.run e with
  | .ok (ps, e') => (successResponse c.status c.description ps, e')
  | .error f => (failureResponse f, e)

/-- The answer to a request read into an operation: the failure of the read with the engine as
it was, or the operation's answer. -/
def answer (e : Engine) : Except Fault PartsCall → Response × Engine
  | .error f => (failureResponse f, e)
  | .ok c => c.respond e

@[simp] theorem answer_pure (e : Engine) (c : PartsCall) : answer e (pure c) = c.respond e := rfl

end PartsCall

/-- The first failure of a list of checks. -/
def firstFault : List (Except Fault Unit) → Option Fault
  | [] => none
  | .error f :: _ => some f
  | .ok () :: rest => firstFault rest

/-- The fault of a failed computation. -/
def faultOf {α : Type} : Except Fault α → Option Fault
  | .ok _ => none
  | .error f => some f

/-- A check that keeps only whether a computation fails. -/
def pass {α : Type} (x : Except Fault α) : Except Fault Unit := x.map fun _ => ()

namespace Endpoint

/-- Reads the operation a request to a parts route asks for, making the handler's checks in
order; `none` for a route that is not a parts route. -/
def read (ep : Endpoint) (req : Request) (params : List (String × List UInt8)) :
    Option (Except Fault PartsCall) :=
  let query (key : String) := (queryValue? req.url.rawQuery key).getD []
  let partId := readPartId ((params.lookup "id").getD [])
  let body {α : Type} (r : Except BindError α) : Except Fault α :=
    r.mapError fun b => .invalid "request body" b.message
  match ep with
  | .listParts => some do pure (.list (← readFilter (query "filter")))
  | .createPart => some do pure (.create (← body (NewPartRequest.bind req.body)).name)
  | .getPart => some do pure (.get (← partId))
  | .deletePart => some do pure (.delete (← partId))
  | .getChildren => some do
    let id ← partId
    pure (.children id (← readFilter (query "filter")))
  | .updateChildren => some do
    let id ← partId
    let a ← readAction (query "action")
    let raw ← body (UpdateChildrenRequest.bind req.body)
    pure (.update id a (← raw.mapM PartId.read))
  | .getContained => some do pure (.contained (← partId))
  | .getDescendants => some do
    let id ← partId
    pure (.descendants id (← readFilter (query "filter")))
  | .index | .health | .metrics => none

/-- The checks of a request to a parts route, each made alone, in the order the handler makes
them; the child ids are checked once the body is read. -/
def checks (ep : Endpoint) (req : Request) (params : List (String × List UInt8)) :
    List (Except Fault Unit) :=
  let query (key : String) := (queryValue? req.url.rawQuery key).getD []
  let partId := readPartId ((params.lookup "id").getD [])
  let body {α : Type} (r : Except BindError α) : Except Fault α :=
    r.mapError fun b => .invalid "request body" b.message
  match ep with
  | .listParts => [pass (readFilter (query "filter"))]
  | .createPart => [pass (body (NewPartRequest.bind req.body))]
  | .getPart | .deletePart | .getContained => [pass partId]
  | .getChildren | .getDescendants => [pass partId, pass (readFilter (query "filter"))]
  | .updateChildren =>
    [pass partId, pass (readAction (query "action")),
      pass (body (UpdateChildrenRequest.bind req.body))] ++
    match UpdateChildrenRequest.bind req.body with
    | .ok raw => raw.map fun r => pass (PartId.read r)
    | .error _ => []
  | .index | .health | .metrics => []

end Endpoint

/-! ## The first failing check -/

@[simp] theorem firstFault_pass_cons {α : Type} (x : Except Fault α)
    (rest : List (Except Fault Unit)) :
    firstFault (pass x :: rest) = match x with
      | .ok _ => firstFault rest
      | .error f => some f := by
  cases x <;> rfl

@[simp] theorem faultOf_bind {α β : Type} (x : Except Fault α) (k : α → Except Fault β) :
    faultOf (x >>= k) = match x with
      | .ok a => faultOf (k a)
      | .error f => some f := by
  cases x <;> rfl

@[simp] theorem faultOf_pure {α : Type} (a : α) : faultOf (pure a : Except Fault α) = none := rfl

theorem faultOf_mapM_read (raw : List String) :
    faultOf (raw.mapM PartId.read) = firstFault (raw.map fun r => pass (PartId.read r)) := by
  induction raw with
  | nil => rfl
  | cons r rest ih =>
    rw [List.mapM_cons, List.map_cons, faultOf_bind, firstFault_pass_cons]
    cases PartId.read r with
    | error f => rfl
    | ok id =>
      simp only [faultOf_bind, ← ih]
      cases rest.mapM PartId.read <;> rfl

/-- A request to a parts route is refused with the first of its checks that fails, and is read
into an operation when they all pass. -/
theorem read_eq_firstFault {ep : Endpoint} {req : Request} {params : List (String × List UInt8)}
    {r : Except Fault PartsCall} (hr : ep.read req params = some r) :
    faultOf r = firstFault (ep.checks req params) := by
  cases ep <;> simp only [Endpoint.read, Option.some.injEq, reduceCtorEq] at hr <;> subst hr <;>
    simp only [Endpoint.checks, faultOf_bind, firstFault_pass_cons, List.cons_append,
      List.nil_append]
  case listParts | createPart | getPart | deletePart | getContained =>
    split <;> rfl
  case getChildren | getDescendants =>
    split
    · split <;> rfl
    · rfl
  case updateChildren =>
    cases readPartId ((params.lookup "id").getD []) with
    | error f => rfl
    | ok id =>
      cases readAction ((queryValue? req.url.rawQuery "action").getD []) with
      | error f => rfl
      | ok a =>
        cases UpdateChildrenRequest.bind req.body with
        | error b => rfl
        | ok raw =>
          dsimp only [Except.mapError]
          rw [← faultOf_mapM_read]
          cases raw.mapM PartId.read <;> rfl

/-! ## What a handler does -/

namespace Service

/-- The handler of a parts route answers with the failure of the first failing check and leaves
the engine as it was, or makes the one operation the request names and answers with its result. -/
theorem serveRoute_eq (s : Service) {ep : Endpoint} {req : Request}
    {params : List (String × List UInt8)} {r : Except Fault PartsCall}
    (hr : ep.read req params = some r) :
    s.serveRoute ep req params = PartsCall.answer s.engine r := by
  cases ep <;> simp only [Endpoint.read, Option.some.injEq, reduceCtorEq] at hr <;> subst hr <;>
    simp only [serveRoute, runHandler]
  case listParts =>
    cases readFilter ((queryValue? req.url.rawQuery "filter").getD []) <;> rfl
  case createPart =>
    cases (NewPartRequest.bind req.body).mapError fun b => Fault.invalid "request body" b.message with
    | error f => rfl
    | ok body =>
      simp only [ok_bind, PartsCall.answer_pure, PartsCall.respond, PartsCall.run]
      cases s.engine.createPart body.name <;> rfl
  case getPart =>
    cases readPartId ((params.lookup "id").getD []) with
    | error f => rfl
    | ok id =>
      simp only [ok_bind, PartsCall.answer_pure, PartsCall.respond, PartsCall.run]
      cases s.engine.getPart id <;> rfl
  case deletePart =>
    cases readPartId ((params.lookup "id").getD []) with
    | error f => rfl
    | ok id =>
      simp only [ok_bind, PartsCall.answer_pure, PartsCall.respond, PartsCall.run]
      cases s.engine.deletePart id <;> rfl
  case getContained =>
    cases readPartId ((params.lookup "id").getD []) with
    | error f => rfl
    | ok id =>
      simp only [ok_bind, PartsCall.answer_pure, PartsCall.respond, PartsCall.run]
      cases s.engine.contained id <;> rfl
  case getChildren =>
    cases readPartId ((params.lookup "id").getD []) with
    | error f => rfl
    | ok id =>
      cases readFilter ((queryValue? req.url.rawQuery "filter").getD []) with
      | error f => rfl
      | ok f =>
        simp only [ok_bind, PartsCall.answer_pure, PartsCall.respond, PartsCall.run]
        cases s.engine.listChildren id f <;> rfl
  case getDescendants =>
    cases readPartId ((params.lookup "id").getD []) with
    | error f => rfl
    | ok id =>
      cases readFilter ((queryValue? req.url.rawQuery "filter").getD []) with
      | error f => rfl
      | ok f =>
        simp only [ok_bind, PartsCall.answer_pure, PartsCall.respond, PartsCall.run]
        cases s.engine.listDescendants id f <;> rfl
  case updateChildren =>
    cases readPartId ((params.lookup "id").getD []) with
    | error f => rfl
    | ok id =>
      cases readAction ((queryValue? req.url.rawQuery "action").getD []) with
      | error f => rfl
      | ok a =>
        cases (UpdateChildrenRequest.bind req.body).mapError
            fun b => Fault.invalid "request body" b.message with
        | error f => rfl
        | ok raw =>
          simp only [ok_bind]
          cases raw.mapM PartId.read with
          | error f => rfl
          | ok cs =>
            simp only [ok_bind, PartsCall.answer_pure, PartsCall.respond, PartsCall.run]
            cases s.engine.updateChildren id a cs <;> rfl

theorem serveRoute_engine_of_read_none (s : Service) {ep : Endpoint} {req : Request}
    {params : List (String × List UInt8)} (hr : ep.read req params = none) :
    (s.serveRoute ep req params).2 = s.engine := by
  cases ep <;> simp only [Endpoint.read, reduceCtorEq] at hr <;> rfl

/-- The route the router sends a request to, with the parameters of its path; `none` when the
router answers itself, with a redirect or a `404`. -/
def route? (req : Request) : Option (Endpoint × List (String × List UInt8)) :=
  match routesFor req.method with
  | none => none
  | some tree =>
    let m := tree.lookup req.url.path
    m.endpoint.map fun ep => (ep, m.params)

/-- The engine operation a request makes once its checks pass; `none` for a request refused by a
check or sent to no parts route. -/
def callOf (req : Request) : Option PartsCall :=
  match route? req with
  | some (ep, params) =>
    match ep.read req params with
    | some (.ok c) => some c
    | _ => none
  | none => none

theorem handle_of_route (s : Service) {req : Request} {ep : Endpoint}
    {params : List (String × List UInt8)} (hroute : route? req = some (ep, params)) :
    s.handle req = ((s.serveRoute ep req params).1,
      { s with engine := (s.serveRoute ep req params).2 }.count req.method ep.pattern
        (s.serveRoute ep req params).1.status) := by
  unfold route? at hroute
  unfold handle
  cases ht : routesFor req.method with
  | none => simp only [ht, reduceCtorEq] at hroute
  | some tree =>
    simp only [ht, Option.map_eq_some_iff, Prod.mk.injEq] at hroute ⊢
    obtain ⟨ep', hep, rfl, hparams⟩ := hroute
    simp only [hep, hparams]

theorem handle_engine_of_route_none (s : Service) {req : Request} (hroute : route? req = none) :
    (s.handle req).2.engine = s.engine := by
  unfold route? at hroute
  unfold handle
  cases ht : routesFor req.method with
  | none => rfl
  | some tree =>
    simp only [ht, Option.map_eq_none_iff] at hroute ⊢
    simp only [hroute]
    split <;> rfl

theorem handle_engine (s : Service) (req : Request) :
    (s.handle req).2.engine = match callOf req with
      | some c => (c.respond s.engine).2
      | none => s.engine := by
  unfold callOf
  cases hroute : route? req with
  | none => exact handle_engine_of_route_none s hroute
  | some route =>
    obtain ⟨ep, params⟩ := route
    dsimp only
    rw [handle_of_route s hroute]
    cases hr : ep.read req params with
    | none => exact serveRoute_engine_of_read_none s hr
    | some r =>
      rw [serveRoute_eq s hr]
      cases r <;> rfl

/-- After a sequence of requests the engine is the one the engine operations of the requests
that passed their checks make, in order. -/
theorem handleAll_engine (s : Service) (reqs : List Request) :
    (s.handleAll reqs).2.engine =
      (reqs.filterMap callOf).foldl (fun e c => (c.respond e).2) s.engine := by
  induction reqs generalizing s with
  | nil => rfl
  | cons req reqs ih =>
    have hstep := handle_engine s req
    simp only [handleAll, List.filterMap_cons]
    rw [ih]
    cases hc : callOf req with
    | none => simp only [hc] at hstep; rw [hstep]
    | some c => simp only [hc] at hstep; rw [hstep, List.foldl_cons]

/-- A request the router sends to a parts route is refused with the first of its checks that
fails, in the order part id, filter or action, body, child ids; the engine operation it names is
made only when every check passes; the answer is the success envelope of the operation's parts or
the failure envelope of the first fault, and a refused request leaves the engine, its change count
included, as it was. Over any sequence of requests the engine is the one the operations of the
requests that passed their checks make, in order. -/
theorem handle_parts_route (s : Service) {req : Request} {ep : Endpoint}
    {params : List (String × List UInt8)} {r : Except Fault PartsCall}
    (hroute : route? req = some (ep, params)) (hr : ep.read req params = some r) :
    faultOf r = firstFault (ep.checks req params) ∧
    ((s.handle req).1, (s.handle req).2.engine) = PartsCall.answer s.engine r ∧
    (∀ f, r = .error f → (s.handle req).1 = failureResponse f ∧ (s.handle req).2.engine = s.engine) ∧
    ∀ reqs, (s.handleAll reqs).2.engine =
      (reqs.filterMap callOf).foldl (fun e c => (c.respond e).2) s.engine := by
  have hanswer : ((s.handle req).1, (s.handle req).2.engine) = PartsCall.answer s.engine r := by
    rw [handle_of_route s hroute, ← serveRoute_eq s hr]
    rfl
  refine ⟨read_eq_firstFault hr, hanswer, ?_, handleAll_engine s⟩
  rintro f rfl
  exact Prod.mk.inj hanswer

/-- A request for the children of `xyz` under the filter `bogus` fails two checks; the answer is
the failure of the first, the part id. -/
theorem handle_parts_route_children_of_bad_id :
    let req : Request :=
      { method := "GET",
        url := { path := bytesOf "/v1/parts/xyz/children", rawQuery := bytesOf "filter=bogus" } }
    ((({} : Service).handle req).1, (({} : Service).handle req).2.engine) =
      (failureResponse (.invalid "part id" (IdError.badLength 3).message), {}) := by
  intro req
  have hroute : route? req = some (.getChildren, [("id", bytesOf "xyz")]) := by decide +kernel
  have hxyz : bytesOf "xyz" = [120, 121, 122] := by cbv
  have hr : Endpoint.getChildren.read req [("id", bytesOf "xyz")] =
      some (.error (.invalid "part id" (IdError.badLength 3).message)) := by
    simp [req, Endpoint.read, readPartId, PartId.parseBytes?, hxyz]
  exact (handle_parts_route {} hroute hr).2.1

end Service

end BillOfMaterials
