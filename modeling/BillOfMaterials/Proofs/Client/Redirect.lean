import Mathlib
import BillOfMaterials.Client.Api
import BillOfMaterials.Client.Local
import BillOfMaterials.Engine.Command
import BillOfMaterials.Proofs.Api.PartRoutes

/-!
# Where an empty part id takes the client

The client writes a part id as one escaped segment after `/v1/parts/`. An empty id leaves the
path `/v1/parts/`, which no route takes: the router answers with a `301` to `/v1/parts`
(`handle_parts_slash`), the client follows it as a `GET` (`fetch_parts_slash`), and the list of
all parts comes back. So a get of the empty id answers the list of all parts, taken as one part
(`get_empty_id`): with exactly one part in the graph the call succeeds with that part, although
the empty text is no part id (`get_empty_id_answers_only_part`).
-/

namespace BillOfMaterials

open Http

/-- The URL of a path at the host the client is configured with by default. -/
def testUrl (path : String) : Url :=
  { scheme := bytesOf "http", host := bytesOf "bom.test", path := bytesOf path }

namespace Service

/-- The router sends `GET /v1/parts/` back to `/v1/parts`, leaving the service as it was. -/
theorem handle_parts_slash (s : Service) :
    s.handle { method := "GET", url := testUrl "/v1/parts/" } =
      (trailingSlashRedirect { method := "GET", url := testUrl "/v1/parts/" }, s) :=
  handle_trailing_slash routesFor_honoursPatterns s .listParts (show byte '/' ∉ [] by simp) rfl
    (by rw [fill_collection (.inl rfl)]; exact route_bytes.2.2.2.2)

theorem handle_parts_list (s : Service) :
    (s.handle { method := "GET", url := testUrl "/v1/parts" }).1 =
      successResponse 200 "Fetched all parts successfully" (s.engine.listParts .all) := by
  have hroute : route? { method := "GET", url := testUrl "/v1/parts" } = some (.listParts, []) :=
    route?_collection routesFor_honoursPatterns (.inl rfl) rfl rfl
  have hall : (readFilter ((queryValue? [] "filter").getD [])).toOption = some .all := by
    cbv
  rw [handle_of_route s hroute, serveRoute_eq s rfl]
  simp only [testUrl]
  cases h : readFilter ((queryValue? [] "filter").getD []) with
  | error f => simp only [h, Except.toOption, reduceCtorEq] at hall
  | ok f =>
    simp only [h, Except.toOption, Option.some.injEq] at hall
    subst hall
    rfl

/-- Fetching `/v1/parts/` follows the redirect and answers the list of all parts. -/
theorem fetch_parts_slash (s : Service) :
    ((link none none).fetch { method := "GET", url := testUrl "/v1/parts/" } s).1 =
      .ok (successResponse 200 "Fetched all parts successfully" (s.engine.listParts .all)) := by
  have hloc : (trailingSlashRedirect { method := "GET", url := testUrl "/v1/parts/" }).header?
      "Location" = some "http://bom.test/v1/parts" := by cbv
  have hstatus : (trailingSlashRedirect { method := "GET", url := testUrl "/v1/parts/" }).status =
      301 := by simp [trailingSlashRedirect, Response.redirect]
  have hparse : (Url.parse "http://bom.test/v1/parts").toOption.map (testUrl "/v1/parts/").resolve =
      some (testUrl "/v1/parts") := by cbv
  have hmoved : redirectBehavior "GET" 301 = some ("GET", false) := by decide
  have hdone : redirectBehavior "GET" 200 = none := by decide
  cases hp : Url.parse "http://bom.test/v1/parts" with
  | error e => simp only [hp, Except.toOption, Option.map_none, reduceCtorEq] at hparse
  | ok ref =>
    simp only [hp, Except.toOption, Option.map_some, Option.some.injEq] at hparse
    rw [Link.fetch, Link.follow]
    simp only [link, handle_parts_slash, hstatus, hloc, hmoved, hp, hparse]
    rw [Link.follow]
    simp only [ite_self, handle_parts_list]
    simp only [successResponse, jsonResponse, corsResponse, hdone]

end Service

namespace Client

/-- A get of the empty id is answered by the list of all parts, taken as one part. -/
theorem get_empty_id (s : Service) :
    ((Client.new "http://bom.test" none).call (Service.link none none) s (.get "")).1 =
      one (readParts 200
        (.ok (successResponse 200 "Fetched all parts successfully" (s.engine.listParts .all)).body)) := by
  have hurl : (Client.new "http://bom.test" none).base ++ partsPath [""] ++ "" =
      "http://bom.test/v1/parts/" := by cbv
  have hparse : (Url.parse "http://bom.test/v1/parts/").toOption.map Url.dropEmptyPort =
      some (testUrl "/v1/parts/") := by cbv
  cases hp : Url.parse "http://bom.test/v1/parts/" with
  | error e => simp only [hp, Except.toOption, Option.map_none, reduceCtorEq] at hparse
  | ok u =>
    simp only [hp, Except.toOption, Option.map_some, Option.some.injEq] at hparse
    have hfetch := Service.fetch_parts_slash s
    rw [← hparse] at hfetch
    simp only [call, callParts, exchange, hurl, hp, Option.map_none, Option.getD_none]
    rcases hf : (Service.link none none).fetch { method := "GET", url := u.dropEmptyPort } s with
      ⟨r, s'⟩
    rw [hf] at hfetch
    subst hfetch
    simp only [successResponse, jsonResponse, corsResponse, Service.link]

set_option maxRecDepth 20000 in
/-- With one part `A` in the graph, a get of the empty id succeeds with `A`, although the empty
text reads as no part id. -/
theorem get_empty_id_answers_only_part :
    let s : Service := { engine := (({} : Engine).run (.create "A")).2 }
    ((Client.new "http://bom.test" none).call (Service.link none none) s (.get "")).1 =
      .ok (.part ⟨"00000000-0000-4000-8000-000000000001", "A", [], []⟩) ∧
    PartId.parse? "" = .error (.badLength 0) := by
  intro s
  have hparts : s.engine.listParts .all = [⟨IdStream.ofSerial 1, "A", [], []⟩] := by decide +kernel
  have hstatus : (successResponse 200 "Fetched all parts successfully"
      [⟨IdStream.ofSerial 1, "A", [], []⟩]).status = 200 := rfl
  have hread : readParts 200 (.ok (successResponse 200 "Fetched all parts successfully"
      [⟨IdStream.ofSerial 1, "A", [], []⟩]).body) =
      .ok [⟨"00000000-0000-4000-8000-000000000001", "A", [], []⟩] := by cbv
  refine ⟨?_, by cbv⟩
  rw [get_empty_id, hparts, hread]
  rfl

end Client

end BillOfMaterials
