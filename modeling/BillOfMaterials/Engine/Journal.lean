import BillOfMaterials.Engine
import BillOfMaterials.Log.Entry

/-!
# What an engine logs

The calls of an engine that change the graph, each with the entries a logger gets for it:

* a create: `Part created` at info, with the id and the name;
* a delete: `Part deleted` at info, with the id and how many parents and children it had;
* an update: `Children updated` at debug, with the id, the action, how many children were
  named and how many the part has after; a refused update is `Children update rejected` at
  debug, with the error;
* a restore: `Graph restored` at info, with the number of parts and edges of the snapshot.

A failed create, delete or restore logs nothing.
-/

namespace BillOfMaterials

namespace Engine

/-- Adds a part with no edges, logging it. -/
def createLogged (e : Engine) (logger : Logger) (name : String) :
    Except Fault (Part × Engine) × List LogEntry :=
  match e.createPart name with
  | .ok (p, e) =>
    (.ok (p, e), (logger.entry? .info "Part created"
      [("part_id", .string p.id.toString), ("name", .string name)]).toList)
  | .error f => (.error f, [])

/-- Removes a part, logging it. -/
def deleteLogged (e : Engine) (logger : Logger) (id : PartId) :
    Except Fault (Part × Engine) × List LogEntry :=
  match e.deletePart id with
  | .ok (p, e) =>
    (.ok (p, e), (logger.entry? .info "Part deleted" [("part_id", .string id.toString),
      ("parents", .ofNat p.parents.length), ("children", .ofNat p.children.length)]).toList)
  | .error f => (.error f, [])

/-- Changes the children of a part, logging the change or the refusal. -/
def updateLogged (e : Engine) (logger : Logger) (id : PartId) (action : Action)
    (children : List PartId) : Except Fault (Part × Engine) × List LogEntry :=
  match e.updateChildren id action children with
  | .ok (p, e) =>
    (.ok (p, e), (logger.entry? .debug "Children updated" [("part_id", .string id.toString),
      ("action", .string action.name), ("requested", .ofNat children.length),
      ("children", .ofNat p.children.length)]).toList)
  | .error f =>
    (.error f, (logger.entry? .debug "Children update rejected" [("part_id", .string id.toString),
      ("action", .string action.name), ("error", .string f.message)]).toList)

/-- Replaces the graph by a snapshot, logging it. -/
def restoreLogged (e : Engine) (logger : Logger) (s : Snapshot) :
    Except Fault Engine × List LogEntry :=
  match e.restore s with
  | .ok e =>
    (.ok e, (logger.entry? .info "Graph restored"
      [("parts", .ofNat s.parts.length), ("edges", .ofNat s.edgeCount)]).toList)
  | .error f => (.error f, [])

end Engine

end BillOfMaterials
