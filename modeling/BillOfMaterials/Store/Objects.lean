import BillOfMaterials.Store.Codec
import BillOfMaterials.Fault

/-!
# An object service

Objects by `bucket/key`, the snapshot being one object, behind a service that can be told to
fail its gets or its puts with an error answer, or to cut the body of an object short.

* `ObjectService.load`: the snapshot of an object. A missing object, or a failure coded
  `NoSuchKey`, is the empty snapshot; any other failure is written as the client library writes
  an error answer; a body cut short is `read body: unexpected EOF`;
* `ObjectService.save`: stores the encoded snapshot.

The service's own side of the two is `getObject` and `putObject`: an object by its name, and the
object of a name replaced.
-/

namespace BillOfMaterials

/-- An error answer of the service. -/
structure ApiFailure where
  status : Nat
  code : String
  message : String
  requestId : String
  hostId : String
  deriving DecidableEq, Inhabited

/-- How the client writes an error answer to an operation. -/
def ApiFailure.render (f : ApiFailure) (operation : String) : String :=
  "operation error S3: " ++ operation ++ ", https response error StatusCode: " ++
    toString f.status ++ ", RequestID: " ++ f.requestId ++ ", HostID: " ++ f.hostId ++
    ", api error " ++ f.code ++ ": " ++ f.message

/-- The object service: objects by `bucket/key`, the failures it is told to answer with, and
whether it cuts bodies short. -/
structure ObjectService where
  objects : List (String × String) := []
  failGet : Option ApiFailure := none
  failPut : Option ApiFailure := none
  truncate : Bool := false
  deriving Inhabited

namespace ObjectService

/-- The name of an object. -/
def objectName (bucket key : String) : String := bucket ++ "/" ++ key

/-- The text of the object of a name, if there is one. -/
def getObject (svc : ObjectService) (name : String) : Option String := svc.objects.lookup name

/-- The service after a put of an object: the object of that name replaced. -/
def putObject (svc : ObjectService) (name text : String) : ObjectService :=
  { svc with objects := (svc.objects.filter (·.1 ≠ name)) ++ [(name, text)] }

/-- Loads the snapshot kept as an object. -/
def load (svc : ObjectService) (bucket key : String) : Except Fault StoredSnapshot :=
  let failed (m : String) : Fault := .storeFailed "s3" "load" (some (.text m))
  match svc.failGet with
  | some f => if f.code = "NoSuchKey" then .ok {} else .error (failed (f.render "GetObject"))
  | none =>
    match svc.getObject (objectName bucket key) with
    | none => .ok {}
    | some text =>
      if svc.truncate then .error (failed "read body: unexpected EOF")
      else (StoredSnapshot.decode text).mapError fun e =>
        .storeFailed "s3" "decode" (some (.text e.message))

/-- Saves a snapshot as an object. -/
def save (svc : ObjectService) (bucket key : String) (s : Snapshot) : Except Fault ObjectService :=
  match svc.failPut with
  | some f => .error (.storeFailed "s3" "save" (some (.text (f.render "PutObject"))))
  | none => .ok (svc.putObject (objectName bucket key) s.encode)

end ObjectService

end BillOfMaterials
