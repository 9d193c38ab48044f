import BillOfMaterials.Text.Quoted

/-!
# Faults

Every failure of the service is a `Fault`. Seven classes of fault carry a `FaultKind`, which
decides the HTTP status and error code of an answer and whether a retry can help; a fault may
also be a plain text, or a fault under a label, which keeps the class of the fault inside.

* `Fault.kind?`: the class of the outermost classified fault, if any;
* `Fault.message`: the text of a fault, `[kind] message` for a classified one, followed by
  `: cause` when it wraps another;
* `Fault.cause?`: the fault one level down, if the fault wraps one.
-/

namespace BillOfMaterials

/-- The classes of fault a caller can tell apart. -/
inductive FaultKind where
  | notFound
  | duplicateName
  | validation
  | cycle
  | internal
  | store
  | config
  deriving DecidableEq, Repr

namespace FaultKind

/-- Every class, in a fixed order. -/
def all : List FaultKind :=
  [.notFound, .duplicateName, .validation, .cycle, .internal, .store, .config]

/-- The name of a class as it appears in messages. -/
def name : FaultKind → String
  | .notFound => "not_found"
  | .duplicateName => "duplicate_name"
  | .validation => "validation"
  | .cycle => "cycle"
  | .internal => "internal"
  | .store => "store"
  | .config => "config"

end FaultKind

/-- A failure. -/
inductive Fault where
  /-- An id names no live part. -/
  | notFound (id : String)
  /-- A name is already taken by the live part `existing`. -/
  | duplicateName (name existing : String)
  /-- A value of `field` is rejected for `reason`. -/
  | invalid (field reason : String)
  /-- Linking `child` below `parent` would make a part its own ancestor. -/
  | cycle (parent child : String)
  /-- A broken invariant of the graph. -/
  | internal (message : String) (cause : Option Fault)
  /-- A durable store could not do `op`. -/
  | storeFailed (backend op : String) (cause : Option Fault)
  /-- A configuration value is rejected. -/
  | configInvalid (field reason : String)
  /-- A required configuration value is missing. -/
  | configMissing (field : String)
  /-- An unclassified failure, known by its text. -/
  | text (message : String)
  /-- A fault under a label, written `label: fault`. -/
  | labelled (label : String) (inner : Fault)
  deriving Inhabited

namespace Fault

/-- The class of the outermost classified fault. -/
def kind? : Fault → Option FaultKind
  | .notFound .. => some .notFound
  | .duplicateName .. => some .duplicateName
  | .invalid .. => some .validation
  | .cycle .. => some .cycle
  | .internal .. => some .internal
  | .storeFailed .. => some .store
  | .configInvalid .. | .configMissing .. => some .config
  | .text .. => none
  | .labelled _ f => f.kind?

/-- The text of a fault. -/
def message : Fault → String
  | .notFound id => "[not_found] part does not exist: " ++ id
  | .duplicateName name existing =>
    "[duplicate_name] part name already in use: " ++ Text.quote name ++ " (id: " ++ existing ++ ")"
  | .invalid field reason => "[validation] invalid " ++ field ++ ": " ++ reason
  | .cycle parent child =>
    "[cycle] cycle detected, part has child in its parental line (parent: " ++ parent ++
      ", child: " ++ child ++ ")"
  | .internal m none => "[internal] " ++ m
  | .internal m (some c) => "[internal] " ++ m ++ ": " ++ c.message
  | .storeFailed b op none => "[store] " ++ b ++ " " ++ op ++ " failed"
  | .storeFailed b op (some c) => "[store] " ++ b ++ " " ++ op ++ " failed: " ++ c.message
  | .configInvalid field reason => "[config] config validation failed: " ++ field ++ " - " ++ reason
  | .configMissing field => "[config] missing required config: " ++ field
  | .text m => m
  | .labelled l f => l ++ ": " ++ f.message

/-- The fault one level down. -/
def cause? : Fault → Option Fault
  | .internal _ c | .storeFailed _ _ c => c
  | .labelled _ f => some f
  | _ => none

/-- Whether a rejected value lies anywhere down the chain of causes. -/
def hasInvalid : Fault → Bool
  | .invalid .. => true
  | .internal _ (some c) | .storeFailed _ _ (some c) => c.hasInvalid
  | .labelled _ f => f.hasInvalid
  | _ => false

/-- Whether the fault is of class `k`. -/
def isKind (f : Fault) (k : FaultKind) : Bool := f.kind? == some k

/-- Only a store fault can go away when the call is made again. -/
def retryable (f : Fault) : Bool := f.isKind .store

end Fault

end BillOfMaterials
