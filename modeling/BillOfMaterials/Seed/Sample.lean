import BillOfMaterials.Engine.Journal

/-!
# Seeding a graph

`seed` builds a bill of materials on an engine from a list of assemblies, each a name and the
names of its children. Every name becomes one part, the first time it is met, whether as an
assembly or as a child; each assembly with children then gets them added, in order. A part
named in two assemblies is shared, so it ends with two parents.

The first failure ends the run, the graph keeping what was done before it: a create that is
refused fails as it is, an update is labelled `link NAME`. At the end the graph is checked.

`bicycle` is the sample: a bicycle with two levels of subassemblies, a shared cassette, and a
loose bell; 16 parts and 19 edges.
-/

namespace BillOfMaterials

/-- An entry of a bill of materials: an assembly's name and its children's names. -/
structure Assembly where
  name : String
  children : List String := []
  deriving DecidableEq, Inhabited

/-- The sample bill of materials: a small bicycle. -/
def bicycle : List Assembly :=
  [⟨"bicycle", ["frame", "front wheel", "rear wheel", "drivetrain"]⟩,
   ⟨"front wheel", ["rim", "spoke", "hub", "tire"]⟩,
   ⟨"rear wheel", ["rim", "spoke", "hub", "tire", "cassette"]⟩,
   ⟨"drivetrain", ["crankset", "chain", "cassette"]⟩,
   ⟨"crankset", ["crank arm", "chainring", "pedal"]⟩,
   ⟨"frame", []⟩,
   ⟨"bell", []⟩]

/-- A seeding run: the engine, the parts it made by name, and what it logged. -/
structure Seeding where
  engine : Engine
  made : List (String × PartId) := []
  logs : List LogEntry := []
  deriving Inhabited

namespace Seeding

/-- The part of a name: the one made for it before, or a new one. -/
def ensure (s : Seeding) (logger : Logger) (name : String) : Except Fault PartId × Seeding :=
  match s.made.lookup name with
  | some id => (.ok id, s)
  | none =>
    match s.engine.createLogged logger name with
    | (.ok (p, e), logs) =>
      (.ok p.id, { s with engine := e, made := s.made ++ [(name, p.id)], logs := s.logs ++ logs })
    | (.error f, logs) => (.error f, { s with logs := s.logs ++ logs })

/-- The parts of names, in order, up to the first failure. -/
def ensureAll (s : Seeding) (logger : Logger) : List String → Except Fault (List PartId) × Seeding
  | [] => (.ok [], s)
  | n :: ns =>
    match s.ensure logger n with
    | (.ok id, s) =>
      match s.ensureAll logger ns with
      | (.ok ids, s) => (.ok (id :: ids), s)
      | (.error f, s) => (.error f, s)
    | (.error f, s) => (.error f, s)

/-- Builds the assemblies in order, up to the first failure. -/
def build (s : Seeding) (logger : Logger) : List Assembly → Except Fault Unit × Seeding
  | [] => (.ok (), s)
  | a :: rest =>
    match s.ensure logger a.name with
    | (.error f, s) => (.error f, s)
    | (.ok parent, s) =>
      if a.children.isEmpty then s.build logger rest
      else
        match s.ensureAll logger a.children with
        | (.error f, s) => (.error f, s)
        | (.ok ids, s) =>
          match s.engine.updateLogged logger parent .add ids with
          | (.ok (_, e), logs) => { s with engine := e, logs := s.logs ++ logs }.build logger rest
          | (.error f, logs) => (.error (.labelled ("link " ++ a.name) f), { s with logs := s.logs ++ logs })

end Seeding

/-- Seeds an engine with a bill of materials, then checks the graph. The answer is the outcome,
the engine as the run left it, and what it logged. -/
def seed (e : Engine) (logger : Logger) (entries : List Assembly) :
    Except Fault Unit × Engine × List LogEntry :=
  match ({ engine := e } : Seeding).build logger entries with
  | (.ok (), s) => (s.engine.checkInvariants, s.engine, s.logs)
  | (.error f, s) => (.error f, s.engine, s.logs)

end BillOfMaterials
