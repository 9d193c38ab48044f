import BillOfMaterials.Client.Api
import BillOfMaterials.Text.Table

/-!
# Client commands

The commands of the client's command line, each a call of the API:

| command | arguments | call |
|---|---|---|
| `index` | none | the usage text of the server |
| `list` | an optional filter | the parts |
| `create` | a name | a new part |
| `get`, `delete` | an id | one part |
| `children` | an id and an optional filter | its children |
| `update` | an id, an action and any number of children | the changed part |
| `contained` | an id | the assemblies holding it |
| `descendants` | an id and an optional filter | the parts below it |

Any other command, or a wrong number of arguments, is a usage error before anything is sent.
Parts are printed as a table with columns ID, NAME, PARENTS and CHILDREN, id lists joined
with commas, `-` for an empty one.
-/

namespace BillOfMaterials

open Http

/-- The usage text of the client's command line. -/
def clientUsage : String :=
  "usage: bom-client [-server URL] <command> [args]

commands:
  index                              show the server\x27s API summary
  list [filter]                      list parts (all, top_level, assembly, subassembly, component, orphan)
  create <name>                      create a part
  get <id>                           show one part
  delete <id>                        delete a part
  children <id> [filter]             list immediate children (all, top_level, component)
  update <id> <action> <child>...    add, remove or replace children
  contained <id>                     list assemblies containing a part
  descendants <id> [filter]          list every part below a part
"

/-- Why a command failed. -/
inductive CommandError where
  /-- The command line is malformed. -/
  | usage
  /-- The call failed. -/
  | call (e : ClientError)
  deriving DecidableEq

/-- The message of a failed command. -/
def CommandError.message : CommandError → String
  | .usage => "invalid arguments"
  | .call e => e.message

/-- Ids joined with commas, `-` for none. -/
def joinIds (ids : List String) : String := if ids.isEmpty then "-" else ",".intercalate ids

/-- Parts as an aligned table. -/
def partsTable (parts : List PartView) : String :=
  Text.alignTable 2 ("ID\tNAME\tPARENTS\tCHILDREN\n" ++ String.join (parts.map fun p =>
    p.id ++ "\t" ++ p.name ++ "\t" ++ joinIds p.parents ++ "\t" ++ joinIds p.children ++ "\n"))

/-- The call a command line asks for. -/
def commandCall : List String → Option Call
  | ["index"] => some .index
  | ["list"] => some (.list "")
  | ["list", f] => some (.list f)
  | ["create", name] => some (.create name)
  | ["get", id] => some (.get id)
  | ["delete", id] => some (.delete id)
  | ["children", id] => some (.children id "")
  | ["children", id, f] => some (.children id f)
  | "update" :: id :: action :: children => some (.update id action children)
  | ["contained", id] => some (.contained id)
  | ["descendants", id] => some (.descendants id "")
  | ["descendants", id, f] => some (.descendants id f)
  | _ => none

variable {σ : Type}

/-- Runs a command line; the answer is what it prints, and the entries what it logged. -/
def runCommand (c : Client) (link : Link σ) (s : σ) (args : List String) :
    Except CommandError String × List LogEntry × σ :=
  match commandCall args with
  | none => (.error .usage, [], s)
  | some k =>
    let (r, logs, s) := c.call link s k
    let out : Except CommandError String := match r with
      | .ok (.text t) => .ok t
      | .ok (.part v) => .ok (partsTable [v])
      | .ok (.parts vs) => .ok (partsTable vs)
      | .error e => .error (.call e)
    (out, logs, s)

end BillOfMaterials
