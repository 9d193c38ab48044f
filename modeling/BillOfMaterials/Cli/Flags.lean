import BillOfMaterials.Text.Quoted

/-!
# Command-line flags

A command line starts with flags. They are read from the front until the first argument that is
not one: an argument shorter than two characters or not starting with `-` ends them and is
kept, and `--` ends them and is dropped. A flag is written with one or two dashes, its value
after `=` or, for a flag that takes a text, in the next argument. A boolean flag alone means
true, and with `=` takes a boolean spelling.

`-h` and `-help` ask for the usage when no flag of that name is defined; any other unknown name
is refused, as is a flag without a name.

* `readFlags`: the values set by the flags of a set, and the arguments after them;
* `parseFlags`: the client's flags, `-server URL` and `-v`.
-/

namespace BillOfMaterials

/-- The kind of value a flag takes. -/
inductive FlagKind where
  | bool
  | text
  deriving DecidableEq

/-- A flag a command defines. -/
structure FlagSpec where
  name : String
  kind : FlagKind
  deriving DecidableEq

/-- How reading flags ended: the values set, in the order given, with the arguments after the
flags; a request for the usage; or a refusal. -/
inductive FlagRead where
  | ok (values : List (String × String)) (args : List String)
  | help
  | failure (message : String)
  deriving DecidableEq

/-- A boolean in one of its accepted spellings. -/
def parseBool? (s : String) : Option Bool :=
  if ["1", "t", "T", "TRUE", "true", "True"].contains s then some true
  else if ["0", "f", "F", "FALSE", "false", "False"].contains s then some false
  else none

/-- Reads the flags of a set off the front of the arguments; `set` holds the values read so
far. Boolean values are kept as `true` or `false`. -/
def readFlagsFrom (specs : List FlagSpec) (set : List (String × String)) : List String → FlagRead
  | [] => .ok set []
  | s :: more =>
    let cs := s.toList
    if s.utf8ByteSize < 2 || cs.head? ≠ some '-' then .ok set (s :: more)
    else if s = "--" then .ok set more
    else
      let name := String.ofList (if (cs.drop 1).head? = some '-' then cs.drop 2 else cs.drop 1)
      if name.isEmpty || name.front = '-' || name.front = '=' then
        .failure ("bad flag syntax: " ++ s)
      else
        let (name, value) := match name.toList.span (· ≠ '=') with
          | (n, _ :: v) => (String.ofList n, some (String.ofList v))
          | (n, []) => (String.ofList n, none)
        match specs.find? (·.name = name) with
        | some ⟨_, .text⟩ =>
          match value with
          | some v => readFlagsFrom specs (set ++ [(name, v)]) more
          | none =>
            match more with
            | v :: rest => readFlagsFrom specs (set ++ [(name, v)]) rest
            | [] => .failure ("flag needs an argument: -" ++ name)
        | some ⟨_, .bool⟩ =>
          match value with
          | none => readFlagsFrom specs (set ++ [(name, "true")]) more
          | some v =>
            match parseBool? v with
            | some b => readFlagsFrom specs (set ++ [(name, toString b)]) more
            | none => .failure ("invalid boolean value " ++ Text.quote v ++ " for -" ++ name ++
                ": parse error")
        | none =>
          if name = "h" || name = "help" then .help
          else .failure ("flag provided but not defined: -" ++ name)

/-- Reads the flags of a set off the front of the arguments. -/
def readFlags (specs : List FlagSpec) (args : List String) : FlagRead := readFlagsFrom specs [] args

/-- The last value set for a flag. -/
def flagValue? (values : List (String × String)) (name : String) : Option String :=
  (values.reverse.find? (·.1 = name)).map (·.2)

/-- The client's flags and the arguments after them. -/
structure Flags where
  server : String
  verbose : Bool := false
  args : List String := []
  deriving DecidableEq, Inhabited

/-- How reading the client's flags ended. -/
inductive FlagOutcome where
  | ok (f : Flags)
  | help
  | failure (message : String)
  deriving DecidableEq

/-- Reads the client's flags, `server` being the default server. -/
def parseFlags (server : String) (args : List String) : FlagOutcome :=
  match readFlags [⟨"server", .text⟩, ⟨"v", .bool⟩] args with
  | .ok values rest =>
    .ok { server := (flagValue? values "server").getD server
          verbose := flagValue? values "v" == some "true"
          args := rest }
  | .help => .help
  | .failure m => .failure m

end BillOfMaterials
