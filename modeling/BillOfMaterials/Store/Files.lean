import BillOfMaterials.Sql.Database

/-!
# Files

The files a store sees: directories, database files, and other files such as devices, all by
absolute path, with the working directory that relative paths start from.

* `Path.clean`, `Path.dir`: the shortest path naming the same file (`.` and `..` resolved,
  repeated slashes merged), and the directory part of a path;
* `Files.mkdirAll`: makes a directory and the ones above it. A path that exists as something
  other than a directory is refused with `mkdir PATH: not a directory`, `PATH` written as the
  caller wrote it;
* `Files.openDatabase`: the database at a path, a new empty one when no file is there. A path
  that names a directory cannot be opened, and `:memory:` is a database of its own that is
  never kept.
-/

namespace BillOfMaterials

namespace Path

/-- Whether a path starts at the root. -/
def isAbsolute (p : String) : Bool := p.startsWith "/"

/-- The elements of a path after `.`, `..` and empty elements are resolved. -/
def resolve (rooted : Bool) (parts : List String) : List String :=
  (parts.foldl (fun (acc : List String) e =>
    if e.isEmpty || e = "." then acc
    else if e = ".." then
      match acc with
      | top :: rest => if top = ".." then ".." :: acc else rest
      | [] => if rooted then [] else [".."]
    else e :: acc) []).reverse

/-- The shortest path naming the same file: `.` for the empty path. -/
def clean (p : String) : String :=
  let rooted := isAbsolute p
  let body := "/".intercalate (resolve rooted (p.splitOn "/"))
  if rooted then "/" ++ body
  else if body.isEmpty then "." else body

/-- The directory part of a path: all but its last element, cleaned. -/
def dir (p : String) : String :=
  let cs := p.toList
  let head := (cs.reverse.dropWhile (· ≠ '/')).reverse
  clean (String.ofList head)

/-- A path made absolute against a working directory, then cleaned. -/
def absolute (cwd p : String) : String :=
  if isAbsolute p then clean p else clean (cwd ++ "/" ++ p)

end Path

/-- The files a program sees, by absolute path. -/
structure Files where
  /-- Where relative paths start. -/
  cwd : String
  dirs : List String := []
  /-- Files that are neither directories nor databases. -/
  plain : List String := []
  databases : List (String × Sql.Database) := []
  deriving Inhabited

namespace Files

/-- What a path names. -/
inductive Kind where
  | dir
  | file
  | missing
  deriving DecidableEq

/-- What the path `p`, relative to the working directory or not, names. -/
def kind (fs : Files) (p : String) : Kind :=
  let a := Path.absolute fs.cwd p
  if fs.dirs.contains a then .dir
  else if fs.plain.contains a || (fs.databases.lookup a).isSome then .file
  else .missing

/-- The element boundary before the last element of a path: the length of the parent part
with its trailing slash, trailing slashes of the path ignored. -/
def parentLength (p : String) : Nat :=
  let cs := (p.toList.reverse.dropWhile (· = '/')).reverse
  (cs.reverse.dropWhile (· ≠ '/')).length

/-- Makes the directory `p` and every directory above it; the message of a refusal names the
path as the caller wrote it. `fuel` bounds the depth and the length of `p` is enough. -/
def mkdirAllFuel : Nat → Files → String → Except String Files
  | 0, fs, _ => .ok fs
  | fuel + 1, fs, p =>
    match fs.kind p with
    | .dir => .ok fs
    | .file => .error ("mkdir " ++ p ++ ": not a directory")
    | .missing => do
      let j := parentLength p
      let fs ← if j > 1 then mkdirAllFuel fuel fs (String.ofList (p.toList.take (j - 1))) else pure fs
      pure { fs with dirs := Path.absolute fs.cwd p :: fs.dirs }

/-- Makes a directory and every directory above it. -/
def mkdirAll (fs : Files) (p : String) : Except String Files := mkdirAllFuel (p.length + 1) fs p

/-- The database at a path: the one kept there, or a new empty one; `none` when the path is a
directory, which no database can be opened at. -/
def openDatabase (fs : Files) (p : String) : Option Sql.Database :=
  if p = ":memory:" then some {}
  else
    match fs.kind p with
    | .dir => none
    | _ => some ((fs.databases.lookup (Path.absolute fs.cwd p)).getD {})

/-- Keeps a database at a path; `:memory:` keeps nothing. -/
def putDatabase (fs : Files) (p : String) (db : Sql.Database) : Files :=
  if p = ":memory:" then fs
  else
    let a := Path.absolute fs.cwd p
    { fs with databases := (a, db) :: fs.databases.filter (·.1 ≠ a) }

/-- The files of a machine with the usual system directories and devices, working in `cwd`,
which exists. -/
def standard (cwd : String) : Files :=
  { cwd
    dirs := [cwd, "/", "/tmp", "/dev", "/etc", "/root", "/home", "/usr", "/var", "/proc", "/sys",
      "/bin", "/lib", "/opt"]
    plain := ["/dev/null", "/dev/zero", "/dev/full", "/dev/random", "/dev/urandom", "/dev/tty",
      "/etc/passwd", "/etc/hosts", "/etc/hostname", "/etc/resolv.conf"] }

end Files

end BillOfMaterials
