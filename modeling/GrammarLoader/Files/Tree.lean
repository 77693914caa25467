import GrammarLoader.Files.Store

/-! # File trees

A file system as a value, as one user without special privileges sees it:
directories, files, character devices and symbolic links at component paths, read
and written as a Linux kernel does it. A path with a NUL character is refused before
anything else, and so is one of 4096 bytes or more. Paths then resolve component by
component: each directory on the way must let the user look into it, a component
longer than 255 bytes is too long, every component before the last must be a
directory or a link to one (else the path is not found, or not a directory), `.`
stays and `..` goes up from where a link led, from the root to the root. The last
component names the target; a slash after it asks for a directory.

Whether a file may be read or written, and whether a directory takes new entries,
is part of the node. A tree has a working directory, which relative paths start
from; absolute paths start from the root.
-/

namespace GrammarLoader.Files

/-- The special files a host offers: character devices, and the kernel's file that names
the running process. Each reads and takes writes by its own rules. -/
inductive Device where
  /-- Reads as empty and takes every write without keeping it. -/
  | null
  /-- Reads as endless zero bytes and takes every write without keeping it. -/
  | zero
  /-- Reads as endless zero bytes and refuses every write: the device is full. -/
  | full
  /-- Reads as endless random bytes and takes every write without keeping it. -/
  | random
  /-- The controlling terminal, which a process without one cannot open. -/
  | terminal
  /-- The running process's name as the kernel keeps it (`/proc/self/comm`): it reads as
  the name and a line break, and a write renames the process. -/
  | taskName (name : Bytes)
  deriving Repr, DecidableEq

namespace Device

/-- The most bytes of a process name the kernel keeps: its name buffer less the NUL. -/
def taskNameBytes : Nat := 15

/-- The name a write of `bs` gives the process: the first bytes written, up to the
first NUL, as many as the kernel keeps. The write itself takes every byte. -/
def renamed (bs : Bytes) : Bytes :=
  (bs.take taskNameBytes).takeWhile (· != 0)

/-- What opening a device and reading it to its end gives: the empty device ends at
once; the endless ones never end, and the reader runs out of memory first. -/
def readAll : Device → ReadOutcome
  | .null => .contents []
  | .zero | .full | .random => .readFailed (.other "out of memory")
  | .terminal => .openFailed .noDevice
  | .taskName name => .contents (name ++ [10])

/-- Open a device for writing and hand it bytes: the device as the write leaves it,
when the write changes what it reads as. Writing nothing asks nothing of the device. -/
def take (d : Device) (bs : Bytes) : Except WriteFault (Option Device) :=
  match d with
  | .terminal => .error (.createFailed .noDevice)
  | .full => if bs.isEmpty then .ok none else .error (.writeFailed .noSpace)
  | .null | .zero | .random => .ok none
  | .taskName _ => .ok (if bs.isEmpty then none else some (.taskName (renamed bs)))

end Device

/-- What the user may do with a file. -/
inductive FileAccess where
  /-- Read it and write it: the user's own file. -/
  | readWrite
  /-- Read it only: a file of the system's. -/
  | readOnly
  /-- Neither: another user's private file. -/
  | unreadable
  deriving Repr, DecidableEq

/-- What the user may do in a directory. -/
inductive DirAccess where
  /-- Look entries up and add new ones: the user's own directory, or one open to all. -/
  | writable
  /-- Look entries up but add none: a directory of the system's. -/
  | readOnly
  /-- Look up the entries the kernel lists: a name it does not list is not found, so
  nothing can be added. -/
  | kernel
  /-- Nothing: another user's private directory, which cannot be looked into. -/
  | closed
  deriving Repr, DecidableEq

namespace DirAccess

/-- Whether entries of the directory can be looked up. -/
def searchable : DirAccess → Bool
  | .closed => false
  | _ => true

/-- What adding an entry to the directory gives: nothing in the way, or the error. -/
def admits : DirAccess → Option FileError
  | .writable => none
  | .kernel => some .notFound
  | .readOnly | .closed => some .permissionDenied

end DirAccess

/-- What a path can hold. -/
inductive Node where
  | file (bytes : Bytes) (access : FileAccess)
  | directory (access : DirAccess)
  | device (d : Device)
  /-- A symbolic link to a component path from the root that goes through no link. -/
  | link (target : List String)
  deriving Repr, DecidableEq

/-- Directories, files, devices and links by component path from the root, which is
a directory of the system's without an entry of its own. -/
structure FileTree where
  /-- Every node but the root, with its path. -/
  entries : List (List String × Node)
  /-- The working directory's path. -/
  work : List String
  deriving Repr

namespace FileTree

/-- The root directory. -/
def rootNode : Node := .directory .readOnly

/-- What a component path holds. -/
def find? (t : FileTree) (p : List String) : Option Node :=
  if p = [] then some rootNode else (t.entries.find? (·.1 == p)).map (·.2)

/-- The node at a directory's path; a path that holds none reads as the root does. -/
def dirNode (t : FileTree) (p : List String) : Node :=
  (t.find? p).getD rootNode

/-- Put a node at a component path, replacing what was there. -/
def put (t : FileTree) (p : List String) (n : Node) : FileTree :=
  if t.entries.any (·.1 == p) then
    { t with entries := t.entries.map fun e => if e.1 == p then (p, n) else e }
  else { t with entries := t.entries ++ [(p, n)] }

/-- The most bytes a path may have. -/
def maxPathBytes : Nat := 4095

/-- The most bytes a path component may have. -/
def maxNameBytes : Nat := 255

/-- A path split for resolution: whether it starts at the root, its components
(empty ones dropped), and whether a slash ends it. -/
structure Parsed where
  absolute : Bool
  components : List String
  trailingSlash : Bool

/-- Parse path text. -/
def parse (path : String) : Parsed :=
  { absolute := path.startsWith "/"
    components := (path.splitOn "/").filter (· != "")
    trailingSlash := path.endsWith "/" }

/-- The path text's own faults, found before any lookup: a NUL character, an empty
path, or one too long. -/
def checkText (path : String) : Except FileError Unit :=
  if path.contains (Char.ofNat 0) then .error .nulInName
  else if path.isEmpty then .error .notFound
  else if path.utf8ByteSize > maxPathBytes then .error .nameTooLong
  else .ok ()

/-- The working directory's path text. -/
def workText (t : FileTree) : String :=
  "/" ++ String.intercalate "/" t.work

/-- A path taken from the working directory and spelled from the root: an absolute
path stays, any other goes after the working directory and a slash. -/
def fromWork (t : FileTree) (path : String) : String :=
  if path.startsWith "/" then path else t.workText ++ "/" ++ path

/-- Where a path's components start. -/
def start (t : FileTree) (pp : Parsed) : List String :=
  if pp.absolute then [] else t.work

/-- Check that the user may look into a directory. -/
def search (t : FileTree) (dir : List String) : Except FileError Unit :=
  match t.dirNode dir with
  | .directory a => if a.searchable then .ok () else .error .permissionDenied
  | _ => .ok ()

/-- A node with a link followed: the link's target path and what that holds. -/
def follow (t : FileTree) (p : List String) : Node → List String × Option Node
  | .link q => (q, t.find? q)
  | n => (p, some n)

/-- Walk directory components from a directory, looking into each directory on the
way and following links. -/
def walk (t : FileTree) (cur : List String) : List String → Except FileError (List String)
  | [] => .ok cur
  | c :: rest => do
    t.search cur
    if c = "." then t.walk cur rest
    else if c = ".." then t.walk cur.dropLast rest
    else if c.utf8ByteSize > maxNameBytes then throw .nameTooLong
    else
      match t.find? (cur ++ [c]) with
      | none => throw .notFound
      | some n =>
        match t.follow (cur ++ [c]) n with
        | (p, some (.directory _)) => t.walk p rest
        | (_, none) => throw .notFound
        | (_, some _) => throw .notADirectory

/-- What a path's target is: a node, or nothing yet in an existing directory. -/
inductive Target where
  | node (p : List String) (n : Node)
  | absent (p : List String)

/-- Resolve all of a path but its last component: the directory that component is
looked up in, which the user may look into, with the parsed path. -/
def locate (t : FileTree) (path : String) : Except FileError (List String × Parsed) := do
  checkText path
  let pp := parse path
  let dir ← t.walk (t.start pp) pp.components.dropLast
  t.search dir
  pure (dir, pp)

/-- Look up a last component in its directory: none, `.` and `..` name directories.
A link is not followed here. -/
def lookup (t : FileTree) (dir : List String) : Option String → Except FileError Target
  | none | some "." => .ok (.node dir (t.dirNode dir))
  | some ".." => .ok (.node dir.dropLast (t.dirNode dir.dropLast))
  | some c =>
    if c.utf8ByteSize > maxNameBytes then .error .nameTooLong
    else
      let p := dir ++ [c]
      match t.find? p with
      | none => .ok (.absent p)
      | some n => .ok (.node p n)

/-- A target with a link followed to what its target path holds. -/
def Target.follow (t : FileTree) : Target → Target
  | .node p n =>
    match t.follow p n with
    | (q, some m) => .node q m
    | (q, none) => .absent q
  | .absent p => .absent p

/-- Resolve a path to its target, following a link at the end. -/
def resolve (t : FileTree) (path : String) : Except FileError Target := do
  let (dir, pp) ← t.locate path
  let target ← t.lookup dir pp.components.getLast?
  pure (Target.follow t target)

/-- Whether a path resolves to a directory. -/
def isDirectory (t : FileTree) (path : String) : Bool :=
  match t.resolve path with
  | .ok (.node _ (.directory _)) => true
  | _ => false

/-- Open a path and read it whole. A directory opens, unless it is closed to the
user, and then cannot be read; a slash after anything else is not a directory. -/
def read (t : FileTree) (path : String) : ReadOutcome :=
  match t.resolve path with
  | .error e => .openFailed e
  | .ok (.absent _) => .openFailed .notFound
  | .ok (.node _ (.directory a)) =>
    if a.searchable then .readFailed .isADirectory else .openFailed .permissionDenied
  | .ok (.node _ n) =>
    if (parse path).trailingSlash then .openFailed .notADirectory
    else
      match n with
      | .file _ .unreadable => .openFailed .permissionDenied
      | .file bs _ => .contents bs
      | .device d => d.readAll
      | _ => .openFailed .notFound

/-- Create or truncate a path and write the bytes. Creating asks for a file, so a
slash after the last component is refused before that component is looked up; a
new file needs a directory that takes it, and an existing one must be the user's. -/
def write (t : FileTree) (path : String) (bs : Bytes) : Except WriteFault FileTree :=
  match t.locate path with
  | .error e => .error (.createFailed e)
  | .ok (dir, pp) =>
    if pp.trailingSlash then .error (.createFailed .isADirectory)
    else
      match t.lookup dir pp.components.getLast? with
      | .error e => .error (.createFailed e)
      | .ok target =>
        match Target.follow t target with
        | .absent p =>
          match t.dirNode p.dropLast with
          | .directory a =>
            match a.admits with
            | none => .ok (t.put p (.file bs .readWrite))
            | some e => .error (.createFailed e)
          | _ => .error (.createFailed .notFound)
        | .node _ (.directory _) => .error (.createFailed .isADirectory)
        | .node p (.file _ .readWrite) => .ok (t.put p (.file bs .readWrite))
        | .node _ (.file _ _) => .error (.createFailed .permissionDenied)
        | .node p (.device d) =>
          (d.take bs).map fun
            | none => t
            | some d' => t.put p (.device d')
        | .node _ (.link _) => .error (.createFailed .notFound)

/-- Make one directory, whose parent must exist: a last component that is `.`, `..`
or the root, or that names anything already there, exists; a new one needs a
parent that takes it. -/
def makeDirectory (t : FileTree) (path : String) : Except FileError FileTree := do
  let (dir, pp) ← t.locate path
  match pp.components.getLast? with
  | none | some "." | some ".." => throw .alreadyExists
  | some c =>
    if c.utf8ByteSize > maxNameBytes then throw .nameTooLong
    else
      let p := dir ++ [c]
      match t.find? p with
      | some _ => throw .alreadyExists
      | none =>
        match t.dirNode dir with
        | .directory a =>
          match a.admits with
          | none => pure (t.put p (.directory .writable))
          | some e => throw e
        | _ => throw .notFound

/-- Path text from components. -/
def pathText (absolute : Bool) (comps : List String) : String :=
  (if absolute then "/" else "") ++ String.intercalate "/" comps

/-- Make a directory and every missing directory above it: try the directory; when
that fails for a missing parent, make the parent the same way and try once more. A
failure on a path that is a directory after all is no failure, and the empty path
is already there. The parent is the path's components (`.` dropped) less the last,
so a path ending in `.` below a missing directory fails: the `.` is never made. -/
def makeAll (t : FileTree) (path : String) (absolute : Bool) (comps : List String) :
    Except FileError FileTree :=
  if path.isEmpty then .ok t
  else
    match t.makeDirectory path with
    | .ok t => .ok t
    | .error .notFound =>
      match comps with
      | [] => .error (.other "failed to create whole tree")
      | c :: cs =>
        match t.makeAll (pathText absolute (c :: cs).dropLast) absolute (c :: cs).dropLast with
        | .error e => .error e
        | .ok t =>
          match t.makeDirectory path with
          | .ok t => .ok t
          | .error e => if t.isDirectory path then .ok t else .error e
    | .error e => if t.isDirectory path then .ok t else .error e
termination_by comps.length
decreasing_by simp

/-- A path's components as the parent of a path is taken: empty and `.` ones dropped. -/
def ownComponents (path : String) : List String :=
  (parse path).components.filter (· != ".")

/-- Make a directory and every missing directory above it. -/
def createDirectories (t : FileTree) (path : String) : Except FileError FileTree :=
  t.makeAll path (parse path).absolute (ownComponents path)

/-- Write a file after making the directories above it, the path's parent. -/
def createFile (t : FileTree) (path : String) (bs : Bytes) : Except FileError FileTree := do
  let t ←
    if path.isEmpty then pure t
    else
      let parent := (ownComponents path).dropLast
      t.createDirectories (pathText (parse path).absolute parent)
  match t.write path bs with
  | .ok t => pure t
  | .error (.createFailed e) => throw e
  | .error (.writeFailed e) => throw e

/-- Everything under the working directory: relative paths, directories with a
slash after them, and file contents. -/
def listing (t : FileTree) : List (String × Option Bytes) :=
  t.entries.filterMap fun (p, n) =>
    if t.work.isPrefixOf p && t.work.length < p.length then
      let rel := String.intercalate "/" (p.drop t.work.length)
      match n with
      | .directory _ => some (rel ++ "/", none)
      | .file bs _ => some (rel, some bs)
      | .device _ => some (rel, some [])
      | .link _ => none
    else none

end FileTree

/-- A tree is a file store, state passing. -/
instance : FileStore (StateM FileTree) where
  readFile path := do return (← get).read path
  writeFile path bs := do
    match (← get).write path bs with
    | .ok t => set t; return .ok ()
    | .error e => return .error e

end GrammarLoader.Files
