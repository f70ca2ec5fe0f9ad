import RouteMonitor.Table

/-!
# Files

Reading configuration needs one thing of a file system: what a path yields when it is opened for
reading. That is the content of a regular file, and nothing at all where the path leads nowhere. A
directory can be opened as well, and is empty to a reader who does not ask what was opened.

A `Folder` is a file system small enough to write down, a working directory that holds files and
directories.
-/

namespace RouteMonitor

/-- The content that each path yields, or nothing where it cannot be opened. -/
abbrev Files := Bytes → Option Bytes

def Files.none : Files := fun _ => Option.none

namespace FileSystem

inductive Node
  | file (content : Bytes)
  | directory
deriving DecidableEq

/-- What is read from a node that was opened. -/
def Node.content : Node → Bytes
  | .file content => content
  | .directory => []

/-- A path that starts at the working directory. -/
def isRelative (path : Bytes) : Bool := path.head? ∉ [none, some (byte '/')]

end FileSystem

/-- The state of a file system: where each path leads, with the laws that all paths obey. The empty
path leads nowhere, a step that stays in place may stand in front, and a file has nothing below. -/
structure FileSystem where
  node? : Bytes → Option FileSystem.Node
  node?_nil : node? [] = none
  node?_here : ∀ path, FileSystem.isRelative path = true → node? (utf8 "./" ++ path) = node? path
  node?_below : ∀ path content below, node? path = some (.file content) →
    node? (path ++ byte '/' :: below) = none

/-- A path ends at its first NUL byte. -/
def FileSystem.files (system : FileSystem) : Files := fun path =>
  (system.node? path.untilNul).map Node.content

/-- What a working directory holds, by the path that leads there without detours. -/
structure Folder where
  nodes : Table FileSystem.Node
deriving DecidableEq

namespace Folder

open FileSystem (Node isRelative)

variable {folder : Folder} {content : Bytes}

def empty : Folder := ⟨.empty⟩

def location (place : List Bytes) : Bytes := [byte '/'].intercalate place

/-- The steps of a path, without those that stay in place. -/
def steps (path : Bytes) : List Bytes :=
  (path.untilNul.splitOn (byte '/')).filter fun step => step ≠ [] ∧ step ≠ utf8 "."

def put (folder : Folder) (path : Bytes) (node : Node) : Folder :=
  ⟨folder.nodes.insert (location (steps path)) node⟩

/-- The node at a place, which is given by the names on the way from the working directory. -/
def nodeAt? (folder : Folder) (place : List Bytes) : Option Node :=
  if place = [] then some .directory else folder.nodes.get? (location place)

/-- Takes the steps of a path, each of which needs a directory to start from. Nothing is known of
what lies above the working directory. -/
def follow? (folder : Folder) (place : List Bytes) : List Bytes → Option Node
  | [] => folder.nodeAt? place
  | step :: steps =>
    if folder.nodeAt? place ≠ some .directory then none
    else if step = [] ∨ step = utf8 "." then follow? folder place steps
    else if step ≠ utf8 ".." then follow? folder (place ++ [step]) steps
    else if place = [] then none
    else follow? folder place.dropLast steps

def node? (folder : Folder) (path : Bytes) : Option Node :=
  if isRelative path then folder.follow? [] (path.splitOn (byte '/')) else none

theorem node?_here {path : Bytes} (hrelative : isRelative path = true) :
    folder.node? (utf8 "./" ++ path) = folder.node? path := by
  have hdot : utf8 "./" ++ path = utf8 "." ++ byte '/' :: path := by
    rw [show utf8 "./" = utf8 "." ++ [byte '/'] by decide, List.append_assoc]
    rfl
  have hfront : isRelative (utf8 "." ++ byte '/' :: path) = true := by
    rw [show utf8 "." = [byte '.'] by decide]
    rfl
  have hsplit : (utf8 "." ++ byte '/' :: path).splitOn (byte '/') =
      utf8 "." :: path.splitOn (byte '/') := by
    rw [List.splitOn_append_cons_self]
    rfl
  rw [hdot, node?, node?, if_pos hfront, if_pos hrelative, hsplit, follow?, nodeAt?]
  simp

theorem follow?_append_of_file {place steps : List Bytes}
    (hfile : folder.follow? place steps = some (.file content))
    (step : Bytes) (rest : List Bytes) : folder.follow? place (steps ++ step :: rest) = none := by
  fun_induction follow? folder place steps with
  | case1 place =>
    rw [List.nil_append, follow?, if_pos]
    simp [hfile]
  | case2 => cases hfile
  | case3 place next steps hdirectory hstays ih =>
    rw [List.cons_append, follow?, if_neg hdirectory, if_pos hstays, ih hfile]
  | case4 place next steps hdirectory hstays hname ih =>
    rw [List.cons_append, follow?, if_neg hdirectory, if_neg hstays, if_pos hname, ih hfile]
  | case5 => cases hfile
  | case6 place next steps hdirectory hstays hname hplace ih =>
    rw [List.cons_append, follow?, if_neg hdirectory, if_neg hstays, if_neg hname, if_neg hplace,
      ih hfile]

theorem node?_below {path below : Bytes} (hfile : folder.node? path = some (.file content)) :
    folder.node? (path ++ byte '/' :: below) = none := by
  obtain ⟨hrelative, hfollow⟩ := Option.ite_none_right_eq_some.1 hfile
  obtain ⟨next, later, hsteps⟩ :=
    List.exists_cons_of_ne_nil (List.splitOn_ne_nil (byte '/') below)
  rw [node?, List.splitOn_append_cons_self, hsteps, follow?_append_of_file hfollow, ite_self]

def fileSystem (folder : Folder) : FileSystem where
  node? := folder.node?
  node?_nil := rfl
  node?_here _ hrelative := node?_here hrelative
  node?_below _ _ _ hfile := node?_below hfile

def files (folder : Folder) : Files := folder.fileSystem.files

end Folder

end RouteMonitor
