/-!
The files a run can see.

A tree maps paths, given as lists of names, to files and directories; the empty path is the
directory the tree starts from. A path in text is followed name by name from there. It may lead
above that directory, where nothing is known but the directories on the way up. What can go wrong is
what goes wrong on a disk: a name that is not there, a file where a directory is needed or the other
way round, a name that is too long.
-/

namespace Screensaver

/-- Why a file cannot be used. -/
inductive FileProblem where
  | missing
  | notDirectory
  | isDirectory
  | nameTooLong
  | invalid
deriving DecidableEq

def FileProblem.text : FileProblem → String
  | .missing => "no such file or directory"
  | .notDirectory => "not a directory"
  | .isDirectory => "is a directory"
  | .nameTooLong => "file name too long"
  | .invalid => "invalid argument"

/-- A problem, with what was tried and on which path. -/
structure FileError where
  action : String
  path : String
  problem : FileProblem
deriving DecidableEq

def FileError.message (e : FileError) : String :=
  e.action ++ " " ++ e.path ++ ": " ++ e.problem.text

/-- A file with its content, or a directory. -/
inductive FileEntry where
  | file (content : List UInt8)
  | directory
deriving DecidableEq

/-- Files and directories below a common directory. -/
structure FileTree where
  entries : List (List String × FileEntry)

namespace FileTree

def empty : FileTree := ⟨[]⟩

/-- Whether a place is the directory the tree starts from, or one above it. -/
def isAbove (place : List String) : Bool := place.all (· = "..")

/-- What is at a place. -/
def find? (t : FileTree) (place : List String) : Option FileEntry :=
  if isAbove place ∨ place = ["/"] then some .directory else t.entries.lookup place

/-- The directory above a place; there is none above that of all paths. -/
def parent (place : List String) : List String :=
  if isAbove place then place ++ [".."] else if place = ["/"] then place else place.dropLast

/-- Puts something at a place. -/
def put (t : FileTree) (place : List String) (e : FileEntry) : FileTree :=
  if (t.entries.lookup place).isSome then
    ⟨t.entries.map fun (p, old) => if p = place then (p, e) else (p, old)⟩
  else ⟨t.entries ++ [(place, e)]⟩

/-- Follows names from a place. Every place on the way, the last apart, has to be a directory; the
last need not be there. -/
def follow (t : FileTree) : (place : List String) → List String → Except FileProblem (List String)
  | place, [] => .ok place
  | place, name :: rest =>
    match t.find? place with
    | none => .error .missing
    | some (.file _) => .error .notDirectory
    | some .directory =>
      if name = "" ∨ name = "." then follow t place rest
      else if name = ".." then follow t (parent place) rest
      else if 255 < name.utf8ByteSize then .error .nameTooLong
      else follow t (place ++ [name]) rest

/-- Why a path is not even followed: it holds the character that ends texts, or is empty or too
long. -/
def refused? (path : String) : Option FileProblem :=
  if path.contains (Char.ofNat 0) then some .invalid
  else if path = "" then some .missing
  else if 4095 < path.utf8ByteSize then some .nameTooLong
  else none

/-- Where a path starts: a path that begins with a slash starts from a directory of that name. -/
def origin (path : String) : List String :=
  if path.startsWith "/" then ["/"] else []

/-- Follows names on behalf of a path. -/
def locateNames (t : FileTree) (path : String) (names : List String) :
    Except FileProblem (List String) :=
  match refused? path with
  | some p => .error p
  | none => t.follow (origin path) names

/-- The place of a path. -/
def locate (t : FileTree) (path : String) : Except FileProblem (List String) :=
  t.locateNames path (path.splitOn "/")

/-- The content of a file. -/
def read (t : FileTree) (path : String) : Except FileError (List UInt8) :=
  match t.locate path with
  | .error p => .error ⟨"open", path, p⟩
  | .ok place =>
    match t.find? place with
    | none => .error ⟨"open", path, .missing⟩
    | some .directory => .error ⟨"read", path, .isDirectory⟩
    | some (.file content) => .ok content

/-- The names before the last one of a path that ends with slashes. -/
def namesAbove (path : String) : List String :=
  (((path.splitOn "/").reverse.dropWhile (· = "")).drop 1).reverse

/-- The place of a file that is to be written to, which need not be there. A path that ends with a
slash can only be a directory. -/
def locateToWrite (t : FileTree) (path : String) : Except FileProblem (List String) :=
  if path.endsWith "/" then
    match t.locateNames path (namesAbove path ++ ["."]) with
    | .error p => .error p
    | .ok _ => .error .isDirectory
  else
    match t.locate path with
    | .error p => .error p
    | .ok place => if t.find? place = some .directory then .error .isDirectory else .ok place

/-- Opens a file to write at its end; it is there afterwards. -/
def openToAppend (path : String) : EStateM FileError FileTree (List String) := do
  match (← get).locateToWrite path with
  | .error p => throw ⟨"open", path, p⟩
  | .ok place =>
    if ((← get).find? place).isNone then modify fun t => t.put place (.file [])
    return place

/-- Writes at the end of a file. -/
def append (t : FileTree) (place : List String) (bytes : List UInt8) : FileTree :=
  match t.find? place with
  | some (.file content) => t.put place (.file (content ++ bytes))
  | _ => t

/-- Adds a directory and the directories above it. -/
def addDirectories (t : FileTree) (above : List String) : List String → FileTree
  | [] => t
  | name :: rest =>
    let place := above ++ [name]
    let t := if (t.find? place).isSome then t else t.put place .directory
    addDirectories t place rest

/-- Adds a file and the directories above it. -/
def addFile (t : FileTree) (place : List String) (content : List UInt8) : FileTree :=
  (t.addDirectories [] place.dropLast).put place (.file content)

end FileTree

end Screensaver
