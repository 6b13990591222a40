import RequestBreakdown.Fault
import RequestBreakdown.Storage.Path

/-!
# Storage

Files with their texts and the directories that hold them, each known by the names
that lead to it from the top.  A path is followed step by step, and every step must
start in a directory.  No directory looks for a name that is too long to be in it.
-/

namespace RequestBreakdown

structure Storage where
  files : List (List String × String) := []
  /-- Directories that exist whether or not they hold anything. -/
  directories : List (List String) := []
  deriving DecidableEq, Repr

namespace Storage

/-- How many bytes a name in a directory has at most. -/
def longestName : Nat := 255

/-- How many bytes a path has at most. -/
def longestPath : Nat := 4095

def entries (s : Storage) : List (List String) := s.directories ++ s.files.map (·.1)

def isFile (s : Storage) (place : List String) : Bool := (s.files.lookup place).isSome

/-- The top is a directory, and so is whatever something else lies in. -/
def isDirectory (s : Storage) (place : List String) : Bool :=
  place.isEmpty || (s.entries.any place.isPrefixOf && !s.isFile place)

/-- The place that one step leads to, whether or not there is anything. -/
def step (s : Storage) (place : List String) (part : String) : Except PathFault (List String) := do
  if !s.isDirectory place then throw .notDirectory
  if part.utf8ByteSize > longestName then throw .nameTooLong
  return if part = Path.stepBack then place.dropLast else place ++ [part]

/-- The place that the parts lead to; every step of the way has to exist. -/
def walk (s : Storage) (place : List String) : List String → Except PathFault (List String)
  | [] => .ok place
  | part :: rest => do
    let next ← s.step place part
    if !(s.isDirectory next || s.isFile next) then throw .missing
    s.walk next rest

/-- The place that a path leads to, if there is one.  None has a NUL on its way. -/
def locate (s : Storage) (p : Path) : Except PathFault (Option (List String)) :=
  if p.hasNul then .ok none
  else if p.text.utf8ByteSize > longestPath then .error .nameTooLong
  else
    match s.walk [] p.parts with
    | .ok place => .ok (some place)
    | .error .missing | .error .notDirectory => .ok none
    | .error fault => .error fault

def contains (s : Storage) (p : Path) : Except PathFault Bool := (s.locate p).map (·.isSome)

/-- The text of a file; a directory has none. -/
def read (s : Storage) (p : Path) : Except PathFault (Option String) := do
  match ← s.locate p with
  | none => return none
  | some place =>
    match s.files.lookup place with
    | some text => return some text
    | none => throw .isDirectory

/-- The names in a directory; in anything else there are none. -/
def list (s : Storage) (p : Path) : List String :=
  match s.locate p with
  | .error _ | .ok none => []
  | .ok (some place) =>
    (s.entries.filterMap fun entry =>
      if place.isPrefixOf entry then entry[place.length]? else none).eraseDups

def withDirectory (s : Storage) (p : Path) : Storage := { s with directories := p.names :: s.directories }

def withFile (s : Storage) (place : List String) (text : String) : Storage :=
  { s with files := (place, text) :: s.files.filter (·.1 != place) }

def write (s : Storage) (p : Path) (text : String) : Except PathFault Storage := do
  if p.text.utf8ByteSize > longestPath then throw .nameTooLong
  match p.parts.getLast? with
  | none => throw .isDirectory
  | some name =>
    let place ← s.step (← s.walk [] p.parts.dropLast) name
    if s.isDirectory place then throw .isDirectory
    return s.withFile place text

/-- A directory that holds files, in itself or below, and nothing else. -/
def ofFiles (directory : Path) (files : List (String × String)) : Storage :=
  files.foldl (fun s (name, text) => s.withFile (directory.join (.read name)).names text)
    { directories := [directory.names] }

end Storage

end RequestBreakdown
