/-
# A machine held in memory

Files and directories are kept in a tree that begins at a root, next to what was printed.  A
path is followed name by name; all but the last have to be names of directories.
-/
import Detection.Host
import Detection.Text.Lines

namespace Detection

/-- What a name in the tree stands for. -/
inductive Entry where
  /-- A file with its octets. -/
  | file (octets : ByteArray)
  /-- A directory. -/
  | directory

/-- The names on the way from the root to a place, last first. -/
abbrev Place := List String

/-- A machine held in memory. -/
structure Machine where
  /-- What is in the tree besides its root. -/
  entries : List (Place × Entry)
  /-- The place from which paths start that do not start from the root. -/
  home : Place
  /-- What was printed. -/
  printed : String
  /-- The present moment. -/
  moment : Moment

namespace Machine

/-- What stands at a place. -/
def entry? (m : Machine) (place : Place) : Option Entry :=
  if place = [] then some .directory else m.entries.lookup place

/-- Entries with one put in the place of the one that was there, or behind all others. -/
def putEntry (place : Place) (entry : Entry) : List (Place × Entry) → List (Place × Entry)
  | [] => [(place, entry)]
  | (other, found) :: rest =>
    if place = other then (place, entry) :: rest
    else (other, found) :: putEntry place entry rest

/-- The machine with an entry put at a place. -/
def put (m : Machine) (place : Place) (entry : Entry) : Machine :=
  { m with entries := putEntry place entry m.entries }

/-- The place that a name leads to from a directory. -/
def follow (place : Place) (name : String) : Place :=
  if name = "" ∨ name = "." then place
  else if name = ".." then place.tail
  else name :: place

/-- The names of a path. -/
def names (path : String) : List String :=
  (Text.splitOn '/' path.toList).map String.ofList

/-- The place from which a path starts. -/
def startOf (m : Machine) (path : String) : Place :=
  if path.toList.head? = some '/' then [] else m.home

/-- The place that names lead to; the last need not stand for anything. -/
def walk (m : Machine) (place : Place) : List String → Except FileFault Place
  | [] => .ok place
  | name :: rest =>
    match m.entry? place with
    | none => .error .notFound
    | some (.file _) => .error .notDirectory
    | some .directory => m.walk (follow place name) rest

/-- The place of a path. -/
def locate (m : Machine) (path : String) : Except FileFault Place :=
  if path = "" then .error .notFound else m.walk (m.startOf path) (names path)

/-- The text of the file at a path. -/
def readText (m : Machine) (path : String) : Except FileFault String := do
  match m.entry? (← m.locate path) with
  | none => .error .notFound
  | some .directory => .error .isDirectory
  | some (.file octets) =>
    match String.fromUTF8? octets with
    | some text => .ok text
    | none => .error .notText

/-- The machine with a directory at the place that names lead to, and on the way to it. -/
def makeDirectories (m : Machine) (place : Place) : List String → Except FileFault Machine
  | [] => .ok m
  | name :: rest =>
    let next := follow place name
    match m.entry? next with
    | some .directory => m.makeDirectories next rest
    | some (.file _) => .error .notDirectory
    | none => (m.put next .directory).makeDirectories next rest

/-- The machine with a file of a text at a path. -/
def writeText (m : Machine) (path text : String) : Except FileFault Machine := do
  let place ← m.locate path
  match m.entry? place with
  | some .directory => .error .isDirectory
  | _ => .ok (m.put place (.file text.toUTF8))

/-- A machine after an attempt, and how the attempt ended. -/
def attempt (m : Machine) : Except FileFault Machine → Except FileFault Unit × Machine
  | .ok next => (.ok (), next)
  | .error fault => (.error fault, m)

instance : Host (StateM Machine) where
  readText path := fun m => (m.readText path, m)
  makeDirectory path := fun m => m.attempt (m.makeDirectories (m.startOf path) (names path))
  writeText path text := fun m => m.attempt (m.writeText path text)
  printLine line := fun m => ((), { m with printed := m.printed ++ line ++ "\n" })
  now := fun m => (m.moment, m)

/-- No time passes while it is not set. -/
instance : Clock (StateM Machine) where
  nanoseconds := fun m => (0, m)

end Machine

end Detection
