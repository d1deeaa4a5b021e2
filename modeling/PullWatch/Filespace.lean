import PullWatch.Database.Schema

/-!
# Files and directories

A file space is what a program finds below its working directory: directories, and files that hold a
text or a database. A path is resolved name by name; `.` stays, and `..` goes up.

## Main definitions

* `Filespace`: directories and files.
* `Filespace.read?`: the text in a file.
* `Filespace.openStore`: the database at a path, which is created if need be.
* `Filespace.save`: the file space with new content for a database.
-/

namespace PullWatch

/-- The names that lead to a file or directory. Leading `..` go above the working directory, and a
leading `/` is the root of all directories. -/
abbrev Place := List String

/-- What a file holds. -/
inductive FileContent where
  | text (content : String)
  | database (file : DatabaseFile)

/-- Directories and files. -/
structure Filespace where
  directories : List Place := []
  files : List (Place × FileContent) := []

/-- The names in a path, without empty ones and `.`. -/
def pathNames (path : String) : List String :=
  (if path.startsWith "/" then ["/"] else [])
    ++ ((path.toList.splitOn '/').map String.ofList).filter fun name => name ≠ "" ∧ name ≠ "."

/-- The place one name further. -/
def Place.step (place : Place) (name : String) : Place :=
  if name = ".." then
    match place.getLast? with
    | none | some ".." => place ++ [".."]
    | some "/" => place
    | some _ => place.dropLast
  else place ++ [name]

/-- The name holds a null character, so no file can have it. -/
def hasNull (name : String) : Bool := name.toList.any fun c => c.toNat == 0

/-- A name that files and directories can have. -/
def isFileName (name : String) : Bool := name.utf8ByteSize ≤ 255 && !hasNull name

/-- The greatest length of a path to a database. -/
def longestDatabasePath : Nat := 490

namespace Filespace

/-- The content of a file. -/
def content? (fs : Filespace) (place : Place) : Option FileContent :=
  (fs.files.find? fun f => f.1 == place).map (·.2)

/-- There is a directory at a place. The working directory and those above it are always there. -/
def isDirectory (fs : Filespace) (place : Place) : Bool :=
  place.all (fun name => name == ".." || name == "/") || fs.directories.contains place

/-- The directory that names lead to, if all of them lead to directories. -/
def directory? (fs : Filespace) : List String → Place → Option Place
  | [], place => some place
  | name :: names, place =>
    let next := place.step name
    if fs.isDirectory next then directory? fs names next else none

/-- The text of the file at a path. -/
def read? (fs : Filespace) (path : String) : Option String := do
  let names := pathNames path
  let name ← names.getLast?
  let place ← fs.directory? names.dropLast []
  if path.endsWith "/" || path.endsWith "/." then none
  else
    match fs.content? (place.step name) with
    | some (.text content) => some content
    | _ => none

/-- Makes the directories that names lead through, as far as they are not there. Absent when a file
is in the way or a name cannot be used; what was made before is kept. -/
def makeDirectories (fs : Filespace) : List String → Place → Option Place × Filespace
  | [], place => (some place, fs)
  | name :: names, place =>
    let next := place.step name
    if fs.isDirectory next then makeDirectories fs names next
    else if (fs.content? next).isSome || !isFileName name then (none, fs)
    else makeDirectories { fs with directories := fs.directories ++ [next] } names next

/-- The file space with new content for a file. -/
def write (fs : Filespace) (place : Place) (content : FileContent) : Filespace :=
  { fs with files := (fs.files.filter fun f => f.1 != place) ++ [(place, content)] }

/-- The file space with new content for a database. -/
def save (fs : Filespace) (place : Place) (db : Database) : Filespace :=
  fs.write place (.database (.ofDatabase db))

/-- The database that a file holds. An empty file is an empty database. -/
def databaseIn : Option FileContent → Except StoreError Database
  | none | some (.text "") => DatabaseFile.empty.openDatabase
  | some (.text _) => .error .notADatabase
  | some (.database file) => file.openDatabase

/-- Opens or creates the database at a path, and the directories that lead to it: its place and
content. -/
def openStore (fs : Filespace) (path : String) :
    Except StoreError (Place × Database) × Filespace :=
  let names := pathNames path
  let parents := names.dropLast
  if parents.any hasNull then
    (.error (.createDirectory path "a name holds a null character"), fs)
  else
    match fs.makeDirectories parents [] with
    | (none, fs) => (.error (.createDirectory path "a file is in the way"), fs)
    | (some place, fs) =>
      match names.getLast? with
      | none => (.error (.openFailed path "it is a directory"), fs)
      | some name =>
        let place := place.step name
        if fs.isDirectory place || !isFileName name
            || longestDatabasePath < path.utf8ByteSize then
          (.error (.openFailed path "it cannot be a file"), fs)
        else
          match databaseIn (fs.content? place) with
          | .error e => (.error e, fs)
          | .ok db => (.ok (place, db), fs.save place db)

end Filespace

end PullWatch
