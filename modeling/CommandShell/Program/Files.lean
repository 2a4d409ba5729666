/-
This file says what stands at a path, and why a file cannot be made there.
-/

namespace CommandShell

/-- This is what stands at a place. -/
inductive PathContent where
  | missing
  | directory
  /-- This is a directory in which nothing can be made. -/
  | sealed
  | file (content : String)
  /-- This is a file that is not a text. -/
  | binary
  deriving Repr, DecidableEq

def PathContent.isDirectory : PathContent → Bool
  | .directory | .sealed => true
  | _ => false

/-- These are the reasons why a file cannot be read or made. -/
inductive FileFault where
  | missing
  | occupied
  | notDirectory
  | isDirectory
  | longName
  | brokenName
  | notText
  deriving Repr, DecidableEq

def FileFault.message : FileFault → String
  | .missing => "No such file or directory (os error 2)"
  | .occupied => "File exists (os error 17)"
  | .notDirectory => "Not a directory (os error 20)"
  | .isDirectory => "Is a directory (os error 21)"
  | .longName => "File name too long (os error 36)"
  | .brokenName => "file name contained an unexpected NUL byte"
  | .notText => "stream did not contain valid UTF-8"

/-- These are the names on the way from the root, which has an empty name, or from where a run
starts. -/
abbrev Place := List String

namespace Place

def start (path : String) : Place :=
  if path.startsWith "/" then [""] else []

/-- These are the texts between the slashes of a path. -/
def parts (path : String) : List String :=
  (path.toList.splitOnP (· = '/')).map String.ofList

/-- Dots alone lead nowhere. -/
def names (path : String) : List String :=
  (parts path).filter fun name => !(["", "."].contains name)

/-- Nothing is above the root. The directories above the start of a run have no other names. -/
def isAtTop (place : Place) : Bool :=
  place = [""] || place.all (· = "..")

/-- Two dots lead up. -/
def enter (place : Place) (name : String) : Place :=
  if name ≠ ".." then place ++ [name]
  else if place = [""] then place
  else if place.isAtTop then place ++ [".."]
  else place.dropLast

def ofPath (path : String) : Place :=
  (names path).foldl enter (start path)

/-- These are the paths to the places on the way, the last one included. -/
def leads (path : String) : List String :=
  (List.range (names path).length).map fun index =>
    "/".intercalate (start path ++ (names path).take (index + 1))

end Place

/-- This tells what stands at some places. -/
abbrev Files := List (Place × PathContent)

namespace Files

def ofPaths (contents : List (String × PathContent)) : Files :=
  contents.map fun entry => (Place.ofPath entry.1, entry.2)

/-- All that lies above a place that is told of is a directory. -/
def contentOf (files : Files) (place : Place) : PathContent :=
  match files.find? (·.1 = place) with
  | some (_, content) => content
  | none =>
      if place.isAtTop || files.any (place.isPrefixOf ·.1) then .directory else .missing

/-- Only directories lead on. -/
def enter? (files : Files) (place : Place) (name : String) : Option Place :=
  if (files.contentOf place).isDirectory then some (place.enter name) else none

/-- A dot behind the last name asks for a directory that is there. -/
def endsInDot (path : String) : Bool :=
  ((Place.parts path).filter (!·.isEmpty)).getLast? = some "."

/-- This is what a path leads to. A slash or a dot at its end leads on. -/
def contentAt (files : Files) (path : String) : PathContent :=
  match (Place.names path).foldlM files.enter? (Place.start path) with
  | none => .missing
  | some place =>
      let content := files.contentOf place
      if path.isEmpty then .missing
      else if content.isDirectory || !(path.endsWith "/" || endsInDot path) then content
      else .missing

def isLongName (name : String) : Bool :=
  255 < name.utf8ByteSize

/-- Some paths cannot even be asked for. -/
def checkPath (path : String) : Except FileFault Unit :=
  if '\x00' ∈ path.toList then .error .brokenName
  else if 4096 ≤ path.utf8ByteSize then .error .longName
  else .ok ()

/-- This makes the directories that are missing on a way from a directory. -/
def makeDirectories (files : Files) (place : Place) :
    List String → Except FileFault (Files × Place)
  | [] => .ok (files, place)
  | name :: rest =>
      let next := place.enter name
      match files.contentOf next with
      | .directory | .sealed => makeDirectories files next rest
      | .file _ | .binary => .error (if rest.isEmpty then .occupied else .notDirectory)
      | .missing =>
          if isLongName name then .error .longName
          else if files.contentOf place = .sealed then .error .missing
          else makeDirectories ((next, .directory) :: files) next rest

/-- This opens a file in a directory, or makes it there. The path is the one that was asked for; a
slash at its end asks for a directory. -/
def openFile (files : Files) (place : Place) (name path : String) : Except FileFault Unit :=
  match files.contentOf (place.enter name) with
  | .directory | .sealed => .error .isDirectory
  | .missing =>
      if path.endsWith "/" && !endsInDot path then .error .isDirectory
      else if isLongName name then .error .longName
      else if endsInDot path || files.contentOf place = .sealed then .error .missing
      else .ok ()
  | content =>
      if endsInDot path then .error .notDirectory
      else if path.endsWith "/" then .error .isDirectory
      else if content = .binary then .error .notText
      else .ok ()

/-- This makes a text file at a path with the directories above it, if it is not there yet. -/
def makeFile (files : Files) (path : String) : Except FileFault Unit := do
  let start := Place.start path
  let names := Place.names path
  if path.isEmpty then throw .missing
  checkPath ("/".intercalate (start ++ names.dropLast))
  let (files, place) ← makeDirectories files start names.dropLast
  checkPath path
  match names.getLast? with
  | none => throw .isDirectory
  | some name => openFile files place name path

end Files

end CommandShell
