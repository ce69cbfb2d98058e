import Gatehouse.Host.Program

/-!
The file system of the host, as far as the gateway uses it: regular files with their content, in folders
below one root. Paths are read as the system reads them; links do not occur.
-/

namespace Gatehouse.Host

/-- A place in the file system: the names on the way from the root. -/
abbrev Path := List Text

/-- Folders other than the root, and files with their content. -/
structure Files where
  folders : List Path
  files : List (Path × Bytes)

namespace Files

/-- Why the system refuses. -/
inductive Fault where
  | noSuchFile
  | alreadyThere
  | notFolder
  | folder
  | nameTooLong
  | nul
  deriving DecidableEq

def Fault.text : Fault → Text
  | noSuchFile => noSuchFileText
  | alreadyThere => "File exists (os error 17)"
  | notFolder => "Not a directory (os error 20)"
  | folder => "Is a directory (os error 21)"
  | nameTooLong => "File name too long (os error 36)"
  | nul => "file name contained an unexpected NUL byte"

def maxNameLength : Nat := 255

def maxPathLength : Nat := 4095

def hasFolder (fs : Files) (p : Path) : Bool := p == [] || fs.folders.contains p

def content? (fs : Files) (p : Path) : Option Bytes := fs.files.lookup p

def hasFile (fs : Files) (p : Path) : Bool := (fs.content? p).isSome

/-! ## Paths -/

/-- The pieces of a path text between its slashes; empty ones do not count. -/
def pieces (t : Text) : List Text := (Text.split '/' t).filter (· ≠ [])

/-- The names in a path text: its pieces without the dots that lead nowhere. -/
def names (t : Text) : List Text := (pieces t).filter (· ≠ ['.'])

/-- Where the reading of a path text starts: at the root, or in the working folder. -/
def start (working : Path) (t : Text) : Path := if t.head? = some '/' then [] else working

/-- A path text with a name after it; a name that is a path of its own from the root stands alone. -/
def joined (front name : Text) : Text :=
  if name.head? = some '/' then name
  else if front = [] ∨ front.getLast? = some '/' then front ++ name
  else front ++ "/" ++ name

/-- Where a piece leads from a folder: a dot nowhere, two dots back, a name to what is called so. -/
def follow (place : Path) (piece : Text) : Path :=
  if piece = ['.'] then place else if piece = ['.', '.'] then place.dropLast else place ++ [piece]

def enter (fs : Files) (place : Path) (piece : Text) : Except Fault Path :=
  let next := follow place piece
  if maxNameLength < Text.byteLength piece then .error .nameTooLong
  else if fs.hasFolder next then .ok next
  else if fs.hasFile next then .error .notFolder
  else .error .noSuchFile

/-- What a path text means: a folder that is there, since it ends in dots or in the root, or something of
this name in a folder that is there. -/
inductive Spot where
  | folder (place : Path)
  | entry (folder : Path) (name : Text)

/-- What a path text means, where all but its last piece must be folders. -/
def locate (fs : Files) (working : Path) (t : Text) : Except Fault Spot :=
  if t.contains '\x00' then .error .nul
  else if maxPathLength < Text.byteLength t then .error .nameTooLong
  else if t = [] then .error .noSuchFile
  else
    match (pieces t).getLast? with
    | none => .ok (.folder (start working t))
    | some last => do
      let folder ← (pieces t).dropLast.foldlM fs.enter (start working t)
      if last = ['.'] ∨ last = ['.', '.'] then pure (.folder (follow folder last))
      else pure (.entry folder last)

/-- Whether a path text asks for a folder, by a slash at its end. -/
def asksForFolder (t : Text) : Bool := t.getLast? == some '/'

/-! ## Reading and writing -/

/-- What the system opens for reading: a folder, which opens but cannot be read, or a file. -/
inductive Opened where
  | folder
  | file (content : Bytes)

def openFor (fs : Files) (working : Path) (t : Text) : Except Fault Opened := do
  match ← fs.locate working t with
  | .folder _ => .ok .folder
  | .entry folder name =>
    let place := folder ++ [name]
    if maxNameLength < Text.byteLength name then .error .nameTooLong
    else if fs.hasFolder place then .ok .folder
    else
      match fs.content? place with
      | some content => if asksForFolder t then .error .notFolder else .ok (.file content)
      | none => .error .noSuchFile

def Opened.read : Opened → Except Fault Bytes
  | folder => .error .folder
  | file content => .ok content

def read (fs : Files) (working : Path) (t : Text) : Except Fault Bytes := do
  let opened ← fs.openFor working t
  opened.read

/-- The files with this content at a place. -/
def put (fs : Files) (place : Path) (content : Bytes) : Files :=
  { fs with files := fs.files.filter (·.1 ≠ place) ++ [(place, content)] }

/-- The place where a file is written, which need not be there. -/
def target (fs : Files) (working : Path) (t : Text) : Except Fault Path := do
  match ← fs.locate working t with
  | .folder _ => .error .folder
  | .entry folder name =>
    let place := folder ++ [name]
    if asksForFolder t then .error .folder
    else if maxNameLength < Text.byteLength name then .error .nameTooLong
    else if fs.hasFolder place then .error .folder
    else .ok place

def write (fs : Files) (working : Path) (t : Text) (content : Bytes) : Except Fault Files :=
  (fs.target working t).map fun place => fs.put place content

def erase (fs : Files) (place : Path) : Files := { fs with files := fs.files.filter (·.1 ≠ place) }

def remove (fs : Files) (working : Path) (t : Text) : Except Fault Files := do
  match ← fs.locate working t with
  | .folder _ => .error .folder
  | .entry folder name =>
    let place := folder ++ [name]
    if maxNameLength < Text.byteLength name then .error .nameTooLong
    else if fs.hasFolder place then .error .folder
    else if fs.hasFile place then if asksForFolder t then .error .notFolder else .ok (fs.erase place)
    else .error .noSuchFile

/-! ## Folders -/

def isFolder (fs : Files) (working : Path) (t : Text) : Bool :=
  match fs.openFor working t with
  | .ok .folder => true
  | _ => false

def makeFolder (fs : Files) (working : Path) (t : Text) : Except Fault Files := do
  match ← fs.locate working t with
  | .folder _ => .error .alreadyThere
  | .entry folder name =>
    let place := folder ++ [name]
    if maxNameLength < Text.byteLength name then .error .nameTooLong
    else if fs.hasFolder place ∨ fs.hasFile place then .error .alreadyThere
    else .ok { fs with folders := fs.folders ++ [place] }

/-- Makes the first of several folders, each of which stands in the next one, and those on the way to it
that are not there. What has been made stays, even if the folder cannot be made. -/
def makeFoldersOf (fs : Files) (working : Path) : List Text → Except Fault Unit × Files
  | [] => (.ok (), fs)
  | t :: outer =>
    let settle (fs : Files) (made : Except Fault Files) : Except Fault Unit × Files :=
      match made with
      | .ok fs => (.ok (), fs)
      | .error e => (if fs.isFolder working t then .ok () else .error e, fs)
    match fs.makeFolder working t with
    | .error .noSuchFile =>
      match makeFoldersOf fs working outer with
      | (.error e, fs) => (.error e, fs)
      | (.ok (), fs) => settle fs (fs.makeFolder working t)
    | made => settle fs made

/-- The path texts of the folders in which a path stands, the innermost first: the path of all its names but
the last, and so on. -/
def outerTexts (t : Text) : List Text :=
  let root : Text := if t.head? = some '/' then "/" else []
  let all := names t
  ((List.range all.length).map fun n => root ++ Text.join "/" (all.take n)).reverse.filter (· ≠ [])

/-- Makes the folder that a path text means, with all folders on the way. -/
def makeFolders (fs : Files) (working : Path) (t : Text) : Except Fault Unit × Files :=
  if t = [] then (.ok (), fs) else fs.makeFoldersOf working (t :: outerTexts t)

/-- The files below a folder, by their path texts from there. -/
def below (fs : Files) (folder : Path) : List (Text × Bytes) :=
  fs.files.filterMap fun (place, content) =>
    (folder.isPrefixOf? place).map fun rest => (Text.join "/" rest, content)

end Files
end Gatehouse.Host
