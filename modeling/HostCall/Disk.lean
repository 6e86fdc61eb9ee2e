import HostCall.Text.Encoding
import HostCall.Text.Utf8
import HostCall.Error

/-!
# Files

A disk as seen from a working folder: files by the place they stand at.  A file keeps its number
when it is moved, so that whoever has opened it goes on writing to the same file.
-/

namespace HostCall

/-- A path: where it starts from, and the names on the way. -/
structure Path where
  root : Text
  names : List Text
  deriving DecidableEq

namespace Path

/-- Empty names and single points are left out; two slashes at the start are kept, three are one. -/
def ofText (t : Text) : Path :=
  let slashes := (t.takeWhile fun c : CodePoint => c = '/').length
  ⟨if slashes = 0 then "" else if slashes = 2 then "//" else "/",
    (Text.splitOn '/' t).filter fun n => n ≠ [] && n ≠ "."⟩

def text (p : Path) : Text :=
  if p.root = [] ∧ p.names = [] then "." else p.root ++ Text.join "/" p.names

def parent (p : Path) : Path := { p with names := p.names.dropLast }

/-- The names that are left when two points take away the name in front of them. -/
def straightened (names : List Text) : List Text :=
  names.foldl (fun (passed : List Text) (n : Text) =>
    if n = ".." then passed.dropLast else passed ++ [n]) []

/-- The path from the root of the disk, seen from a working folder. -/
def absolute (p home : Path) : Path :=
  if p.root = [] then ⟨home.root, straightened (home.names ++ p.names)⟩
  else ⟨p.root, straightened p.names⟩

/-- Refuses a path that a disk cannot be given: one without bytes, or with a zero among them. -/
def check (p : Path) : Except HostError Unit :=
  match Encoding.unencodable? true p.text with
  | some f => .error (.encoding f)
  | none =>
    if p.text.any fun c => c.val = 0 then .error (.raised .value "embedded null byte") else .ok ()

end Path

/-- A place on the disk: the names that lead to it from the working folder. -/
abbrev Place := List Text

/-- The root of the disk. -/
def Place.root : Place := ["/"]

namespace Place

/-- One name further; two points lead back. -/
def step (p : Place) (name : Text) : Place :=
  if name ≠ ".." then p ++ [name]
  else if p = Place.root then p
  else if p.getLastD ".." = ".." then p ++ [name]
  else p.dropLast

end Place

/-- Where a path leads, whether anything stands there or not. -/
def Path.place (p : Path) : Place :=
  p.names.foldl Place.step (if p.root = [] then [] else Place.root)

inductive Entry where
  | file (number : Nat)
  | folder
  deriving DecidableEq

structure Disk where
  files : List (Place × Nat) := []
  contents : List (List UInt8) := []
  folders : List Place := []
  /-- The path of the working folder. -/
  home : Path := ⟨"/", ["home"]⟩

namespace Disk

def entryAt? (d : Disk) (p : Place) : Option Entry :=
  match d.files.lookup p with
  | some n => some (.file n)
  | none =>
    if p = Place.root ∨ p.all (· = "..") ∨ p ∈ d.folders then some .folder else none

/-- How many bytes a text takes; a half of a surrogate pair stands for a single one. -/
def byteCount (t : Text) : Nat :=
  (t.map fun c => if c.isSurrogate then 1 else (Utf8.encodePoint c).length).sum

/-- The bytes of the longest name. -/
def longestName : Nat := 255

/-- The bytes of the longest path. -/
def longestPath : Nat := 4095

/-- What the names lead to from a place; each but the last must lead to a folder. -/
def walk (d : Disk) (p : Place) : List Text → Except FileFault Entry
  | [] => (d.entryAt? p).elim (.error .absent) .ok
  | name :: rest =>
    match d.entryAt? p with
    | none => .error .absent
    | some (.file _) => .error .notAFolder
    | some .folder =>
      if longestName < byteCount name then .error .nameTooLong else d.walk (p.step name) rest

def find (d : Disk) (p : Path) : Except FileFault Entry :=
  if longestPath < byteCount p.text then .error .nameTooLong
  else d.walk (if p.root = [] then [] else Place.root) p.names

def isFolder (d : Disk) (p : Path) : Bool := (d.find p).toOption = some .folder

def content (d : Disk) (number : Nat) : List UInt8 := d.contents.getD number []

/-- The file at a place, which is made if there is none. -/
def obtain (d : Disk) (p : Place) : Nat × Disk :=
  match d.files.lookup p with
  | some n => (n, d)
  | none => (d.contents.length,
      { d with files := (p, d.contents.length) :: d.files, contents := d.contents ++ [[]] })

/-- Replaces what is in the file at a place. -/
def write (d : Disk) (p : Place) (bytes : List UInt8) : Disk :=
  let (n, d) := d.obtain p
  { d with contents := d.contents.set n bytes }

def append (d : Disk) (number : Nat) (bytes : List UInt8) : Disk :=
  { d with contents := d.contents.set number (d.content number ++ bytes) }

def remove (d : Disk) (p : Place) : Disk :=
  { d with files := d.files.filter fun e => e.1 ≠ p }

/-- Moves the file at a place onto another, if there is one. -/
def move (d : Disk) (source target : Place) : Disk :=
  match d.files.lookup source with
  | none => d
  | some n =>
    { d with files := (target, n) :: (d.files.filter fun e => e.1 ≠ source && e.1 ≠ target) }

/-- What is read at a path. -/
def read (d : Disk) (p : Path) : Except HostError (List UInt8) := do
  p.check
  match d.find p with
  | .error f => .error (.file f p.text)
  | .ok .folder => .error (.file .isFolder p.text)
  | .ok (.file n) => .ok (d.content n)

/-- Makes a folder in one that is there. -/
def makeFolder (d : Disk) (p : Path) : Except FileFault Disk :=
  match d.find p with
  | .ok _ => .error .taken
  | .error .absent =>
    if d.isFolder p.parent then .ok { d with folders := p.place :: d.folders }
    else .error .absent
  | .error f => .error f

/-- Makes a folder in one that is there, unless there is such a folder already. -/
def ensureFolder (d : Disk) (p : Path) : Except FileFault Disk :=
  match d.makeFolder p with
  | .ok d => .ok d
  | .error f => if d.isFolder p then .ok d else .error f

/-- Makes a folder and those that are missing on the way to it.  What has been made before a failure
stays. -/
def ensureFolders (d : Disk) (p : Path) : Except HostError Unit × Disk :=
  let result (d : Disk) : Except FileFault Disk → Except HostError Unit × Disk
    | .ok d => (.ok (), d)
    | .error f => (.error (.file f p.text), d)
  match d.ensureFolder p with
  | .error .absent =>
    if _h : p.names = [] then result d (.error .absent)
    else
      match d.ensureFolders p.parent with
      | (.ok (), d) => result d (d.ensureFolder p)
      | failed => failed
  | r => result d r
termination_by p.names.length
decreasing_by
  have := List.length_pos_iff.2 _h
  simp only [Path.parent, List.length_dropLast]
  omega

/-- Opens the file at a path, which is made if there is none.  It is asked for by its path from the
root. -/
def openFile (d : Disk) (p : Path) : Except HostError (Nat × Disk) := do
  p.check
  let full := (p.absolute d.home).text
  if longestPath < byteCount full then .error (.file .nameTooLong full)
  else match d.find p with
    | .ok (.file n) => .ok (n, d)
    | .ok .folder => .error (.file .isFolder full)
    | .error .absent => .ok (d.obtain p.place)
    | .error f => .error (.file f full)

/-- Whether a place lies in the working folder. -/
def isInside (p : Place) : Bool :=
  match p with
  | [] => false
  | name :: _ => name != ".." && name != "/"

/-- All files of the working folder, in the order of their paths. -/
def list (d : Disk) : List Text :=
  Text.sort ((d.files.filter fun e => isInside e.1).map fun e => Text.join "/" e.1)

end Disk

end HostCall
