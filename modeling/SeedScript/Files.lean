import SeedScript.Workbook

/-!
# Files

A store of files below one folder. A path is a list of names between slashes, walked from that
folder; `.` stays where it is and `..` goes up, and both need a folder to stand in. Nothing above
the folder can be reached.
-/

namespace SeedScript

/-- What a file holds. A workbook is kept unpacked. -/
inductive Content where
  | text (s : String)
  | bytes (bs : List UInt8)
  | workbook (w : Workbook)

/-- The text in a file, when it is UTF-8. -/
def Content.text? : Content → Option String
  | .text s => some s
  | .bytes bs => String.fromUTF8? (ByteArray.mk bs.toArray)
  | .workbook _ => none

def Content.workbook? : Content → Option Workbook
  | .workbook w => some w
  | _ => none

/-- The names that lead from the common folder to a file or a folder. -/
abbrev Path := List String

/-- Folders, and files with what they hold. -/
structure Files where
  folders : List Path
  files : List (Path × Content)

namespace Files

def empty : Files := ⟨[], []⟩

def file? (fs : Files) (p : Path) : Option Content := fs.files.lookup p

def isFolder (fs : Files) (p : Path) : Bool := p.isEmpty || fs.folders.contains p

/-- The names in the text of a path. -/
def names (path : String) : List String := Text.split "/" path

/-- Whether a name stays in its folder. -/
def stays (name : String) : Bool := name == "" || name == "."

/-- Where names lead from a place. -/
def walk (fs : Files) : (place : Path) → List String → Option Path
  | place, [] => some place
  | place, name :: names =>
    if !fs.isFolder place then none
    else if stays name then walk fs place names
    else if name = ".." then if place.isEmpty then none else walk fs place.dropLast names
    else walk fs (place ++ [name]) names

/-- Whether the text of a path leads somewhere below the common folder. -/
def isRelative (path : String) : Bool := path != "" && path.toList.head? != some '/'

/-- What the file at a path holds, when it can be read. -/
def read? (fs : Files) (path : String) : Option Content :=
  if isRelative path then (fs.walk [] (names path)).bind fs.file? else none

def addFolder (fs : Files) (p : Path) : Files :=
  if fs.isFolder p then fs else { fs with folders := fs.folders ++ [p] }

/-- Walks like `walk` and adds the folders that are missing. -/
def walkAdding : (fs : Files) → (place : Path) → List String → Option (Files × Path)
  | fs, place, [] => some (fs, place)
  | fs, place, name :: names =>
    if stays name then walkAdding fs place names
    else if name = ".." then
      if place.isEmpty then none else walkAdding fs place.dropLast names
    else if (fs.file? (place ++ [name])).isSome then none
    else walkAdding (fs.addFolder (place ++ [name])) (place ++ [name]) names

/-- The store with the file at a path replaced, or added. -/
def setFile (fs : Files) (p : Path) (content : Content) : Files :=
  { fs with files := (p, content) :: fs.files.filter fun f => f.1 != p }

/-- Writes a file, and adds the folders that lead to it; fails where that is not possible. -/
def write? (fs : Files) (path : String) (content : Content) : Option Files := do
  let name ← (names path).getLast?
  if !isRelative path || stays name || name = ".." then none
  else
    let (fs, place) ← fs.walkAdding [] (names path).dropLast
    let p := place ++ [name]
    if fs.isFolder p then none else some (fs.setFile p content)

theorem file?_setFile (fs : Files) (p : Path) (content : Content) (q : Path) :
    (fs.setFile p content).file? q = if q = p then some content else fs.file? q := by
  have h : ∀ files : List (Path × Content), q ≠ p →
      (files.filter fun f => f.1 != p).lookup q = files.lookup q := by
    intro files hq
    induction files with
    | nil => rfl
    | cons f files ih =>
      obtain ⟨r, c⟩ := f
      by_cases hr : r = p
      · subst hr
        have hb : (q == r) = false := by simpa using hq
        simp [List.filter, List.lookup_cons, hb, ih]
      · have hr' : (r != p) = true := by simpa using hr
        simp only [List.filter, hr', List.lookup_cons, ih]
  unfold setFile file?
  by_cases hq : q = p
  · simp [hq]
  · have hb : (q == p) = false := by simpa using hq
    simp [List.lookup_cons, hb, hq, h fs.files hq]

end Files

end SeedScript
