import HourBank.Text

/-! The files of a folder, as the program finds them when it reads one by its path. -/

namespace HourBank

inductive ReadError
  | notFound
  | isFolder
  | notFolder
  | notText
  /-- Any other reason, in the words of the system. -/
  | other (reason : Text)
  deriving DecidableEq

def ReadError.message : ReadError → Text
  | .notFound => "No such file or directory (os error 2)".toList
  | .isFolder => "Is a directory (os error 21)".toList
  | .notFolder => "Not a directory (os error 20)".toList
  | .notText => "stream did not contain valid UTF-8".toList
  | .other reason => reason

/-- The text that these bytes encode. A byte order mark is part of it. -/
def decodeText (bytes : ByteArray) : Except ReadError Text :=
  match String.fromUTF8? bytes with
  | some s => .ok s.toList
  | none => .error .notText

/-- The name and the bytes of each file. A slash in a name leads into a folder of that name, and
of two files of one name the later replaces the earlier. -/
structure Folder where
  files : List (Text × ByteArray)

inductive Node
  | file (bytes : ByteArray)
  | folder

namespace Folder

/-- The steps of a path, without those that stay in place. -/
def steps (path : Text) : List Text :=
  (path.splitOnP (· == '/')).filter fun step => step ≠ [] ∧ step ≠ ['.']

def node? (f : Folder) (place : List Text) : Option Node :=
  match f.files.reverse.find? (steps ·.1 = place) with
  | some (_, bytes) => some (.file bytes)
  | none =>
    if place = [] ∨ f.files.any (fun file => place.isPrefixOf (steps file.1)) then some .folder
    else none

/-- Follows a path from a place, the last step first in `place`. Above the folder nothing is
known but that there are folders. -/
def follow (f : Folder) (place : List Text) (above : Bool) : List Text → Except ReadError Node
  | [] => if above then .ok .folder else (f.node? place.reverse).elim (.error .notFound) .ok
  | step :: rest =>
    if above then
      if step = ['.', '.'] then f.follow [] true rest else .error .notFound
    else
      match f.node? place.reverse with
      | none => .error .notFound
      | some (.file _) => .error .notFolder
      | some .folder =>
        match step, place with
        | ['.', '.'], [] => f.follow [] true rest
        | ['.', '.'], _ :: outer => f.follow outer false rest
        | _, _ => f.follow (step :: place) false rest

/-- A path that ends in a slash or in a step that stays in place asks for a folder. -/
def asksForFolder (path : Text) : Bool :=
  match path.reverse with
  | '/' :: _ | ['.'] | '.' :: '/' :: _ => true
  | _ => false

def resolve (f : Folder) (path : Text) : Except ReadError Node := do
  if path = [] then throw .notFound
  let node ← f.follow [] (path.head? = some '/') (steps path)
  match node with
  | .file _ => if asksForFolder path then throw .notFolder else return node
  | .folder => return node

def read (f : Folder) (path : Text) : Except ReadError Text := do
  match ← f.resolve path with
  | .file bytes => decodeText bytes
  | .folder => throw .isFolder

end Folder

end HourBank
