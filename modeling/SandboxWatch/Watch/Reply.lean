import SandboxWatch.Cluster.Resource

/-!
# SandboxWatch.Watch.Reply

What an API server answers to a listing and to a watch, as it is read from front to back.

* `Page`            — one page of a listing; a token leads to the next one.
* `Line`            — one line of a watch: a type and the object that it is about.
* `Line.ofText?`    — reads a line; one that is cut off before anything is wrong is none.
* `Line.ofContent`  — the lines of a text.
-/

namespace SandboxWatch

open Json Json.Reader

structure Page (α : Type) where
  objects : List α
  version : Option String := none
  token : Option String := none

inductive Line (α : Type) where
  | added (object : α)
  | modified (object : α)
  | deleted (object : α)
  /-- Nothing has changed up to this version. -/
  | bookmark (version : String)
  /-- The server reports an error with its status code. -/
  | failure (code : Nat)
  | unreadable

variable {α : Type} [Resource α]

namespace Page

/-- Takes in the version and the token from the metadata of a listing. -/
def readMetadata (page : Page α) : Reader (Page α) := object page fun page name =>
  match name with
  | "resourceVersion" => return { page with version := ← nullable text }
  | "continue" => return { page with token := ← nullable text }
  | "remainingItemCount" => do
    let _ ← nullable int64
    return page
  | "selfLink" => do
    let _ ← nullable text
    return page
  | _ => do
    skip
    return page

/-- The items have to be there and may be null; the metadata may be missing. Neither stands twice,
and any other member is read whole. -/
def reader : Reader (Page α) := do
  let (page, seen) ← members ({ objects := [] }, []) fun (page, seen) name =>
    if name ∈ seen then fail .malformed
    else
      match name with
      | "metadata" => return (← member (readMetadata page), name :: seen)
      | "items" => do
        let items ← member (nullable (listOf Resource.reader))
        return ({ page with objects := items.getD [] }, name :: seen)
      | _ => do
        let _ ← member (value (maxDepth - 1))
        return (page, seen)
  if "items" ∈ seen then return page else fail .malformed

def ofText? (s : String) : Option (Page α) := (reader.ofText s).toOption

end Page

/-! ## Bookmarks and errors -/

/-- The version in the metadata of a bookmark, which may also be written as an array. -/
def bookmarkVersion : Reader String := do
  if (← peek) = '[' then
    tuple do
      let version ← item? true text
      let _ ← item? false (mapOf text)
      orMalformed version
  else
    let (version, _) ← record ["resourceVersion", "annotations"] none fun version name =>
      match name with
      | "resourceVersion" => some <$> text
      | _ => do
        let _ ← mapOf text
        return version
    orMalformed version

/-- Whether exactly one member has the name, and it is a text. -/
def namesOnce (ms : List (String × Json)) (name : String) : Bool :=
  match ms.filter (·.1 = name) with
  | [(_, .str _)] => true
  | _ => false

/-- A bookmark has a version and names the type of the objects that are watched. All members but
its metadata are read whole; it stands two levels deep in its line. -/
def bookmark : Reader String := do
  let (version, others) ← members (none, []) fun (version, others) name =>
    if name = "metadata" then
      match version with
      | none => return (some (← member bookmarkVersion), others)
      | some _ => fail .malformed
    else return (version, (name, ← member (value (maxDepth - 2))) :: others)
  if namesOnce others "apiVersion" && namesOnce others "kind" then orMalformed version
  else fail .malformed

/-- The code of an error: the last item of an array, or a member beside the status. -/
def failureCode : Reader Nat := do
  if (← peek) = '[' then
    tuple do
      let _ ← item? true text
      let _ ← item? false text
      let _ ← item? false text
      orMalformed (← item? false (below 65536))
  else
    let (code, seen) ← record ["status", "message", "reason", "code"] none fun code name =>
      match name with
      | "code" => some <$> below 65536
      | _ => do
        let _ ← text
        return code
    if "status" ∈ seen then orMalformed code else fail .malformed

/-! ## Lines -/

inductive LineType where
  | added | modified | deleted | bookmark | failure
deriving DecidableEq, Repr

namespace LineType

def ofText? : String → Option LineType
  | "ADDED" => some .added
  | "MODIFIED" => some .modified
  | "DELETED" => some .deleted
  | "BOOKMARK" => some .bookmark
  | "ERROR" => some .failure
  | _ => none

def name : Reader LineType := typed fun v => v.string?.bind ofText?

/-- A type is a name, or an object with the name for its only member and null for its value. -/
def reader : Reader LineType := do
  let c ← peek
  if c = '"' then name
  else if c = '\x7b' then
    advance
    let type ← name
    member (typed fun v => if v matches .null then some () else none)
    expect '\x7d'
    return type
  else fail .malformed

def object : LineType → Reader (Line α)
  | .added => .added <$> Resource.reader
  | .modified => .modified <$> Resource.reader
  | .deleted => .deleted <$> Resource.reader
  | .bookmark => .bookmark <$> SandboxWatch.bookmark
  | .failure => .failure <$> failureCode

end LineType

namespace Line

inductive Progress (α : Type) where
  | nothing
  | typed (type : LineType)
  /-- An object whose type is not known yet, by its text and what follows. -/
  | untyped (object : List Char)
  | whole (line : Line α)

/-- The next member. An object that comes before its type is read whole, and once more when the
type is known. -/
def Progress.next (p : Progress α) (name : String) : Reader (Progress α) :=
  match p, name with
  | .nothing, "type" => .typed <$> member LineType.reader
  | .nothing, "object" => member do
    let object ← get
    let _ ← value (maxDepth - 1)
    return .untyped object
  | .typed type, "object" => .whole <$> member type.object
  | .untyped object, "type" => do
    let type ← member LineType.reader
    match type.object object with
    | .ok (line, _) => return .whole line
    | .error _ => fail .malformed
  | _, "type" => fail .malformed
  | _, "object" => fail .malformed
  | p, _ => do
    member skip
    return p

/-- A line is an object with the two parts, or the array of both. -/
def reader : Reader (Line α) := do
  if (← peek) = '[' then
    tuple do
      let type ← orMalformed (← item? true LineType.name)
      orMalformed (← item? false type.object)
  else
    match ← members .nothing Progress.next with
    | .whole line => return line
    | _ => fail .malformed

def ofText? (s : String) : Option (Line α) :=
  match reader.ofText s with
  | .ok line => some line
  | .error .truncated => none
  | .error .malformed => some .unreadable

/-- Takes away the carriage return before a line feed. -/
def dropReturn (s : String) : String :=
  match s.toList.reverse with
  | '\r' :: rest => String.ofList rest.reverse
  | _ => s

/-- The lines of a text, each up to a line feed. -/
def ofContent (s : String) : List (Line α) :=
  (s.splitOn "\n").filterMap fun l => ofText? (dropReturn l)

end Line
end SandboxWatch
