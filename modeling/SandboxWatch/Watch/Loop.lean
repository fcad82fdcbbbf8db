import SandboxWatch.Watch.Reply

/-!
# SandboxWatch.Watch.Loop

How the objects of one kind are followed: they are listed page by page, then watched from the
version of the listing on. What goes wrong is counted as an error and tried again after a while.

* `Phase`        — where the loop stands between two requests.
* `Phase.onPage` — what a page of a listing leads to.
* `Line.effect`  — what a line of a watch leads to.
-/

namespace SandboxWatch

inductive Phase (α : Type) where
  /-- The next request asks for a page; a token asks for the page after those read so far. -/
  | listing (token : Option String) (read : List α)
  /-- The next request asks for the changes after this version. -/
  | watching (version : String)

namespace Phase

def start {α : Type} : Phase α := .listing none []

end Phase

/-- A text that is there and not empty. -/
def present? : Option String → Option String
  | some s => if s = "" then none else some s
  | none => none

inductive PageEffect (α : Type) where
  | more (next : Phase α)
  | complete (objects : List α) (version : String)
  /-- The listing has no version to go on from. -/
  | unversioned

/-- A page that comes after the objects read so far. -/
def Page.effect {α : Type} (p : Page α) (read : List α) : PageEffect α :=
  match present? p.token with
  | some token => .more (.listing (some token) (read ++ p.objects))
  | none =>
    match present? p.version with
    | some version => .complete (read ++ p.objects) version
    | none => .unversioned

inductive LineEffect (α : Type) where
  | event (e : WatchEvent α) (version : String)
  /-- Only the version changes. -/
  | moved (version : String)
  /-- An error; reading goes on. -/
  | error
  /-- An error after which everything is listed anew. -/
  | relist

/-- An object without a version cannot be gone on from. -/
def versioned {α : Type} [Resource α] (o : α) (e : WatchEvent α) : LineEffect α :=
  match present? (Resource.metadata o).version with
  | some version => .event e version
  | none => .relist

/-- The status code of a server that no longer has the version asked for. -/
def goneCode : Nat := 410

def Line.effect {α : Type} [Resource α] : Line α → LineEffect α
  | .added o => versioned o (.applied o)
  | .modified o => versioned o (.applied o)
  | .deleted o => versioned o (.deleted o)
  | .bookmark version => .moved version
  | .failure code => if code = goneCode then .relist else .error
  | .unreadable => .error

end SandboxWatch
