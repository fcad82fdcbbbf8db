import SandboxWatch.Groups

/-!
# SandboxWatch.Registry.Basic

Subscriptions to changes of namespaces. A subscription has a slot for one signal, so that any number
of changes in a row leaves one wake-up.

* `Registry.watch`       — a new subscription.
* `Registry.snapshot`, `send`, `remove` — the steps of an announcement: who is registered, one
  signal for each of them, and the removal of those who no longer listen. `notify` takes them all.
* `Registry.tryChanged?` — takes a signal without waiting.
* `Registry.release?`, `runCleanup` — a subscription is given up, and its registration removed.
-/

namespace SandboxWatch

/-- Subscriptions are numbered from one. -/
abbrev WatchId := Nat

/-- How far the end of a subscription has come. -/
inductive StopState where
  /-- The subscriber holds the means to stop. -/
  | held
  /-- The subscriber has stopped; the registration is yet to be removed. -/
  | released
  | cleaned
deriving DecidableEq, Repr

structure Subscription where
  ns : String
  /-- A signal waits in the slot. -/
  pending : Bool := false
  /-- The subscriber still listens. -/
  listening : Bool := true
  stop : StopState := .held
deriving DecidableEq, Repr

structure Registry where
  /-- The registered subscriptions of each namespace that has any. -/
  members : Groups WatchId := ∅
  /-- All subscriptions ever made. -/
  subscriptions : Std.ExtTreeMap WatchId Subscription := ∅
  /-- How many subscriptions have been made. -/
  issued : Nat := 0
  /-- Signals that found an empty slot. -/
  delivered : Nat := 0
  /-- Signals that found one waiting. -/
  coalesced : Nat := 0
  /-- The number of registrations when it was last recorded. -/
  gauge : Option Nat := none
deriving DecidableEq

namespace Registry

def empty : Registry := {}

/-! ## Registrations -/

def registered (r : Registry) (ns : String) : Std.ExtTreeSet WatchId := r.members.values ns

def isRegistered (r : Registry) (ns : String) (id : WatchId) : Bool :=
  (r.registered ns).contains id

def subscriberCount (r : Registry) (ns : String) : Nat := (r.registered ns).size

/-- The number of namespaces with a registration. -/
def namespaceCount (r : Registry) : Nat := r.members.size

/-- The number of registrations in all namespaces. -/
def total (r : Registry) : Nat := r.members.toList.foldl (fun n e => n + e.2.size) 0

def recordTotal (r : Registry) : Registry := { r with gauge := some r.total }

def watch (r : Registry) (ns : String) : Registry × WatchId :=
  let id := r.issued + 1
  let added : Registry :=
    { r with
      issued := id
      members := r.members.add ns id
      subscriptions := r.subscriptions.insert id { ns } }
  (added.recordTotal, id)

def remove (r : Registry) (ns : String) (id : WatchId) : Registry :=
  { r with members := r.members.remove ns id }.recordTotal

theorem mem_registered_watch {r : Registry} {ns ns' : String} {id' : WatchId} :
    id' ∈ (r.watch ns).1.registered ns' ↔
      (ns' = ns ∧ id' = r.issued + 1) ∨ id' ∈ r.registered ns' :=
  Groups.mem_values_add

theorem mem_registered_remove {r : Registry} {ns ns' : String} {id id' : WatchId} :
    id' ∈ (r.remove ns id).registered ns' ↔
      id' ∈ r.registered ns' ∧ ¬(ns' = ns ∧ id' = id) :=
  Groups.mem_values_remove

/-! ## Signals -/

def update (r : Registry) (id : WatchId) (f : Subscription → Subscription) : Registry :=
  match r.subscriptions[id]? with
  | some s => { r with subscriptions := r.subscriptions.insert id (f s) }
  | none => r

def snapshot (r : Registry) (ns : String) : List WatchId := (r.registered ns).toList

inductive Sent where
  | delivered
  /-- One was waiting already. -/
  | coalesced
  /-- Nobody listens. -/
  | closed
deriving DecidableEq, Repr

/-- Puts a signal into a slot, if its subscriber listens. -/
def send (r : Registry) (id : WatchId) : Registry × Sent :=
  match r.subscriptions[id]? with
  | none => (r, .closed)
  | some s =>
    if !s.listening then (r, .closed)
    else if s.pending then ({ r with coalesced := r.coalesced + 1 }, .coalesced)
    else
      ({ r with
          subscriptions := r.subscriptions.insert id { s with pending := true }
          delivered := r.delivered + 1 },
        .delivered)

/-- A signal registers and removes nothing. -/
theorem members_send (r : Registry) (id : WatchId) : (r.send id).1.members = r.members := by
  unfold send
  cases r.subscriptions[id]? with
  | none => rfl
  | some s =>
    dsimp only
    by_cases hl : s.listening <;> by_cases hp : s.pending <;> simp [hl, hp]

/-- One signal for each of the subscriptions; answers those where nobody listens. -/
def sendAll (r : Registry) : List WatchId → Registry × List WatchId
  | [] => (r, [])
  | id :: rest =>
    let (r, sent) := r.send id
    let (r, closed) := r.sendAll rest
    (r, if sent = .closed then id :: closed else closed)

def removeAll (r : Registry) (ns : String) (ids : List WatchId) : Registry :=
  ids.foldl (fun r id => r.remove ns id) r

def notify (r : Registry) (ns : String) : Registry :=
  let (sent, closed) := r.sendAll (r.snapshot ns)
  sent.removeAll ns closed

def notifyAll (r : Registry) (namespaces : List String) : Registry := namespaces.foldl notify r

/-- Takes the signal of a subscription whose subscriber listens, and says whether there was one. -/
def tryChanged? (r : Registry) (id : WatchId) : Option (Registry × Bool) :=
  match r.subscriptions[id]? with
  | some s =>
    if s.listening then some (r.update id fun s => { s with pending := false }, s.pending)
    else none
  | none => none

/-- What a subscriber learns who waits for a change. -/
inductive Wake where
  /-- There is no signal, and there may be one later. -/
  | pending
  | changed
  /-- There is no signal, and there will be none. -/
  | closed
deriving DecidableEq, Repr

/-- Takes the signal of a subscription, or says whether it is worth waiting for one. -/
def changed? (r : Registry) (id : WatchId) : Option (Registry × Wake) :=
  match r.subscriptions[id]?, r.tryChanged? id with
  | some s, some (r', found) =>
    some (r', if found then .changed else if r.isRegistered s.ns id then .pending else .closed)
  | _, _ => none

/-! ## Giving up -/

def dropNotifier? (r : Registry) (id : WatchId) : Option Registry :=
  match r.subscriptions[id]? with
  | some s =>
    if s.listening then some (r.update id fun s => { s with listening := false }) else none
  | none => none

/-- The subscriber stops; the registration stays until the cleanup runs. -/
def release? (r : Registry) (id : WatchId) : Option Registry :=
  match r.subscriptions[id]? with
  | some s =>
    if s.stop = .held then some (r.update id fun s => { s with stop := .released }) else none
  | none => none

/-- Removes the registration of a subscription that was released. -/
def runCleanup (r : Registry) (id : WatchId) : Registry :=
  match r.subscriptions[id]? with
  | some s =>
    if s.stop = .released then
      (r.update id fun s => { s with stop := .cleaned }).remove s.ns id
    else r
  | none => r

def runCleanups (r : Registry) : Registry := (r.subscriptions.toList.map (·.1)).foldl runCleanup r

end Registry
end SandboxWatch
