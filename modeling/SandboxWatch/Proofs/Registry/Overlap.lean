import SandboxWatch.Proofs.Registry.Registrations

/-!
# SandboxWatch.Proofs.Registry.Overlap

A registry that many share. An announcement takes a step for looking up who is registered, one for
each signal, and one for each removal of a registration that nobody listens to. In between anything
else may be done, and other announcements go on.

* `Announcement`, `SharedRegistry` — announcements on their way, and the senders that keep slots
  open.
* `Step`, `Steps`   — one move of anybody, and runs of them.
* `Steps.of_notify`, `Steps.of_journal` — an announcement whose steps are taken in one go does what
  `Registry.notify` does, so a shared registry can do all that one alone can.
-/

namespace SandboxWatch

open Registry (Entry Sent Wake)

structure Announcement where
  number : Nat
  ns : String
  /-- Those it is yet to signal; it holds a sender for each of them. -/
  slots : List WatchId
  /-- Those who were found not to listen, and are yet to be removed. -/
  closed : List WatchId := []
deriving DecidableEq, Repr

structure SharedRegistry where
  registry : Registry := .empty
  inFlight : List Announcement := []
  /-- How many announcements have begun. -/
  begun : Nat := 0
  /-- The senders there are, each under the id of the slot it is for. -/
  senders : List WatchId := []
deriving DecidableEq

namespace SharedRegistry

def empty : SharedRegistry := {}

/-- What a subscriber learns who waits for a change. A slot without a sender stays empty. -/
def wake? (s : SharedRegistry) (id : WatchId) : Option Wake :=
  match s.registry.tryChanged? id with
  | some (_, found) =>
    some (if found then .changed else if id ∈ s.senders then .pending else .closed)
  | none => none

/-- A registration that is removed takes its sender with it. -/
def sendersWithout (s : SharedRegistry) (ns : String) (id : WatchId) : List WatchId :=
  if id ∈ s.registry.registered ns then s.senders.erase id else s.senders

def sendersAfter (s : SharedRegistry) : Entry → List WatchId
  | .watched _ id => id :: s.senders
  | .removed ns id => s.sendersWithout ns id
  | .cleaned id =>
    match s.registry.subscriptions[id]? with
    | some sub => s.sendersWithout sub.ns id
    | none => s.senders
  | _ => s.senders

inductive Move where
  /-- Something is done that is no announcement. -/
  | act (e : Entry)
  | began (n : Nat) (ns : String)
  | sent (n : Nat) (id : WatchId) (outcome : Sent)
  | pruned (n : Nat) (ns : String) (id : WatchId)
  | ended (n : Nat)
deriving DecidableEq, Repr

inductive Step (s : SharedRegistry) : Move → SharedRegistry → Prop where
  | act {e : Entry} {r : Registry} :
      Registry.Step s.registry e r → (∀ ns outcomes, e ≠ .notified ns outcomes) →
      Step s (.act e) { s with registry := r, senders := s.sendersAfter e }
  | begin {ns : String} {slots : List WatchId} :
      slots.Perm (s.registry.snapshot ns) →
      Step s (.began s.begun ns)
        { s with
          inFlight := ⟨s.begun, ns, slots, []⟩ :: s.inFlight
          begun := s.begun + 1
          senders := slots ++ s.senders }
  | send {before after : List Announcement} {n : Nat} {ns : String} {id : WatchId}
      {slots closed : List WatchId} :
      s.inFlight = before ++ ⟨n, ns, id :: slots, closed⟩ :: after →
      Step s (.sent n id (s.registry.send id).2)
        { s with
          registry := (s.registry.send id).1
          inFlight := before ++ ⟨n, ns, slots,
            if (s.registry.send id).2 = .closed then closed ++ [id] else closed⟩ :: after
          senders := s.senders.erase id }
  | prune {before after : List Announcement} {n : Nat} {ns : String} {id : WatchId}
      {closed : List WatchId} :
      s.inFlight = before ++ ⟨n, ns, [], id :: closed⟩ :: after →
      Step s (.pruned n ns id)
        { s with
          registry := s.registry.remove ns id
          inFlight := before ++ ⟨n, ns, [], closed⟩ :: after
          senders := s.sendersWithout ns id }
  | finish {before after : List Announcement} {n : Nat} {ns : String} :
      s.inFlight = before ++ ⟨n, ns, [], []⟩ :: after →
      Step s (.ended n) { s with inFlight := before ++ after }

/-- Any number of moves, the last of them first. -/
inductive Steps (s : SharedRegistry) : List Move → SharedRegistry → Prop where
  | refl : Steps s [] s
  | snoc {h : List Move} {m : Move} {s' s'' : SharedRegistry} :
      Steps s h s' → Step s' m s'' → Steps s (m :: h) s''

variable {s s' s'' : SharedRegistry} {m : Move} {h h' : List Move}

namespace Steps

theorem trans (hs : Steps s h s') (hs' : Steps s' h' s'') : Steps s (h' ++ h) s'' := by
  induction hs' with
  | refl => exact hs
  | snoc _ hm ih => exact .snoc ih hm

theorem cons (hm : Step s m s') (hs : Steps s' h s'') : Steps s (h ++ [m]) s'' :=
  trans (.snoc .refl hm) hs

/-! ## An announcement in one go -/

variable {r : Registry} {rest : List Announcement} {n k : Nat} {ns : String}
  {slots closed senders : List WatchId}

theorem of_slots :
    ∃ h senders', Steps ⟨r, ⟨n, ns, slots, closed⟩ :: rest, k, senders⟩ h
      ⟨(r.sendAll slots).1, ⟨n, ns, [], closed ++ (r.sendAll slots).2⟩ :: rest, k, senders'⟩ := by
  induction slots generalizing r closed senders with
  | nil =>
    refine ⟨[], senders, ?_⟩
    rw [Registry.sendAll, List.append_nil]
    exact .refl
  | cons id slots ih =>
    have hclosed : closed ++ (r.sendAll (id :: slots)).2 =
        (if (r.send id).2 = .closed then closed ++ [id] else closed) ++
          ((r.send id).1.sendAll slots).2 := by
      rw [Registry.sendAll]
      dsimp only
      split
      · rw [List.append_assoc]; rfl
      · rfl
    obtain ⟨h, senders', hrest⟩ := ih
    rw [hclosed]
    exact ⟨_, senders', .cons (.send (List.nil_append _).symm) hrest⟩

theorem of_closed :
    ∃ h senders', Steps ⟨r, ⟨n, ns, [], closed⟩ :: rest, k, senders⟩ h
      ⟨r.removeAll ns closed, rest, k, senders'⟩ := by
  induction closed generalizing r senders with
  | nil =>
    have hfinish := Step.finish (s := ⟨r, ⟨n, ns, [], []⟩ :: rest, k, senders⟩)
      (List.nil_append _).symm
    exact ⟨_, senders, .snoc .refl hfinish⟩
  | cons id closed ih =>
    obtain ⟨h, senders', hrest⟩ := ih
    exact ⟨_, senders', .cons (.prune (List.nil_append _).symm) hrest⟩

/-- An announcement that nothing comes between is one of the registry. -/
theorem of_notify (s : SharedRegistry) (ns : String) :
    ∃ h senders', Steps s h
      ⟨s.registry.notify ns, s.inFlight, s.begun + 1, senders'⟩ := by
  have hbegin := Step.begin (s := s) (List.Perm.refl (s.registry.snapshot ns))
  obtain ⟨h, senders, hslots⟩ := of_slots
  obtain ⟨h', senders', hclosed⟩ := of_closed
  exact ⟨_, senders', (Steps.cons hbegin hslots).trans hclosed⟩

/-- Whatever can be done to a registry one entry after the other can be done to one that is shared. -/
theorem of_journal {entries : List Entry} (hj : Registry.Journal entries r) :
    ∃ h s, Steps empty h s ∧ s.registry = r ∧ s.inFlight = [] := by
  induction hj with
  | empty => exact ⟨[], empty, .refl, rfl, rfl⟩
  | @enter _ e _ r' _ hentry ih =>
    obtain ⟨h, s, hsteps, rfl, hnone⟩ := ih
    cases e with
    | notified ns outcomes =>
      cases hentry with
      | notify _ =>
        obtain ⟨h', senders', hnotify⟩ := of_notify s ns
        exact ⟨_, _, hsteps.trans hnotify, rfl, hnone⟩
    | _ => exact ⟨_, _, .snoc hsteps (.act hentry (by simp)), rfl, hnone⟩

end Steps
end SharedRegistry
end SandboxWatch
