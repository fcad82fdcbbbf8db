import SandboxWatch.Registry.Basic

/-!
# SandboxWatch.Proofs.Registry.Subscriptions

What every operation of the registry does, read off two views: the subscription behind an id, and
who is registered under a namespace.

* `subscriptions_notify`, `mem_registered_notify` — an announcement fills the slots of all who are
  registered and listen, and removes those of them who do not.
* `Listening`, `HasSignal` — a subscriber takes signals, and one waits for it.
* `hasSignal_iff`          — a signal that waits is one that can be taken.
-/

namespace SandboxWatch

/-- A subscription after a signal; one without a listener stays as it is. -/
def Subscription.signalled (s : Subscription) : Subscription :=
  if s.listening then { s with pending := true } else s

@[simp] theorem Subscription.listening_signalled (s : Subscription) :
    s.signalled.listening = s.listening := by
  unfold signalled
  split <;> rfl

theorem Subscription.signalled_of_pending {s : Subscription} (h : s.pending = true) :
    s.signalled = s := by
  unfold signalled
  split
  · cases s; cases h; rfl
  · rfl

namespace Registry

variable {r : Registry} {ns ns' : String} {id id' : WatchId}

/-! ## Single subscriptions -/

theorem getElem?_insert (subs : Std.ExtTreeMap WatchId Subscription) (s : Subscription) :
    (subs.insert id s)[id']? = if id' = id then some s else subs[id']? := by
  by_cases h : id' = id
  · subst h
    rw [Std.ExtTreeMap.getElem?_insert_self, if_pos rfl]
  · simp [Std.ExtTreeMap.getElem?_insert, Ne.symm h, h]

theorem subscriptions_update (f : Subscription → Subscription) :
    (r.update id f).subscriptions[id']? =
      if id' = id then r.subscriptions[id']?.map f else r.subscriptions[id']? := by
  unfold update
  cases h : r.subscriptions[id]? with
  | none =>
    dsimp only
    split
    · rename_i hid
      rw [hid, h]
      rfl
    · rfl
  | some s =>
    dsimp only
    rw [getElem?_insert]
    by_cases hid : id' = id
    · rw [if_pos hid, if_pos hid, hid, h]
      rfl
    · rw [if_neg hid, if_neg hid]

@[simp] theorem members_update (r : Registry) (id : WatchId) (f : Subscription → Subscription) :
    (r.update id f).members = r.members := by
  unfold update
  split <;> rfl

@[simp] theorem registered_update (r : Registry) (id : WatchId)
    (f : Subscription → Subscription) (ns : String) :
    (r.update id f).registered ns = r.registered ns := by
  rw [registered, members_update, registered]

@[simp] theorem issued_update (r : Registry) (id : WatchId) (f : Subscription → Subscription) :
    (r.update id f).issued = r.issued := by
  unfold update
  split <;> rfl

theorem subscriptions_watch :
    (r.watch ns).1.subscriptions[id]? =
      if id = r.issued + 1 then some { ns } else r.subscriptions[id]? :=
  getElem?_insert r.subscriptions { ns }

/-! ## Signals -/

theorem subscriptions_send :
    (r.send id).1.subscriptions[id']? =
      if id' = id then r.subscriptions[id']?.map .signalled else r.subscriptions[id']? := by
  by_cases hid : id' = id
  · subst hid
    rw [if_pos rfl, send]
    cases hs : r.subscriptions[id']? with
    | none => exact hs
    | some s =>
      dsimp only
      cases hl : s.listening with
      | false => simp [hs, Subscription.signalled, hl]
      | true =>
        cases hp : s.pending with
        | true => simp [hs, Subscription.signalled_of_pending hp]
        | false => simp [Subscription.signalled, hl]
  · rw [if_neg hid, send]
    cases r.subscriptions[id]? with
    | none => rfl
    | some s =>
      dsimp only
      split
      · rfl
      · split
        · rfl
        · rw [getElem?_insert, if_neg hid]

theorem of_subscriptions_send {s : Subscription}
    (hs : (r.send id).1.subscriptions[id']? = some s) :
    ∃ s₀, r.subscriptions[id']? = some s₀ ∧ (s = s₀ ∨ s = s₀.signalled) := by
  rw [subscriptions_send] at hs
  split at hs
  · obtain ⟨s₀, hs₀, rfl⟩ := Option.map_eq_some_iff.mp hs
    exact ⟨s₀, hs₀, .inr rfl⟩
  · exact ⟨s, hs, .inl rfl⟩

theorem subscriptions_send_eq_none :
    (r.send id).1.subscriptions[id']? = none ↔ r.subscriptions[id']? = none := by
  rw [subscriptions_send]
  split
  · exact Option.map_eq_none_iff
  · rfl

theorem registered_send : (r.send id).1.registered ns = r.registered ns := by
  rw [registered, members_send, registered]

@[simp] theorem issued_send (r : Registry) (id : WatchId) : (r.send id).1.issued = r.issued := by
  unfold send
  split
  · rfl
  · split
    · rfl
    · split <;> rfl

def Listening (r : Registry) (id : WatchId) : Prop :=
  ∃ s, r.subscriptions[id]? = some s ∧ s.listening = true

def HasSignal (r : Registry) (id : WatchId) : Prop :=
  ∃ s, r.subscriptions[id]? = some s ∧ s.listening = true ∧ s.pending = true

theorem listening_update {f : Subscription → Subscription}
    (hf : ∀ s, (f s).listening = s.listening) (h : r.Listening id') :
    (r.update id f).Listening id' := by
  obtain ⟨s, hs, hl⟩ := h
  unfold Listening
  rw [subscriptions_update, hs]
  split
  · exact ⟨f s, rfl, (hf s).trans hl⟩
  · exact ⟨s, rfl, hl⟩

theorem hasSignal_iff : r.HasSignal id ↔ ∃ r', r.tryChanged? id = some (r', true) := by
  unfold HasSignal tryChanged?
  cases r.subscriptions[id]? with
  | none => simp
  | some s => cases hl : s.listening <;> simp [hl]

theorem send_closed_iff : (r.send id).2 = .closed ↔ ¬r.Listening id := by
  unfold send Listening
  cases r.subscriptions[id]? with
  | none => simp
  | some s =>
    dsimp only
    cases hl : s.listening with
    | false => simp [hl]
    | true => cases hp : s.pending <;> simp [hl]

theorem listening_send : (r.send id).1.Listening id' ↔ r.Listening id' := by
  unfold Listening
  rw [subscriptions_send]
  split
  · cases r.subscriptions[id']? <;> simp
  · rfl

/-! ## Announcements -/

theorem map_signalled_twice (o : Option Subscription) :
    (o.map Subscription.signalled).map Subscription.signalled = o.map Subscription.signalled := by
  cases o with
  | none => rfl
  | some s =>
    cases hl : s.listening <;> simp [Subscription.signalled, hl]

theorem subscriptions_sendAll {ids : List WatchId} :
    (r.sendAll ids).1.subscriptions[id]? =
      if id ∈ ids then r.subscriptions[id]?.map .signalled else r.subscriptions[id]? := by
  induction ids generalizing r with
  | nil => rfl
  | cons first rest ih =>
    rw [sendAll]
    dsimp only
    rw [ih, subscriptions_send]
    by_cases hid : id = first
    · subst hid
      rw [if_pos rfl, if_pos List.mem_cons_self, map_signalled_twice, ite_self]
    · rw [if_neg hid]
      simp only [List.mem_cons, hid, false_or]

theorem mem_sendAll_closed {ids : List WatchId} :
    id ∈ (r.sendAll ids).2 ↔ id ∈ ids ∧ ¬r.Listening id := by
  induction ids generalizing r with
  | nil => simp [sendAll]
  | cons first rest ih =>
    rw [sendAll]
    dsimp only
    have hrest : id ∈ ((r.send first).1.sendAll rest).2 ↔ id ∈ rest ∧ ¬r.Listening id := by
      rw [ih, listening_send]
    split
    · rename_i hclosed
      rw [List.mem_cons, hrest, List.mem_cons]
      constructor
      · rintro (rfl | ⟨hid, hl⟩)
        · exact ⟨.inl rfl, send_closed_iff.mp hclosed⟩
        · exact ⟨.inr hid, hl⟩
      · rintro ⟨hid | hid, hl⟩
        · exact .inl hid
        · exact .inr ⟨hid, hl⟩
    · rename_i hopen
      rw [hrest, List.mem_cons]
      constructor
      · rintro ⟨hid, hl⟩
        exact ⟨.inr hid, hl⟩
      · rintro ⟨rfl | hid, hl⟩
        · exact absurd (send_closed_iff.mpr hl) hopen
        · exact ⟨hid, hl⟩

theorem members_sendAll {ids : List WatchId} : (r.sendAll ids).1.members = r.members := by
  induction ids generalizing r with
  | nil => rfl
  | cons first rest ih => exact ih.trans (members_send r first)

theorem issued_sendAll {ids : List WatchId} : (r.sendAll ids).1.issued = r.issued := by
  induction ids generalizing r with
  | nil => rfl
  | cons first rest ih => exact ih.trans (issued_send r first)

theorem mem_registered_removeAll {ids : List WatchId} :
    id ∈ (r.removeAll ns ids).registered ns' ↔
      id ∈ r.registered ns' ∧ ¬(ns' = ns ∧ id ∈ ids) := by
  induction ids generalizing r with
  | nil => simp [removeAll]
  | cons first rest ih =>
    rw [removeAll, List.foldl_cons, ← removeAll, ih, mem_registered_remove, and_assoc,
      ← not_or, ← and_or_left, List.mem_cons]

theorem removeAll_same (r : Registry) (ns : String) (ids : List WatchId) :
    (r.removeAll ns ids).subscriptions = r.subscriptions ∧
      (r.removeAll ns ids).issued = r.issued := by
  induction ids generalizing r with
  | nil => exact ⟨rfl, rfl⟩
  | cons first rest ih => exact ih (r.remove ns first)

/-- An announcement signals those who are registered, and nobody else. -/
theorem subscriptions_notify :
    (r.notify ns).subscriptions[id]? =
      if id ∈ r.registered ns then r.subscriptions[id]?.map .signalled
      else r.subscriptions[id]? := by
  rw [notify]
  dsimp only
  rw [(removeAll_same _ ns _).1, subscriptions_sendAll]
  simp [snapshot]

/-- An announcement removes those who are registered and do not listen, and nobody else. -/
theorem mem_registered_notify :
    id ∈ (r.notify ns).registered ns' ↔
      id ∈ r.registered ns' ∧ ¬(ns' = ns ∧ ¬r.Listening id) := by
  rw [notify]
  dsimp only
  rw [mem_registered_removeAll, registered, members_sendAll, ← registered, mem_sendAll_closed]
  constructor
  · rintro ⟨hreg, hkept⟩
    refine ⟨hreg, ?_⟩
    rintro ⟨rfl, hl⟩
    exact hkept ⟨rfl, by simpa [snapshot] using hreg, hl⟩
  · rintro ⟨hreg, hkept⟩
    exact ⟨hreg, fun ⟨hns, _, hl⟩ => hkept ⟨hns, hl⟩⟩

theorem issued_notify (r : Registry) (ns : String) : (r.notify ns).issued = r.issued := by
  rw [notify]
  dsimp only
  rw [(removeAll_same _ ns _).2, issued_sendAll]

theorem Listening.hasSignal_notify (h : r.Listening id) (hid : id ∈ r.registered ns) :
    (r.notify ns).HasSignal id := by
  obtain ⟨s, hs, hl⟩ := h
  refine ⟨{ s with pending := true }, ?_, hl, rfl⟩
  rw [subscriptions_notify, if_pos hid, hs, Option.map_some, Subscription.signalled, if_pos hl]

end Registry
end SandboxWatch
