import SandboxWatch.Proofs.Registry.Registrations

/-!
# SandboxWatch.Proofs.Registry.Coalescing

Signals are neither lost nor made up. A slot holds a signal exactly when there was an announcement
since the last signal was taken, and what went into a slot has been taken or still waits.

* `Announced`             — there was an announcement that has not been noticed yet.
* `sends`, `takes`        — how often a signal was put into a slot, and taken from it.
* `Step.balance`          — one entry puts in, takes out, or leaves the slot as it is.
* `Journal.signalsAsTold` — the slot of a subscriber who listens, and the counters of all signals.
-/

namespace SandboxWatch
namespace Registry

/-- Since the subscriber last took a signal there was an announcement to its namespace, and it was
registered then. -/
def Announced (ns : String) (id : WatchId) (h : List Entry) : Prop :=
  ∃ since outcomes before, h = since ++ .notified ns outcomes :: before ∧
    Standing ns id before ∧ .took id true ∉ since

/-- What became of the signals of an entry. -/
def Entry.outcomes : Entry → List (WatchId × Sent)
  | .notified _ outcomes => outcomes
  | _ => []

/-- How many signals went into the slot of a subscription. -/
def sends (id : WatchId) (h : List Entry) : Nat :=
  (h.flatMap Entry.outcomes).count (id, .delivered)

/-- How many signals were taken from the slot of a subscription. -/
def takes (id : WatchId) (h : List Entry) : Nat := h.count (.took id true)

variable {r r' : Registry} {e : Entry} {h : List Entry} {ns : String} {id id' : WatchId}

/-! ## What becomes of a signal -/

theorem send_congr (hsubs : r'.subscriptions[id]? = r.subscriptions[id]?) :
    (r'.send id).2 = (r.send id).2 := by
  unfold send
  rw [hsubs]
  cases r.subscriptions[id]? with
  | none => rfl
  | some s => cases hl : s.listening <;> cases hp : s.pending <;> simp [hl, hp]

/-- The signals of an announcement do not get in each other's way. -/
theorem sendEach_outcomes {ids : List WatchId} (hids : ids.Nodup) :
    (r.sendEach ids).2 = ids.map fun id => (id, (r.send id).2) := by
  induction ids generalizing r with
  | nil => rfl
  | cons first rest ih =>
    obtain ⟨hfirst, hrest⟩ := List.nodup_cons.mp hids
    rw [sendEach]
    dsimp only
    rw [ih hrest, List.map_cons]
    congr 1
    apply List.map_congr_left
    intro id hid
    have hne : id ≠ first := by rintro rfl; exact hfirst hid
    have hsame : (r.send first).1.subscriptions[id]? = r.subscriptions[id]? := by
      rw [subscriptions_send, if_neg hne]
    rw [send_congr hsame]

theorem count_outcomes_notified :
    ((r.sendEach (r.snapshot ns)).2).count (id, .delivered) =
      if id ∈ r.registered ns ∧ (r.send id).2 = .delivered then 1 else 0 := by
  have hsnapshot : (r.snapshot ns).Nodup := nodup_toList _
  have houtcomes : ((r.snapshot ns).map fun id => (id, (r.send id).2)).Nodup :=
    hsnapshot.map fun a b hab => (Prod.mk.inj hab).1
  rw [sendEach_outcomes hsnapshot, houtcomes.count]
  refine if_congr ?_ rfl rfl
  simp [snapshot]

/-! ## The balance of a slot -/

/-- How many signals wait in a slot. -/
def waiting (r : Registry) (id : WatchId) : Nat :=
  match r.subscriptions[id]? with
  | some s => s.pending.toNat
  | none => 0

theorem waiting_eq {s : Subscription} (hs : r.subscriptions[id]? = some s) :
    r.waiting id = s.pending.toNat := by
  rw [waiting, hs]

theorem waiting_eq_zero (hs : r.subscriptions[id]? = none) : r.waiting id = 0 := by
  rw [waiting, hs]

theorem waiting_congr (hsubs : r'.subscriptions[id]? = r.subscriptions[id]?) :
    r'.waiting id = r.waiting id := by
  rw [waiting, waiting, hsubs]

theorem balance_notify (r : Registry) (ns : String) (id : WatchId) :
    (r.notify ns).waiting id =
      r.waiting id + ((r.sendEach (r.snapshot ns)).2).count (id, .delivered) := by
  rw [count_outcomes_notified]
  by_cases hreg : id ∈ r.registered ns
  · rw [waiting, subscriptions_notify, if_pos hreg, waiting, send]
    cases r.subscriptions[id]? with
    | none => simp
    | some s => cases hl : s.listening <;> cases hp : s.pending <;>
        simp [Subscription.signalled, hreg, hl, hp]
  · rw [waiting_congr (r := r) (by rw [subscriptions_notify, if_neg hreg]), if_neg (by simp [hreg])]
    rfl

theorem balance_take {found : Bool} (htake : r.tryChanged? id' = some (r', found)) :
    r'.waiting id + (if id' = id then found.toNat else 0) = r.waiting id := by
  obtain ⟨s, hs, _, rfl, rfl⟩ := tryChanged?_eq_some_iff.mp htake
  by_cases hid : id' = id
  · subst hid
    rw [if_pos rfl, waiting_eq hs, waiting, subscriptions_update, if_pos rfl, hs]
    exact Nat.zero_add _
  · rw [if_neg hid, waiting_congr (r := r) (by rw [subscriptions_update, if_neg (Ne.symm hid)])]
    rfl

theorem balance_quiet (hr : r.Orderly) (hs : Step r e r')
    (hn : ∀ ns outcomes, e ≠ .notified ns outcomes) (ht : e ≠ .took id true) :
    r'.waiting id = r.waiting id := by
  cases hs.fate id with
  | made _ hid hsub => rw [waiting_eq hsub, waiting_eq_zero (hid ▸ hr.fresh)]; rfl
  | @turned s s' _ hsub hsub' hturn =>
    have hpending : s'.pending = true ↔ s.pending = true := by
      rw [hturn.pending, and_iff_left ht, or_iff_left]
      exact fun ⟨_, ns, outcomes, heq, _⟩ => hn ns outcomes heq
    rw [waiting_eq hsub, waiting_eq hsub', Bool.eq_iff_iff.mpr hpending]
  | unknown _ _ hsub hsub' => rw [waiting_eq_zero hsub, waiting_eq_zero hsub']

/-- What goes into a slot is in it until it is taken. -/
theorem Step.balance (hr : r.Orderly) (hs : Step r e r') (id : WatchId) :
    r.waiting id + e.outcomes.count (id, .delivered) =
      r'.waiting id + if e = .took id true then 1 else 0 := by
  cases e with
  | notified ns outcomes =>
    cases hs with
    | notify _ => rw [balance_notify]; rfl
  | took id' found =>
    cases hs with
    | take htake =>
      have hbalance : r'.waiting id + (if id' = id then found.toNat else 0) = r.waiting id :=
        balance_take htake
      rw [← hbalance]
      cases found <;> simp [Entry.outcomes]
  | _ =>
    rw [balance_quiet hr hs (fun _ _ heq => nomatch heq) (fun heq => nomatch heq)]
    rfl

theorem Journal.sends_eq (hj : Journal h r) (id : WatchId) :
    sends id h = takes id h + r.waiting id := by
  induction hj with
  | empty => rfl
  | @enter h₀ e₀ r₀ r₁ hj hs ih =>
    have hbalance := hs.balance hj.orderly id
    have hsends : sends id (e₀ :: h₀) = e₀.outcomes.count (id, .delivered) + sends id h₀ := by
      rw [sends, List.flatMap_cons, List.count_append, sends]
    have htakes : takes id (e₀ :: h₀) = takes id h₀ + if e₀ = .took id true then 1 else 0 := by
      rw [takes, List.count_cons, takes]
      simp
    omega

/-! ## What waits, and why -/

theorem announced_cons :
    Announced ns id (e :: h) ↔
      (∃ outcomes, e = .notified ns outcomes) ∧ Standing ns id h ∨
        e ≠ .took id true ∧ Announced ns id h := by
  constructor
  · rintro ⟨since, outcomes, before, hsplit, hstands, htook⟩
    rcases List.cons_eq_append_iff.mp hsplit with ⟨_, heq⟩ | ⟨since', rfl, heq⟩
    · cases heq
      exact .inl ⟨⟨outcomes, rfl⟩, hstands⟩
    · rw [List.mem_cons, not_or] at htook
      exact .inr ⟨fun h => htook.1 h.symm, since', outcomes, before, heq, hstands, htook.2⟩
  · rintro (⟨⟨outcomes, rfl⟩, hstands⟩ | ⟨hne, since, outcomes, before, rfl, hstands, htook⟩)
    · exact ⟨[], outcomes, h, rfl, hstands, List.not_mem_nil⟩
    · refine ⟨e :: since, outcomes, before, rfl, hstands, ?_⟩
      rw [List.mem_cons, not_or]
      exact ⟨fun h => hne h.symm, htook⟩

theorem Standing.watched (hstands : Standing ns id h) : .watched ns id ∈ h := by
  obtain ⟨since, before, rfl, _⟩ := hstands
  exact List.mem_append_right _ List.mem_cons_self

theorem Announced.watched (hannounced : Announced ns id h) : .watched ns id ∈ h := by
  obtain ⟨since, outcomes, before, rfl, hstands, _⟩ := hannounced
  exact List.mem_append_right _ (List.mem_cons_of_mem _ hstands.watched)

/-- A signal waits for one who listens if there was an announcement since it last took one. -/
theorem Journal.pending_iff (hj : Journal h r) {s : Subscription}
    (hs : r.subscriptions[id]? = some s) (hl : s.listening = true) :
    s.pending = true ↔ Announced s.ns id h := by
  induction hj generalizing s with
  | empty => simp [Registry.empty] at hs
  | @enter h₀ e₀ r₀ r₁ hj hstep ih =>
    rw [announced_cons]
    cases hstep.fate id with
    | @made ns heq hid hsub =>
      cases hs.symm.trans hsub
      subst heq
      have hnew : .watched ns id ∉ h₀ := fun hmem => by
        obtain ⟨s, hs, _⟩ := hj.recorded.known_of_watched hmem
        rw [hid, hj.orderly.fresh] at hs
        cases hs
      have hnone : ¬Announced ns id h₀ := fun hannounced => hnew hannounced.watched
      simp [hnone]
    | @turned s₀ _ _ hsub hsub' hturn =>
      cases hs.symm.trans hsub'
      have hl₀ : s₀.listening = true := (hturn.listening.mp hl).1
      rw [hturn.pending, hturn.ns, ih hsub hl₀, or_comm, and_comm (b := e₀ ≠ _), hl₀]
      refine or_congr_left ?_
      -- an announcement reaches the subscription only where it is registered
      constructor
      · rintro ⟨_, ns, outcomes, rfl, hreg⟩
        rw [hj.orderly.ns_of_registered hsub hreg]
        exact ⟨⟨outcomes, rfl⟩, hj.mem_registered_iff.mp hreg⟩
      · rintro ⟨⟨outcomes, rfl⟩, hstands⟩
        exact ⟨rfl, _, outcomes, rfl, hj.mem_registered_iff.mpr hstands⟩
    | unknown _ _ _ hsub' => cases hs.symm.trans hsub'

/-! ## Counters -/

def hears (r : Registry) (id : WatchId) : Bool :=
  match r.subscriptions[id]? with
  | some s => s.listening
  | none => false

theorem hears_iff : r.hears id = true ↔ r.Listening id := by
  unfold hears Listening
  cases r.subscriptions[id]? <;> simp

theorem hears_send : (r.send id').1.hears id = r.hears id :=
  Bool.eq_iff_iff.mpr (hears_iff.trans (listening_send.trans hears_iff.symm))

/-- All signals that were put into a slot or found one there. -/
def signals (r : Registry) : Nat := r.delivered + r.coalesced

theorem signals_send (r : Registry) (id : WatchId) :
    (r.send id).1.signals = r.signals + (r.hears id).toNat := by
  unfold send hears signals
  cases r.subscriptions[id]? with
  | none => rfl
  | some s => cases hl : s.listening <;> cases hp : s.pending <;> simp [hl, hp] <;> omega

theorem signals_sendAll (r : Registry) (ids : List WatchId) :
    (r.sendAll ids).1.signals = r.signals + ids.countP r.hears := by
  induction ids generalizing r with
  | nil => rfl
  | cons first rest ih =>
    have hhears : (r.send first).1.hears = r.hears := funext fun id => hears_send
    rw [sendAll]
    dsimp only
    rw [ih, signals_send, hhears, List.countP_cons]
    cases r.hears first <;> simp only [Bool.toNat_true, Bool.toNat_false, Bool.false_eq_true,
      if_true, if_false] <;> omega

theorem removeAll_counters (r : Registry) (ns : String) (ids : List WatchId) :
    (r.removeAll ns ids).delivered = r.delivered ∧
      (r.removeAll ns ids).coalesced = r.coalesced := by
  induction ids generalizing r with
  | nil => exact ⟨rfl, rfl⟩
  | cons first rest ih => exact ih (r.remove ns first)

theorem signals_notify (r : Registry) (ns : String) :
    (r.notify ns).signals = r.signals + (r.snapshot ns).countP r.hears := by
  rw [notify, signals]
  dsimp only
  obtain ⟨hdelivered, hcoalesced⟩ :=
    removeAll_counters (r.sendAll (r.snapshot ns)).1 ns (r.sendAll (r.snapshot ns)).2
  rw [hdelivered, hcoalesced]
  exact signals_sendAll r (r.snapshot ns)

theorem encard_listeners (r : Registry) (ns : String) :
    {id | id ∈ r.registered ns ∧ r.Listening id}.encard = (r.snapshot ns).countP r.hears := by
  have hids : ∀ id, id ∈ {id | id ∈ r.registered ns ∧ r.Listening id} ↔
      id ∈ (r.snapshot ns).filter r.hears := by
    intro id
    rw [List.mem_filter, hears_iff, snapshot, Std.ExtTreeSet.mem_toList]
    rfl
  have hnodup : (r.snapshot ns).Nodup := nodup_toList _
  rw [encard_of_mem_iff (hnodup.filter _) hids, ← List.countP_eq_length_filter]

/-- Only announcements are counted. -/
theorem Step.counters_quiet (hs : Step r e r') (hn : ∀ ns outcomes, e ≠ .notified ns outcomes) :
    r'.delivered = r.delivered ∧ r'.coalesced = r.coalesced := by
  cases hs.shape with
  | watch ns => exact ⟨rfl, rfl⟩
  | notify ns outcomes => exact absurd rfl (hn ns outcomes)
  | remove ns id => exact ⟨rfl, rfl⟩
  | own subs _ _ => exact ⟨rfl, rfl⟩
  | cleanup subs _ => exact ⟨rfl, rfl⟩

/-! ## Neither lost nor made up -/

/-- The slot of a subscription to a namespace, while its subscriber listens: one who asks for a
signal finds one exactly when there was an announcement, and finds no second one. -/
structure SlotAsTold (h : List Entry) (r : Registry) (ns : String) (id : WatchId) : Prop where
  answer : ∃ r' found, r.tryChanged? id = some (r', found) ∧
    (found = true ↔ Announced ns id h) ∧ sends id h = takes id h + found.toNat ∧
    ∃ r'', r'.tryChanged? id = some (r'', false)
  atMostOne : sends id h ≤ takes id h + 1
  elsewhere : ∀ ns' outcomes r', ns' ≠ ns → Step r (.notified ns' outcomes) r' →
    r'.subscriptions[id]? = r.subscriptions[id]?

/-- The counters go up with an announcement, by one for each registration whose subscriber
listens. -/
structure CountedAsTold (h : List Entry) (r : Registry) (e : Entry) (r' : Registry) : Prop where
  announced : ∀ ns outcomes, e = .notified ns outcomes →
    ∃ n : Nat, {id | Standing ns id h ∧ .dropped id ∉ h}.encard = n ∧
      r'.delivered + r'.coalesced = r.delivered + r.coalesced + n
  quiet : (∀ ns outcomes, e ≠ .notified ns outcomes) →
    r'.delivered = r.delivered ∧ r'.coalesced = r.coalesced

theorem Journal.slotAsTold (hj : Journal h r) (hw : .watched ns id ∈ h) (hd : .dropped id ∉ h) :
    SlotAsTold h r ns id := by
  obtain ⟨s, hs, rfl⟩ := hj.recorded.known_of_watched hw
  have hl : s.listening = true := (hj.recorded.told hs).listening hd
  have hsends := hj.sends_eq id
  rw [waiting_eq hs] at hsends
  let taken := r.update id fun s => { s with pending := false }
  have htake : r.tryChanged? id = some (taken, s.pending) :=
    tryChanged?_eq_some_iff.mpr ⟨s, hs, hl, rfl, rfl⟩
  have hslot : taken.subscriptions[id]? = some { s with pending := false } := by
    rw [subscriptions_update, if_pos rfl, hs]
    rfl
  have hagain : taken.tryChanged? id =
      some (taken.update id fun s => { s with pending := false }, false) :=
    tryChanged?_eq_some_iff.mpr ⟨_, hslot, hl, rfl, rfl⟩
  refine ⟨⟨taken, s.pending, htake, hj.pending_iff hs hl, hsends, _, hagain⟩, ?_, ?_⟩
  · have hone : s.pending.toNat ≤ 1 := Bool.toNat_le s.pending
    omega
  · intro ns' outcomes r' hne hstep
    cases hstep with
    | notify _ => exact subscriptions_notify_of_ne hj.orderly hs hne

theorem Journal.countedAsTold (hj : Journal h r) (hs : Step r e r') : CountedAsTold h r e r' where
  announced ns outcomes heq := by
    subst heq
    have hids : {id | Standing ns id h ∧ .dropped id ∉ h} =
        {id | id ∈ r.registered ns ∧ r.Listening id} := by
      ext id
      rw [Set.mem_ofPred_eq, Set.mem_ofPred_eq, ← hj.mem_registered_iff]
      apply and_congr_right
      intro hreg
      have hw : .watched ns id ∈ h := (hj.mem_registered_iff.mp hreg).watched
      rw [← hj.recorded.not_listening_iff hw, not_not]
    refine ⟨_, hids ▸ encard_listeners r ns, ?_⟩
    cases hs with
    | notify _ => exact signals_notify r ns
  quiet hn := hs.counters_quiet hn

/-- Whatever has been done in whatever order, no signal is lost and none is made up. -/
theorem Journal.signalsAsTold (hj : Journal h r) :
    (∀ ns id, .watched ns id ∈ h → .dropped id ∉ h → SlotAsTold h r ns id) ∧
      ∀ e r', Step r e r' → CountedAsTold h r e r' :=
  ⟨fun _ _ hw hd => hj.slotAsTold hw hd, fun _ _ hs => hj.countedAsTold hs⟩

/-- Two announcements in a row, and a subscriber who has not looked yet. -/
def burst : List Entry :=
  [.notified "ns1" [(1, .coalesced)], .notified "ns1" [(1, .delivered)], .watched "ns1" 1]

def afterBurst : Registry := ((Registry.empty.watch "ns1").1.notify "ns1").notify "ns1"

theorem journal_burst : Journal burst afterBurst := by
  let watched := (Registry.empty.watch "ns1").1
  have hfirst : (watched.sendEach (watched.snapshot "ns1")).2 = [(1, .delivered)] := by
    decide +kernel
  have hsecond : ((watched.notify "ns1").sendEach ((watched.notify "ns1").snapshot "ns1")).2 =
      [(1, .coalesced)] := by decide +kernel
  have hs₁ : Step watched (.notified "ns1" [(1, .delivered)]) (watched.notify "ns1") :=
    hfirst ▸ .notify "ns1"
  have hs₂ : Step (watched.notify "ns1") (.notified "ns1" [(1, .coalesced)]) afterBurst :=
    hsecond ▸ .notify "ns1"
  exact .enter (.enter (.enter .empty (.watch "ns1")) hs₁) hs₂

theorem signalsAsTold_burst :
    Journal burst afterBurst ∧ .watched "ns1" 1 ∈ burst ∧ .dropped 1 ∉ burst ∧
      SlotAsTold burst afterBurst "ns1" 1 ∧
      ∀ e r', Step afterBurst e r' → CountedAsTold burst afterBurst e r' := by
  have hw : .watched "ns1" 1 ∈ burst := by decide
  have hd : .dropped 1 ∉ burst := by decide
  obtain ⟨hslots, hcounts⟩ := journal_burst.signalsAsTold
  exact ⟨journal_burst, hw, hd, hslots "ns1" 1 hw hd, hcounts⟩

end Registry
end SandboxWatch
