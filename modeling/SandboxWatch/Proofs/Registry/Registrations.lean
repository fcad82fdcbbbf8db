import Mathlib.Data.Set.Card
import SandboxWatch.Proofs.Registry.Effects

/-!
# SandboxWatch.Proofs.Registry.Registrations

Who is registered, read off the journal alone.

* `handedOut`, `Standing`      — the ids in the order they were handed out, and the registrations
  that nothing has put an end to.
* `Recorded`                   — what the entries say of a subscription is how it is.
* `Journal.mem_registered_iff` — a registration is there as long as it stands.
* `Journal.accounted`          — numbers and counts agree with the entries, at any time.
-/

namespace SandboxWatch
namespace Registry

/-! ## Reading a journal -/

def Entry.handedOut? : Entry → Option WatchId
  | .watched _ id => some id
  | _ => none

/-- The ids that were handed out, the oldest first. -/
def handedOut (h : List Entry) : List WatchId := h.reverse.filterMap Entry.handedOut?

/-- A counter of 64 bits that goes up by one with every subscription, past its greatest value to
zero. -/
def wordCounter : List Entry → UInt64
  | [] => 0
  | e :: h =>
    match e.handedOut? with
    | some _ => wordCounter h + 1
    | none => wordCounter h

/-- The number of registrations is recorded with this entry in any case. -/
def Entry.Records : Entry → Prop
  | .watched _ _ => True
  | .removed _ _ => True
  | .cleaned _ => True
  | _ => False

/-- Among the entries since a subscription was made, one put an end to its registration: the cleanup
ran, it was removed, or an announcement came when nobody listened any more. -/
def Ended (ns : String) (id : WatchId) (since : List Entry) : Prop :=
  .cleaned id ∈ since ∨ .removed ns id ∈ since ∨
    ∃ after outcomes before, since = after ++ .notified ns outcomes :: before ∧
      .dropped id ∈ before

/-- The subscription was made, and since then nothing has put an end to its registration. -/
def Standing (ns : String) (id : WatchId) (h : List Entry) : Prop :=
  ∃ since before, h = since ++ .watched ns id :: before ∧ ¬Ended ns id since

variable {r r' : Registry} {e : Entry} {h : List Entry} {ns : String} {id : WatchId}

theorem ended_cons :
    Ended ns id (e :: h) ↔
      Ended ns id h ∨ e = .cleaned id ∨ e = .removed ns id ∨
        (∃ outcomes, e = .notified ns outcomes) ∧ .dropped id ∈ h := by
  unfold Ended
  constructor
  · rintro (hc | hr | ⟨after, outcomes, before, hsplit, hd⟩)
    · rcases List.mem_cons.mp hc with rfl | hc
      · exact .inr (.inl rfl)
      · exact .inl (.inl hc)
    · rcases List.mem_cons.mp hr with rfl | hr
      · exact .inr (.inr (.inl rfl))
      · exact .inl (.inr (.inl hr))
    · rcases List.cons_eq_append_iff.mp hsplit with ⟨_, heq⟩ | ⟨after', _, heq⟩
      · cases heq
        exact .inr (.inr (.inr ⟨⟨outcomes, rfl⟩, hd⟩))
      · exact .inl (.inr (.inr ⟨after', outcomes, before, heq, hd⟩))
  · rintro ((hc | hr | ⟨after, outcomes, before, rfl, hd⟩) | rfl | rfl | ⟨⟨outcomes, rfl⟩, hd⟩)
    · exact .inl (List.mem_cons_of_mem _ hc)
    · exact .inr (.inl (List.mem_cons_of_mem _ hr))
    · exact .inr (.inr ⟨e :: after, outcomes, before, rfl, hd⟩)
    · exact .inl List.mem_cons_self
    · exact .inr (.inl List.mem_cons_self)
    · exact .inr (.inr ⟨[], outcomes, h, rfl, hd⟩)

/-! ## Subscriptions -/

/-- What the entries say of a subscription is how it is. -/
structure Told (h : List Entry) (id : WatchId) (s : Subscription) : Prop where
  watched {ns : String} : .watched ns id ∈ h ↔ s.ns = ns
  dropped : .dropped id ∈ h ↔ s.listening = false
  cleaned : .cleaned id ∈ h ↔ s.stop = .cleaned

theorem Told.made (hfresh : ∀ e ∈ h, ¬e.Concerns id ∧ ∀ ns, e ≠ .watched ns id) :
    Told (.watched ns id :: h) id { ns } where
  watched {ns'} := by
    rw [List.mem_cons]
    constructor
    · rintro (heq | hmem)
      · cases heq; rfl
      · exact absurd rfl ((hfresh _ hmem).2 ns')
    · rintro rfl
      exact .inl rfl
  dropped := by
    have hno : .dropped id ∉ h := fun hmem => (hfresh _ hmem).1 rfl
    simp [hno]
  cleaned := by
    have hno : .cleaned id ∉ h := fun hmem => (hfresh _ hmem).1 rfl
    simp [hno]

theorem Told.turned {s s' : Subscription} (ht : Told h id s) (hne : ∀ ns, e ≠ .watched ns id)
    (hturn : Turn r e id s s') : Told (e :: h) id s' where
  watched {ns'} := by
    rw [List.mem_cons, or_iff_right (fun heq => hne ns' heq.symm), ht.watched, hturn.ns]
  dropped := by
    have hlistening := hturn.listening
    rw [List.mem_cons, ht.dropped, ← Bool.not_eq_true, ← Bool.not_eq_true, hlistening]
    by_cases heq : .dropped id = e <;> simp [heq, eq_comm (a := e)]
  cleaned := by
    rw [List.mem_cons, ht.cleaned, hturn.cleaned, eq_comm, or_comm]

theorem Told.listening {s : Subscription} (ht : Told h id s) (hd : .dropped id ∉ h) :
    s.listening = true := by
  rw [ht.dropped, Bool.not_eq_false] at hd
  exact hd

/-- The entries are about the subscriptions there are, and what they say of them is how they are. -/
structure Recorded (h : List Entry) (r : Registry) : Prop where
  told {id : WatchId} {s : Subscription} : r.subscriptions[id]? = some s → Told h id s
  untold {id : WatchId} : r.subscriptions[id]? = none →
    ∀ e ∈ h, ¬e.Concerns id ∧ ∀ ns, e ≠ .watched ns id

theorem recorded_empty : Recorded [] Registry.empty where
  told {id s} hs := by simp [Registry.empty] at hs
  untold _ e he := by cases he

theorem Recorded.step (hr : r.Orderly) (hrec : Recorded h r) (hs : Step r e r') :
    Recorded (e :: h) r' where
  told {id s} hsub := by
    cases hs.fate id with
    | made heq hid hsub' =>
      cases hsub.symm.trans hsub'
      subst heq
      refine .made (hrec.untold ?_)
      rw [hid, hr.fresh]
    | turned hne hsub₀ hsub' hturn =>
      cases hsub.symm.trans hsub'
      exact (hrec.told hsub₀).turned hne hturn
    | unknown _ _ _ hsub' => cases hsub.symm.trans hsub'
  untold {id} hnone := by
    cases hs.fate id with
    | made _ _ hsub => cases hnone.symm.trans hsub
    | turned _ _ hsub _ => cases hnone.symm.trans hsub
    | unknown hne hconcerns hsub _ =>
      intro e he
      rcases List.mem_cons.mp he with rfl | he
      · exact ⟨hconcerns, hne⟩
      · exact hrec.untold hsub e he

theorem Told.signalled {s : Subscription} (ht : Told h id s) : Told h id s.signalled where
  watched := by rw [s.ns_signalled]; exact ht.watched
  dropped := by rw [s.listening_signalled]; exact ht.dropped
  cleaned := by rw [s.stop_signalled]; exact ht.cleaned

theorem Recorded.send (hrec : Recorded h r) (id : WatchId) : Recorded h (r.send id).1 where
  told hs := by
    obtain ⟨s₀, hs₀, rfl | rfl⟩ := of_subscriptions_send hs
    · exact hrec.told hs₀
    · exact (hrec.told hs₀).signalled
  untold hnone := hrec.untold (subscriptions_send_eq_none.mp hnone)

theorem Journal.recorded (hj : Journal h r) : Recorded h r := by
  induction hj with
  | empty => exact recorded_empty
  | enter hj hs ih => exact ih.step hj.orderly hs

theorem Recorded.known_of_watched (hrec : Recorded h r) (hw : .watched ns id ∈ h) :
    ∃ s, r.subscriptions[id]? = some s ∧ s.ns = ns := by
  cases hs : r.subscriptions[id]? with
  | none => exact absurd rfl ((hrec.untold hs _ hw).2 ns)
  | some s => exact ⟨s, rfl, (hrec.told hs).watched.mp hw⟩

theorem Recorded.not_listening_iff (hrec : Recorded h r) (hw : .watched ns id ∈ h) :
    ¬r.Listening id ↔ .dropped id ∈ h := by
  obtain ⟨s, hs, _⟩ := hrec.known_of_watched hw
  rw [(hrec.told hs).dropped, Listening, hs]
  simp

/-! ## Registrations -/

theorem standing_cons (hdropped : ∀ since before, h = since ++ .watched ns id :: before →
      (.dropped id ∈ since ↔ .dropped id ∈ h)) :
    Standing ns id (e :: h) ↔ e = .watched ns id ∨
      Standing ns id h ∧ ¬(e = .cleaned id ∨ e = .removed ns id ∨
        (∃ outcomes, e = .notified ns outcomes) ∧ .dropped id ∈ h) := by
  constructor
  · rintro ⟨since, before, hsplit, hstands⟩
    rcases List.cons_eq_append_iff.mp hsplit with ⟨_, heq⟩ | ⟨since', rfl, rfl⟩
    · cases heq
      exact .inl rfl
    · rw [ended_cons, not_or, hdropped since' before rfl] at hstands
      exact .inr ⟨⟨since', before, rfl, hstands.1⟩, hstands.2⟩
  · rintro (rfl | ⟨⟨since, before, rfl, hstands⟩, hkept⟩)
    · refine ⟨[], h, rfl, ?_⟩
      simp [Ended]
    · refine ⟨e :: since, before, rfl, ?_⟩
      rw [ended_cons, not_or, hdropped since before rfl]
      exact ⟨hstands, hkept⟩

/-- Nobody stops listening to a subscription that is yet to be made. -/
theorem Journal.dropped_since (hj : Journal h r) {since before : List Entry}
    (hsplit : h = since ++ .watched ns id :: before) :
    .dropped id ∈ since ↔ .dropped id ∈ h := by
  induction hj generalizing since with
  | empty => simp at hsplit
  | @enter h₀ e₀ r₀ r₁ hj hs ih =>
    rcases List.cons_eq_append_iff.mp hsplit with ⟨rfl, heq⟩ | ⟨since', rfl, rfl⟩
    · cases heq
      cases hs.fate id with
      | made _ hid _ =>
        have hno : .dropped id ∉ before := fun hmem => by
          refine (hj.recorded.untold ?_ _ hmem).1 rfl
          rw [hid, hj.orderly.fresh]
        simp [hno]
      | turned hne _ _ _ => exact absurd rfl (hne ns)
      | unknown hne _ _ _ => exact absurd rfl (hne ns)
    · rw [List.mem_cons, List.mem_cons, ih rfl]

/-- A registration is there as long as nothing has put an end to it. -/
theorem Journal.mem_registered_iff (hj : Journal h r) :
    id ∈ r.registered ns ↔ Standing ns id h := by
  induction hj with
  | empty => simp [Registry.empty, registered, Groups.values, Standing]
  | @enter h₀ e₀ r₀ r₁ hj hs ih =>
    rw [hs.mem_registered hj.orderly, standing_cons fun _ _ => hj.dropped_since, ih]
    apply or_congr_right
    apply and_congr_right
    intro hstands
    obtain ⟨since, before, hsplit, _⟩ := hstands
    have hw : .watched ns id ∈ h₀ := by
      rw [hsplit]
      exact List.mem_append_right _ List.mem_cons_self
    rw [Entry.Ends, hj.recorded.not_listening_iff hw]

/-! ## Ids -/

theorem handedOut_cons : handedOut (e :: h) = handedOut h ++ e.handedOut?.toList := by
  cases e <;> simp [handedOut, Entry.handedOut?]

theorem Journal.handedOut_eq (hj : Journal h r) : handedOut h = List.range' 1 r.issued := by
  induction hj with
  | empty => rfl
  | @enter h₀ e₀ r₀ r₁ hj hs ih =>
    rw [handedOut_cons, ih]
    rcases hs.issued with ⟨ns, rfl, hissued⟩ | ⟨hne, hissued⟩
    · rw [hissued, List.range'_concat, Nat.one_mul, Nat.add_comm 1]
      rfl
    · have hnone : e₀.handedOut? = none := by
        cases e₀ with
        | watched ns id => exact absurd rfl (hne ns id)
        | _ => rfl
      rw [hissued, hnone]
      exact List.append_nil _

theorem wordCounter_eq (h : List Entry) : wordCounter h = UInt64.ofNat (handedOut h).length := by
  induction h with
  | nil => rfl
  | cons e h ih =>
    rw [handedOut_cons, List.length_append, wordCounter]
    cases e.handedOut? with
    | none => exact ih
    | some id =>
      dsimp only
      rw [ih, UInt64.ofNat_add]
      rfl

/-- As long as ids fit into 64 bits, the counter does not start again. -/
theorem Journal.eq_wordCounter (hj : Journal h r) (hfew : (handedOut h).length < UInt64.size)
    {since before : List Entry} (hsplit : h = since ++ .watched ns id :: before) :
    id = (wordCounter before + 1).toNat := by
  induction hj generalizing since with
  | empty => simp at hsplit
  | @enter h₀ e₀ r₀ r₁ hj hs ih =>
    rw [handedOut_cons, List.length_append] at hfew
    rcases List.cons_eq_append_iff.mp hsplit with ⟨rfl, heq⟩ | ⟨since', rfl, rfl⟩
    · cases heq
      rcases hs.issued with ⟨_, heq, _⟩ | ⟨hne, _⟩
      · cases heq
        have hlength : (handedOut before).length = r₀.issued := by
          rw [hj.handedOut_eq, List.length_range']
        have hfits : r₀.issued + 1 < UInt64.size := hlength ▸ hfew
        have hword : wordCounter before + 1 = UInt64.ofNat (r₀.issued + 1) := by
          rw [wordCounter_eq, hlength, UInt64.ofNat_add]
          rfl
        rw [hword]
        exact (UInt64.toNat_ofNat_of_lt' hfits).symm
      · exact absurd rfl (hne ns id)
    · exact ih (by omega) rfl

/-! ## Counts -/

theorem encard_of_mem_iff {α : Type} {l : List α} (hl : l.Nodup) {s : Set α}
    (hs : ∀ a, a ∈ s ↔ a ∈ l) : s.encard = l.length := by
  classical
  have hcoe : s = ↑l.toFinset := by
    ext a
    rw [hs, List.coe_toFinset]
    rfl
  rw [hcoe, Set.encard_coe_eq_coe_finsetCard, List.toFinset_card_of_nodup hl]

theorem nodup_toList (ids : Std.ExtTreeSet WatchId) : ids.toList.Nodup := by
  refine Std.ExtTreeSet.distinct_toList.imp fun {a b} hab heq => hab ?_
  rw [heq, Std.compare_self]

theorem encard_registered (r : Registry) (ns : String) :
    {id | id ∈ r.registered ns}.encard = r.subscriberCount ns := by
  have hids : ∀ id, id ∈ {id | id ∈ r.registered ns} ↔ id ∈ (r.registered ns).toList :=
    fun id => Std.ExtTreeSet.mem_toList.symm
  rw [encard_of_mem_iff (nodup_toList (r.registered ns)) hids, Std.ExtTreeSet.length_toList]
  rfl

theorem registered_eq_of_getElem? {ids : Std.ExtTreeSet WatchId}
    (hids : r.members[ns]? = some ids) : r.registered ns = ids :=
  Groups.values_of_getElem? hids

theorem Orderly.mem_members_iff (hr : r.Orderly) :
    ns ∈ r.members ↔ ∃ id, id ∈ r.registered ns :=
  hr.noneEmpty.mem_iff

theorem Orderly.encard_namespaces (hr : r.Orderly) :
    {ns | ∃ id, id ∈ r.registered ns}.encard = r.namespaceCount := by
  have hkeys : ∀ ns, ns ∈ {ns | ∃ id, id ∈ r.registered ns} ↔ ns ∈ r.members.keys := by
    intro ns
    rw [Std.ExtTreeMap.mem_keys, hr.mem_members_iff]
    rfl
  rw [encard_of_mem_iff Std.ExtTreeMap.nodup_keys hkeys, Std.ExtTreeMap.length_keys]
  rfl

/-- All registrations, one namespace after the other. -/
def registrations (r : Registry) : List (String × WatchId) :=
  r.members.toList.flatMap fun e => e.2.toList.map (e.1, ·)

theorem mem_registrations : (ns, id) ∈ r.registrations ↔ id ∈ r.registered ns := by
  simp only [registrations, List.mem_flatMap, Prod.exists, List.mem_map, Prod.mk.injEq,
    Std.ExtTreeMap.mem_toList_iff_getElem?_eq_some, Std.ExtTreeSet.mem_toList]
  constructor
  · rintro ⟨_, ids, hids, _, hid, rfl, rfl⟩
    rw [registered_eq_of_getElem? hids]
    exact hid
  · intro hid
    cases hids : r.members[ns]? with
    | none => simp [registered, Groups.values, hids] at hid
    | some ids => exact ⟨ns, ids, hids, id, registered_eq_of_getElem? hids ▸ hid, rfl, rfl⟩

theorem nodup_registrations (r : Registry) : r.registrations.Nodup := by
  apply List.nodup_flatMap.mpr
  constructor
  · intro e _
    exact (nodup_toList e.2).map fun a b hab => (Prod.mk.inj hab).2
  · apply Std.ExtTreeMap.distinct_keys_toList.imp
    rintro a b hab ⟨ns, id⟩ ha hb
    obtain ⟨_, _, ha⟩ := List.mem_map.mp ha
    obtain ⟨_, _, hb⟩ := List.mem_map.mp hb
    refine hab ?_
    rw [(Prod.mk.inj ha).1, (Prod.mk.inj hb).1, Std.compare_self]

theorem registrations_congr {r' : Registry} (hmembers : r'.members = r.members) :
    r'.registrations = r.registrations := by
  rw [registrations, hmembers, registrations]

theorem perm_registrations_watch (hr : r.Orderly) (ns : String) :
    (r.watch ns).1.registrations.Perm ((ns, r.issued + 1) :: r.registrations) := by
  have hnew : (ns, r.issued + 1) ∉ r.registrations := fun hmem => by
    obtain ⟨s, hs, _⟩ := hr.owner (mem_registrations.mp hmem)
    rw [hr.fresh] at hs
    cases hs
  refine (List.perm_ext_iff_of_nodup (nodup_registrations _)
    (List.nodup_cons.mpr ⟨hnew, nodup_registrations r⟩)).mpr ?_
  rintro ⟨ns', id'⟩
  rw [mem_registrations, mem_registered_watch, List.mem_cons, mem_registrations, Prod.mk.injEq]

theorem perm_registrations_remove (hreg : id ∈ r.registered ns) :
    r.registrations.Perm ((ns, id) :: (r.remove ns id).registrations) := by
  have hgone : (ns, id) ∉ (r.remove ns id).registrations := by
    rw [mem_registrations, mem_registered_remove]
    exact fun h => h.2 ⟨rfl, rfl⟩
  refine (List.perm_ext_iff_of_nodup (nodup_registrations r)
    (List.nodup_cons.mpr ⟨hgone, nodup_registrations _⟩)).mpr ?_
  rintro ⟨ns', id'⟩
  rw [mem_registrations, List.mem_cons, mem_registrations, mem_registered_remove, Prod.mk.injEq]
  by_cases heq : ns' = ns ∧ id' = id
  · obtain ⟨rfl, rfl⟩ := heq
    simp [hreg]
  · simp [heq]

theorem perm_registrations_remove_of_not_mem (hreg : id ∉ r.registered ns) :
    r.registrations.Perm (r.remove ns id).registrations := by
  refine (List.perm_ext_iff_of_nodup (nodup_registrations r) (nodup_registrations _)).mpr ?_
  rintro ⟨ns', id'⟩
  rw [mem_registrations, mem_registrations, mem_registered_remove, iff_self_and]
  rintro hmem ⟨rfl, rfl⟩
  exact hreg hmem

theorem foldl_sizes (l : List (String × Std.ExtTreeSet WatchId)) (n : Nat) :
    l.foldl (fun n e => n + e.2.size) n =
      n + (l.flatMap fun e => e.2.toList.map (e.1, ·)).length := by
  induction l generalizing n with
  | nil => rfl
  | cons e rest ih =>
    rw [List.foldl_cons, ih, List.flatMap_cons, List.length_append, List.length_map,
      Std.ExtTreeSet.length_toList, Nat.add_assoc]

theorem encard_registrations (r : Registry) :
    {p : String × WatchId | p.2 ∈ r.registered p.1}.encard = r.total := by
  have hpairs : ∀ p, p ∈ {p : String × WatchId | p.2 ∈ r.registered p.1} ↔ p ∈ r.registrations :=
    fun p => mem_registrations.symm
  rw [encard_of_mem_iff r.nodup_registrations hpairs, total, foldl_sizes, Nat.zero_add]
  rfl

/-! ## The gauge -/

theorem gauge_send (r : Registry) (id : WatchId) : (r.send id).1.gauge = r.gauge := by
  unfold send
  split
  · rfl
  · split
    · rfl
    · split <;> rfl

theorem gauge_sendAll (r : Registry) (ids : List WatchId) : (r.sendAll ids).1.gauge = r.gauge := by
  induction ids generalizing r with
  | nil => rfl
  | cons first rest ih => exact (ih (r.send first).1).trans (gauge_send r first)

theorem gauge_removeAll {ids : List WatchId} (hr : r.gauge = some r.total) :
    (r.removeAll ns ids).gauge = some (r.removeAll ns ids).total := by
  induction ids generalizing r with
  | nil => exact hr
  | cons first rest ih => exact ih rfl

theorem Step.gauge (hs : Step r e r') (h : e.Records ∨ r.gauge = some r.total) :
    r'.gauge = some r'.total := by
  cases hs.shape with
  | watch ns => rfl
  | notify ns outcomes =>
    have hr : r.gauge = some r.total := h.resolve_left fun hrec => hrec
    refine gauge_removeAll ?_
    rw [gauge_sendAll, total, members_sendAll]
    exact hr
  | remove ns id => rfl
  | own subs he hne =>
    refine h.resolve_left ?_
    cases e with
    | cleaned id => exact absurd rfl (hne id)
    | watched _ _ => exact absurd he id
    | removed _ _ => exact absurd he id
    | _ => exact id
  | cleanup subs _ => rfl

theorem Journal.gauge_eq (hj : Journal h r) (hrec : ∃ e ∈ h, e.Records) :
    r.gauge = some r.total := by
  induction hj with
  | empty =>
    obtain ⟨e, he, _⟩ := hrec
    cases he
  | enter _ hs ih =>
    obtain ⟨e, he, hrec⟩ := hrec
    refine hs.gauge ?_
    rcases List.mem_cons.mp he with rfl | he
    · exact .inl hrec
    · exact .inr (ih ⟨e, he, hrec⟩)

/-! ## Numbers and counts -/

/-- The registry is as its journal says: registrations are those that stand, ids are those of a
counter of 64 bits, and whatever is counted is counted right. -/
structure Accounted (h : List Entry) (r : Registry) : Prop where
  noneEmpty : ∀ ns : String, r.members[ns]? ≠ some (∅ : Std.ExtTreeSet WatchId)
  oneNamespace : ∀ ns ns' id, id ∈ r.registered ns → id ∈ r.registered ns' → ns = ns'
  increasing : (handedOut h).Pairwise (· < ·)
  words : ∀ since ns id before, h = since ++ .watched ns id :: before →
    id = (wordCounter before + 1).toNat
  registered : ∀ ns id, id ∈ r.registered ns ↔ Standing ns id h
  subscribers : ∀ ns, {id | Standing ns id h}.encard = r.subscriberCount ns
  namespaces : {ns | ∃ id, Standing ns id h}.encard = r.namespaceCount
  gauge : (∃ e ∈ h, e.Records) →
    ∃ n, r.gauge = some n ∧ {p : String × WatchId | Standing p.1 p.2 h}.encard = n

/-- Whatever has been done in whatever order, with fewer than 2⁶⁴ subscriptions made. -/
theorem Journal.accounted (hj : Journal h r) (hfew : (handedOut h).length < UInt64.size) :
    Accounted h r where
  noneEmpty := hj.orderly.noneEmpty
  oneNamespace ns ns' id hns hns' := by
    obtain ⟨s, hs, rfl, _⟩ := hj.orderly.owner hns
    exact hj.orderly.ns_of_registered hs hns'
  increasing := by
    rw [hj.handedOut_eq]
    exact List.pairwise_lt_range' 1
  words since ns id before hsplit := hj.eq_wordCounter hfew hsplit
  registered ns id := hj.mem_registered_iff
  subscribers ns := by
    simp only [← hj.mem_registered_iff]
    exact encard_registered r ns
  namespaces := by
    simp only [← hj.mem_registered_iff]
    exact hj.orderly.encard_namespaces
  gauge hrec := by
    refine ⟨r.total, hj.gauge_eq hrec, ?_⟩
    simp only [← hj.mem_registered_iff]
    exact encard_registrations r

/-- Of two subscribers to a namespace the first one listens no more. -/
def halfDeaf : Registry :=
  ((Registry.empty.watch "ns1").1.watch "ns1").1.update 1 fun s => { s with listening := false }

theorem journal_halfDeaf :
    Journal [.dropped 1, .watched "ns1" 2, .watched "ns1" 1] halfDeaf := by
  have hdrop : ((Registry.empty.watch "ns1").1.watch "ns1").1.dropNotifier? 1 = some halfDeaf := by
    decide +kernel
  exact .enter (.enter (.enter .empty (.watch "ns1")) (.watch "ns1")) (.drop hdrop)

/-- An announcement has found that the first one does not listen. -/
def prunedJournal : List Entry :=
  [.notified "ns1" [(1, .closed), (2, .delivered)], .dropped 1, .watched "ns1" 2, .watched "ns1" 1]

theorem journal_prunedJournal : Journal prunedJournal (halfDeaf.notify "ns1") := by
  have houtcomes : (halfDeaf.sendEach (halfDeaf.snapshot "ns1")).2 =
      [(1, .closed), (2, .delivered)] := by decide +kernel
  have hs : Step halfDeaf (.notified "ns1" [(1, .closed), (2, .delivered)])
      (halfDeaf.notify "ns1") := houtcomes ▸ .notify "ns1"
  exact .enter journal_halfDeaf hs

theorem accounted_prunedJournal :
    Journal prunedJournal (halfDeaf.notify "ns1") ∧
      (handedOut prunedJournal).length < UInt64.size ∧
      Accounted prunedJournal (halfDeaf.notify "ns1") := by
  have hfew : (handedOut prunedJournal).length < UInt64.size := by decide
  exact ⟨journal_prunedJournal, hfew, journal_prunedJournal.accounted hfew⟩

end Registry
end SandboxWatch
