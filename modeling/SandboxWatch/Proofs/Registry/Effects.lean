import SandboxWatch.Proofs.Registry.Journal

/-!
# SandboxWatch.Proofs.Registry.Effects

What one entry of the journal does to a registry.

* `Step.fate`           — what an entry makes of the subscription behind an id.
* `Step.mem_registered` — who is registered after an entry.
* `Orderly`             — what holds of a registry between any two entries.
-/

namespace SandboxWatch

@[simp] theorem Subscription.ns_signalled (s : Subscription) : s.signalled.ns = s.ns := by
  unfold signalled
  split <;> rfl

@[simp] theorem Subscription.stop_signalled (s : Subscription) : s.signalled.stop = s.stop := by
  unfold signalled
  split <;> rfl

theorem Subscription.pending_signalled (s : Subscription) :
    s.signalled.pending = true ↔ s.pending = true ∨ s.listening = true := by
  unfold signalled
  cases s.listening <;> simp

namespace Registry

variable {r r' : Registry} {e : Entry} {h : List Entry} {ns : String} {id : WatchId}

/-! ## Subscriptions -/

/-- The subscriber itself, or the cleanup after it, is at work. -/
def Entry.Concerns (id : WatchId) : Entry → Prop
  | .took id' _ => id' = id
  | .dropped id' => id' = id
  | .released id' => id' = id
  | .cleaned id' => id' = id
  | _ => False

/-- What a subscription turns into with an entry. -/
structure Turn (r : Registry) (e : Entry) (id : WatchId) (s s' : Subscription) : Prop where
  ns : s'.ns = s.ns
  listening : s'.listening = true ↔ s.listening = true ∧ e ≠ .dropped id
  pending : s'.pending = true ↔ (s.pending = true ∧ e ≠ .took id true) ∨
    (s.listening = true ∧ ∃ ns outcomes, e = .notified ns outcomes ∧ id ∈ r.registered ns)
  cleaned : s'.stop = .cleaned ↔ s.stop = .cleaned ∨ e = .cleaned id

inductive Fate (r : Registry) (e : Entry) (r' : Registry) (id : WatchId) : Prop where
  | made {ns : String} :
      e = .watched ns id → id = r.issued + 1 → r'.subscriptions[id]? = some { ns } →
      Fate r e r' id
  | turned {s s' : Subscription} :
      (∀ ns, e ≠ .watched ns id) → r.subscriptions[id]? = some s →
      r'.subscriptions[id]? = some s' → Turn r e id s s' → Fate r e r' id
  | unknown :
      (∀ ns, e ≠ .watched ns id) → ¬e.Concerns id → r.subscriptions[id]? = none →
      r'.subscriptions[id]? = none → Fate r e r' id

theorem Turn.same {s : Subscription} (he : ¬e.Concerns id)
    (hn : ∀ ns outcomes, e ≠ .notified ns outcomes) : Turn r e id s s := by
  have hdropped : e ≠ .dropped id := by rintro rfl; exact he rfl
  have htook : e ≠ .took id true := by rintro rfl; exact he rfl
  have hcleaned : e ≠ .cleaned id := by rintro rfl; exact he rfl
  have hnone : ¬∃ ns outcomes, e = .notified ns outcomes ∧ id ∈ r.registered ns :=
    fun ⟨ns, outcomes, heq, _⟩ => hn ns outcomes heq
  refine ⟨rfl, by simp [hdropped], ?_, by simp [hcleaned]⟩
  rw [and_iff_left htook, iff_self_or]
  exact fun h => absurd h.2 hnone

theorem Fate.of_same (he : ¬e.Concerns id) (hw : ∀ ns, e ≠ .watched ns id)
    (hn : ∀ ns outcomes, e ≠ .notified ns outcomes)
    (hsubs : r'.subscriptions[id]? = r.subscriptions[id]?) : Fate r e r' id := by
  cases hs : r.subscriptions[id]? with
  | none => exact .unknown hw he hs (hsubs.trans hs)
  | some s => exact .turned hw hs (hsubs.trans hs) (.same he hn)

theorem Fate.of_update {id' : WatchId} {f : Subscription → Subscription} {s : Subscription}
    (hs : r.subscriptions[id']? = some s) (hw : ∀ ns, e ≠ .watched ns id)
    (hn : ∀ ns outcomes, e ≠ .notified ns outcomes) (he : e.Concerns id ↔ id' = id)
    (hturn : id' = id → Turn r e id s (f s))
    (hsubs : r'.subscriptions[id]? = (r.update id' f).subscriptions[id]?) : Fate r e r' id := by
  by_cases hid : id' = id
  · subst hid
    refine .turned hw hs ?_ (hturn rfl)
    rw [hsubs, subscriptions_update, if_pos rfl, hs]
    rfl
  · refine .of_same (mt he.mp hid) hw hn ?_
    rw [hsubs, subscriptions_update, if_neg (Ne.symm hid)]

theorem Step.fate (hs : Step r e r') (id : WatchId) : Fate r e r' id := by
  cases hs with
  | watch ns =>
    by_cases hid : id = r.issued + 1
    · have hmade : .watched ns (r.watch ns).2 = Entry.watched ns id := by rw [hid]; rfl
      refine .made hmade hid ?_
      rw [subscriptions_watch, if_pos hid]
    · refine .of_same (fun h => h) (fun ns' heq => hid ?_) (fun _ _ heq => nomatch heq) ?_
      · cases heq; rfl
      · rw [subscriptions_watch, if_neg hid]
  | notify ns =>
    have hw : ∀ ns' o, Entry.notified ns o ≠ .watched ns' id := fun _ _ heq => nomatch heq
    cases hsub : r.subscriptions[id]? with
    | none =>
      refine .unknown (fun ns' => hw ns' _) (fun h => h) hsub ?_
      rw [subscriptions_notify, hsub]
      exact ite_self _
    | some s =>
      by_cases hreg : id ∈ r.registered ns
      · have hsub' : (r.notify ns).subscriptions[id]? = some s.signalled := by
          rw [subscriptions_notify, if_pos hreg, hsub]
          rfl
        refine .turned (fun ns' => hw ns' _) hsub hsub' ⟨s.ns_signalled, by simp, ?_, by simp⟩
        simp [s.pending_signalled, hreg]
      · have hsub' : (r.notify ns).subscriptions[id]? = some s := by
          rw [subscriptions_notify, if_neg hreg, hsub]
        refine .turned (fun ns' => hw ns' _) hsub hsub' ⟨rfl, by simp, ?_, by simp⟩
        simp [hreg]
  | remove ns id' =>
    exact .of_same (fun h => h) (fun _ heq => nomatch heq) (fun _ _ heq => nomatch heq) rfl
  | take htake =>
    obtain ⟨s, hs, hl, hp, rfl⟩ := tryChanged?_eq_some_iff.mp htake
    refine .of_update hs (fun _ heq => nomatch heq) (fun _ _ heq => nomatch heq) Iff.rfl ?_ rfl
    rintro rfl
    exact ⟨rfl, by simp, by simp [hp], by simp⟩
  | drop hdrop =>
    obtain ⟨s, hs, hl, rfl⟩ := dropNotifier?_eq_some_iff.mp hdrop
    refine .of_update hs (fun _ heq => nomatch heq) (fun _ _ heq => nomatch heq) Iff.rfl ?_ rfl
    rintro rfl
    exact ⟨rfl, by simp, by simp, by simp⟩
  | release hrelease =>
    obtain ⟨s, hs, hstop, rfl⟩ := release?_eq_some_iff.mp hrelease
    refine .of_update hs (fun _ heq => nomatch heq) (fun _ _ heq => nomatch heq) Iff.rfl ?_ rfl
    rintro rfl
    exact ⟨rfl, by simp, by simp, by simp [hstop]⟩
  | cleanup hs hstop =>
    rw [runCleanup_of_released hs hstop]
    refine .of_update hs (fun _ heq => nomatch heq) (fun _ _ heq => nomatch heq) Iff.rfl ?_ rfl
    rintro rfl
    exact ⟨rfl, by simp, by simp, by simp⟩

/-! ## Registrations -/

/-- What an entry does beside the subscription that it is about. -/
inductive Shape (r : Registry) : Entry → Registry → Prop where
  | watch (ns : String) : Shape r (.watched ns (r.issued + 1)) (r.watch ns).1
  | notify (ns : String) (outcomes : List (WatchId × Sent)) :
      Shape r (.notified ns outcomes) (r.notify ns)
  | remove (ns : String) (id : WatchId) : Shape r (.removed ns id) (r.remove ns id)
  | own {e : Entry} {id : WatchId} (subs : Std.ExtTreeMap WatchId Subscription) :
      e.Concerns id → (∀ id, e ≠ .cleaned id) → Shape r e { r with subscriptions := subs }
  | cleanup {id : WatchId} {s : Subscription} (subs : Std.ExtTreeMap WatchId Subscription) :
      r.subscriptions[id]? = some s →
      Shape r (.cleaned id) ({ r with subscriptions := subs }.remove s.ns id)

theorem update_eq (r : Registry) (id : WatchId) (f : Subscription → Subscription) :
    r.update id f = { r with subscriptions := (r.update id f).subscriptions } := by
  unfold update
  split <;> rfl

theorem Step.shape (hs : Step r e r') : Shape r e r' := by
  cases hs with
  | watch ns => exact .watch ns
  | notify ns => exact .notify ns _
  | remove ns id => exact .remove ns id
  | take htake =>
    obtain ⟨s, _, _, _, rfl⟩ := tryChanged?_eq_some_iff.mp htake
    rw [update_eq]
    exact .own _ rfl fun _ heq => nomatch heq
  | drop hdrop =>
    obtain ⟨s, _, _, rfl⟩ := dropNotifier?_eq_some_iff.mp hdrop
    rw [update_eq]
    exact .own _ rfl fun _ heq => nomatch heq
  | release hrelease =>
    obtain ⟨s, _, _, rfl⟩ := release?_eq_some_iff.mp hrelease
    rw [update_eq]
    exact .own _ rfl fun _ heq => nomatch heq
  | cleanup hs hstop =>
    rw [runCleanup_of_released hs hstop, update_eq]
    exact .cleanup _ hs

/-- Ids count the subscriptions; a registration is that of a subscription to the same namespace, and
is gone once the cleanup has run. -/
structure Orderly (r : Registry) : Prop where
  noneEmpty : r.members.NoneEmpty
  known {id : Nat} : (∃ s, r.subscriptions[id]? = some s) ↔ 0 < id ∧ id ≤ r.issued
  owner {ns : String} {id : WatchId} : id ∈ r.registered ns →
    ∃ s, r.subscriptions[id]? = some s ∧ s.ns = ns ∧ s.stop ≠ .cleaned

/-- The entry puts an end to a registration. -/
def Entry.Ends (r : Registry) (ns : String) (id : WatchId) (e : Entry) : Prop :=
  e = .cleaned id ∨ e = .removed ns id ∨ (∃ outcomes, e = .notified ns outcomes) ∧ ¬r.Listening id

theorem Orderly.ns_of_registered (hr : r.Orderly) {s : Subscription}
    (hs : r.subscriptions[id]? = some s) (hreg : id ∈ r.registered ns) : s.ns = ns := by
  obtain ⟨s', hs', hns, _⟩ := hr.owner hreg
  cases hs.symm.trans hs'
  exact hns

theorem subscriptions_notify_of_ne (hr : r.Orderly) {s : Subscription}
    (hs : r.subscriptions[id]? = some s) (hne : ns ≠ s.ns) :
    (r.notify ns).subscriptions[id]? = r.subscriptions[id]? := by
  rw [subscriptions_notify, if_neg]
  exact fun hreg => hne (hr.ns_of_registered hs hreg).symm

theorem Orderly.fresh (hr : r.Orderly) : r.subscriptions[r.issued + 1]? = none := by
  apply Option.eq_none_iff_forall_ne_some.mpr
  intro s hs
  have hle : r.issued + 1 ≤ r.issued := (hr.known.mp ⟨s, hs⟩).2
  exact Nat.not_succ_le_self _ hle

theorem Step.mem_registered (hr : r.Orderly) (hs : Step r e r') :
    id ∈ r'.registered ns ↔
      e = .watched ns id ∨ (id ∈ r.registered ns ∧ ¬e.Ends r ns id) := by
  unfold Entry.Ends
  cases hs.shape with
  | watch ns' =>
    rw [mem_registered_watch]
    simp [eq_comm (a := ns'), eq_comm (b := id)]
  | notify ns' outcomes =>
    rw [mem_registered_notify]
    simp [eq_comm (a := ns')]
  | remove ns' id' =>
    rw [mem_registered_remove]
    simp [eq_comm (a := ns'), eq_comm (a := id')]
  | own subs he hne =>
    have hw : e ≠ .watched ns id := by rintro rfl; exact he
    have hrm : e ≠ .removed ns id := by rintro rfl; exact he
    have hn : ¬∃ outcomes, e = .notified ns outcomes := by rintro ⟨_, rfl⟩; exact he
    simp [hw, hne id, hrm, hn, registered]
  | @cleanup id' s subs hsub =>
    rw [mem_registered_remove]
    constructor
    · rintro ⟨hreg, hkept⟩
      refine .inr ⟨hreg, ?_⟩
      rintro (heq | heq | ⟨⟨_, heq⟩, _⟩)
      · cases heq
        exact hkept ⟨(hr.ns_of_registered hsub hreg).symm, rfl⟩
      · cases heq
      · cases heq
    · rintro (heq | ⟨hreg, hkept⟩)
      · cases heq
      · refine ⟨hreg, ?_⟩
        rintro ⟨_, rfl⟩
        exact hkept (.inl rfl)

theorem Step.issued (hs : Step r e r') :
    (∃ ns, e = .watched ns (r.issued + 1) ∧ r'.issued = r.issued + 1) ∨
      (∀ ns id, e ≠ .watched ns id) ∧ r'.issued = r.issued := by
  cases hs.shape with
  | watch ns => exact .inl ⟨ns, rfl, rfl⟩
  | notify ns outcomes => exact .inr ⟨fun _ _ heq => (nomatch heq), issued_notify r ns⟩
  | remove ns id => exact .inr ⟨fun _ _ heq => (nomatch heq), rfl⟩
  | own subs he _ => exact .inr ⟨by rintro _ _ rfl; exact he, rfl⟩
  | cleanup subs _ => exact .inr ⟨fun _ _ heq => (nomatch heq), rfl⟩

theorem noneEmpty_removeAll {ids : List WatchId} (hr : r.members.NoneEmpty) :
    (r.removeAll ns ids).members.NoneEmpty := by
  induction ids generalizing r with
  | nil => exact hr
  | cons first rest ih => exact ih (Groups.noneEmpty_remove hr)

theorem Step.noneEmpty (hr : r.members.NoneEmpty) (hs : Step r e r') : r'.members.NoneEmpty := by
  cases hs.shape with
  | watch ns => exact Groups.noneEmpty_add hr
  | notify ns outcomes =>
    refine noneEmpty_removeAll ?_
    rw [members_sendAll]
    exact hr
  | remove ns id => exact Groups.noneEmpty_remove hr
  | own subs _ _ => exact hr
  | cleanup subs _ => exact Groups.noneEmpty_remove hr

theorem orderly_empty : Registry.empty.Orderly where
  noneEmpty := Groups.noneEmpty_empty
  known {id} := by
    simp only [Registry.empty, Std.ExtTreeMap.getElem?_empty, reduceCtorEq, exists_false, false_iff]
    omega
  owner {ns id} hreg := by
    simp [Registry.empty, registered, Groups.values] at hreg

theorem Orderly.step (hr : r.Orderly) (hs : Step r e r') : r'.Orderly where
  noneEmpty := hs.noneEmpty hr.noneEmpty
  known {id} := by
    have hknown : (∃ s, r.subscriptions[id]? = some s) ↔ 0 < id ∧ id ≤ r.issued := hr.known
    cases hs.fate id with
    | made heq hid hsub =>
      rcases hs.issued with ⟨ns, _, hissued⟩ | ⟨hne, _⟩
      · simp only [hsub, Option.some.injEq, exists_eq', true_iff]
        rw [hid, hissued]
        exact ⟨Nat.succ_pos _, Nat.le_refl _⟩
      · exact absurd heq (hne _ _)
    | turned hne hsub hsub' _ =>
      have hle : r.issued ≤ r'.issued := by rcases hs.issued with ⟨_, _, h⟩ | ⟨_, h⟩ <;> omega
      simp only [hsub, hsub', Option.some.injEq, exists_eq', true_iff] at hknown ⊢
      omega
    | unknown hne _ hsub hsub' =>
      simp only [hsub, hsub', reduceCtorEq, exists_false, false_iff] at hknown ⊢
      rcases hs.issued with ⟨ns, heq, hissued⟩ | ⟨_, hissued⟩
      · have hid : id ≠ r.issued + 1 := by rintro rfl; exact hne ns heq
        omega
      · omega
  owner {ns id} hreg := by
    cases hs.fate id with
    | made heq hid hsub =>
      refine ⟨_, hsub, ?_, by simp⟩
      rcases (hs.mem_registered hr).mp hreg with heq' | ⟨hold, _⟩
      · cases heq.symm.trans heq'
        rfl
      · obtain ⟨s, hs, _⟩ := hr.owner hold
        rw [hid, hr.fresh] at hs
        cases hs
    | turned hne hsub hsub' hturn =>
      rcases (hs.mem_registered hr).mp hreg with heq | ⟨hold, hkept⟩
      · exact absurd heq (hne ns)
      · obtain ⟨s, hs, hns, hstop⟩ := hr.owner hold
        cases hsub.symm.trans hs
        refine ⟨_, hsub', hturn.ns.trans hns, ?_⟩
        intro hcleaned
        rcases hturn.cleaned.mp hcleaned with h | h
        · exact hstop h
        · exact hkept (.inl h)
    | unknown hne _ hsub _ =>
      rcases (hs.mem_registered hr).mp hreg with heq | ⟨hold, _⟩
      · exact absurd heq (hne ns)
      · obtain ⟨s, hs, _⟩ := hr.owner hold
        cases hsub.symm.trans hs

theorem Orderly.send (hr : r.Orderly) (id : WatchId) : (r.send id).1.Orderly where
  noneEmpty := by
    rw [members_send]
    exact hr.noneEmpty
  known {id'} := by
    rw [issued_send, ← hr.known, ← Option.ne_none_iff_exists', ← Option.ne_none_iff_exists',
      ne_eq, subscriptions_send_eq_none]
  owner {ns id'} hreg := by
    rw [registered_send] at hreg
    obtain ⟨s, hs, hns, hstop⟩ := hr.owner hreg
    rw [subscriptions_send, hs]
    split
    · exact ⟨s.signalled, rfl, s.ns_signalled.trans hns, by rwa [s.stop_signalled]⟩
    · exact ⟨s, rfl, hns, hstop⟩

theorem Journal.orderly (hj : Journal h r) : r.Orderly := by
  induction hj with
  | empty => exact orderly_empty
  | enter _ hs ih => exact ih.step hs

end Registry
end SandboxWatch
