import SandboxWatch.Proofs.Registry.Overlap

/-!
# SandboxWatch.Proofs.Registry.Stopping

Who stops is left alone, however many announcements are on their way. What an announcement still
holds when a registration goes can neither bring it back nor take another one away.

* `FoundDeaf`      — a signal has found that nobody listens.
* `Sound`          — what every move keeps: each sender belongs to a registration or to an
  announcement, and an announcement removes only those whom it found not to listen.
* `Gone`           — a registration that is gone, for all announcements that begin later.
* `Steps.stopWins` — how registrations go, and how a subscriber comes to know.
-/

namespace SandboxWatch

namespace SharedRegistry

open Registry (Entry Sent Wake)

/-! ## What every move keeps -/

def Move.act? : Move → Option Entry
  | .act e => some e
  | _ => none

/-- All that was done that is no announcement. -/
def acts (h : List Move) : List Entry := h.filterMap Move.act?

/-- A signal of the announcement came when the subscriber listened no more. -/
def FoundDeaf (n : Nat) (id : WatchId) (h : List Move) : Prop :=
  ∃ since before, h = since ++ .sent n id .closed :: before ∧ .act (.dropped id) ∈ before

/-- An announcement on its way signals those who are subscribed to its namespace, and removes those
whom it found not to listen. -/
structure Grounded (h : List Move) (begun : Nat) (a : Announcement) : Prop where
  number : a.number < begun
  slots : ∀ id ∈ a.slots, .act (.watched a.ns id) ∈ h
  closed : ∀ id ∈ a.closed, FoundDeaf a.number id h

structure Sound (h : List Move) (s : SharedRegistry) : Prop where
  orderly : s.registry.Orderly
  recorded : Registry.Recorded (acts h) s.registry
  senders : s.senders.Perm
    (s.registry.registrations.map Prod.snd ++ s.inFlight.flatMap Announcement.slots)
  grounded : ∀ a ∈ s.inFlight, Grounded h s.begun a

variable {s s' : SharedRegistry} {m : Move} {h h' : List Move} {ns : String} {id : WatchId}
  {e : Entry} {n k : Nat} {held : List WatchId} {before after : List Announcement}
  {a₀ : Announcement}

theorem mem_acts : e ∈ acts h ↔ .act e ∈ h := by
  rw [acts, List.mem_filterMap]
  constructor
  · rintro ⟨m, hm, hact⟩
    cases m with
    | act e' => cases hact; exact hm
    | _ => cases hact
  · intro hm
    exact ⟨_, hm, rfl⟩

theorem FoundDeaf.cons (hf : FoundDeaf n id h) (m : Move) : FoundDeaf n id (m :: h) := by
  obtain ⟨since, before, rfl, hd⟩ := hf
  exact ⟨m :: since, before, rfl, hd⟩

theorem Grounded.cons {a : Announcement} (ha : Grounded h k a) (m : Move) {k' : Nat} (hk : k ≤ k') :
    Grounded (m :: h) k' a where
  number := Nat.lt_of_lt_of_le ha.number hk
  slots id hid := List.mem_cons_of_mem _ (ha.slots id hid)
  closed id hid := (ha.closed id hid).cons m

/-! ## Senders -/

theorem perm_sendersWithout (hs : s.senders.Perm (s.registry.registrations.map Prod.snd ++ held)) :
    (s.sendersWithout ns id).Perm
      ((s.registry.remove ns id).registrations.map Prod.snd ++ held) := by
  unfold sendersWithout
  split
  · rename_i hreg
    have hperm : s.senders.Perm
        (id :: ((s.registry.remove ns id).registrations.map Prod.snd ++ held)) :=
      hs.trans (((Registry.perm_registrations_remove hreg).map _).append_right held)
    have herase := hperm.erase id
    rwa [List.erase_cons_head] at herase
  · rename_i hreg
    exact hs.trans (((Registry.perm_registrations_remove_of_not_mem hreg).map _).append_right held)

theorem perm_sendersAfter {r : Registry} (hr : s.registry.Orderly)
    (hs : s.senders.Perm (s.registry.registrations.map Prod.snd ++ held))
    (hstep : Registry.Step s.registry e r) (hn : ∀ ns outcomes, e ≠ .notified ns outcomes) :
    (s.sendersAfter e).Perm (r.registrations.map Prod.snd ++ held) := by
  cases hstep.shape with
  | watch ns =>
    refine (hs.cons (s.registry.issued + 1)).trans ?_
    exact (((Registry.perm_registrations_watch hr ns).map Prod.snd).append_right held).symm
  | notify ns outcomes => exact absurd rfl (hn ns outcomes)
  | remove ns id => exact perm_sendersWithout hs
  | own subs he hne =>
    have hsame : s.sendersAfter e = s.senders := by
      cases e with
      | watched _ _ => exact absurd he (fun h => h)
      | removed _ _ => exact absurd he (fun h => h)
      | cleaned id => exact absurd rfl (hne id)
      | _ => rfl
    rw [hsame]
    exact hs
  | @cleanup id sub subs hsub =>
    have hafter : s.sendersAfter (.cleaned id) = s.sendersWithout sub.ns id := by
      rw [sendersAfter, hsub]
    rw [hafter]
    exact perm_sendersWithout hs

theorem Sound.mem_senders_iff (hs : Sound h s) :
    id ∈ s.senders ↔
      (∃ ns, id ∈ s.registry.registered ns) ∨ ∃ a ∈ s.inFlight, id ∈ a.slots := by
  rw [hs.senders.mem_iff, List.mem_append, List.mem_flatMap, List.mem_map]
  refine or_congr_left ?_
  constructor
  · rintro ⟨⟨ns, id⟩, hmem, rfl⟩
    exact ⟨ns, Registry.mem_registrations.mp hmem⟩
  · rintro ⟨ns, hreg⟩
    exact ⟨(ns, id), Registry.mem_registrations.mpr hreg, rfl⟩

/-! ## One move -/

theorem sound_empty : Sound [] empty where
  orderly := Registry.orderly_empty
  recorded := Registry.recorded_empty
  senders := by
    have hnone : Registry.empty.registrations = [] := by decide +kernel
    change List.Perm [] (Registry.empty.registrations.map Prod.snd ++ [])
    rw [hnone]
    exact .nil
  grounded a ha := by cases ha

theorem Sound.watched_of_registered (hs : Sound h s) (hreg : id ∈ s.registry.registered ns) :
    .act (.watched ns id) ∈ h := by
  obtain ⟨sub, hsub, hns, _⟩ := hs.orderly.owner hreg
  have hw : .watched ns id ∈ acts h := (hs.recorded.told hsub).watched.mpr hns
  exact mem_acts.mp hw

theorem Sound.act (hs : Sound h s) {r : Registry} (hstep : Registry.Step s.registry e r)
    (hn : ∀ ns outcomes, e ≠ .notified ns outcomes) :
    Sound (.act e :: h) { s with registry := r, senders := s.sendersAfter e } where
  orderly := hs.orderly.step hstep
  recorded := hs.recorded.step hs.orderly hstep
  senders := perm_sendersAfter hs.orderly hs.senders hstep hn
  grounded a ha := (hs.grounded a ha).cons _ (Nat.le_refl _)

theorem Sound.begin (hs : Sound h s) {slots : List WatchId}
    (hslots : slots.Perm (s.registry.snapshot ns)) :
    Sound (.began s.begun ns :: h)
      { s with
        inFlight := ⟨s.begun, ns, slots, []⟩ :: s.inFlight
        begun := s.begun + 1
        senders := slots ++ s.senders } where
  orderly := hs.orderly
  recorded := hs.recorded
  senders := (hs.senders.append_left slots).trans (List.perm_append_comm_assoc _ _ _)
  grounded a ha := by
    rcases List.mem_cons.mp ha with rfl | ha
    · refine ⟨Nat.lt_succ_self _, ?_, by simp⟩
      intro id hid
      have hreg : id ∈ s.registry.registered ns :=
        Std.ExtTreeSet.mem_toList.mp (hslots.mem_iff.mp hid)
      exact List.mem_cons_of_mem _ (hs.watched_of_registered hreg)
    · exact (hs.grounded a ha).cons _ (Nat.le_succ _)

theorem forall_mem_middle {P : Announcement → Prop} :
    (∀ a ∈ before ++ a₀ :: after, P a) ↔ P a₀ ∧ ∀ a ∈ before ++ after, P a := by
  simp only [List.mem_append, List.mem_cons, or_imp, forall_and, forall_eq]
  exact and_left_comm

/-- One announcement has gone on, the others have not. -/
theorem Sound.grounded_middle (hs : Sound h s) (hfly : s.inFlight = before ++ a₀ :: after)
    (m : Move) :
    Grounded (m :: h) s.begun a₀ ∧ ∀ a ∈ before ++ after, Grounded (m :: h) s.begun a := by
  apply forall_mem_middle.mp
  intro a ha
  exact (hs.grounded a (hfly ▸ ha)).cons m (Nat.le_refl _)

/-- A signal is in vain only if its subscriber has stopped listening. -/
theorem Sound.dropped_of_closed (hs : Sound h s) {slots closed : List WatchId}
    (hfly : s.inFlight = before ++ ⟨n, ns, id :: slots, closed⟩ :: after)
    (hclosed : (s.registry.send id).2 = .closed) : .act (.dropped id) ∈ h := by
  have hself : Grounded h s.begun ⟨n, ns, id :: slots, closed⟩ :=
    (forall_mem_middle.mp (hfly ▸ hs.grounded)).1
  have hw : .watched ns id ∈ acts h := mem_acts.mpr (hself.slots id List.mem_cons_self)
  have hdeaf : ¬s.registry.Listening id := Registry.send_closed_iff.mp hclosed
  rwa [hs.recorded.not_listening_iff hw, mem_acts] at hdeaf

theorem Sound.send (hs : Sound h s) {slots closed : List WatchId}
    (hfly : s.inFlight = before ++ ⟨n, ns, id :: slots, closed⟩ :: after) :
    Sound (.sent n id (s.registry.send id).2 :: h)
      { s with
        registry := (s.registry.send id).1
        inFlight := before ++ ⟨n, ns, slots,
          if (s.registry.send id).2 = .closed then closed ++ [id] else closed⟩ :: after
        senders := s.senders.erase id } where
  orderly := hs.orderly.send id
  recorded := hs.recorded.send id
  senders := by
    have hsenders := hs.senders
    simp only [hfly, List.flatMap_append, List.flatMap_cons, List.cons_append] at hsenders
    rw [← List.append_assoc] at hsenders
    have herase := (hsenders.trans List.perm_middle).erase id
    rw [List.erase_cons_head, List.append_assoc] at herase
    rw [Registry.registrations_congr (Registry.members_send s.registry id)]
    simp only [List.flatMap_append, List.flatMap_cons]
    exact herase
  grounded := by
    obtain ⟨hself, hothers⟩ := hs.grounded_middle hfly (.sent n id (s.registry.send id).2)
    refine forall_mem_middle.mpr ⟨⟨hself.number, ?_, ?_⟩, hothers⟩
    · intro id' hid'
      exact hself.slots id' (List.mem_cons_of_mem _ hid')
    · intro id' hid'
      dsimp only at hid'
      split at hid'
      · rename_i hclosed
        rcases List.mem_append.mp hid' with hid' | hid'
        · exact hself.closed id' hid'
        · obtain rfl := List.mem_singleton.mp hid'
          rw [hclosed]
          exact ⟨[], h, rfl, hs.dropped_of_closed hfly hclosed⟩
      · exact hself.closed id' hid'

theorem Sound.prune (hs : Sound h s) {closed : List WatchId}
    (hfly : s.inFlight = before ++ ⟨n, ns, [], id :: closed⟩ :: after) :
    Sound (.pruned n ns id :: h)
      { s with
        registry := s.registry.remove ns id
        inFlight := before ++ ⟨n, ns, [], closed⟩ :: after
        senders := s.sendersWithout ns id } where
  orderly := hs.orderly.step (.remove ns id)
  recorded := ⟨hs.recorded.told, hs.recorded.untold⟩
  senders := by
    have hsenders := hs.senders
    rw [hfly] at hsenders
    simp only [List.flatMap_append, List.flatMap_cons] at hsenders ⊢
    exact perm_sendersWithout hsenders
  grounded := by
    obtain ⟨hself, hothers⟩ := hs.grounded_middle hfly (.pruned n ns id)
    refine forall_mem_middle.mpr ⟨⟨hself.number, hself.slots, ?_⟩, hothers⟩
    intro id' hid'
    exact hself.closed id' (List.mem_cons_of_mem _ hid')

theorem Sound.finish (hs : Sound h s)
    (hfly : s.inFlight = before ++ ⟨n, ns, [], []⟩ :: after) :
    Sound (.ended n :: h) { s with inFlight := before ++ after } where
  orderly := hs.orderly
  recorded := hs.recorded
  senders := by
    have hsenders := hs.senders
    rw [hfly] at hsenders
    simp only [List.flatMap_append, List.flatMap_cons, List.nil_append] at hsenders ⊢
    exact hsenders
  grounded := (hs.grounded_middle hfly (.ended n)).2

theorem Sound.step (hs : Sound h s) (hm : Step s m s') : Sound (m :: h) s' := by
  cases hm with
  | act hstep hn => exact hs.act hstep hn
  | begin hslots => exact hs.begin hslots
  | send hfly => exact hs.send hfly
  | prune hfly => exact hs.prune hfly
  | finish hfly => exact hs.finish hfly

theorem Sound.steps (hs : Sound h s) (hsteps : Steps s h' s') : Sound (h' ++ h) s' := by
  induction hsteps with
  | refl => exact hs
  | snoc _ hm ih => exact ih.step hm

theorem Steps.sound (hsteps : Steps empty h s) : Sound h s := by
  have hs := sound_empty.steps hsteps
  rwa [List.append_nil] at hs

/-! ## How a registration goes -/

/-- A registration goes by its own cleanup, by a removal of its own id, or by an announcement that
found its subscriber not to listen. -/
theorem Sound.removed_by (hs : Sound h s) (hm : Step s m s') (hreg : id ∈ s.registry.registered ns)
    (hgone : id ∉ s'.registry.registered ns) :
    m = .act (.cleaned id) ∨ m = .act (.removed ns id) ∨
      ∃ n, m = .pruned n ns id ∧ FoundDeaf n id h := by
  cases hm with
  | act hstep hn =>
    rw [hstep.mem_registered hs.orderly, not_or, not_and_not_right] at hgone
    rcases hgone.2 hreg with rfl | rfl | ⟨⟨outcomes, heq⟩, _⟩
    · exact .inl rfl
    · exact .inr (.inl rfl)
    · exact absurd heq (hn ns outcomes)
  | begin _ => exact absurd hreg hgone
  | send _ =>
    rw [Registry.registered_send] at hgone
    exact absurd hreg hgone
  | @prune _ _ n ns' id' closed hfly =>
    rw [Registry.mem_registered_remove, not_and_not_right] at hgone
    obtain ⟨rfl, rfl⟩ := hgone hreg
    have hself : Grounded h s.begun ⟨n, ns, [], id :: closed⟩ :=
      (forall_mem_middle.mp (hfly ▸ hs.grounded)).1
    exact .inr (.inr ⟨n, rfl, hself.closed id List.mem_cons_self⟩)
  | finish _ => exact absurd hreg hgone

/-- A registration that is gone, and is unknown to all announcements from a number on. -/
structure Gone (id : WatchId) (k : Nat) (s : SharedRegistry) : Prop where
  begun : k ≤ s.begun
  issued : id ≤ s.registry.issued
  unregistered (ns : String) : id ∉ s.registry.registered ns
  unheld : ∀ a ∈ s.inFlight, k ≤ a.number → id ∉ a.slots

/-- What is gone stays away. -/
theorem Gone.step (hg : Gone id k s) (hr : s.registry.Orderly) (hm : Step s m s') :
    Gone id k s' := by
  cases hm with
  | act hstep hn =>
    refine ⟨hg.begun, ?_, ?_, hg.unheld⟩
    · rcases hstep.issued with ⟨_, _, hissued⟩ | ⟨_, hissued⟩
      · exact Nat.le_trans hg.issued (hissued ▸ Nat.le_succ _)
      · exact hissued ▸ hg.issued
    · intro ns hreg
      rcases (hstep.mem_registered hr).mp hreg with rfl | ⟨hold, _⟩
      · -- no id is handed out a second time
        cases hstep
        exact Nat.not_succ_le_self _ hg.issued
      · exact hg.unregistered ns hold
  | @begin ns slots hslots =>
    refine ⟨Nat.le_succ_of_le hg.begun, hg.issued, hg.unregistered, ?_⟩
    intro a ha hk hid
    rcases List.mem_cons.mp ha with rfl | ha
    · have hreg : id ∈ s.registry.registered ns :=
        Std.ExtTreeSet.mem_toList.mp (hslots.mem_iff.mp hid)
      exact hg.unregistered ns hreg
    · exact hg.unheld a ha hk hid
  | @send _ _ n ns id' slots closed hfly =>
    obtain ⟨hself, hothers⟩ := forall_mem_middle.mp (hfly ▸ hg.unheld)
    refine ⟨hg.begun, ?_, ?_, forall_mem_middle.mpr ⟨?_, hothers⟩⟩
    · rw [Registry.issued_send]
      exact hg.issued
    · intro ns' hreg
      rw [Registry.registered_send] at hreg
      exact hg.unregistered ns' hreg
    · intro hk hid
      exact hself hk (List.mem_cons_of_mem _ hid)
  | prune hfly =>
    obtain ⟨_, hothers⟩ := forall_mem_middle.mp (hfly ▸ hg.unheld)
    refine ⟨hg.begun, hg.issued, ?_, forall_mem_middle.mpr ⟨by simp, hothers⟩⟩
    intro ns hreg
    exact hg.unregistered ns (Registry.mem_registered_remove.mp hreg).1
  | finish hfly =>
    obtain ⟨_, hothers⟩ := forall_mem_middle.mp (hfly ▸ hg.unheld)
    exact ⟨hg.begun, hg.issued, hg.unregistered, hothers⟩

theorem Gone.le_of_began (hg : Gone id k s) (hm : Step s (.began n ns) s') : k ≤ n := by
  cases hm
  exact hg.begun

theorem Gone.lt_of_sent (hg : Gone id k s) {outcome : Sent} (hm : Step s (.sent n id outcome) s') :
    n < k := by
  cases hm with
  | send hfly =>
    obtain ⟨hself, _⟩ := forall_mem_middle.mp (hfly ▸ hg.unheld)
    apply Nat.lt_of_not_le
    intro hk
    exact hself hk List.mem_cons_self

theorem Gone.steps (hg : Gone id k s) (hs : Sound h s) (hsteps : Steps s h' s') :
    Gone id k s' ∧ (∀ n ns, .began n ns ∈ h' → k ≤ n) ∧
      ∀ n outcome, .sent n id outcome ∈ h' → n < k := by
  induction hsteps with
  | refl => exact ⟨hg, by simp, by simp⟩
  | snoc hsteps hm ih =>
    obtain ⟨hg', hbegan, hsent⟩ := ih
    refine ⟨hg'.step (hs.steps hsteps).orderly hm, ?_, ?_⟩
    · intro n ns hmem
      rcases List.mem_cons.mp hmem with rfl | hmem
      · exact hg'.le_of_began hm
      · exact hbegan n ns hmem
    · intro n outcome hmem
      rcases List.mem_cons.mp hmem with rfl | hmem
      · exact hg'.lt_of_sent hm
      · exact hsent n outcome hmem

theorem Sound.subscribed (hs : Sound h s) (hw : .act (.watched ns id) ∈ h) :
    ∃ sub, s.registry.subscriptions[id]? = some sub ∧ sub.ns = ns :=
  hs.recorded.known_of_watched (mem_acts.mpr hw)

theorem Sound.registered_elsewhere (hs : Sound h s) (hw : .act (.watched ns id) ∈ h) {ns' : String}
    (hreg : id ∈ s.registry.registered ns') : ns' = ns := by
  obtain ⟨sub, hsub, rfl⟩ := hs.subscribed hw
  exact (hs.orderly.ns_of_registered hsub hreg).symm

theorem Sound.gone (hs : Sound h s) (hw : .act (.watched ns id) ∈ h)
    (hreg : id ∉ s.registry.registered ns) : Gone id s.begun s where
  begun := Nat.le_refl _
  issued := by
    obtain ⟨sub, hsub, _⟩ := hs.subscribed hw
    exact (hs.orderly.known.mp ⟨sub, hsub⟩).2
  unregistered ns' hreg' := by
    obtain rfl := hs.registered_elsewhere hw hreg'
    exact hreg hreg'
  unheld a ha hk := absurd (hs.grounded a ha).number (Nat.not_lt_of_le hk)

/-! ## What a subscriber comes to know -/

theorem Sound.wake?_eq_closed_iff (hs : Sound h s) (hw : .act (.watched ns id) ∈ h)
    (hd : .act (.dropped id) ∉ h) :
    s.wake? id = some .closed ↔
      id ∉ s.registry.registered ns ∧ (∀ a ∈ s.inFlight, id ∉ a.slots) ∧
        ¬s.registry.HasSignal id := by
  obtain ⟨sub, hsub, rfl⟩ := hs.subscribed hw
  have hl : sub.listening = true := (hs.recorded.told hsub).listening (mt mem_acts.mp hd)
  have hsignal : s.registry.HasSignal id ↔ sub.pending = true := by
    unfold Registry.HasSignal
    rw [hsub]
    simp [hl]
  have hsenders : id ∉ s.senders ↔
      id ∉ s.registry.registered sub.ns ∧ ∀ a ∈ s.inFlight, id ∉ a.slots := by
    rw [hs.mem_senders_iff, not_or]
    refine and_congr ⟨fun hnone hreg => hnone ⟨_, hreg⟩, ?_⟩ (by simp)
    rintro hreg ⟨ns', hreg'⟩
    exact hreg (hs.registered_elsewhere hw hreg' ▸ hreg')
  have htake := Registry.tryChanged?_eq_some_iff.mpr ⟨sub, hsub, hl, rfl, rfl⟩
  rw [wake?, htake, hsignal, ← and_assoc, ← hsenders]
  cases hp : sub.pending with
  | true => simp
  | false => by_cases hid : id ∈ s.senders <;> simp [hid]

/-- While no announcement is on its way, nobody learns more than from the registry itself. -/
theorem Sound.wake?_eq_changed? (hs : Sound h s) (hnone : s.inFlight = []) (id : WatchId) :
    s.wake? id = (s.registry.changed? id).map (·.2) := by
  unfold wake? Registry.changed?
  cases hsub : s.registry.subscriptions[id]? with
  | none => simp [Registry.tryChanged?, hsub]
  | some sub =>
    have hsenders : id ∈ s.senders ↔ s.registry.isRegistered sub.ns id = true := by
      rw [hs.mem_senders_iff, hnone, Registry.isRegistered, Std.ExtTreeSet.contains_iff_mem]
      simp only [List.not_mem_nil, false_and, exists_false, or_false]
      refine ⟨?_, fun hreg => ⟨_, hreg⟩⟩
      rintro ⟨ns, hreg⟩
      rwa [hs.orderly.ns_of_registered hsub hreg]
    cases s.registry.tryChanged? id with
    | none => rfl
    | some answer => simp [hsenders]

theorem Sound.members_eq_empty (hs : Sound h s)
    (hall : ∀ ns id, .act (.watched ns id) ∈ h → .act (.cleaned id) ∈ h) :
    s.registry.members = ∅ := by
  apply Std.ExtTreeMap.eq_empty_iff_forall_not_mem.mpr
  intro ns hns
  obtain ⟨id, hreg⟩ := hs.orderly.mem_members_iff.mp hns
  obtain ⟨sub, hsub, _, hstop⟩ := hs.orderly.owner hreg
  have hcleaned : .act (.cleaned id) ∈ h := hall ns id (hs.watched_of_registered hreg)
  exact hstop ((hs.recorded.told hsub).cleaned.mp (mem_acts.mpr hcleaned))

/-! ## Stopping wins -/

/-- However announcements overlap with all else, who stops has stopped. -/
structure StopWins (h : List Move) (s : SharedRegistry) : Prop where
  goes : ∀ m s' ns id, Step s m s' →
    id ∈ s.registry.registered ns → id ∉ s'.registry.registered ns →
    m = .act (.cleaned id) ∨ m = .act (.removed ns id) ∨
      ∃ n, m = .pruned n ns id ∧ FoundDeaf n id h
  stays : ∀ ns id, .act (.watched ns id) ∈ h → id ∉ s.registry.registered ns →
    ∀ h' s', Steps s h' s' →
      (∀ ns', id ∉ s'.registry.registered ns') ∧
        ∀ n ns' outcome, .began n ns' ∈ h' → .sent n id outcome ∉ h'
  closes : ∀ ns id, .act (.watched ns id) ∈ h → .act (.dropped id) ∉ h →
    (s.wake? id = some .closed ↔
      id ∉ s.registry.registered ns ∧ (∀ a ∈ s.inFlight, id ∉ a.slots) ∧
        ¬s.registry.HasSignal id)
  empties : (∀ ns id, .act (.watched ns id) ∈ h → .act (.cleaned id) ∈ h) →
    s.registry.members = ∅

theorem Steps.stopWins (hsteps : Steps empty h s) : StopWins h s where
  goes m s' ns id hm hreg hgone := hsteps.sound.removed_by hm hreg hgone
  stays ns id hw hreg h' s' hsteps' := by
    obtain ⟨hgone, hbegan, hsent⟩ := (hsteps.sound.gone hw hreg).steps hsteps.sound hsteps'
    refine ⟨hgone.unregistered, ?_⟩
    intro n ns' outcome hb hs
    exact Nat.not_lt_of_le (hbegan n ns' hb) (hsent n outcome hs)
  closes ns id hw hd := hsteps.sound.wake?_eq_closed_iff hw hd
  empties hall := hsteps.sound.members_eq_empty hall

/-- The only subscriber stops while an announcement is about to signal it, and takes that signal. -/
def lateSignal : List Move :=
  [.act (.took 1 true), .sent 0 1 .delivered, .act (.cleaned 1), .act (.released 1),
    .began 0 "ns1", .act (.watched "ns1" 1)]

def stopped : Registry :=
  ((Registry.empty.watch "ns1").1.update 1 fun s => { s with stop := .released }).runCleanup 1

def afterLateSignal : SharedRegistry where
  registry := (stopped.send 1).1.update 1 fun s => { s with pending := false }
  inFlight := [⟨0, "ns1", [], []⟩]
  begun := 1

theorem steps_lateSignal : Steps empty lateSignal afterLateSignal := by
  let watched := (Registry.empty.watch "ns1").1
  let released := watched.update 1 fun s => { s with stop := .released }
  let a : Announcement := ⟨0, "ns1", [1], []⟩
  have hw : Step empty (.act (.watched "ns1" 1)) ⟨watched, [], 0, [1]⟩ :=
    .act (.watch "ns1") (by simp)
  have hsnapshot : List.Perm [1] (watched.snapshot "ns1") := by decide +kernel
  have hb : Step ⟨watched, [], 0, [1]⟩ (.began 0 "ns1") ⟨watched, [a], 1, [1, 1]⟩ :=
    .begin hsnapshot
  have hr : Step ⟨watched, [a], 1, [1, 1]⟩ (.act (.released 1)) ⟨released, [a], 1, [1, 1]⟩ :=
    .act (.release (by decide +kernel)) (by simp)
  have hc : Step ⟨released, [a], 1, [1, 1]⟩ (.act (.cleaned 1)) ⟨stopped, [a], 1, [1]⟩ := by
    have hsub : released.subscriptions[1]? = some { ns := "ns1", stop := .released } := by
      decide +kernel
    have hafter : sendersAfter ⟨released, [a], 1, [1, 1]⟩ (.cleaned 1) = [1] := by decide +kernel
    have hstep := Step.act (s := ⟨released, [a], 1, [1, 1]⟩) (.cleanup hsub rfl) (by simp)
    rwa [hafter] at hstep
  have hs : Step ⟨stopped, [a], 1, [1]⟩ (.sent 0 1 .delivered)
      ⟨(stopped.send 1).1, [⟨0, "ns1", [], []⟩], 1, []⟩ := by
    have hdelivered : (stopped.send 1).2 = .delivered := by decide +kernel
    have hstep := Step.send (s := ⟨stopped, [a], 1, [1]⟩) (List.nil_append _).symm
    rwa [hdelivered] at hstep
  have ht : Step ⟨(stopped.send 1).1, [⟨0, "ns1", [], []⟩], 1, []⟩ (.act (.took 1 true))
      afterLateSignal :=
    .act (.take (by decide +kernel)) (by simp)
  exact .snoc (.snoc (.snoc (.snoc (.snoc (.snoc .refl hw) hb) hr) hc) hs) ht

theorem stopWins_lateSignal :
    Steps empty lateSignal afterLateSignal ∧ StopWins lateSignal afterLateSignal ∧
      afterLateSignal.wake? 1 = some .closed ∧ afterLateSignal.registry.members = ∅ := by
  have hwins := steps_lateSignal.stopWins
  refine ⟨steps_lateSignal, hwins, ?_, hwins.empties (by simp [lateSignal])⟩
  refine (hwins.closes "ns1" 1 (by decide) (by decide)).mpr ⟨by decide +kernel, by decide, ?_⟩
  rintro ⟨sub, hsub, _, hp⟩
  have hslot : afterLateSignal.registry.subscriptions[1]? =
      some { ns := "ns1", stop := .cleaned } := by decide +kernel
  cases hsub.symm.trans hslot
  cases hp

end SharedRegistry
end SandboxWatch
