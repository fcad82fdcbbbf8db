import SandboxWatch.Proofs.Registry.Stopping

/-!
# SandboxWatch.Proofs.Registry.Removals

Registrations are removed by whoever comes first: by an announcement that nobody listens to, by the
cleanup, or by a removal of their own. It makes no difference who that is, in what order they come,
and how often.

* `removeEach`       — one removal after the other.
* `Taken`            — a run removes a registration, in one way or another.
* `Sound.mem_registered_iff` — who is left after a run without new subscriptions.
* `Steps.removals_commute`   — what is left depends on which registrations were removed, on nothing
  else.
-/

namespace SandboxWatch

namespace Registry

variable {r r' : Registry} {ns : String} {id : WatchId} {pairs pairs' : List (String × WatchId)}

/-! ## One removal after the other -/

def removeEach (r : Registry) (pairs : List (String × WatchId)) : Registry :=
  pairs.foldl (fun r p => r.remove p.1 p.2) r

theorem mem_registered_removeEach :
    id ∈ (r.removeEach pairs).registered ns ↔ id ∈ r.registered ns ∧ (ns, id) ∉ pairs := by
  induction pairs generalizing r with
  | nil => simp [removeEach]
  | cons p rest ih =>
    rw [removeEach, List.foldl_cons, ← removeEach, ih, mem_registered_remove, and_assoc, ← not_or,
      List.mem_cons, Prod.ext_iff]

theorem noneEmpty_removeEach (h : r.members.NoneEmpty) :
    (r.removeEach pairs).members.NoneEmpty :=
  List.foldlRecOn (motive := fun r : Registry => r.members.NoneEmpty) pairs _ h
    fun _ hr _ _ => Groups.noneEmpty_remove hr

/-- Where no namespace is without members, the registrations tell everything. -/
theorem members_eq_of_registered (h : r.members.NoneEmpty) (h' : r'.members.NoneEmpty)
    (hsame : ∀ ns id, id ∈ r.registered ns ↔ id ∈ r'.registered ns) : r.members = r'.members :=
  h.ext h' hsame

theorem members_removeEach_congr (h : r.members.NoneEmpty)
    (hsame : ∀ ns id, id ∈ r.registered ns → ((ns, id) ∈ pairs ↔ (ns, id) ∈ pairs')) :
    (r.removeEach pairs).members = (r.removeEach pairs').members := by
  refine members_eq_of_registered (noneEmpty_removeEach h) (noneEmpty_removeEach h) fun ns id => ?_
  rw [mem_registered_removeEach, mem_registered_removeEach]
  exact and_congr_right fun hreg => not_congr (hsame ns id hreg)

/-- Nothing is registered under the pair: the namespace has no entry, or the id is registered nowhere,
or it is registered under another namespace. -/
inductive Stray (r : Registry) (ns : String) (id : WatchId) : Prop where
  | noEntry : ns ∉ r.members → Stray r ns id
  | nowhere : (∀ ns', id ∉ r.registered ns') → Stray r ns id
  | elsewhere {ns' : String} : ns' ≠ ns → id ∈ r.registered ns' → Stray r ns id

theorem Orderly.not_mem_of_stray (hr : r.Orderly) (h : r.Stray ns id) : id ∉ r.registered ns := by
  intro hreg
  cases h with
  | noEntry hns => exact hns (hr.mem_members_iff.mpr ⟨id, hreg⟩)
  | nowhere hid => exact hid ns hreg
  | elsewhere hne hreg' =>
    obtain ⟨s, hs, hns, _⟩ := hr.owner hreg
    obtain ⟨s', hs', hns', _⟩ := hr.owner hreg'
    cases hs.symm.trans hs'
    exact hne (hns'.symm.trans hns)

end Registry

namespace SharedRegistry

open Registry (Entry Stray)

variable {s s' : SharedRegistry} {m : Move} {h h' : List Move} {ns : String} {id : WatchId}

/-! ## Removals in a run -/

/-- The move removes the registration of a subscription to the namespace. -/
def Move.Removes (ns : String) (id : WatchId) (m : Move) : Prop :=
  m = .act (.cleaned id) ∨ m = .act (.removed ns id) ∨ ∃ n, m = .pruned n ns id

def Taken (ns : String) (id : WatchId) (h : List Move) : Prop := ∃ m ∈ h, m.Removes ns id

theorem taken_cons : Taken ns id (m :: h) ↔ m.Removes ns id ∨ Taken ns id h := by
  simp [Taken]

theorem Sound.mem_registered_step (hs : Sound h s) (hm : Step s m s')
    (hnew : ∀ ns id, m ≠ .act (.watched ns id)) :
    id ∈ s'.registry.registered ns ↔ id ∈ s.registry.registered ns ∧ ¬m.Removes ns id := by
  unfold Move.Removes
  cases hm with
  | @act e r hstep hn =>
    have hw : e ≠ .watched ns id := by
      rintro rfl
      exact hnew ns id rfl
    have hannounced : ¬∃ outcomes, e = .notified ns outcomes := fun ⟨outcomes, heq⟩ =>
      hn ns outcomes heq
    rw [hstep.mem_registered hs.orderly]
    simp [Entry.Ends, hw, hannounced]
  | begin _ => simp
  | send _ =>
    rw [Registry.registered_send]
    simp
  | @prune _ _ n ns' id' closed _ =>
    rw [Registry.mem_registered_remove]
    simp [eq_comm (a := ns), eq_comm (a := id)]
  | finish _ => simp

/-- Who is left after a run in which nobody subscribes. -/
theorem Sound.mem_registered_iff (hs : Sound h s) (hsteps : Steps s h' s')
    (hnew : ∀ ns id, .act (.watched ns id) ∉ h') :
    id ∈ s'.registry.registered ns ↔ id ∈ s.registry.registered ns ∧ ¬Taken ns id h' := by
  induction hsteps with
  | refl => simp [Taken]
  | snoc hsteps hm ih =>
    have hold := ih fun ns id hmem => hnew ns id (List.mem_cons_of_mem _ hmem)
    have hmove : ∀ ns id, _ ≠ Move.act (.watched ns id) := fun ns id heq =>
      hnew ns id (heq ▸ List.mem_cons_self)
    rw [(hs.steps hsteps).mem_registered_step hm hmove, hold, taken_cons, not_or, and_assoc,
      and_comm (a := ¬Taken ns id _)]

/-! ## Whoever comes first -/

/-- Any number of removals leaves the registrations that none of them is of, and a namespace exactly
if one of its registrations is left. So their order and their repetitions do not matter, and those
that are of no registration do not matter at all. The same is left by any run in which nobody
subscribes, whoever removes what in it. -/
structure RemovalsCommute (s : SharedRegistry) : Prop where
  left : ∀ pairs ns id, id ∈ (s.registry.removeEach pairs).registered ns ↔
    id ∈ s.registry.registered ns ∧ (ns, id) ∉ pairs
  namespaces : ∀ pairs (ns : String), ns ∈ (s.registry.removeEach pairs).members ↔
    ∃ id, id ∈ s.registry.registered ns ∧ (ns, id) ∉ pairs
  sameSet : ∀ pairs pairs' : List (String × WatchId), (∀ p, p ∈ pairs ↔ p ∈ pairs') →
    (s.registry.removeEach pairs).members = (s.registry.removeEach pairs').members
  strays : ∀ before ns id after, s.registry.Stray ns id →
    (s.registry.removeEach (before ++ (ns, id) :: after)).members =
      (s.registry.removeEach (before ++ after)).members
  races : ∀ h' s' pairs, Steps s h' s' → (∀ ns id, .act (.watched ns id) ∉ h') →
    (∀ ns id, id ∈ s.registry.registered ns → ((ns, id) ∈ pairs ↔ Taken ns id h')) →
      s'.registry.members = (s.registry.removeEach pairs).members

theorem Steps.removals_commute (hsteps : Steps empty h s) : RemovalsCommute s where
  left pairs ns id := Registry.mem_registered_removeEach
  namespaces pairs ns := by
    have hnone : (s.registry.removeEach pairs).members.NoneEmpty :=
      Registry.noneEmpty_removeEach hsteps.sound.orderly.noneEmpty
    rw [hnone.mem_iff]
    exact exists_congr fun id => Registry.mem_registered_removeEach
  sameSet pairs pairs' hsame :=
    Registry.members_removeEach_congr hsteps.sound.orderly.noneEmpty fun ns id _ => hsame (ns, id)
  strays before ns id after hstray := by
    refine Registry.members_removeEach_congr hsteps.sound.orderly.noneEmpty fun ns' id' hreg => ?_
    have hne : (ns', id') ≠ (ns, id) := by
      rintro ⟨⟩
      exact hsteps.sound.orderly.not_mem_of_stray hstray hreg
    simp [hne]
  races h' s' pairs hrun hnew htaken := by
    have hsound := hsteps.sound
    refine Registry.members_eq_of_registered (hsound.steps hrun).orderly.noneEmpty
      (Registry.noneEmpty_removeEach hsound.orderly.noneEmpty) fun ns id => ?_
    rw [hsound.mem_registered_iff hrun hnew, Registry.mem_registered_removeEach]
    exact and_congr_right fun hreg => not_congr (htaken ns id hreg).symm

/-- An announcement has found that the first of two subscribers does not listen and is about to
remove it; the first one has stopped besides, so the cleanup is about to do the same. -/
def pruningMoves : List Move :=
  [.sent 0 2 .delivered, .sent 0 1 .closed, .act (.released 1), .began 0 "ns1", .act (.dropped 1),
    .act (.watched "ns1" 2), .act (.watched "ns1" 1)]

def pruning : SharedRegistry where
  registry := ((Registry.halfDeaf.update 1 fun s => { s with stop := .released }).send 2).1
  inFlight := [⟨0, "ns1", [], [1]⟩]
  begun := 1
  senders := [2, 1]

theorem steps_pruning : Steps empty pruningMoves pruning := by
  let first := (Registry.empty.watch "ns1").1
  let both := (first.watch "ns1").1
  let released := Registry.halfDeaf.update 1 fun s => { s with stop := .released }
  have hw₁ : Step empty (.act (.watched "ns1" 1)) ⟨first, [], 0, [1]⟩ := .act (.watch "ns1") (by simp)
  have hw₂ : Step ⟨first, [], 0, [1]⟩ (.act (.watched "ns1" 2)) ⟨both, [], 0, [2, 1]⟩ :=
    .act (.watch "ns1") (by simp)
  have hd : Step ⟨both, [], 0, [2, 1]⟩ (.act (.dropped 1)) ⟨Registry.halfDeaf, [], 0, [2, 1]⟩ :=
    .act (.drop (by decide +kernel)) (by simp)
  have hb : Step ⟨Registry.halfDeaf, [], 0, [2, 1]⟩ (.began 0 "ns1")
      ⟨Registry.halfDeaf, [⟨0, "ns1", [1, 2], []⟩], 1, [1, 2, 2, 1]⟩ :=
    .begin (by decide +kernel)
  have hr : Step ⟨Registry.halfDeaf, [⟨0, "ns1", [1, 2], []⟩], 1, [1, 2, 2, 1]⟩ (.act (.released 1))
      ⟨released, [⟨0, "ns1", [1, 2], []⟩], 1, [1, 2, 2, 1]⟩ :=
    .act (.release (by decide +kernel)) (by simp)
  have hs₁ : Step ⟨released, [⟨0, "ns1", [1, 2], []⟩], 1, [1, 2, 2, 1]⟩ (.sent 0 1 .closed)
      ⟨released, [⟨0, "ns1", [2], [1]⟩], 1, [2, 2, 1]⟩ := by
    have hclosed : released.send 1 = (released, .closed) := by decide +kernel
    have hstep := Step.send (s := ⟨released, [⟨0, "ns1", [1, 2], []⟩], 1, [1, 2, 2, 1]⟩)
      (List.nil_append _).symm
    rwa [hclosed] at hstep
  have hs₂ : Step ⟨released, [⟨0, "ns1", [2], [1]⟩], 1, [2, 2, 1]⟩ (.sent 0 2 .delivered) pruning := by
    have hdelivered : (released.send 2).2 = .delivered := by decide +kernel
    have hstep := Step.send (s := ⟨released, [⟨0, "ns1", [2], [1]⟩], 1, [2, 2, 1]⟩)
      (List.nil_append _).symm
    rwa [hdelivered] at hstep
  exact .snoc (.snoc (.snoc (.snoc (.snoc (.snoc (.snoc .refl hw₁) hw₂) hd) hb) hr) hs₁) hs₂

/-- The announcement comes first, the cleanup finds nothing left. -/
theorem steps_pruned :
    ∃ s, Steps pruning [.act (.cleaned 1), .pruned 0 "ns1" 1] s := by
  have hprune := Step.prune (s := pruning) (List.nil_append _).symm
  have hsub : (pruning.registry.remove "ns1" 1).subscriptions[1]? =
      some { ns := "ns1", listening := false, stop := .released } := by decide +kernel
  exact ⟨_, .snoc (.snoc .refl hprune) (.act (.cleanup hsub rfl) (by simp))⟩

theorem removals_commute_pruning :
    Steps empty pruningMoves pruning ∧ RemovalsCommute pruning ∧
      (pruning.registry.removeEach [("ns1", 1), ("ns2", 2), ("ns1", 1)]).members =
        (pruning.registry.remove "ns1" 1).members ∧
      ∃ s, Steps pruning [.act (.cleaned 1), .pruned 0 "ns1" 1] s ∧
        s.registry.members = (pruning.registry.remove "ns1" 1).members := by
  have hcommute := steps_pruning.removals_commute
  have helsewhere : 2 ∈ pruning.registry.registered "ns1" := by decide +kernel
  have hstray : pruning.registry.Stray "ns2" 2 := .elsewhere (by decide) helsewhere
  obtain ⟨s, hs⟩ := steps_pruned
  refine ⟨steps_pruning, hcommute, ?_, s, hs, ?_⟩
  · have hset := hcommute.sameSet [("ns1", 1), ("ns2", 2), ("ns1", 1)] [("ns2", 2), ("ns1", 1)]
      (by simp [or_comm])
    exact hset.trans (hcommute.strays [] "ns2" 2 [("ns1", 1)] hstray)
  · refine hcommute.races _ s [("ns1", 1)] hs (by simp) fun ns id hreg => ?_
    have hwatched : .act (.watched ns id) ∈ pruningMoves :=
      steps_pruning.sound.watched_of_registered hreg
    obtain rfl : ns = "ns1" := by
      simp only [pruningMoves, List.mem_cons, reduceCtorEq, Move.act.injEq, Entry.watched.injEq,
        false_or, List.not_mem_nil, or_false] at hwatched
      rcases hwatched with ⟨hns, _⟩ | ⟨hns, _⟩ <;> exact hns
    simp [Taken, Move.Removes, eq_comm]

end SharedRegistry
end SandboxWatch
