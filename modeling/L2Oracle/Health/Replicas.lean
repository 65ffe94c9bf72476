import Mathlib.Data.Finset.Card
import L2Oracle.Base.PrefixBy
import L2Oracle.Health.Run

/-!
# Replicas that apply one log

Every oracle applies the committed transitions to its own table, and the tables may look quite
different before: each has the announcements of its own box, in slots of its own order. A committed
transition writes the status and the term of its node's entry and nothing else, so a whole sequence of
them leaves in each entry the status and the term of the last transition of its node, as long as there
is a slot for every node that the sequence names. The condition is on ids alone: the ids a monitor has
registered and the ids the sequence names are at most `MAX_HEALTH_NODES` together.
-/

namespace L2Oracle

open Base

/-- The transitions of one node. -/
def entriesOf (nodeId : UInt8) (ts : List Transition) : List Transition :=
  ts.filter fun t => t.targetNode = nodeId

theorem entriesOf_cons_self (t : Transition) (ts : List Transition) :
    entriesOf t.targetNode (t :: ts) = t :: entriesOf t.targetNode ts := by
  simp [entriesOf]

theorem entriesOf_cons_of_ne {nodeId : UInt8} {t : Transition} (h : t.targetNode ≠ nodeId)
    (ts : List Transition) : entriesOf nodeId (t :: ts) = entriesOf nodeId ts := by
  simp [entriesOf, h]

/-- The table after a committed sequence. -/
def applyAll (hm : HealthMonitor) (ts : List Transition) : HealthMonitor :=
  ts.foldl (fun hm t =>
    (healthTableApply hm t.targetNode t.targetBox t.oldStatus t.newStatus t.term).1) hm

/-- There is a slot for every node that the sequence names. -/
def Fits (hm : HealthMonitor) (ts : List Transition) : Prop :=
  (hm.ids ++ ts.map Transition.targetNode).toFinset.card ≤ maxHealthNodes

instance (hm : HealthMonitor) (ts : List Transition) : Decidable (Fits hm ts) :=
  inferInstanceAs (Decidable (_ ≤ _))

/-- What a committed sequence makes of a table. -/
structure AppliesAll (hm : HealthMonitor) (ts : List Transition) : Prop where
  /-- Every target has exactly one entry. -/
  one : ∀ t ∈ ts, ∃ i, ∀ j : Nat, (applyAll hm ts).ids[j]? = some t.targetNode ↔ j = i
  /-- It holds the status and the term of the last transition of its node. -/
  last : ∀ (i : Nat) (s : Slot), (applyAll hm ts).slots[i]? = some s →
    ∀ t ∈ (entriesOf s.nodeId ts).getLast?, s.status = t.newStatus ∧ s.entry.statusTerm = t.term
  /-- The entries of other nodes are those there were. -/
  others : ∀ (i : Nat) (s : Slot), s.nodeId ∉ ts.map Transition.targetNode →
    ((applyAll hm ts).slots[i]? = some s ↔ hm.slots[i]? = some s)
  /-- An entry that there was keeps its slot, its box, its type and the time it was last seen. -/
  kept : ∀ (i : Nat) (s : Slot), hm.slots[i]? = some s →
    ∃ s' : Slot, (applyAll hm ts).slots[i]? = some s' ∧
    s'.nodeId = s.nodeId ∧ s'.boxId = s.boxId ∧ s'.entry.nodeType = s.entry.nodeType ∧
      s'.entry.lastSeenMs = s.entry.lastSeenMs

/-! ### One transition -/

/-- The table after one committed transition. -/
def applied (hm : HealthMonitor) (t : Transition) : HealthMonitor :=
  hm.update t.targetNode t.targetBox (committedSlot t.newStatus t.term)

theorem applyAll_cons (hm : HealthMonitor) (t : Transition) (ts : List Transition) :
    applyAll hm (t :: ts) = applyAll (applied hm t) ts := by
  rw [applyAll, List.foldl_cons, healthTableApply_eq]
  rfl

theorem nodup_applied {hm : HealthMonitor} (h : hm.ids.Nodup) (t : Transition) :
    (applied hm t).ids.Nodup :=
  HealthMonitor.nodup_update t.targetNode t.targetBox (committedSlot_nodeId _ _) h

theorem Fits.hasRoom {hm : HealthMonitor} {t : Transition} {ts : List Transition}
    (h : Fits hm (t :: ts)) (hnodup : hm.ids.Nodup) : hm.HasRoom t.targetNode := by
  by_cases hmem : t.targetNode ∈ hm.ids
  · exact .inl fun hnone => HealthMonitor.lookup_eq_none_iff.mp hnone hmem
  · right
    have hsub : insert t.targetNode hm.ids.toFinset
        ⊆ (hm.ids ++ (t :: ts).map Transition.targetNode).toFinset := by
      intro x hx
      simp only [Finset.mem_insert, List.mem_toFinset] at hx
      simp only [List.mem_toFinset, List.mem_append, List.map_cons, List.mem_cons]
      rcases hx with rfl | hx
      · exact .inr (.inl rfl)
      · exact .inl hx
    have hcard := (Finset.card_le_card hsub).trans h
    rw [Finset.card_insert_of_notMem (by simpa using hmem), List.toFinset_card_of_nodup hnodup,
      HealthMonitor.ids, List.length_map] at hcard
    exact hcard

theorem Fits.tail {hm : HealthMonitor} {t : Transition} {ts : List Transition}
    (h : Fits hm (t :: ts)) : Fits (applied hm t) ts := by
  refine (Finset.card_le_card fun x hx => ?_).trans h
  rw [List.mem_toFinset, List.mem_append, applied,
    HealthMonitor.ids_update _ _ (committedSlot_nodeId _ _), List.mem_append] at hx
  rw [List.mem_toFinset, List.mem_append, List.map_cons, List.mem_cons]
  rcases hx with (hold | hnew) | hlater
  · exact .inl hold
  · split at hnew
    · exact .inr (.inl (List.mem_singleton.mp hnew))
    · cases hnew
  · exact .inr (.inr hlater)

/-! ### The whole sequence -/

/-- The last transition of a node decides its status and its term. -/
theorem lookup_applyAll {hm : HealthMonitor} {ts : List Transition} (h : Fits hm ts)
    (hnodup : hm.ids.Nodup) (nodeId : UInt8) :
    ∃ boxId, (applyAll hm ts).lookup nodeId = match (entriesOf nodeId ts).getLast? with
      | none => hm.lookup nodeId
      | some t => some (committedSlot t.newStatus t.term (hm.slotOf nodeId boxId)) := by
  induction ts generalizing hm with
  | nil => exact ⟨0, rfl⟩
  | cons t ts ih =>
      obtain ⟨boxId, hlookup⟩ := ih h.tail (nodup_applied hnodup t)
      have hone := hm.lookup_update t.targetNode t.targetBox (committedSlot_nodeId t.newStatus t.term)
        nodeId
      rw [applyAll_cons, hlookup]
      by_cases hid : t.targetNode = nodeId
      · subst hid
        rw [if_pos ⟨rfl, h.hasRoom hnodup⟩] at hone
        have hslot : (applied hm t).slotOf t.targetNode boxId
            = committedSlot t.newStatus t.term (hm.slotOf t.targetNode t.targetBox) := slotOf_eq hone
        refine ⟨t.targetBox, ?_⟩
        rw [entriesOf_cons_self, List.getLast?_cons]
        cases hlast : (entriesOf t.targetNode ts).getLast? with
        | none => exact hone
        | some u =>
            dsimp only
            rw [hslot]
            rfl
      · rw [if_neg fun hbad => hid hbad.1.symm] at hone
        have hslot : (applied hm t).slotOf nodeId boxId = hm.slotOf nodeId boxId :=
          congrArg (Option.getD · _) hone
        refine ⟨boxId, ?_⟩
        rw [entriesOf_cons_of_ne hid, hslot]
        cases hlast : (entriesOf nodeId ts).getLast? with
        | none => exact hone
        | some u => rfl

theorem ids_applyAll {hm : HealthMonitor} (ts : List Transition) (hnodup : hm.ids.Nodup) :
    (applyAll hm ts).ids.Nodup ∧ hm.ids <+: (applyAll hm ts).ids := by
  induction ts generalizing hm with
  | nil => exact ⟨hnodup, List.prefix_refl _⟩
  | cons t ts ih =>
      obtain ⟨hnodup', hgrown⟩ := ih (nodup_applied hnodup t)
      have hone : hm.ids <+: (applied hm t).ids := by
        rw [applied, HealthMonitor.ids_update _ _ (committedSlot_nodeId _ _)]
        exact List.prefix_append _ _
      rw [applyAll_cons]
      exact ⟨hnodup', hone.trans hgrown⟩

theorem lookup_of_getElem? {hm : HealthMonitor} (hnodup : hm.ids.Nodup) {i : Nat} {s : Slot}
    (hs : hm.slots[i]? = some s) : hm.lookup s.nodeId = some s :=
  lookup_of_mem hnodup (List.mem_of_getElem? hs)

theorem getElem?_ids {hm : HealthMonitor} {i : Nat} {s : Slot} (hs : hm.slots[i]? = some s) :
    hm.ids[i]? = some s.nodeId := by
  rw [HealthMonitor.ids, List.getElem?_map, hs, Option.map_some]

theorem getElem?_of_lookup {hm : HealthMonitor} (hnodup : hm.ids.Nodup) {i : Nat} {nodeId : UInt8}
    {s : Slot} (hi : hm.ids[i]? = some nodeId) (hs : hm.lookup nodeId = some s) :
    hm.slots[i]? = some s := by
  rw [HealthMonitor.ids, List.getElem?_map] at hi
  obtain ⟨s', hs', rfl⟩ := Option.map_eq_some_iff.mp hi
  rw [lookup_of_getElem? hnodup hs'] at hs
  exact hs'.trans hs

theorem getLast?_entriesOf_eq_none {nodeId : UInt8} {ts : List Transition} :
    (entriesOf nodeId ts).getLast? = none ↔ nodeId ∉ ts.map Transition.targetNode := by
  rw [List.getLast?_eq_none_iff, entriesOf, List.filter_eq_nil_iff]
  simp

theorem mem_ids_applyAll {hm : HealthMonitor} {ts : List Transition} (h : Fits hm ts)
    (hnodup : hm.ids.Nodup) {t : Transition} (ht : t ∈ ts) :
    t.targetNode ∈ (applyAll hm ts).ids := by
  by_contra hnot
  obtain ⟨boxId, hfinds⟩ := lookup_applyAll h hnodup t.targetNode
  rw [HealthMonitor.lookup_eq_none_iff.mpr hnot] at hfinds
  cases hlast : (entriesOf t.targetNode ts).getLast? with
  | none => exact getLast?_entriesOf_eq_none.mp hlast (List.mem_map_of_mem ht)
  | some u =>
      rw [hlast] at hfinds
      cases hfinds

theorem appliesAll {hm : HealthMonitor} {ts : List Transition} (h : Fits hm ts)
    (hnodup : hm.ids.Nodup) : AppliesAll hm ts := by
  obtain ⟨hnodup', hgrown⟩ := ids_applyAll ts hnodup
  have hlookup := lookup_applyAll h hnodup
  constructor
  case one =>
      intro t ht
      obtain ⟨i, hi⟩ := List.mem_iff_getElem?.mp (mem_ids_applyAll h hnodup ht)
      refine ⟨i, fun j => ⟨fun hj => HealthMonitor.index_unique hnodup' hj hi, fun hj => ?_⟩⟩
      rw [hj]
      exact hi
  case last =>
      intro i s hs t ht
      obtain ⟨boxId, hfinds⟩ := hlookup s.nodeId
      rw [lookup_of_getElem? hnodup' hs, ht] at hfinds
      rw [Option.some.inj hfinds]
      exact ⟨rfl, rfl⟩
  case others =>
      intro i s hother
      obtain ⟨boxId, hfinds⟩ := hlookup s.nodeId
      rw [getLast?_entriesOf_eq_none.mpr hother] at hfinds
      constructor
      · intro hs
        have hold : hm.lookup s.nodeId = some s :=
          hfinds.symm.trans (lookup_of_getElem? hnodup' hs)
        obtain ⟨k, hk⟩ := List.mem_iff_getElem?.mp (mem_of_lookup hold)
        obtain rfl : k = i := HealthMonitor.index_unique hnodup'
          (getElem?_of_initial hgrown (getElem?_ids hk)) (getElem?_ids hs)
        exact hk
      · intro hs
        refine getElem?_of_lookup hnodup' (getElem?_of_initial hgrown (getElem?_ids hs)) ?_
        exact hfinds.trans (lookup_of_getElem? hnodup hs)
  case kept =>
      intro i s hs
      obtain ⟨boxId, hfinds⟩ := hlookup s.nodeId
      have hindex := getElem?_of_initial hgrown (getElem?_ids hs)
      have hold := lookup_of_getElem? hnodup hs
      cases hlast : (entriesOf s.nodeId ts).getLast? with
      | none =>
          rw [hlast, hold] at hfinds
          exact ⟨s, getElem?_of_lookup hnodup' hindex hfinds, rfl, rfl, rfl, rfl⟩
      | some t =>
          rw [hlast, slotOf_eq hold] at hfinds
          exact ⟨_, getElem?_of_lookup hnodup' hindex hfinds, rfl, rfl, rfl, rfl⟩

/-- Two monitors that apply one sequence, each with room for the nodes it names, hold exactly one entry
for every target, with the status and the term of its last transition, and have changed nothing
else. -/
theorem replicas_agree (c₁ c₂ : Setup) (ops₁ ops₂ : List MonitorOp) (ts : List Transition)
    (h₁ : Fits (c₁.reach ops₁).hm ts) (h₂ : Fits (c₂.reach ops₂).hm ts) :
    AppliesAll (c₁.reach ops₁).hm ts ∧ AppliesAll (c₂.reach ops₂).hm ts ∧
      ∀ t ∈ ts, ∃ s₁ s₂, (applyAll (c₁.reach ops₁).hm ts).lookup t.targetNode = some s₁ ∧
        (applyAll (c₂.reach ops₂).hm ts).lookup t.targetNode = some s₂ ∧
        s₁.status = s₂.status ∧ s₁.entry.statusTerm = s₂.entry.statusTerm := by
  refine ⟨appliesAll h₁ (c₁.reach_nodup ops₁), appliesAll h₂ (c₂.reach_nodup ops₂), fun t ht => ?_⟩
  obtain ⟨box₁, hlookup₁⟩ := lookup_applyAll h₁ (c₁.reach_nodup ops₁) t.targetNode
  obtain ⟨box₂, hlookup₂⟩ := lookup_applyAll h₂ (c₂.reach_nodup ops₂) t.targetNode
  cases hlast : (entriesOf t.targetNode ts).getLast? with
  | none => exact absurd (List.mem_map_of_mem ht) (getLast?_entriesOf_eq_none.mp hlast)
  | some u =>
      rw [hlast] at hlookup₁ hlookup₂
      exact ⟨_, _, hlookup₁, hlookup₂, rfl, rfl⟩

/-- The leader of box 1 and a follower of box 2 that knows another node: both hold node 5 as DOWN in
term 3. -/
theorem replicas_agree_two_boxes :
    ((applyAll (leaderOfBox1.reach silentRun).hm
          [⟨5, 1, nodeUp, nodeSuspect, 2⟩, ⟨5, 1, nodeSuspect, nodeDown, 3⟩]).statusOf 5 = nodeDown) ∧
      AppliesAll (({ followerOfBox1 with boxId := 2 } : Setup).reach [.announce 9 ⟨2⟩ 10]).hm
        [⟨5, 1, nodeUp, nodeSuspect, 2⟩, ⟨5, 1, nodeSuspect, nodeDown, 3⟩] := by
  refine ⟨by decide +kernel, (replicas_agree leaderOfBox1 _ silentRun _ _ ?_ ?_).2.1⟩
  all_goals decide +kernel

end L2Oracle
