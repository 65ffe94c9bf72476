import L2Oracle.Health.Run

/-!
# Corroboration and what the peers reported

A DOWN for a node of another box needs `CORROBORATION_K` peers whose rows of the corroboration matrix
hold the node as SUSPECT or worse and are fresh. Freshness is one time for a whole row, written by
every response with observations, while a cell is written only by a response that lists its node. So
a response that leaves a node out makes an old cell fresh again. Two more things let a cell count that
no recent report stands behind: a node id past the end of a row, which reads another cell, and an age
that is taken modulo `2^32`.

In every reachable state a cell holds its peer's last report of the node and a row the time of the peer's
last response (`MatrixRecords`). `CellsCurrent` is the invariant without the three causes: a cell that
holds SUSPECT or worse is its peer's last report of the node, and that report came in the peer's last
response.
-/

namespace L2Oracle

open Base

/-- The last status that a list of observations gives for a node. -/
def reported (node : Nat) (obs : List ObservationEntry) : Option UInt8 :=
  (obs.filter fun ob => ob.nodeId.toNat = node).getLast?.map ObservationEntry.observedStatus

/-- The status and the time of a peer's most recent observation of a node. -/
def lastReport (peer node : Nat) (ops : List MonitorOp) : Option (UInt8 × Nat) :=
  ops.foldl (fun last op =>
    match op with
    | .observe p obs now =>
        if p.toNat = peer then ((reported node obs).map (·, now)).or last else last
    | _ => last) none

/-- The time of a peer's last response with observations. -/
def lastResponse (peer : Nat) (ops : List MonitorOp) : Option Nat :=
  ops.foldl (fun last op =>
    match op with
    | .observe p obs now => if p.toNat = peer ∧ obs ≠ [] then some now else last
    | _ => last) none

/-- A tick proposes DOWN for a node of another box only if `CORROBORATION_K` peers reported the node
as SUSPECT or worse in the last `STALE_OBS_MS`, as their most recent observation of it. -/
def DownCorroborated (c : Setup) (pre : List MonitorOp) : MonitorOp → Prop
  | .tick now beyond =>
      ∀ call ∈ (c.reach pre).callsOf (.tick now beyond),
        call.1.newStatus = nodeDown → call.1.targetBox ≠ c.boxId →
          ∃ peers : List Nat, peers.Nodup ∧ corroborationK ≤ peers.length ∧
            ∀ p ∈ peers, ∃ status time, lastReport p call.1.targetNode.toNat pre
              = some (status, time) ∧ nodeSuspect ≤ status ∧
                time ≤ now ∧ now ≤ time + staleObsMs.toNat
  | _ => True

/-- A response of a peer lists every node again that the peer's row holds as SUSPECT or worse. On a
leader's tick, every node of another box that is due for DOWN has a column in the matrix, and no
response looks fresh only because its age wrapped. -/
def ReportsCurrent (c : Setup) (pre : List MonitorOp) : MonitorOp → Prop
  | .observe peer obs _ =>
      obs ≠ [] → peer.toNat < oracleMaxNodes → ∀ node < maxHealthNodes,
        nodeSuspect ≤ (c.reach pre).hm.corroboration.status (corroborationOffset peer.toNat node) →
          ∃ ob ∈ obs, ob.nodeId.toNat = node
  | .tick now _ =>
      (c.reach pre).port.leader →
        (∀ s ∈ (c.reach pre).hm.slots, s.boxId ≠ c.boxId → s.status = nodeSuspect →
          TimerExpired (clock now) s → s.nodeId.toNat < maxHealthNodes) ∧
        ∀ p < oracleMaxNodes, ∀ time ∈ lastResponse p pre,
          (now - time) % 2 ^ 32 ≤ staleObsMs.toNat → now - time ≤ staleObsMs.toNat
  | _ => True

instance (c : Setup) (pre : List MonitorOp) : ∀ op, Decidable (ReportsCurrent c pre op)
  | .observe .. | .tick .. => inferInstanceAs (Decidable (_ → _))
  | .announce .. | .heartbeat .. | .apply .. | .lead .. => inferInstanceAs (Decidable True)

/-! ### One response -/

theorem reported_snoc (node : Nat) (obs : List ObservationEntry) (ob : ObservationEntry) :
    reported node (obs ++ [ob])
      = if ob.nodeId.toNat = node then some ob.observedStatus else reported node obs := by
  unfold reported
  rw [List.filter_append]
  by_cases h : ob.nodeId.toNat = node <;> simp [h]

theorem reported_eq_none {node : Nat} {obs : List ObservationEntry} (h : reported node obs = none) :
    ∀ ob ∈ obs, ob.nodeId.toNat ≠ node := by
  simpa [reported, List.getLast?_eq_none_iff] using h

theorem reported_of_mem {obs : List ObservationEntry} {ob : ObservationEntry} (hmem : ob ∈ obs)
    (hsame : ∀ ob' ∈ obs, ob'.nodeId.toNat = ob.nodeId.toNat →
      ob'.observedStatus = ob.observedStatus) :
    reported ob.nodeId.toNat obs = some ob.observedStatus := by
  cases hreported : reported ob.nodeId.toNat obs with
  | none => exact absurd rfl (reported_eq_none hreported ob hmem)
  | some status =>
      obtain ⟨last, hlast, rfl⟩ := Option.map_eq_some_iff.mp hreported
      obtain ⟨hin, hid⟩ := List.mem_filter.mp (List.mem_of_getLast? hlast)
      exact congrArg some (hsame last hin (of_decide_eq_true hid))

theorem reported_of_not_mem {obs : List ObservationEntry} {node : Nat}
    (h : ∀ ob ∈ obs, ob.nodeId.toNat ≠ node) : reported node obs = none := by
  have hnil : obs.filter (fun ob => ob.nodeId.toNat = node) = [] :=
    List.filter_eq_nil_iff.mpr fun ob hob => by simpa using h ob hob
  rw [reported, hnil]
  rfl

/-- What a table reports of a node: the status of its slot if that is one of the first. -/
theorem reported_getObservations {hm : HealthMonitor} (hnodup : hm.ids.Nodup) {i : Nat} {s : Slot}
    (hs : hm.slots[i]? = some s) :
    reported s.nodeId.toNat (healthMonitorGetObservations hm)
      = if i < maxObservationsPerResp then some s.status else none := by
  -- a slot that is reported under the same id is the same slot
  have hunique {j : Nat} {s' : Slot} (hj : hm.slots[j]? = some s')
      (hid : s'.nodeId.toNat = s.nodeId.toNat) : j = i := by
    have hidj : hm.ids[j]? = some s.nodeId := by
      rw [HealthMonitor.ids, List.getElem?_map, hj, Option.map_some, UInt8.toNat.inj hid]
    have hidi : hm.ids[i]? = some s.nodeId := by
      rw [HealthMonitor.ids, List.getElem?_map, hs, Option.map_some]
    exact HealthMonitor.index_unique hnodup hidj hidi
  have hindex {ob : ObservationEntry} (hob : ob ∈ healthMonitorGetObservations hm) :
      ∃ j s', j < maxObservationsPerResp ∧ hm.slots[j]? = some s' ∧ ob.nodeId = s'.nodeId ∧
        ob.observedStatus = s'.status := by
    obtain ⟨s', hs', rfl⟩ := List.mem_map.mp hob
    obtain ⟨j, hj⟩ := List.mem_iff_getElem?.mp hs'
    rw [List.getElem?_take] at hj
    split at hj
    · rename_i hlt
      exact ⟨j, s', hlt, hj, rfl, rfl⟩
    · cases hj
  split
  · rename_i hi
    have hmem : (⟨s.nodeId, s.status, confidence s.status⟩ : ObservationEntry) ∈
        healthMonitorGetObservations hm := by
      refine List.mem_map.mpr ⟨s, List.mem_iff_getElem?.mpr ⟨i, ?_⟩, rfl⟩
      rw [List.getElem?_take, if_pos hi, hs]
    refine reported_of_mem hmem fun ob' hob' hid => ?_
    obtain ⟨j, s', -, hj, hid', hstatus⟩ := hindex hob'
    rw [hid'] at hid
    have hsame := hunique hj hid
    rw [hsame, hs] at hj
    rw [hstatus, ← Option.some.inj hj]
  · rename_i hi
    refine reported_of_not_mem fun ob hob hid => hi ?_
    obtain ⟨j, s', hlt, hj, hid', -⟩ := hindex hob
    rw [hid'] at hid
    exact hunique hj hid ▸ hlt

theorem corroborationOffset_inj {p q n m : Nat} (hn : n < maxHealthNodes) (hm : m < maxHealthNodes) :
    corroborationOffset p n = corroborationOffset q m ↔ p = q ∧ n = m := by
  unfold corroborationOffset maxHealthNodes at *
  omega

theorem recordObservation_status {peer : UInt8} {p node : Nat} (hnode : node < maxHealthNodes)
    (table : CorroborationTable) (ob : ObservationEntry) :
    (recordObservation peer table ob).status (corroborationOffset p node)
      = if p = peer.toNat ∧ ob.nodeId.toNat = node then ob.observedStatus
        else table.status (corroborationOffset p node) := by
  unfold recordObservation
  by_cases hob : ob.nodeId.toNat < maxHealthNodes
  · rw [if_pos hob]
    simp only [Function.update_apply, corroborationOffset_inj hnode hob]
    by_cases hp : p = peer.toNat <;> simp [hp, eq_comm]
  · have hne : ob.nodeId.toNat ≠ node := fun h => hob (h ▸ hnode)
    simp [hob, hne]

/-- A response writes the last status it gives for a node into the peer's row, and nothing else. -/
theorem foldl_recordObservation_status {peer : UInt8} {p node : Nat} (hnode : node < maxHealthNodes)
    (table : CorroborationTable) (obs : List ObservationEntry) :
    (obs.foldl (recordObservation peer) table).status (corroborationOffset p node)
      = if p = peer.toNat then (reported node obs).getD (table.status (corroborationOffset p node))
        else table.status (corroborationOffset p node) := by
  induction obs using List.reverseRecOn with
  | nil => simp [reported]
  | append_singleton obs ob ih =>
      rw [List.foldl_append, List.foldl_cons, List.foldl_nil, recordObservation_status hnode, ih,
        reported_snoc]
      by_cases hp : p = peer.toNat
      · by_cases hob : ob.nodeId.toNat = node <;> simp [hp, hob]
      · simp [hp]

theorem foldl_recordObservation_updatedMs (peer : UInt8) (table : CorroborationTable)
    (obs : List ObservationEntry) :
    (obs.foldl (recordObservation peer) table).updatedMs = table.updatedMs := by
  induction obs using List.reverseRecOn with
  | nil => rfl
  | append_singleton obs ob ih =>
      rw [List.foldl_append, List.foldl_cons, List.foldl_nil, ← ih]
      unfold recordObservation
      split <;> rfl

/-- Only a response with observations, of a peer that has a row, changes the matrix. -/
theorem MonitorState.step_corroboration (s : MonitorState) (op : MonitorOp) :
    (s.step op).hm.corroboration = match op with
      | .observe peer obs now =>
          if obs = [] ∨ oracleMaxNodes ≤ peer.toNat then s.hm.corroboration
          else (healthMonitorUpdateCorroboration s.hm peer obs (clock now)).corroboration
      | _ => s.hm.corroboration := by
  rw [step_hm]
  cases op with
  | heartbeat srcNode hb now =>
      simp only [nextMonitor, heardMonitor]
      split <;> rfl
  | observe peer obs now =>
      simp only [nextMonitor, healthMonitorUpdateCorroboration]
      by_cases hnil : obs = []
      · simp [hnil]
      · by_cases hpeer : oracleMaxNodes ≤ peer.toNat <;> simp [hnil, hpeer]
  | announce | tick | apply | lead => simp [nextMonitor, tickedMonitor]

/-- What an operation writes into a cell. -/
def MonitorOp.writesCell (p node : Nat) : MonitorOp → Option UInt8
  | .observe peer obs _ => if p = peer.toNat ∧ p < oracleMaxNodes then reported node obs else none
  | _ => none

/-- The time that an operation stamps a row with. -/
def MonitorOp.stampsRow (p : Nat) : MonitorOp → Option UInt32
  | .observe peer obs now =>
      if p = peer.toNat ∧ p < oracleMaxNodes ∧ obs ≠ [] then some (clock now) else none
  | _ => none

theorem MonitorState.step_cell (s : MonitorState) (op : MonitorOp) {p node : Nat} (hnode : node < maxHealthNodes) :
    (s.step op).hm.corroboration.status (corroborationOffset p node)
      = (op.writesCell p node).getD (s.hm.corroboration.status (corroborationOffset p node)) := by
  rw [step_corroboration]
  cases op with
  | observe peer obs now =>
      simp only [MonitorOp.writesCell]
      by_cases hwrites : obs = [] ∨ oracleMaxNodes ≤ peer.toNat
      · have hnothing : (if p = peer.toNat ∧ p < oracleMaxNodes then reported node obs else none)
            = none := by
          split
          · rename_i hrow
            rcases hwrites with hnil | hpeer
            · simp [hnil, reported]
            · omega
          · rfl
        rw [if_pos hwrites, hnothing, Option.getD_none]
      · obtain ⟨-, hpeer⟩ := not_or.mp hwrites
        rw [if_neg hwrites, healthMonitorUpdateCorroboration, if_neg hpeer]
        dsimp only
        rw [foldl_recordObservation_status hnode]
        by_cases hrow : p = peer.toNat
        · rw [if_pos hrow, if_pos ⟨hrow, by omega⟩]
        · rw [if_neg hrow, if_neg fun h => hrow h.1, Option.getD_none]
  | announce | heartbeat | tick | apply | lead => rfl

theorem MonitorState.step_row (s : MonitorState) (op : MonitorOp) (p : Nat) :
    (s.step op).hm.corroboration.updatedMs p
      = (op.stampsRow p).getD (s.hm.corroboration.updatedMs p) := by
  rw [step_corroboration]
  cases op with
  | observe peer obs now =>
      simp only [MonitorOp.stampsRow]
      by_cases hwrites : obs = [] ∨ oracleMaxNodes ≤ peer.toNat
      · rw [if_pos hwrites, if_neg]
        · rfl
        · rintro ⟨rfl, hlt, hsome⟩
          rcases hwrites with hnil | hpeer
          · exact hsome hnil
          · omega
      · obtain ⟨hsome, hpeer⟩ := not_or.mp hwrites
        rw [if_neg hwrites, healthMonitorUpdateCorroboration, if_neg hpeer]
        dsimp only
        rw [foldl_recordObservation_updatedMs, Function.update_apply]
        by_cases hrow : p = peer.toNat
        · rw [if_pos hrow, if_pos ⟨hrow, by omega, hsome⟩]
          rfl
        · rw [if_neg hrow, if_neg fun h => hrow h.1]
          rfl
  | announce | heartbeat | tick | apply | lead => rfl

/-- A response without observations, or of another peer, leaves a peer's row alone. -/
theorem writes_nothing {p : Nat} {peer : UInt8} {obs : List ObservationEntry}
    (hkept : ¬(peer.toNat = p ∧ obs ≠ [])) (node now : Nat) :
    (MonitorOp.observe peer obs now).writesCell p node = none ∧
      (MonitorOp.observe peer obs now).stampsRow p = none := by
  refine ⟨?_, if_neg fun h => hkept ⟨h.1.symm, h.2.2⟩⟩
  rw [MonitorOp.writesCell]
  split
  · rename_i hrow
    have hnil : obs = [] := by
      by_contra hsome
      exact hkept ⟨hrow.1.symm, hsome⟩
    rw [hnil]
    rfl
  · rfl

/-! ### The matrix and the history -/

theorem lastReport_observe (p node : Nat) (pre : List MonitorOp) (peer : UInt8)
    (obs : List ObservationEntry) (now : Nat) :
    lastReport p node (pre ++ [.observe peer obs now]) = if peer.toNat = p then
      ((reported node obs).map (·, now)).or (lastReport p node pre) else lastReport p node pre := by
  simp [lastReport]

theorem lastResponse_observe (p : Nat) (pre : List MonitorOp) (peer : UInt8)
    (obs : List ObservationEntry) (now : Nat) :
    lastResponse p (pre ++ [.observe peer obs now])
      = if peer.toNat = p ∧ obs ≠ [] then some now else lastResponse p pre := by
  simp [lastResponse]

theorem lastReport_of_ne_observe {op : MonitorOp} (h : ∀ peer obs now, op ≠ .observe peer obs now)
    (p node : Nat) (pre : List MonitorOp) : lastReport p node (pre ++ [op]) = lastReport p node pre := by
  cases op with
  | observe peer obs now => exact absurd rfl (h peer obs now)
  | announce | heartbeat | tick | apply | lead => simp [lastReport]

theorem lastResponse_of_ne_observe {op : MonitorOp} (h : ∀ peer obs now, op ≠ .observe peer obs now)
    (p : Nat) (pre : List MonitorOp) : lastResponse p (pre ++ [op]) = lastResponse p pre := by
  cases op with
  | observe peer obs now => exact absurd rfl (h peer obs now)
  | announce | heartbeat | tick | apply | lead => simp [lastResponse]

/-- The status that a peer last reported, after one more operation. -/
theorem map_lastReport_snoc {p : Nat} (hp : p < oracleMaxNodes) (node : Nat) (pre : List MonitorOp)
    (op : MonitorOp) : (lastReport p node (pre ++ [op])).map Prod.fst
      = (op.writesCell p node).or ((lastReport p node pre).map Prod.fst) := by
  cases op with
  | observe peer obs now =>
      rw [lastReport_observe]
      by_cases hid : peer.toNat = p
      · rw [if_pos hid, MonitorOp.writesCell, if_pos ⟨hid.symm, hp⟩]
        cases reported node obs <;> rfl
      · rw [if_neg hid, MonitorOp.writesCell, if_neg fun h => hid h.1.symm, Option.none_or]
  | announce | heartbeat | tick | apply | lead =>
      rw [lastReport_of_ne_observe (by simp)]
      exact (Option.none_or ..).symm

theorem map_lastResponse_snoc {p : Nat} (hp : p < oracleMaxNodes) (pre : List MonitorOp)
    (op : MonitorOp) : (lastResponse p (pre ++ [op])).map clock
      = (op.stampsRow p).or ((lastResponse p pre).map clock) := by
  cases op with
  | observe peer obs now =>
      rw [lastResponse_observe]
      by_cases hrow : peer.toNat = p ∧ obs ≠ []
      · rw [if_pos hrow, MonitorOp.stampsRow, if_pos ⟨hrow.1.symm, hp, hrow.2⟩]
        rfl
      · rw [if_neg hrow, MonitorOp.stampsRow, if_neg fun h => hrow ⟨h.1.symm, h.2.2⟩, Option.none_or]
  | announce | heartbeat | tick | apply | lead =>
      rw [lastResponse_of_ne_observe (by simp)]
      exact (Option.none_or ..).symm

theorem lastReport_kept {p : Nat} {peer : UInt8} {obs : List ObservationEntry}
    (hkept : ¬(peer.toNat = p ∧ obs ≠ [])) (node : Nat) (pre : List MonitorOp) (now : Nat) :
    lastReport p node (pre ++ [.observe peer obs now]) = lastReport p node pre := by
  rw [lastReport_observe]
  split
  · rename_i hid
    have hnil : obs = [] := by
      by_contra hsome
      exact hkept ⟨hid, hsome⟩
    simp [hnil, reported]
  · rfl

/-- A cell of the matrix holds the last report, and the row the time of the last response. -/
structure MatrixRecords (table : CorroborationTable) (pre : List MonitorOp) (p node : Nat) : Prop where
  cell : table.status (corroborationOffset p node) = ((lastReport p node pre).map Prod.fst).getD 0
  row : table.updatedMs p = ((lastResponse p pre).map clock).getD 0
  responded : lastReport p node pre ≠ none → lastResponse p pre ≠ none

theorem matrixRecords_init (transport : Bool) (boxId : UInt8) (p node : Nat) :
    MatrixRecords (healthMonitorInit transport boxId).corroboration [] p node :=
  ⟨rfl, rfl, fun h => absurd rfl h⟩

theorem MatrixRecords.step {s : MonitorState} {pre : List MonitorOp} {p node : Nat}
    (h : MatrixRecords s.hm.corroboration pre p node) (hp : p < oracleMaxNodes)
    (hnode : node < maxHealthNodes) (op : MonitorOp) :
    MatrixRecords (s.step op).hm.corroboration (pre ++ [op]) p node where
  cell := by rw [MonitorState.step_cell s op hnode, map_lastReport_snoc hp, Option.getD_or, h.cell]
  row := by rw [MonitorState.step_row, map_lastResponse_snoc hp, Option.getD_or, h.row]
  responded := by
    cases op with
    | observe peer obs now =>
        rw [lastResponse_observe]
        by_cases hrow : peer.toNat = p ∧ obs ≠ []
        · rw [if_pos hrow]
          exact fun _ => Option.some_ne_none now
        · rw [if_neg hrow, lastReport_kept hrow]
          exact h.responded
    | announce | heartbeat | tick | apply | lead =>
        rw [lastReport_of_ne_observe (by simp), lastResponse_of_ne_observe (by simp)]
        exact h.responded

theorem Setup.matrixRecords (c : Setup) (pre : List MonitorOp) {p node : Nat} (hp : p < oracleMaxNodes)
    (hnode : node < maxHealthNodes) :
    MatrixRecords (c.reach pre).hm.corroboration pre p node := by
  induction pre using List.reverseRecOn with
  | nil => exact matrixRecords_init c.transport c.boxId p node
  | append_singleton pre op ih =>
      rw [reach_snoc]
      exact ih.step hp hnode op

/-! ### The invariant along a run -/

/-- Every cell that holds SUSPECT or worse is the peer's last report of its node, made in the peer's
last response, whose time the row carries. -/
def CellsCurrent (c : Setup) (pre : List MonitorOp) : Prop :=
  ∀ p < oracleMaxNodes, ∀ node < maxHealthNodes,
    nodeSuspect ≤ (c.reach pre).hm.corroboration.status (corroborationOffset p node) →
      ∃ time, lastReport p node pre = some
          ((c.reach pre).hm.corroboration.status (corroborationOffset p node), time) ∧
        lastResponse p pre = some time ∧
        (c.reach pre).hm.corroboration.updatedMs p = clock time

theorem CellsCurrent.observe {c : Setup} {pre : List MonitorOp} {peer : UInt8}
    {obs : List ObservationEntry} {now : Nat} (h : CellsCurrent c pre)
    (hlists : ReportsCurrent c pre (.observe peer obs now)) :
    CellsCurrent c (pre ++ [.observe peer obs now]) := by
  intro p hp node hnode hcell
  rw [Setup.reach_snoc, MonitorState.step_cell _ _ hnode] at hcell ⊢
  rw [MonitorState.step_row]
  by_cases hrow : peer.toNat = p ∧ obs ≠ []
  · -- the row is written: its time is now, and the response lists the node or the cell was UP
    rw [lastReport_observe, lastResponse_observe, if_pos hrow.1, if_pos hrow, MonitorOp.stampsRow,
      if_pos ⟨hrow.1.symm, hp, hrow.2⟩]
    rw [MonitorOp.writesCell, if_pos ⟨hrow.1.symm, hp⟩] at hcell ⊢
    cases hreported : reported node obs with
    | some status => exact ⟨now, rfl, rfl, rfl⟩
    | none =>
        rw [hreported, Option.getD_none, ← hrow.1] at hcell
        obtain ⟨ob, hob, hid⟩ := hlists hrow.2 (hrow.1 ▸ hp) node hnode hcell
        exact absurd hid (reported_eq_none hreported ob hob)
  · obtain ⟨hcells, hrows⟩ := writes_nothing hrow node now
    rw [hcells] at hcell ⊢
    rw [hrows, lastReport_kept hrow, lastResponse_observe, if_neg hrow]
    exact h p hp node hnode hcell

theorem CellsCurrent.step {c : Setup} {pre : List MonitorOp} {op : MonitorOp}
    (h : CellsCurrent c pre) (hcurrent : ReportsCurrent c pre op) : CellsCurrent c (pre ++ [op]) := by
  cases op with
  | observe peer obs now => exact h.observe hcurrent
  | announce | heartbeat | tick | apply | lead =>
      intro p hp node hnode hcell
      rw [Setup.reach_snoc, MonitorState.step_corroboration] at hcell ⊢
      obtain ⟨time, hreport, hresponse, hupdated⟩ := h p hp node hnode hcell
      exact ⟨time, by simpa [lastReport] using hreport, by simpa [lastResponse] using hresponse,
        hupdated⟩

/-! ### The tick -/

theorem clock_sub_clock {now time : Nat} (h : time ≤ now) :
    (clock now - clock time).toNat = (now - time) % 2 ^ 32 := by
  rw [UInt32.toNat_sub, clock, clock, UInt32.toNat_ofNat', UInt32.toNat_ofNat']
  omega

theorem lastResponse_mem_times {p time : Nat} {ops : List MonitorOp}
    (h : lastResponse p ops = some time) : time ∈ times ops := by
  induction ops using List.reverseRecOn with
  | nil => cases h
  | append_singleton ops op ih =>
      rw [times_snoc, List.mem_append]
      cases op with
      | observe peer obs now =>
          rw [lastResponse_observe] at h
          split at h
          · exact .inr (by simpa [MonitorOp.time?] using h.symm)
          · exact .inl (ih h)
      | announce | heartbeat | tick | apply | lead =>
          exact .inl (ih (by simpa [lastResponse] using h))

/-- Where cells are current, a peer that agrees has reported the node in the last `STALE_OBS_MS`. -/
theorem CellsCurrent.report_of_agrees {c : Setup} {pre : List MonitorOp} {now p : Nat}
    {beyond : Nat → UInt8} {node : UInt8} (h : CellsCurrent c pre)
    (hafter : ∀ t ∈ times pre, t ≤ now)
    (hwrap : ∀ time ∈ lastResponse p pre,
      (now - time) % 2 ^ 32 ≤ staleObsMs.toNat → now - time ≤ staleObsMs.toNat)
    (hp : p < oracleMaxNodes) (hnode : node.toNat < maxHealthNodes)
    (hagrees : peerAgrees (c.reach pre).hm beyond node (clock now) p = true) :
    ∃ status time, lastReport p node.toNat pre = some (status, time) ∧ nodeSuspect ≤ status ∧
      time ≤ now ∧ now ≤ time + staleObsMs.toNat := by
  have hinside : corroborationOffset p node.toNat < maxHealthNodes * oracleMaxNodes := by
    unfold corroborationOffset maxHealthNodes oracleMaxNodes at *
    omega
  rw [peerAgrees] at hagrees
  split at hagrees
  · cases hagrees
  · rename_i hfresh
    simp only [if_pos hinside, decide_eq_true_eq] at hagrees
    obtain ⟨time, hreport, hresponse, hupdated⟩ := h p hp node.toNat hnode hagrees
    have htime := hafter time (lastResponse_mem_times hresponse)
    rw [hupdated, gt_iff_lt, UInt32.lt_iff_toNat_lt, clock_sub_clock htime, not_lt] at hfresh
    have hage := hwrap time hresponse hfresh
    exact ⟨_, time, hreport, hagrees, htime, by omega⟩

/-- In every run whose times are in order, as long as the peers' responses keep listing what their
rows hold and the matrix is read inside its columns and its clock's range, DOWN is only proposed for a
node of another box that `CORROBORATION_K` peers really reported. -/
theorem down_corroborated {c : Setup} {ops : List MonitorOp} (hordered : TimesOrdered ops)
    (hcurrent : Throughout (ReportsCurrent c) ops) : Throughout (DownCorroborated c) ops := by
  intro pre op post hsplit
  have hpre : CellsCurrent c pre := by
    refine (hcurrent.of_initial ⟨op :: post, hsplit.symm⟩).induction (I := CellsCurrent c) ?_
      fun pre op hinv => hinv.step
    intro p _ node _ hcell
    exact absurd hcell (show ¬nodeSuspect ≤ 0 by decide)
  cases op with
  | announce | heartbeat | apply | observe | lead => trivial
  | tick now beyond =>
      intro call hcall hdown hbox
      rw [MonitorState.callsOf_eq] at hcall
      obtain ⟨q, hq, hcall⟩ := OraclePort.mem_recorded hcall
      obtain ⟨-, slot, hslot, hprop⟩ := mem_tickProposals.mp hq
      rw [hcall] at hdown hbox ⊢
      rcases slotProposal_eq_some.mp hprop with ⟨-, -, rfl⟩ | ⟨hsus, hexpired, hleader, hcorr, rfl⟩
      · exact absurd hdown.symm nodeDown_ne_nodeSuspect
      · obtain ⟨hcolumn, hwrap⟩ := hcurrent pre _ post hsplit hleader
        have hremote : slot.boxId ≠ c.boxId := hbox
        rw [corroborated, if_neg (by rwa [c.reach_boxId]), decide_eq_true_eq,
          List.countP_eq_length_filter] at hcorr
        refine ⟨_, List.nodup_range.filter _, hcorr, fun p hp => ?_⟩
        obtain ⟨hlt, hagrees⟩ := List.mem_filter.mp hp
        rw [List.mem_range] at hlt
        exact hpre.report_of_agrees
          (fun t ht => TimesOrdered.le_of_split (hsplit ▸ hordered) rfl ht) (hwrap p hlt) hlt
          (hcolumn slot hslot hremote hsus hexpired) hagrees

/-- A leader commits SUSPECT for node 7 of box 2, and two peers report the node before the tick that
proposes DOWN. -/
def agreedRun : List MonitorOp :=
  [.apply ⟨7, 2, nodeUp, nodeSuspect, 1⟩, .tick 10 zeros, .observe 2 [⟨7, nodeSuspect, 128⟩] 100,
    .observe 3 [⟨7, nodeDown, 0⟩] 110, .tick 120 zeros]

theorem down_corroborated_agreedRun :
    (leaderOfBox1.reach agreedRun).port.log = [⟨7, 2, nodeSuspect, nodeDown, 1⟩] ∧
      Throughout (DownCorroborated leaderOfBox1) agreedRun :=
  ⟨by decide +kernel, down_corroborated (by decide +kernel) (by decide +kernel)⟩

/-- The peers report the node once and then, 900 ms later, only another node. -/
def refreshedRun : List MonitorOp :=
  [.apply ⟨7, 2, nodeUp, nodeSuspect, 1⟩, .tick 10 zeros, .observe 2 [⟨7, nodeSuspect, 128⟩] 100,
    .observe 3 [⟨7, nodeSuspect, 128⟩] 100, .observe 2 [⟨6, nodeUp, 255⟩] 1000,
    .observe 3 [⟨6, nodeUp, 255⟩] 1000, .tick 1010 zeros]

/-- The later responses make the old reports fresh, so DOWN is proposed on them. -/
theorem uncorroborated_refreshedRun :
    TimesOrdered refreshedRun ∧ ¬Throughout (DownCorroborated leaderOfBox1) refreshedRun := by
  refine ⟨by decide +kernel, fun h => ?_⟩
  have htick := h (refreshedRun.take 6) (.tick 1010 zeros) [] rfl
  have hcalls : (leaderOfBox1.reach (refreshedRun.take 6)).callsOf (.tick 1010 zeros)
      = [(⟨7, 2, nodeSuspect, nodeDown, 1⟩, 0)] := by decide +kernel
  obtain ⟨peers, -, hlength, hpeers⟩ := htick (⟨7, 2, nodeSuspect, nodeDown, 1⟩, 0)
    (by rw [hcalls]; exact List.mem_singleton_self _) rfl (by decide)
  obtain ⟨p, hp⟩ := List.exists_mem_of_length_pos (show 0 < peers.length from by
    have htwo : corroborationK = 2 := rfl
    omega)
  obtain ⟨status, time, hreport, -, -, hrecent⟩ := hpeers p hp
  have hlast : lastReport p 7 (refreshedRun.take 6)
      = if 3 = p then some (nodeSuspect, 100) else if 2 = p then some (nodeSuspect, 100)
        else none := by
    simp [lastReport, reported, refreshedRun]
  have htime : time = 100 := by
    rw [show lastReport p 7 (refreshedRun.take 6) = some (status, time) from hreport] at hlast
    split_ifs at hlast <;> simp_all
  have hstale : staleObsMs.toNat = 500 := rfl
  omega

end L2Oracle
