import L2Oracle.Base.PrefixBy
import L2Oracle.Health.Agreement

/-!
# A failure that a follower sees

A leader and a follower, each with its monitor. The follower packs its observations into the responses
it sends, the responses wait in flight, and the leader dispatches any of them, any number of times, at
any later point.

A response that the leader dispatches makes the follower count as a peer that agrees (`Relayed.counted`):
it writes the follower's cell of the node and the time of its row, and what the leader hears from the
follower after it either leaves the node out or says the same, unless it is older. But peers are only
counted for an entry that the leader's own table holds as SUSPECT with its timer run out. So the
observation of a node that the leader does not know, or holds as UP, proposes nothing by itself.
-/

namespace L2Oracle

open Base

structure RelaySetup where
  leader : Setup
  follower : Setup
  /-- The follower's node id, under which its responses arrive. -/
  followerId : UInt8
  /-- What the leader's log held before it led. -/
  earlier : List Transition

structure RelayState where
  leader : MonitorState
  follower : MonitorState
  /-- The observations of the responses that the follower has sent, oldest first. -/
  responses : List (List ObservationEntry)

inductive RelayEvent where
  | leader (op : MonitorOp)
  | follower (op : MonitorOp)
  /-- The follower answers an AppendEntries. -/
  | respond
  /-- The leader dispatches the `k`-th response. -/
  | dispatch (k : Nat) (now : Nat)

def RelayState.step (followerId : UInt8) (s : RelayState) : RelayEvent → RelayState
  | .leader op => { s with leader := s.leader.step op }
  | .follower op => { s with follower := s.follower.step op }
  | .respond =>
      { s with responses := s.responses ++ [healthMonitorGetObservations s.follower.hm] }
  | .dispatch k now =>
      match s.responses[k]? with
      | none => s
      | some obs => { s with leader := s.leader.step (.observe followerId obs now) }

def RelaySetup.init (c : RelaySetup) : RelayState := ⟨c.leader.init, c.follower.init, []⟩

def RelaySetup.reach (c : RelaySetup) (es : List RelayEvent) : RelayState :=
  run (RelayState.step c.followerId) c.init es

theorem RelaySetup.reach_snoc (c : RelaySetup) (es : List RelayEvent) (e : RelayEvent) :
    c.reach (es ++ [e]) = (c.reach es).step c.followerId e := by
  simp [reach]

/-- What an event is to the leader's monitor. -/
def RelayState.leaderOp (followerId : UInt8) (s : RelayState) : RelayEvent → Option MonitorOp
  | .leader op => some op
  | .dispatch k now => s.responses[k]?.map (.observe followerId · now)
  | .follower _ | .respond => none

/-- What an event is to the follower's monitor. -/
def RelayState.followerOp (_ : RelayState) : RelayEvent → Option MonitorOp
  | .follower op => some op
  | .leader _ | .respond | .dispatch .. => none

/-- The operations of the leader's monitor. -/
def RelaySetup.leaderOps (c : RelaySetup) (es : List RelayEvent) : List MonitorOp :=
  trace (RelayState.step c.followerId) (RelayState.leaderOp c.followerId) c.init es

/-- The leader's log has a transition of the node to at least the given status. -/
def RelaySetup.LogHas (c : RelaySetup) (es : List RelayEvent) (nodeId status : UInt8) : Prop :=
  ∃ t, (t ∈ c.earlier ∨ t ∈ (c.reach es).leader.port.log ∨ .leader (.apply t) ∈ es) ∧
    t.targetNode = nodeId ∧ status ≤ t.newStatus

/-- An event of the leader that is an effective tick. -/
def RelaySetup.LeaderTicks (c : RelaySetup) (pre : List RelayEvent) : RelayEvent → Prop
  | .leader (.tick now _) => (c.reach pre).leader.hm.Ticks (clock now)
  | _ => False

/-- The way of one response: the follower sends it after `before`, and after `between` the leader
dispatches it at `time`. -/
structure ResponseWay where
  before : List RelayEvent
  between : List RelayEvent
  time : Nat
  after : List RelayEvent

section
variable (c : RelaySetup) (w : ResponseWay)

/-- The number of the response. -/
def RelaySetup.sentAs : Nat := (c.reach w.before).responses.length

/-- The events up to the dispatch. -/
def RelaySetup.upToDispatch : List RelayEvent :=
  w.before ++ .respond :: w.between ++ [.dispatch (c.sentAs w) w.time]

def RelaySetup.eventsOf : List RelayEvent := c.upToDispatch w ++ w.after

/-- The follower held its local node with the failing status when it sent a response that says so, the
leader dispatched this response `STALE_OBS_MS` ago or less, has not had an effective tick since, and
the node has not recovered in the meantime. -/
structure Relayed (nodeId status : UInt8) (now : Nat) : Prop where
  leads : (c.reach (c.eventsOf w)).leader.port.leader = true
  failing : Failing status
  held : ∃ s ∈ (c.reach w.before).follower.hm.lookup nodeId,
    s.boxId = c.follower.boxId ∧ s.status = status
  carried : ∃ ob ∈ healthMonitorGetObservations (c.reach w.before).follower.hm,
    ob.nodeId = nodeId ∧ ob.observedStatus = status
  kept : ∀ later, w.before <+: later → later <+: c.eventsOf w →
    (c.reach later).follower.hm.statusOf nodeId ≠ nodeUp
  fresh : w.time ≤ now ∧ now ≤ w.time + staleObsMs.toNat
  first : ∀ done e rest, w.after = done ++ e :: rest → ¬c.LeaderTicks (c.upToDispatch w ++ done) e

/-- Observations under the follower's id that are not those of the response or a younger one. -/
def RelaySetup.oldNews (pre : List RelayEvent) : RelayEvent → Option (List ObservationEntry)
  | .dispatch j _ => if j < c.sentAs w then (c.reach pre).responses[j]? else none
  | .leader (.observe peer obs _) => if peer = c.followerId then some obs else none
  | _ => none

/-- When observations come under the follower's id. -/
def RelaySetup.toldAt : RelayEvent → Option Nat
  | .dispatch _ t => some t
  | .leader (.observe peer _ t) => if peer = c.followerId then some t else none
  | _ => none

/-- The matrix has a cell for the follower's report of the node. Since the dispatch the leader was not told
under the follower's id, by something older or not the follower's, that the node is UP, and what came under
this id came between the dispatch and the time of the tick. -/
def RelaySetup.ReportStands (nodeId : UInt8) (now : Nat) : Prop :=
  c.followerId.toNat < oracleMaxNodes ∧ nodeId.toNat < maxHealthNodes ∧
    ∀ done e rest, w.after = done ++ e :: rest →
      (∀ obs ∈ c.oldNews w (c.upToDispatch w ++ done) e, ∀ status ∈ reported nodeId.toNat obs,
        nodeSuspect ≤ status) ∧
      ∀ t ∈ c.toldAt e, w.time ≤ t ∧ t ≤ now

end

/-- The first effective tick after a failure was relayed finds a transition of the node to at least
its status in the log, or proposes one. -/
def RelayReaches (c : RelaySetup) (pre : List RelayEvent) : RelayEvent → Prop
  | .leader (.tick now beyond) =>
      ∀ w, c.eventsOf w = pre → ∀ nodeId status, (c.reach pre).leader.hm.Ticks (clock now) →
        Relayed c w nodeId status now →
          c.LogHas pre nodeId status ∨
            ∃ call ∈ (c.reach pre).leader.callsOf (.tick now beyond),
              call.1.targetNode = nodeId ∧ status ≤ call.1.newStatus
  | _ => True

/-- The leader knows the node itself: as UP and silent, where SUSPECT was reported, or as SUSPECT for
`DOWN_TIMEOUT_MS` since its own tick started the timer. Then, for a node of another box, one further peer
has to agree if the follower's report stands. -/
def RelaySetup.Escalates (c : RelaySetup) (w : ResponseWay) (now : Nat) (beyond : Nat → UInt8)
    (nodeId status : UInt8) : Prop :=
  ∃ s ∈ (c.reach (c.eventsOf w)).leader.hm.lookup nodeId,
    (s.status = nodeUp ∧ MissesEnough (clock now) s ∧ status = nodeSuspect) ∨
    (s.status = nodeSuspect ∧
      downTimeoutMs
        ≤ clock now - ((c.leader.timerStart nodeId (c.leaderOps (c.eventsOf w))).map clock).getD 0 ∧
      (s.boxId = c.leader.boxId ∨
        (c.ReportStands w nodeId now ∧ ∃ p < oracleMaxNodes, p ≠ c.followerId.toNat ∧
          Counted (c.leaderOps (c.eventsOf w)) nodeId.toNat now p) ∨
        (¬c.ReportStands w nodeId now ∧
          corroborated (c.reach (c.eventsOf w)).leader.hm beyond nodeId s.boxId (clock now))))

/-- Whenever a relayed failure meets an effective tick, a transition is in the log already or the
leader's own entry is due. -/
def LeaderTableDue (c : RelaySetup) (pre : List RelayEvent) : RelayEvent → Prop
  | .leader (.tick now beyond) =>
      ∀ w, c.eventsOf w = pre → ∀ nodeId status, (c.reach pre).leader.hm.Ticks (clock now) →
        Relayed c w nodeId status now →
          c.LogHas pre nodeId status ∨ c.Escalates w now beyond nodeId status
  | _ => True

/-! ### The two monitors -/

theorem RelaySetup.leaderSimulation (c : RelaySetup) :
    Simulation (RelayState.step c.followerId) MonitorState.step RelayState.leader
      (RelayState.leaderOp c.followerId) (fun _ => True) fun _ _ => True where
  keeps _ _ _ := trivial
  allows _ _ _ _ _ := trivial
  sees s e _ := by
    cases e with
    | dispatch k now =>
        simp only [RelayState.step, RelayState.leaderOp]
        cases s.responses[k]? <;> rfl
    | leader | follower | respond => rfl

theorem RelaySetup.followerSimulation (c : RelaySetup) :
    Simulation (RelayState.step c.followerId) MonitorState.step RelayState.follower
      RelayState.followerOp (fun _ => True) fun _ _ => True where
  keeps _ _ _ := trivial
  allows _ _ _ _ _ := trivial
  sees s e _ := by
    cases e with
    | dispatch k now =>
        simp only [RelayState.step]
        cases s.responses[k]? <;> rfl
    | leader | follower | respond => rfl

/-- What the leader does in a run with a follower, it does in a run of its own. -/
theorem RelaySetup.leader_reach (c : RelaySetup) (es : List RelayEvent) :
    (c.reach es).leader = c.leader.reach (c.leaderOps es) :=
  c.leaderSimulation.sees_run trivial es

theorem RelaySetup.follower_nodup (c : RelaySetup) (es : List RelayEvent) :
    (c.reach es).follower.hm.ids.Nodup := by
  have hrun := c.followerSimulation.sees_run (s := c.init) trivial es
  rw [show (c.reach es).follower = c.follower.reach _ from hrun]
  exact c.follower.reach_nodup _

theorem RelaySetup.leaderOps_snoc (c : RelaySetup) (es : List RelayEvent) (e : RelayEvent) :
    c.leaderOps (es ++ [e])
      = c.leaderOps es ++ ((c.reach es).leaderOp c.followerId e).toList :=
  trace_snoc _ _ _ _ _

/-! ### The responses -/

/-- What the follower sends at an event. -/
def RelayState.answers (s : RelayState) : RelayEvent → Option (List ObservationEntry)
  | .respond => some (healthMonitorGetObservations s.follower.hm)
  | .leader _ | .follower _ | .dispatch .. => none

theorem RelaySetup.responses_snoc (c : RelaySetup) (es : List RelayEvent) (e : RelayEvent) :
    (c.reach (es ++ [e])).responses
      = (c.reach es).responses ++ ((c.reach es).answers e).toList := by
  rw [reach_snoc]
  cases e with
  | dispatch k now =>
      simp only [RelayState.step]
      cases (c.reach es).responses[k]? <;> exact (List.append_nil _).symm
  | leader | follower => exact (List.append_nil _).symm
  | respond => rfl

theorem RelaySetup.responses_initial (c : RelaySetup) {es fs : List RelayEvent} (h : es <+: fs) :
    (c.reach es).responses <+: (c.reach fs).responses := by
  obtain ⟨rest, rfl⟩ := h
  induction rest using List.reverseRecOn with
  | nil => rw [List.append_nil]
  | append_singleton rest e ih =>
      rw [← List.append_assoc, responses_snoc]
      exact ih.trans (List.prefix_append _ _)

/-- Every response was sent with what the follower observed then. -/
theorem RelaySetup.exists_sent (c : RelaySetup) {es : List RelayEvent} {j : Nat}
    {obs : List ObservationEntry} (h : (c.reach es).responses[j]? = some obs) :
    ∃ pre, pre ++ [.respond] <+: es ∧ (c.reach pre).responses.length = j ∧
      obs = healthMonitorGetObservations (c.reach pre).follower.hm := by
  induction es using List.reverseRecOn with
  | nil => simp [reach, init] at h
  | append_singleton es e ih =>
      by_cases hold : j < (c.reach es).responses.length
      · rw [responses_snoc, List.getElem?_append_left hold] at h
        obtain ⟨pre, hpre, hlength, hobs⟩ := ih h
        exact ⟨pre, hpre.trans (List.prefix_append _ _), hlength, hobs⟩
      · have hend := Nat.le_of_not_lt hold
        rw [responses_snoc, List.getElem?_append_right hend] at h
        cases e with
        | respond =>
            obtain ⟨hj, hobs⟩ := List.getElem?_eq_some_iff.mp h
            have hzero : j - (c.reach es).responses.length = 0 := by simpa [RelayState.answers] using hj
            refine ⟨es, List.prefix_refl _, by omega, ?_⟩
            simpa [RelayState.answers, hzero] using hobs.symm
        | leader | follower | dispatch => simp [RelayState.answers] at h

/-- A response that is not older than another was sent later. -/
theorem RelaySetup.prefix_of_younger (c : RelaySetup) {before pre es : List RelayEvent}
    (hbefore : before <+: es) (hpre : pre ++ [.respond] <+: es)
    (h : (c.reach before).responses.length ≤ (c.reach pre).responses.length) : before <+: pre := by
  rcases List.prefix_or_prefix_of_prefix hbefore hpre with hle | hle
  · rcases List.prefix_concat_iff.mp hle with heq | hle
    · rw [heq, responses_snoc, List.length_append] at h
      exact absurd h (Nat.not_succ_le_self _)
    · exact hle
  · have hlength := (c.responses_initial hle).length_le
    rw [responses_snoc, List.length_append] at hlength
    exact absurd (hlength.trans h) (Nat.not_succ_le_self _)

/-- A table that does not show a node as UP does not report it as UP. -/
theorem suspect_le_of_reported {hm : HealthMonitor} (hnodup : hm.ids.Nodup) {nodeId : UInt8}
    (hup : hm.statusOf nodeId ≠ nodeUp) :
    ∀ status ∈ reported nodeId.toNat (healthMonitorGetObservations hm), nodeSuspect ≤ status := by
  intro status hstatus
  cases hlookup : hm.lookup nodeId with
  | none => exact absurd (by rw [HealthMonitor.statusOf, hlookup]; rfl) hup
  | some s =>
      obtain ⟨i, hi⟩ := List.mem_iff_getElem?.mp (mem_of_lookup hlookup)
      have hid : s.nodeId = nodeId := key_of_lookup hlookup
      rw [← hid, reported_getObservations hnodup hi] at hstatus
      rw [statusOf_eq hlookup] at hup
      split at hstatus
      · rw [← Option.some.inj hstatus, UInt8.le_iff_toNat_le]
        exact Nat.one_le_iff_ne_zero.mpr fun hzero => hup (UInt8.toNat.inj hzero)
      · cases hstatus

/-! ### A relayed failure is counted -/

/-- By what the leader has heard, the follower's last report of the node is of a failure, and its last
response came between the two times. -/
structure Told (ops : List MonitorOp) (peer nodeId : UInt8) (time now : Nat) : Prop where
  report : ∃ report ∈ lastReport peer.toNat nodeId.toNat ops, nodeSuspect ≤ report.1
  response : ∃ t ∈ lastResponse peer.toNat ops, time ≤ t ∧ t ≤ now

theorem Told.observe {ops : List MonitorOp} {peer nodeId : UInt8} {time now : Nat}
    (h : Told ops peer nodeId time now) {sender : UInt8} {obs : List ObservationEntry} {t : Nat}
    (hobs : sender = peer → ∀ status ∈ reported nodeId.toNat obs, nodeSuspect ≤ status)
    (htime : sender = peer → time ≤ t ∧ t ≤ now) :
    Told (ops ++ [.observe sender obs t]) peer nodeId time now where
  report := by
    rw [lastReport_observe]
    split
    · rename_i hid
      cases hreported : reported nodeId.toNat obs with
      | none => exact h.report
      | some status => exact ⟨(status, t), rfl, hobs (UInt8.toNat.inj hid) status hreported⟩
    · exact h.report
  response := by
    rw [lastResponse_observe]
    split
    · rename_i hstamped
      exact ⟨t, rfl, htime (UInt8.toNat.inj hstamped.1)⟩
    · exact h.response

theorem Told.other {ops : List MonitorOp} {peer nodeId : UInt8} {time now : Nat}
    (h : Told ops peer nodeId time now) {op : MonitorOp}
    (hop : ∀ sender obs t, op ≠ .observe sender obs t) :
    Told (ops ++ [op]) peer nodeId time now where
  report := by
    rw [lastReport_of_ne_observe hop]
    exact h.report
  response := by
    rw [lastResponse_of_ne_observe hop]
    exact h.response

section
variable {c : RelaySetup} {w : ResponseWay} {nodeId status : UInt8} {now : Nat}

theorem RelaySetup.before_initial (c : RelaySetup) (w : ResponseWay) (done : List RelayEvent) :
    w.before <+: c.upToDispatch w ++ done := by
  rw [upToDispatch, List.append_assoc, List.append_assoc]
  exact List.prefix_append _ _

/-- The response on its way is the one that the leader finds under its number. -/
theorem RelaySetup.getElem?_sentAs (c : RelaySetup) (w : ResponseWay) :
    (c.reach (w.before ++ .respond :: w.between)).responses[c.sentAs w]?
      = some (healthMonitorGetObservations (c.reach w.before).follower.hm) := by
  have hextends : w.before ++ [.respond] <+: w.before ++ .respond :: w.between := by simp
  have hle := c.responses_initial hextends
  rw [responses_snoc] at hle
  refine getElem?_of_initial hle ?_
  simp [sentAs, RelayState.answers]

/-- The dispatch tells the leader what the follower observed. -/
theorem RelaySetup.leaderOps_upToDispatch (c : RelaySetup) (w : ResponseWay) :
    c.leaderOps (c.upToDispatch w) = c.leaderOps (w.before ++ .respond :: w.between) ++
      [.observe c.followerId (healthMonitorGetObservations (c.reach w.before).follower.hm) w.time] := by
  rw [upToDispatch, leaderOps_snoc]
  simp only [RelayState.leaderOp, c.getElem?_sentAs w, Option.map_some, Option.toList_some]

theorem Relayed.reported (h : Relayed c w nodeId status now) :
    L2Oracle.reported nodeId.toNat (healthMonitorGetObservations (c.reach w.before).follower.hm)
      = some status := by
  obtain ⟨ob, hob, hid, hstatus⟩ := h.carried
  obtain ⟨s, hs, rfl⟩ := List.mem_map.mp hob
  obtain ⟨i, hi⟩ := List.mem_iff_getElem?.mp hs
  rw [List.getElem?_take] at hi
  split at hi
  · rename_i hlt
    have hnode : s.nodeId = nodeId := hid
    have hslot : s.status = status := hstatus
    rw [← hnode, reported_getObservations (c.follower_nodup _) hi, if_pos hlt, hslot]
  · cases hi

theorem suspect_le_of_failing (h : Failing status) : nodeSuspect ≤ status := by
  rcases h with rfl | rfl <;> decide

theorem le_down_of_failing (h : Failing status) : status ≤ nodeDown := by
  rcases h with rfl | rfl <;> decide

theorem le_suspect_iff_of_failing (h : Failing status) : status ≤ nodeSuspect ↔ status = nodeSuspect := by
  rcases h with rfl | rfl <;> decide

/-- The dispatch itself. -/
theorem Relayed.told (h : Relayed c w nodeId status now) :
    Told (c.leaderOps (c.upToDispatch w)) c.followerId nodeId w.time now := by
  rw [c.leaderOps_upToDispatch w]
  have hsome : healthMonitorGetObservations (c.reach w.before).follower.hm ≠ [] := by
    obtain ⟨ob, hob, -⟩ := h.carried
    exact List.ne_nil_of_mem hob
  constructor
  case report =>
    rw [lastReport_observe, if_pos rfl, h.reported]
    exact ⟨(status, w.time), rfl, suspect_le_of_failing h.failing⟩
  case response =>
    rw [lastResponse_observe, if_pos ⟨rfl, hsome⟩]
    exact ⟨w.time, rfl, Nat.le_refl _, h.fresh.1⟩

/-- What the leader dispatches later under the follower's id leaves the node out or says that it fails:
the node has not recovered since, and the report stands. -/
theorem Relayed.reported_later (h : Relayed c w nodeId status now)
    (hstands : c.ReportStands w nodeId now) {done rest : List RelayEvent} {j t : Nat} (hafter : w.after = done ++ .dispatch j t :: rest)
    {obs : List ObservationEntry} (hobs : (c.reach (c.upToDispatch w ++ done)).responses[j]? = some obs) :
    ∀ status ∈ L2Oracle.reported nodeId.toNat obs, nodeSuspect ≤ status := by
  by_cases hold : j < c.sentAs w
  · refine (hstands.2.2 done _ rest hafter).1 obs ?_
    rw [RelaySetup.oldNews, if_pos hold]
    exact hobs
  · obtain ⟨pre, hpre, hlength, rfl⟩ := c.exists_sent hobs
    have hdone : c.upToDispatch w ++ done <+: c.eventsOf w := by
      rw [RelaySetup.eventsOf, hafter, ← List.append_assoc]
      exact List.prefix_append _ _
    have hyounger : w.before <+: pre :=
      c.prefix_of_younger (c.before_initial w done) hpre (by
        rw [hlength]
        exact Nat.le_of_not_lt hold)
    have hkept := h.kept pre hyounger (((List.prefix_append _ _).trans hpre).trans hdone)
    exact suspect_le_of_reported (c.follower_nodup pre) hkept

/-- As long as the report stands, the leader stays told. -/
theorem Relayed.told_after (h : Relayed c w nodeId status now)
    (hstands : c.ReportStands w nodeId now) {done : List RelayEvent} (hdone : done <+: w.after) :
    Told (c.leaderOps (c.upToDispatch w ++ done)) c.followerId nodeId w.time now := by
  induction done using List.reverseRecOn with
  | nil =>
      rw [List.append_nil]
      exact h.told
  | append_singleton done e ih =>
      have htold := ih ((List.prefix_append _ _).trans hdone)
      obtain ⟨rest, hrest⟩ := hdone
      have hafter : w.after = done ++ e :: rest := by
        rw [← hrest, List.append_assoc, List.singleton_append]
      have htimes := (hstands.2.2 done e rest hafter).2
      rw [← List.append_assoc, c.leaderOps_snoc]
      cases e with
      | follower | respond =>
          rw [RelayState.leaderOp, Option.toList_none, List.append_nil]
          exact htold
      | dispatch j t =>
          cases hobs : (c.reach (c.upToDispatch w ++ done)).responses[j]? with
          | none =>
              simp only [RelayState.leaderOp, hobs, Option.map_none, Option.toList_none, List.append_nil]
              exact htold
          | some obs =>
              simp only [RelayState.leaderOp, hobs, Option.map_some, Option.toList_some]
              exact htold.observe (fun _ => h.reported_later hstands hafter hobs)
                fun _ => htimes t rfl
      | leader op =>
          rw [RelayState.leaderOp, Option.toList_some]
          by_cases hop : ∃ sender obs t, op = .observe sender obs t
          · obtain ⟨sender, obs, t, rfl⟩ := hop
            refine htold.observe (fun hid => ?_) fun hid => htimes t (if_pos hid)
            refine (hstands.2.2 done _ rest hafter).1 obs ?_
            rw [RelaySetup.oldNews, if_pos hid]
            rfl
          · exact htold.other fun sender obs t heq => hop ⟨sender, obs, t, heq⟩

/-- At the tick the follower counts as a peer that agrees. -/
theorem Relayed.counted (h : Relayed c w nodeId status now)
    (hstands : c.ReportStands w nodeId now) :
    Counted (c.leaderOps (c.eventsOf w)) nodeId.toNat now c.followerId.toNat := by
  have htold := h.told_after hstands (List.prefix_refl _)
  obtain ⟨t, ht, hafter, hbefore⟩ := htold.response
  have hfresh := h.fresh.2
  refine ⟨htold.report, t, ht, ?_⟩
  rw [UInt32.le_iff_toNat_le, clock_sub_clock hbefore]
  have hmod := Nat.mod_le (now - t) (2 ^ 32)
  omega

end

/-! ### The tick -/

/-- Where one peer counts, two do if another one does. -/
theorem two_le_countP_iff {P : Nat → Prop} [DecidablePred P] {n a : Nat} (ha : a < n) (hP : P a) :
    2 ≤ (List.range n).countP (fun p => P p) ↔ ∃ p < n, p ≠ a ∧ P p := by
  have hcount : (List.range n).countP (fun p => P p) = ((Finset.range n).filter P).card := by
    rw [List.countP_eq_length_filter]
    rfl
  rw [hcount]
  constructor
  · intro h
    obtain ⟨p, q, hp, hq, hne⟩ := Finset.one_lt_card_iff.mp h
    simp only [Finset.mem_filter, Finset.mem_range] at hp hq
    by_cases hpa : p = a
    · exact ⟨q, hq.1, fun hqa => hne (hpa.trans hqa.symm), hq.2⟩
    · exact ⟨p, hp.1, hpa, hp.2⟩
  · rintro ⟨p, hp, hpa, hPp⟩
    refine Finset.one_lt_card_iff.mpr ⟨p, a, ?_, ?_, hpa⟩
    all_goals simp [*]

section
variable {c : RelaySetup} {w : ResponseWay} {nodeId status : UInt8} {now : Nat} {beyond : Nat → UInt8}

theorem RelaySetup.timerExpired_iff {s : Slot} {es : List RelayEvent}
    (hs : (c.reach es).leader.hm.lookup nodeId = some s) :
    TimerExpired (clock now) s ↔ downTimeoutMs
      ≤ clock now - ((c.leader.timerStart nodeId (c.leaderOps es)).map clock).getD 0 := by
  rw [c.leader_reach] at hs
  rw [TimerExpired, c.leader.suspectSince_eq _ hs]

/-- A node of the leader's box takes no peers, and one of another box takes one more if the follower's report
stands. -/
theorem Relayed.corroborated_iff (h : Relayed c w nodeId status now) (box : UInt8) :
    corroborated (c.reach (c.eventsOf w)).leader.hm beyond nodeId box (clock now) = true ↔
      box = c.leader.boxId ∨
        (c.ReportStands w nodeId now ∧ ∃ p < oracleMaxNodes, p ≠ c.followerId.toNat ∧
          Counted (c.leaderOps (c.eventsOf w)) nodeId.toNat now p) ∨
        (¬c.ReportStands w nodeId now ∧
          corroborated (c.reach (c.eventsOf w)).leader.hm beyond nodeId box (clock now) = true) := by
  by_cases hown : box = c.leader.boxId
  · have hbox : (c.reach (c.eventsOf w)).leader.hm.boxId = c.leader.boxId := by
      rw [c.leader_reach]
      exact c.leader.reach_boxId _
    simp [corroborated, hown, hbox]
  rw [or_iff_right hown]
  by_cases hstands : c.ReportStands w nodeId now
  · have hcounted := h.counted hstands
    rw [iff_true_intro hstands, true_and, not_true, false_and, or_false, c.leader_reach,
      corroborated_iff_counted c.leader _ now hown hstands.2.1 beyond]
    exact two_le_countP_iff hstands.1 hcounted
  · rw [iff_false_intro hstands, false_and, false_or, not_false_iff, true_and]

/-- On a leader, a tick proposes at least the reported status exactly if the leader's own entry is due. -/
theorem Relayed.proposes_iff (h : Relayed c w nodeId status now)
    (hticks : (c.reach (c.eventsOf w)).leader.hm.Ticks (clock now)) :
    (∃ call ∈ (c.reach (c.eventsOf w)).leader.callsOf (.tick now beyond),
        call.1.targetNode = nodeId ∧ status ≤ call.1.newStatus) ↔
      c.Escalates w now beyond nodeId status := by
  have hnodup : ((c.reach (c.eventsOf w)).leader.hm.slots.map Slot.nodeId).Nodup := by
    rw [c.leader_reach]
    exact c.leader.reach_nodup _
  constructor
  · rintro ⟨call, hcall, hnode, hle⟩
    obtain ⟨-, s, hs, hprop⟩ :=
      (MonitorState.tick_proposes_iff hnodup).mp ⟨call, hcall, hnode, rfl⟩
    refine ⟨s, hs, ?_⟩
    have hid : s.nodeId = nodeId := key_of_lookup hs
    rcases slotProposal_eq_some.mp hprop with ⟨hup, hmiss, hq⟩ | ⟨hsus, hexpired, -, hcorr, -⟩
    · have hnew : call.1.newStatus = nodeSuspect := congrArg Proposal.newStatus hq
      exact .inl ⟨hup, hmiss, (le_suspect_iff_of_failing h.failing).mp (hnew ▸ hle)⟩
    · rw [hid] at hcorr
      exact .inr ⟨hsus, (c.timerExpired_iff hs).mp hexpired, (h.corroborated_iff s.boxId).mp hcorr⟩
  · rintro ⟨s, hs, hdue⟩
    have hid : s.nodeId = nodeId := key_of_lookup hs
    rcases hdue with ⟨hup, hmiss, rfl⟩ | ⟨hsus, hstarted, hagreed⟩
    · obtain ⟨call, hcall, hnode, hnew⟩ := (MonitorState.tick_proposes_iff hnodup).mpr
        ⟨hticks, s, hs, slotProposal_eq_some.mpr (.inl ⟨hup, hmiss, rfl⟩)⟩
      exact ⟨call, hcall, hnode, hnew ▸ UInt8.le_refl _⟩
    · have hcorr := (h.corroborated_iff s.boxId).mpr hagreed
      rw [← hid] at hcorr
      obtain ⟨call, hcall, hnode, hnew⟩ := (MonitorState.tick_proposes_iff hnodup).mpr
        ⟨hticks, s, hs, slotProposal_eq_some.mpr
          (.inr ⟨hsus, (c.timerExpired_iff hs).mpr hstarted, h.leads, hcorr, rfl⟩)⟩
      exact ⟨call, hcall, hnode, hnew ▸ le_down_of_failing h.failing⟩

end

theorem relayReaches_iff (c : RelaySetup) (pre : List RelayEvent) (e : RelayEvent) :
    RelayReaches c pre e ↔ LeaderTableDue c pre e := by
  cases e with
  | follower | respond | dispatch => exact Iff.rfl
  | leader op =>
      cases op with
      | announce | heartbeat | apply | observe | lead => exact Iff.rfl
      | tick now beyond =>
          refine forall₂_congr fun w hw => forall₂_congr fun nodeId status => ?_
          subst hw
          exact forall₂_congr fun hticks hrelayed => or_congr_right (hrelayed.proposes_iff hticks)

/-- In every run of a leader and a follower, every relayed failure reaches the log at the leader's first
effective tick if and only if, each time, it is in the log already or the leader's own entry of the node is
due, with one more peer that agrees if it takes peers. -/
theorem relayed_failure_reaches_log_iff (c : RelaySetup) (es : List RelayEvent) :
    Throughout (RelayReaches c) es ↔ Throughout (LeaderTableDue c) es :=
  throughout_congr (relayReaches_iff c)

/-- Box 1 leads, box 2 follows as node 2, and the log is empty. -/
def boxes12 : RelaySetup where
  leader := leaderOfBox1
  follower := { followerOfBox1 with boxId := 2 }
  followerId := 2
  earlier := []

/-- The follower suspects its node 5 at 40 ms and says so in a response, which the leader dispatches
at 45 ms. The leader ticks at 30 ms and at 50 ms. -/
def relayedRun : List RelayEvent :=
  [.follower (.announce 5 ⟨2⟩ 10), .follower (.tick 20 zeros), .leader (.tick 30 zeros),
    .follower (.tick 40 zeros), .respond, .dispatch 0 45, .leader (.tick 50 zeros)]

/-- The response of `relayedRun`. -/
def relayedWay : ResponseWay := ⟨relayedRun.take 4, [], 45, []⟩

theorem relayed_relayedWay : Relayed boxes12 relayedWay 5 nodeSuspect 50 where
  leads := by decide +kernel
  failing := .inl rfl
  held := by
    have hentry : ((boxes12.reach relayedWay.before).follower.hm.lookup 5).map
        (fun s => (s.boxId, s.status)) = some (2, nodeSuspect) := by decide +kernel
    obtain ⟨s, hs, hfields⟩ := Option.map_eq_some_iff.mp hentry
    obtain ⟨hbox, hstatus⟩ := Prod.mk.inj hfields
    exact ⟨s, hs, hbox, hstatus⟩
  carried := by decide +kernel
  kept := by
    intro later hbefore hlater
    have hkept : ∀ n ≤ 6, 4 ≤ n → (boxes12.reach ((relayedRun.take 6).take n)).follower.hm.statusOf 5
        ≠ nodeUp := by
      decide +kernel
    rw [show boxes12.eventsOf relayedWay = relayedRun.take 6 from rfl] at hlater
    rw [List.prefix_iff_eq_take.mp hlater]
    exact hkept later.length hlater.length_le hbefore.length_le
  fresh := by decide
  first done e rest h := by simp [relayedWay] at h

/-- The leader does not know node 5, so its tick proposes nothing. -/
theorem unreached_relayedRun : ¬Throughout (RelayReaches boxes12) relayedRun := by
  intro h
  have htick := h (relayedRun.take 6) (.leader (.tick 50 zeros)) [] rfl relayedWay rfl 5 nodeSuspect
    (by decide +kernel) relayed_relayedWay
  rcases htick with ⟨t, hlog | hlog | hlog, -⟩ | ⟨call, hcall, -⟩
  · cases hlog
  · have hempty : (boxes12.reach (relayedRun.take 6)).leader.port.log = [] := by decide +kernel
    rw [hempty] at hlog
    cases hlog
  · simp [relayedRun] at hlog
  · have hempty : (boxes12.reach (relayedRun.take 6)).leader.callsOf (.tick 50 zeros) = [] := by
      decide +kernel
    rw [hempty] at hcall
    cases hcall

end L2Oracle
