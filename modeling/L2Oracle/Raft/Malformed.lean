import L2Oracle.Health.Corroboration
import L2Oracle.Raft.Moves
import L2Oracle.Raft.Reference

/-!
# Malformed messages

`oracle_dispatch_raft_message` checks the length of a payload before it reads one, each type against
its own minimum, and it reads the entry of an AppendEntries only if the whole record was received. The
count of entries is never trusted: at most one is read. The count of observations is:
`health_monitor_update_corroboration` walks `n_observations` entries of an array that holds
`MAX_OBSERVATIONS_PER_RESP`, and what lies behind the struct goes into the corroboration matrix.

The library is arbitrary here, so what is said of the server's state holds also for a library that
writes down the calls it gets.
-/

namespace L2Oracle

open Base

/-- How many bytes a message of this type may use. Behind the struct of a response to an AppendEntries
only an observation that the struct has no room for could lie. -/
def usableLength (msgType : RaftMsgType) (len : Nat) : Nat :=
  if msgType = .appendEntriesResp then min len PayloadAppendEntriesResp.size else len

section
variable {σ : Type} (lib : RaftLib σ) (o : OracleNode σ) (env : Nat) (srcNodeId : UInt8)
  (msgType : RaftMsgType) (mem : Nat → UInt8) (len now : Nat)

/-- A dispatch uses only bytes that the payload has, and a message that is malformed or from a stranger
does nothing. -/
structure DispatchSafe : Prop where
  usable : ∀ mem', AgreeTo (usableLength msgType len) mem mem' →
    oracleDispatchRaftMessage lib o env srcNodeId msgType mem' len now
      = oracleDispatchRaftMessage lib o env srcNodeId msgType mem len now
  atomic : (¬lib.raftGetNode o.raft srcNodeId ∨ ∀ least ∈ minLength msgType, len < least) →
    oracleDispatchRaftMessage lib o env srcNodeId msgType mem len now = (⟨o, [], []⟩, -1)

/-- A member that has a row in the corroboration matrix counts more observations in its response than the
struct holds. -/
structure Overcounts : Prop where
  known : lib.raftGetNode o.raft srcNodeId
  response : msgType = .appendEntriesResp
  complete : PayloadAppendEntriesResp.size ≤ len
  monitors : o.health.isSome
  row : srcNodeId.toNat < oracleMaxNodes
  count : maxObservationsPerResp < (mem 12).toNat

/-! ### What is read -/

variable {msgType mem len} {mem' : Nat → UInt8}

theorem ObservationEntry.read_agree {off n : Nat} (hoff : off + ObservationEntry.size ≤ n)
    (h : AgreeTo n mem mem') : ObservationEntry.read mem' off = ObservationEntry.read mem off := by
  have hsize : ObservationEntry.size = 4 := rfl
  rw [ObservationEntry.read, ObservationEntry.read, h off (by omega), h (off + 1) (by omega),
    h (off + 2) (by omega)]

theorem obs_agree (h : AgreeTo PayloadAppendEntriesResp.size mem mem')
    (hcount : (mem 12).toNat ≤ maxObservationsPerResp) :
    (PayloadAppendEntriesResp.read mem').obs = (PayloadAppendEntriesResp.read mem).obs := by
  have hbyte : mem 12 = mem' 12 := h 12 (by decide)
  simp only [PayloadAppendEntriesResp.read, ← hbyte]
  refine List.map_congr_left fun i hi => ObservationEntry.read_agree ?_ h
  have hlt := List.mem_range.mp hi
  have hsize : PayloadAppendEntriesResp.size = PayloadAppendEntriesResp.obsOffset
    + ObservationEntry.size * maxObservationsPerResp := rfl
  have hle : ObservationEntry.size * (i + 1) ≤ ObservationEntry.size * maxObservationsPerResp :=
    Nat.mul_le_mul_left _ (by omega)
  rw [Nat.mul_succ] at hle
  omega

theorem reportedHealth_agree (h : AgreeTo (min len PayloadAppendEntriesResp.size) mem mem')
    (hknown : lib.raftGetNode o.raft srcNodeId)
    (hcount : ¬Overcounts lib o srcNodeId .appendEntriesResp mem len) :
    reportedHealth o srcNodeId now mem' len = reportedHealth o srcNodeId now mem len := by
  by_cases hlen : PayloadAppendEntriesResp.size ≤ len
  · rw [Nat.min_eq_right hlen] at h
    have hbyte : mem 12 = mem' 12 := h 12 (by decide)
    have hn : (PayloadAppendEntriesResp.read mem').nObservations
        = (PayloadAppendEntriesResp.read mem).nObservations := hbyte.symm
    rw [reportedHealth, reportedHealth, hn]
    cases hhealth : o.health with
    | none => rfl
    | some hm =>
        by_cases hrow : srcNodeId.toNat < oracleMaxNodes
        · have hfits : (mem 12).toNat ≤ maxObservationsPerResp :=
            Nat.le_of_not_lt fun hover => hcount ⟨hknown, rfl, hlen, by rw [hhealth]; rfl, hrow, hover⟩
          rw [obs_agree h hfits]
        · simp only [healthMonitorUpdateCorroboration, if_pos (Nat.le_of_not_lt hrow)]
  · rw [reportedHealth, reportedHealth, if_neg fun h => hlen h.2, if_neg fun h => hlen h.2]

theorem dispatch_agree (h : AgreeTo (usableLength msgType len) mem mem')
    (hcount : ¬Overcounts lib o srcNodeId msgType mem len) :
    oracleDispatchRaftMessage lib o env srcNodeId msgType mem' len now
      = oracleDispatchRaftMessage lib o env srcNodeId msgType mem len now := by
  by_cases hknown : lib.raftGetNode o.raft srcNodeId
  · by_cases hshort : ∀ least ∈ minLength msgType, len < least
    · rw [dispatch_of_short lib o env srcNodeId msgType mem' len now hshort,
        dispatch_of_short lib o env srcNodeId msgType mem len now hshort]
    · push Not at hshort
      obtain ⟨least, hleast, hlen⟩ := hshort
      cases msgType with
      | requestVote =>
          obtain rfl := Option.some.inj hleast
          rw [dispatch_requestVote env _ now hknown hlen, dispatch_requestVote env _ now hknown hlen,
            dispatchedRequestVote_congr _ (h.mono hlen)]
      | requestVoteResp =>
          obtain rfl := Option.some.inj hleast
          rw [dispatch_requestVoteResp env _ now hknown hlen,
            dispatch_requestVoteResp env _ now hknown hlen, dispatchedVote_congr _ (h.mono hlen)]
      | appendEntries =>
          obtain rfl := Option.some.inj hleast
          rw [dispatch_appendEntries env _ now hknown hlen, dispatch_appendEntries env _ now hknown hlen,
            dispatchedAppendEntries_congr _ hlen h]
      | appendEntriesResp =>
          obtain rfl := Option.some.inj hleast
          have hleast : 12 ≤ min len PayloadAppendEntriesResp.size := Nat.le_min.mpr ⟨hlen, by decide⟩
          rw [dispatch_appendEntriesResp env _ now hknown hlen,
            dispatch_appendEntriesResp env _ now hknown hlen,
            reportedHealth_agree lib o srcNodeId now h hknown hcount,
            dispatchedResponse_congr _ (h.mono hleast)]
      | _ => cases hleast
  · rw [dispatch_of_unknown lib o env srcNodeId msgType mem' len now hknown,
      dispatch_of_unknown lib o env srcNodeId msgType mem len now hknown]

/-! ### What is read behind the struct -/

variable {lib o srcNodeId}

/-- The same struct, with node 0 observed in the given status in all that follows. -/
def observedBehind (mem : Nat → UInt8) (status : UInt8) (i : Nat) : UInt8 :=
  if i < PayloadAppendEntriesResp.size then mem i else if i % 4 = 1 then status else 0

theorem agreeTo_observedBehind (mem : Nat → UInt8) (status : UInt8) :
    AgreeTo PayloadAppendEntriesResp.size mem (observedBehind mem status) :=
  fun _ hi => (if_pos hi).symm

theorem reported_observedBehind (status : UInt8) (hcount : maxObservationsPerResp < (mem 12).toNat) :
    reported 0 (PayloadAppendEntriesResp.read (observedBehind mem status)).obs = some status := by
  have hsize : PayloadAppendEntriesResp.size = 48 := rfl
  have hoffset : PayloadAppendEntriesResp.obsOffset = 16 := rfl
  have hentry : ObservationEntry.size = 4 := rfl
  have hmax : maxObservationsPerResp = 8 := rfl
  have hbyte : observedBehind mem status 12 = mem 12 := if_pos (by decide)
  obtain ⟨last, hlast⟩ : ∃ last, (mem 12).toNat = last + 1 := ⟨_, (Nat.succ_pred (by omega)).symm⟩
  have hid : observedBehind mem status (16 + 4 * last) = 0 := by
    rw [observedBehind, if_neg (by omega), if_neg (by omega)]
  have hstatus : observedBehind mem status (16 + 4 * last + 1) = status := by
    rw [observedBehind, if_neg (by omega), if_pos (by omega)]
  simp only [PayloadAppendEntriesResp.read, hbyte, hlast, List.range_succ, List.map_append,
    List.map_cons, List.map_nil, reported_snoc, ObservationEntry.read, hoffset, hentry, hid, hstatus]
  rfl

theorem runLibrary_corroboration (o : OracleNode σ) (r : LibResult σ) :
    (runLibrary o r).node.health.map HealthMonitor.corroboration
      = o.health.map HealthMonitor.corroboration := by
  have hcall (e : Effect σ) (call : RaftCall) :
      (runCallback e call).node.health.map HealthMonitor.corroboration
        = e.node.health.map HealthMonitor.corroboration := by
    cases call with
    | sendRequestVote => rfl
    | sendAppendEntries => rfl
    | applyLog entry idx =>
        simp only [runCallback, cbApplylog]
        split_ifs
        · cases e.node.health with
          | none => rfl
          | some hm => simp [healthTableApply_eq]
        · rfl
  have hfold := List.foldlRecOn r.calls runCallback
    (motive := fun e => e.node.health.map HealthMonitor.corroboration
      = o.health.map HealthMonitor.corroboration) (b := ⟨{ o with raft := r.raft }, [], []⟩) rfl
    fun e he call _ => (hcall e call).trans he
  exact hfold

/-- What the matrix holds of node 0 after such a response. -/
theorem Overcounts.dispatch (h : Overcounts lib o srcNodeId msgType mem len) (status : UInt8) :
    (oracleDispatchRaftMessage lib o env srcNodeId msgType (observedBehind mem status) len
      now).1.node.health.map
        (fun hm => hm.corroboration.status (corroborationOffset srcNodeId.toNat 0)) = some status := by
  obtain ⟨hknown, rfl, hlen, hhealth, hrow, hcount⟩ := h
  obtain ⟨hm, hhm⟩ := Option.isSome_iff_exists.mp hhealth
  have hsize : PayloadAppendEntriesResp.size = 48 := rfl
  have hmax : maxObservationsPerResp = 8 := rfl
  have hpos : 0 < (PayloadAppendEntriesResp.read (observedBehind mem status)).nObservations := by
    have hbyte : observedBehind mem status 12 = mem 12 := if_pos (by decide)
    have hnat : 0 < (mem 12).toNat := by omega
    rw [PayloadAppendEntriesResp.read, hbyte]
    exact UInt8.lt_iff_toNat_lt.mpr hnat
  have hmatrix : (reportedHealth o srcNodeId now (observedBehind mem status) len).map
      (fun hm => hm.corroboration.status (corroborationOffset srcNodeId.toNat 0)) = some status := by
    rw [reportedHealth, if_pos ⟨hpos, hlen⟩, hhm]
    simp only [Option.map_some, healthMonitorUpdateCorroboration, if_neg (Nat.not_le.mpr hrow)]
    rw [foldl_recordObservation_status (by decide), if_pos rfl, reported_observedBehind status hcount]
    rfl
  rw [dispatch_appendEntriesResp env _ now hknown (by omega)]
  have hkeep := runLibrary_corroboration
    { o with health := reportedHealth o srcNodeId now (observedBehind mem status) len }
    (lib.raftRecvAppendEntriesResponse o.raft env srcNodeId
      (dispatchedResponse (lib.raftGetCurrentTerm o.raft) (observedBehind mem status)))
  have hcell := congrArg
    (Option.map fun table => table.status (corroborationOffset srcNodeId.toNat 0)) hkeep
  simp only [Option.map_map, Function.comp_def] at hcell
  exact hcell.trans hmatrix

theorem Overcounts.not_dispatchSafe (h : Overcounts lib o srcNodeId msgType mem len) :
    ¬DispatchSafe lib o env srcNodeId msgType mem len now := by
  intro hsafe
  have hagree (status : UInt8) :
      AgreeTo (usableLength msgType len) mem (observedBehind mem status) := by
    rw [usableLength, if_pos h.response, Nat.min_eq_right h.complete]
    exact agreeTo_observedBehind mem status
  have hzero := h.dispatch env now 0
  have hone := h.dispatch env now 1
  rw [hsafe.usable _ (hagree 0)] at hzero
  rw [hsafe.usable _ (hagree 1), hzero] at hone
  exact absurd (Option.some.inj hone) (by decide)

/-! ### The dispatcher -/

/-- For every sender, type, payload and length: a dispatch uses only bytes that were received, and no
observation that the struct has no room for, and does nothing with a message that it rejects, exactly if
no member counts more observations than the struct holds. -/
theorem dispatch_safe_iff (lib : RaftLib σ) (o : OracleNode σ) (env : Nat) (srcNodeId : UInt8)
    (msgType : RaftMsgType) (mem : Nat → UInt8) (len now : Nat) :
    DispatchSafe lib o env srcNodeId msgType mem len now ↔
      ¬Overcounts lib o srcNodeId msgType mem len := by
  constructor
  · exact fun hsafe hover => hover.not_dispatchSafe env now hsafe
  · intro hcount
    exact ⟨fun mem' h => dispatch_agree lib o env srcNodeId now h hcount,
      fun h => h.elim (dispatch_of_unknown lib o env srcNodeId msgType mem len now)
        (dispatch_of_short lib o env srcNodeId msgType mem len now)⟩

end

/-- Node 1 of two, with its monitor. -/
def monitoringNode : OracleNode ReferenceServer :=
  let lib := ReferenceServer.lib
  let o := oracleAddNode lib (oracleAddNode lib (oracleInit lib 1 1) 1 true) 2 false
  { o with health := some (healthMonitorInit true 1) }

/-- A whole response that counts one observation more than it holds. -/
def nineObservations : List UInt8 := (PayloadAppendEntriesResp.mk 1 0 0 9 []).bytes

/-- What the node records of it depends on what lies behind the 48 bytes that were received. -/
theorem not_safe_nineObservations :
    nineObservations.length = PayloadAppendEntriesResp.size ∧
      ¬DispatchSafe ReferenceServer.lib monitoringNode 0 2 .appendEntriesResp
        (buffer nineObservations fun _ => 0) nineObservations.length 0 := by
  refine ⟨by decide, Overcounts.not_dispatchSafe 0 0 ⟨?_, rfl, by decide, rfl, by decide, ?_⟩⟩
  · decide +kernel
  · decide +kernel

end L2Oracle
