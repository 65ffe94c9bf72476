import L2Oracle.Base.BufferRing
import L2Oracle.Base.Simulation
import L2Oracle.Transport.Ethernet

/-!
# Frames that are sent

`eth_send` is called by any number of tasks. A call takes the mutex, looks whether the CPU owns the next
transmit descriptor, builds the frame in its buffer, hands it to the DMA with `HAL_ETH_TransmitFrame` and
gives the mutex back. The DMA sends the frames from the buffers in its own time. This module takes the
call apart into the steps that the other tasks, the DMA and the receive path, which may hold the lock of
the HAL handle, can come between.

Here nothing gets lost, in contrast to the receive path: what is on the wire, followed by what waits in
the descriptors, is what the calls that returned 0 were given, byte for byte and in the order in which
they had the mutex. The counters in `stats` are left out: they are incremented outside the mutex.
-/

namespace L2Oracle

open Base

/-! ### The code -/

def ethTxbufnb : Nat := 4
def ethTxBufSize : Nat := 1524

/-- The arguments of `eth_send` that reach the frame. -/
structure SendArgs where
  ethertype : UInt16
  type : RaftMsgType
  payload : List UInt8
deriving DecidableEq, Repr

/-- Where a task is in `eth_send`: in `xSemaphoreTake`, before and behind the check of the descriptor,
before `HAL_ETH_TransmitFrame`, or behind it with the status that it returned. -/
inductive TxTask where
  | idle
  | waiting (a : SendArgs)
  | took (a : SendArgs)
  | building (a : SendArgs)
  | built (a : SendArgs)
  | handed (a : SendArgs) (rc : HalStatus)
deriving DecidableEq, Repr

/-- The task is between `xSemaphoreTake` and `xSemaphoreGive`. -/
def TxTask.holds : TxTask → Bool
  | .idle | .waiting _ => false
  | .took _ | .building _ | .built _ | .handed .. => true

/-- The transmitter with tasks of type `τ`. A descriptor that the DMA owns has the size of its frame. -/
structure Transmitter (τ : Type) where
  tx : BufferRing ethTxbufnb
  txMutex : Option τ
  locked : Bool
  tasks : τ → TxTask
  /-- The size of the frame that the DMA is sending. -/
  dma : Option Nat
  wire : List (List UInt8)

inductive TxEvent (τ : Type) where
  | call (t : τ) (a : SendArgs)
  /-- `xSemaphoreTake` succeeds. -/
  | take (t : τ)
  /-- `xSemaphoreTake` times out. -/
  | expire (t : τ)
  | check (t : τ)
  | build (t : τ)
  | transmit (t : τ)
  | give (t : τ)
  /-- The DMA starts on the next descriptor that it owns. -/
  | fetch
  | sent
  /-- The receive path enters `HAL_ETH_GetReceivedFrame_IT`, or leaves it. -/
  | lock
  | unlock

section
variable (ed : EthTransportData)

/-- What `eth_send` writes into the transmit buffer: the header, the payload and the padding. -/
def writeFrame (a : SendArgs) (buf : Nat → UInt8) : Nat → UInt8 :=
  let hdr := oracleFrameInit broadcastMac ed.srcMac a.ethertype a.type.code ed.nodeId ed.boxId 0
    (UInt16.ofNat a.payload.length)
  let buf := write buf 0 hdr.bytes
  let buf := write buf OracleFrameHeader.size a.payload
  let frameLen := OracleFrameHeader.size + a.payload.length
  if frameLen < ethMinFrameData then write buf frameLen (List.replicate (ethMinFrameData - frameLen) 0)
  else buf

/-- `frame_len`, as it is handed to the HAL. -/
def SendArgs.frameLen (a : SendArgs) : Nat :=
  max (OracleFrameHeader.size + a.payload.length) ethMinFrameData

/-- `HAL_ETH_TransmitFrame` for a frame that fits into one buffer. -/
def halEthTransmitFrame (tx : BufferRing ethTxbufnb) (locked : Bool) (frameLength : Nat) :
    HalStatus × BufferRing ethTxbufnb :=
  if locked then (.busy, tx)
  else if frameLength = 0 then (.error, tx)
  else match tx.hand frameLength with
    | none => (.error, tx)
    | some tx => (.ok, tx)

variable {τ : Type} [DecidableEq τ]

def Transmitter.init (bufs : Nat → Nat → UInt8) : Transmitter τ where
  tx := .empty bufs
  txMutex := none
  locked := false
  tasks _ := .idle
  dma := none
  wire := []

def Transmitter.goes (s : Transmitter τ) (t : τ) (phase : TxTask) : Transmitter τ :=
  { s with tasks := Function.update s.tasks t phase }

/-- An event that the task or the DMA is not ready for does nothing. -/
def Transmitter.step (s : Transmitter τ) : TxEvent τ → Transmitter τ
  | .call t a =>
      match s.tasks t with
      | .idle => if oracleMaxPayloadV1 < a.payload.length then s else s.goes t (.waiting a)
      | .waiting _ | .took _ | .building _ | .built _ | .handed .. => s
  | .take t =>
      match s.tasks t with
      | .waiting a => if s.txMutex.isNone then { s.goes t (.took a) with txMutex := some t } else s
      | .idle | .took _ | .building _ | .built _ | .handed .. => s
  | .expire t =>
      match s.tasks t with
      | .waiting _ => if s.txMutex.isSome then s.goes t .idle else s
      | .idle | .took _ | .building _ | .built _ | .handed .. => s
  | .check t =>
      match s.tasks t with
      | .took a =>
          if (s.tx.ring.cells s.tx.ring.tail).isSome then { s.goes t .idle with txMutex := none }
          else s.goes t (.building a)
      | .idle | .waiting _ | .building _ | .built _ | .handed .. => s
  | .build t =>
      match s.tasks t with
      | .building a => { s.goes t (.built a) with tx := s.tx.modify (writeFrame ed a) }
      | .idle | .waiting _ | .took _ | .built _ | .handed .. => s
  | .transmit t =>
      match s.tasks t with
      | .built a =>
          let (rc, tx) := halEthTransmitFrame s.tx s.locked a.frameLen
          { s.goes t (.handed a rc) with tx }
      | .idle | .waiting _ | .took _ | .building _ | .handed .. => s
  | .give t =>
      match s.tasks t with
      | .handed _ _ => { s.goes t .idle with txMutex := none }
      | .idle | .waiting _ | .took _ | .building _ | .built _ => s
  | .fetch =>
      match s.dma with
      | none =>
          match s.tx.start with
          | none => s
          | some (size, tx) => { s with tx, dma := some size }
      | some _ => s
  | .sent =>
      match s.dma with
      | none => s
      | some size => { s with tx := s.tx.finish, dma := none, wire := s.wire ++ [s.tx.reading size] }
  | .lock => { s with locked := true }
  | .unlock => { s with locked := false }

/-- The call that an event ends, with the value that it returns. -/
def Transmitter.returns (s : Transmitter τ) : TxEvent τ → Option (SendArgs × Int)
  | .call t a =>
      match s.tasks t with
      | .idle => if oracleMaxPayloadV1 < a.payload.length then some (a, -1) else none
      | .waiting _ | .took _ | .building _ | .built _ | .handed .. => none
  | .expire t =>
      match s.tasks t with
      | .waiting a => if s.txMutex.isSome then some (a, -1) else none
      | .idle | .took _ | .building _ | .built _ | .handed .. => none
  | .check t =>
      match s.tasks t with
      | .took a => if (s.tx.ring.cells s.tx.ring.tail).isSome then some (a, -1) else none
      | .idle | .waiting _ | .building _ | .built _ | .handed .. => none
  | .give t =>
      match s.tasks t with
      | .handed a rc => some (a, if rc = .ok then 0 else -1)
      | .idle | .waiting _ | .took _ | .building _ | .built _ => none
  | .take _ | .build _ | .transmit _ | .fetch | .sent | .lock | .unlock => none

def Transmitter.accepts (s : Transmitter τ) : TxEvent τ → Option SendArgs
  | .transmit t =>
      match s.tasks t with
      | .built a => if (halEthTransmitFrame s.tx s.locked a.frameLen).1 = .ok then some a else none
      | .idle | .waiting _ | .took _ | .building _ | .handed .. => none
  | .call .. | .take _ | .expire _ | .check _ | .build _ | .give _ | .fetch | .sent | .lock | .unlock =>
      none

end

/-! ### The frame in the buffer -/

section
variable (ed : EthTransportData)

def SendArgs.frame (a : SendArgs) : List UInt8 := ethFrame ed a.ethertype a.type a.payload

theorem SendArgs.length_frame (a : SendArgs) : (a.frame ed).length = a.frameLen := by
  rw [frame, ethFrame]
  simp only [List.length_append, List.length_replicate, OracleFrameHeader.length_bytes, frameLen]
  omega

theorem SendArgs.frameLen_pos (a : SendArgs) : a.frameLen ≠ 0 := by
  have hmin : 60 ≤ a.frameLen := Nat.le_max_right _ _
  omega

theorem SendArgs.frameLen_le {a : SendArgs} (h : a.payload.length ≤ oracleMaxPayloadV1) :
    a.frameLen ≤ ethTxBufSize := by
  refine Nat.max_le.mpr ⟨?_, by decide⟩
  exact (Nat.add_le_add_left h _).trans (by decide)

theorem spells_writeFrame (a : SendArgs) (buf : Nat → UInt8) :
    Spells (writeFrame ed a buf) 0 (a.frame ed) := by
  obtain ⟨hdr, hhdr⟩ : ∃ hdr, hdr = oracleFrameInit broadcastMac ed.srcMac a.ethertype a.type.code
    ed.nodeId ed.boxId 0 (UInt16.ofNat a.payload.length) := ⟨_, rfl⟩
  have hpayload : write (write buf 0 hdr.bytes) OracleFrameHeader.size a.payload
      = write buf 0 (hdr.bytes ++ a.payload) := by
    rw [← write_append, hdr.length_bytes, Nat.zero_add]
  have hlen : (hdr.bytes ++ a.payload).length = OracleFrameHeader.size + a.payload.length := by
    rw [List.length_append, hdr.length_bytes]
  have hframe : a.frame ed = (hdr.bytes ++ a.payload)
      ++ List.replicate (ethMinFrameData - (OracleFrameHeader.size + a.payload.length)) 0 := by
    rw [SendArgs.frame, ethFrame, ← hhdr, ← hlen]
  have hwrite : writeFrame ed a buf = write buf 0 (a.frame ed) := by
    simp only [writeFrame, ← hhdr, hpayload]
    split
    · rw [hframe, ← write_append buf 0 (hdr.bytes ++ a.payload), hlen, Nat.zero_add]
    · rename_i hlong
      rw [hframe, Nat.sub_eq_zero_of_le (Nat.le_of_not_lt hlong), List.replicate_zero, List.append_nil]
  rw [hwrite]
  exact spells_write buf 0 _

/-! ### What a step can do -/

variable {τ : Type} [DecidableEq τ]

/-- A step from `s`: where it leads, what it hands to the DMA and what a call returns by it. -/
inductive Transmitter.Move (s : Transmitter τ) :
    Transmitter τ → Option SendArgs → Option (SendArgs × Int) → Prop
  | stays : Move s s none none
  | refused (a : SendArgs) : oracleMaxPayloadV1 < a.payload.length → Move s s none (some (a, -1))
  | called (t : τ) (a : SendArgs) : s.tasks t = .idle → a.payload.length ≤ oracleMaxPayloadV1 →
      Move s (s.goes t (.waiting a)) none none
  | took (t : τ) (a : SendArgs) : s.tasks t = .waiting a → s.txMutex = none →
      Move s { s.goes t (.took a) with txMutex := some t } none none
  | expired (t : τ) (a : SendArgs) : s.tasks t = .waiting a → s.txMutex.isSome →
      Move s (s.goes t .idle) none (some (a, -1))
  | full (t : τ) (a : SendArgs) : s.tasks t = .took a → (s.tx.ring.cells s.tx.ring.tail).isSome →
      Move s { s.goes t .idle with txMutex := none } none (some (a, -1))
  | checked (t : τ) (a : SendArgs) : s.tasks t = .took a → ¬(s.tx.ring.cells s.tx.ring.tail).isSome →
      Move s (s.goes t (.building a)) none none
  | built (t : τ) (a : SendArgs) : s.tasks t = .building a →
      Move s { s.goes t (.built a) with tx := s.tx.modify (writeFrame ed a) } none none
  | handed (t : τ) (a : SendArgs) (rc : HalStatus) (tx : BufferRing ethTxbufnb) :
      s.tasks t = .built a → halEthTransmitFrame s.tx s.locked a.frameLen = (rc, tx) →
      Move s { s.goes t (.handed a rc) with tx } (if rc = .ok then some a else none) none
  | gave (t : τ) (a : SendArgs) (rc : HalStatus) : s.tasks t = .handed a rc →
      Move s { s.goes t .idle with txMutex := none } none (some (a, if rc = .ok then 0 else -1))
  | fetched (size : Nat) (tx : BufferRing ethTxbufnb) : s.dma = none → s.tx.start = some (size, tx) →
      Move s { s with tx, dma := some size } none none
  | sent (size : Nat) : s.dma = some size →
      Move s { s with tx := s.tx.finish, dma := none, wire := s.wire ++ [s.tx.reading size] } none none
  | locks (locked : Bool) : Move s { s with locked } none none

theorem Transmitter.move (s : Transmitter τ) (e : TxEvent τ) :
    s.Move ed (s.step ed e) (s.accepts e) (s.returns e) := by
  cases e with
  | call t a =>
      cases htask : s.tasks t with
      | idle =>
          simp only [step, accepts, returns, htask]
          split
          · rename_i hlong
            exact .refused a hlong
          · rename_i hshort
            exact .called t a htask (Nat.le_of_not_lt hshort)
      | waiting | took | building | built | handed =>
          simpa only [step, accepts, returns, htask] using .stays
  | take t =>
      cases htask : s.tasks t with
      | waiting a =>
          simp only [step, accepts, returns, htask]
          split
          · rename_i hnone
            exact .took t a htask (Option.isNone_iff_eq_none.mp hnone)
          · exact .stays
      | idle | took | building | built | handed =>
          simpa only [step, accepts, returns, htask] using .stays
  | expire t =>
      cases htask : s.tasks t with
      | waiting a =>
          simp only [step, accepts, returns, htask]
          split
          · rename_i hsome
            exact .expired t a htask hsome
          · exact .stays
      | idle | took | building | built | handed =>
          simpa only [step, accepts, returns, htask] using .stays
  | check t =>
      cases htask : s.tasks t with
      | took a =>
          simp only [step, accepts, returns, htask]
          split
          · rename_i hcell
            exact .full t a htask hcell
          · rename_i hcell
            exact .checked t a htask hcell
      | idle | waiting | building | built | handed =>
          simpa only [step, accepts, returns, htask] using .stays
  | build t =>
      cases htask : s.tasks t with
      | building a => simpa only [step, accepts, returns, htask] using .built t a htask
      | idle | waiting | took | built | handed =>
          simpa only [step, accepts, returns, htask] using .stays
  | transmit t =>
      cases htask : s.tasks t with
      | built a => simpa only [step, accepts, returns, htask] using .handed t a _ _ htask rfl
      | idle | waiting | took | building | handed =>
          simpa only [step, accepts, returns, htask] using .stays
  | give t =>
      cases htask : s.tasks t with
      | handed a rc => simpa only [step, accepts, returns, htask] using .gave t a rc htask
      | idle | waiting | took | building | built =>
          simpa only [step, accepts, returns, htask] using .stays
  | fetch =>
      simp only [step, accepts, returns]
      split
      · rename_i hdma
        split
        · exact .stays
        · rename_i size tx hstart
          exact .fetched size tx hdma hstart
      · exact .stays
  | sent =>
      simp only [step, accepts, returns]
      split
      · exact .stays
      · rename_i size hdma
        exact .sent size hdma
  | lock => exact .locks true
  | unlock => exact .locks false

end

/-! ### What holds in every state -/

def TxTask.args : TxTask → Option SendArgs
  | .idle => none
  | .waiting a | .took a | .building a | .built a | .handed a _ => some a

/-- The task counts on the next descriptor. -/
def TxTask.fills : TxTask → Bool
  | .building _ | .built _ => true
  | .idle | .waiting _ | .took _ | .handed .. => false

theorem TxTask.holds_of_fills {phase : TxTask} (h : phase.fills = true) : phase.holds = true := by
  cases phase with
  | building | built => rfl
  | idle | waiting | took | handed => cases h

section
variable (ed : EthTransportData) {τ : Type}

/-- What was accepted is on the wire, is being sent or waits in the descriptors. Exactly the task that
has the mutex is behind `xSemaphoreTake`, and while it builds a frame the next descriptor is free. -/
structure Transmitter.Inv (s : Transmitter τ) (waiting : List (List UInt8))
    (sending : Option (List UInt8)) (accepted : List SendArgs) : Prop where
  tx : s.tx.Holds waiting sending
  dma : s.dma = sending.map List.length
  wire : accepted.map (SendArgs.frame ed) = s.wire ++ (sending.toList ++ waiting)
  mutex : ∀ t, (s.tasks t).holds = true ↔ s.txMutex = some t
  free : ∀ t, (s.tasks t).fills = true → waiting.length + sending.isSome.toNat < ethTxbufnb
  built : ∀ t a, s.tasks t = .built a → Spells (s.tx.bufs s.tx.ring.tail) 0 (a.frame ed)
  short : ∀ t, ∀ a ∈ (s.tasks t).args, a.payload.length ≤ oracleMaxPayloadV1
  status : ∀ t a rc, s.tasks t = .handed a rc → rc = .ok ∨ rc = .busy

theorem Transmitter.inv_init (bufs : Nat → Nat → UInt8) :
    (init bufs : Transmitter τ).Inv ed [] none [] where
  tx := BufferRing.holds_empty (by decide) bufs
  dma := rfl
  wire := rfl
  mutex _ := ⟨nofun, nofun⟩
  free _ h := nomatch h
  built _ _ h := nomatch h
  short _ _ h := nomatch h
  status _ _ _ h := nomatch h

namespace Transmitter.Inv

variable {ed} [DecidableEq τ] {s : Transmitter τ} {waiting : List (List UInt8)}
  {sending : Option (List UInt8)} {accepted : List SendArgs} (h : s.Inv ed waiting sending accepted)
include h

/-- A task goes on that does not count on the descriptor then. -/
theorem goes {t : τ} {phase : TxTask} (hfills : phase.fills = false) {txMutex : Option τ}
    (hmutex : ∀ u, (Function.update s.tasks t phase u).holds = true ↔ txMutex = some u)
    (hshort : ∀ a ∈ phase.args, a.payload.length ≤ oracleMaxPayloadV1)
    (hstatus : ∀ a rc, phase ≠ .handed a rc) :
    Inv ed { s.goes t phase with txMutex } waiting sending accepted where
  tx := h.tx
  dma := h.dma
  wire := h.wire
  mutex := hmutex
  free := by
    refine (Function.forall_update_iff s.tasks fun _ p => p.fills = true →
      waiting.length + sending.isSome.toNat < ethTxbufnb).mpr ⟨fun hnew => ?_, fun u _ => h.free u⟩
    rw [hfills] at hnew
    cases hnew
  built := by
    refine (Function.forall_update_iff s.tasks fun _ p => ∀ a, p = .built a →
      Spells (s.tx.bufs s.tx.ring.tail) 0 (a.frame ed)).mpr ⟨fun a hnew => ?_, fun u _ => h.built u⟩
    rw [hnew] at hfills
    cases hfills
  short := (Function.forall_update_iff s.tasks fun _ p =>
    ∀ a ∈ p.args, a.payload.length ≤ oracleMaxPayloadV1).mpr ⟨hshort, fun u _ => h.short u⟩
  status := (Function.forall_update_iff s.tasks fun _ p =>
    ∀ a rc, p = .handed a rc → rc = .ok ∨ rc = .busy).mpr
      ⟨fun a rc hnew => absurd hnew (hstatus a rc), fun u _ => h.status u⟩

/-- The task that has the mutex goes on, and no other counts on the descriptor. -/
theorem holder {t : τ} (hholder : s.txMutex = some t) {phase : TxTask} (hphase : phase.holds = true)
    {tx : BufferRing ethTxbufnb} {waiting' : List (List UInt8)} {accepted' : List SendArgs}
    (htx : tx.Holds waiting' sending)
    (hwire : accepted'.map (SendArgs.frame ed) = s.wire ++ (sending.toList ++ waiting'))
    (hfree : phase.fills = true → waiting'.length + sending.isSome.toNat < ethTxbufnb)
    (hbuilt : ∀ a, phase = .built a → Spells (tx.bufs tx.ring.tail) 0 (a.frame ed))
    (hshort : ∀ a ∈ phase.args, a.payload.length ≤ oracleMaxPayloadV1)
    (hstatus : ∀ a rc, phase = .handed a rc → rc = .ok ∨ rc = .busy) :
    Inv ed { s.goes t phase with tx } waiting' sending accepted' := by
  have hother : ∀ u, u ≠ t → (s.tasks u).holds = false := by
    intro u hne
    by_contra hu
    have hmutex := (h.mutex u).mp (Bool.of_not_eq_false hu)
    exact hne (Option.some.inj (hmutex.symm.trans hholder))
  constructor
  case tx => exact htx
  case dma => exact h.dma
  case wire => exact hwire
  case mutex =>
      refine (Function.forall_update_iff s.tasks fun u p => p.holds = true ↔ s.txMutex = some u).mpr
        ⟨?_, fun u _ => h.mutex u⟩
      simp [hphase, hholder]
  case free =>
      refine (Function.forall_update_iff s.tasks fun _ p => p.fills = true →
        waiting'.length + sending.isSome.toNat < ethTxbufnb).mpr ⟨hfree, fun u hne hu => ?_⟩
      have hholds := TxTask.holds_of_fills hu
      rw [hother u hne] at hholds
      cases hholds
  case built =>
      refine (Function.forall_update_iff s.tasks fun _ p => ∀ a, p = .built a →
        Spells (tx.bufs tx.ring.tail) 0 (a.frame ed)).mpr ⟨hbuilt, fun u hne a hu => ?_⟩
      have hholds := hother u hne
      rw [hu] at hholds
      cases hholds
  case short =>
      exact (Function.forall_update_iff s.tasks fun _ p =>
        ∀ a ∈ p.args, a.payload.length ≤ oracleMaxPayloadV1).mpr ⟨hshort, fun u _ => h.short u⟩
  case status =>
      exact (Function.forall_update_iff s.tasks fun _ p =>
        ∀ a rc, p = .handed a rc → rc = .ok ∨ rc = .busy).mpr ⟨hstatus, fun u _ => h.status u⟩

theorem outside {t : τ} (hold : (s.tasks t).holds = false) {phase : TxTask}
    (hphase : phase.holds = false) (hshort : ∀ a ∈ phase.args, a.payload.length ≤ oracleMaxPayloadV1) :
    Inv ed (s.goes t phase) waiting sending accepted := by
  have hfills : phase.fills = false := by
    by_contra hfills
    rw [TxTask.holds_of_fills (Bool.of_not_eq_false hfills)] at hphase
    cases hphase
  refine h.goes hfills (fun u => ?_) hshort fun a rc hhanded => ?_
  · rw [← h.mutex u]
    by_cases heq : u = t
    · rw [heq, Function.update_self, hold, hphase]
    · rw [Function.update_of_ne heq]
  · rw [hhanded] at hphase
    cases hphase

theorem enter {t : τ} {a : SendArgs} (hshort : a.payload.length ≤ oracleMaxPayloadV1)
    (hnone : s.txMutex = none) :
    Inv ed { s.goes t (.took a) with txMutex := some t } waiting sending accepted := by
  refine h.goes rfl (fun u => ?_) (fun b hb => ?_) nofun
  · by_cases heq : u = t
    · simp [heq, TxTask.holds]
    · rw [Function.update_of_ne heq, h.mutex u, hnone]
      simp [Ne.symm heq]
  · obtain rfl := Option.some.inj hb
    exact hshort

theorem leave {t : τ} (hholder : (s.tasks t).holds = true) :
    Inv ed { s.goes t .idle with txMutex := none } waiting sending accepted := by
  refine h.goes rfl (fun u => ?_) nofun nofun
  by_cases heq : u = t
  · simp [heq, TxTask.holds]
  · rw [Function.update_of_ne heq, h.mutex u, (h.mutex t).mp hholder]
    simp [Ne.symm heq]

theorem checked {t : τ} {a : SendArgs} (htask : s.tasks t = .took a)
    (hcell : ¬(s.tx.ring.cells s.tx.ring.tail).isSome) :
    Inv ed (s.goes t (.building a)) waiting sending accepted := by
  have hholder := (h.mutex t).mp (by rw [htask]; rfl)
  have hroom := h.tx.room
  rw [h.tx.tail_isSome_iff] at hcell
  exact h.holder hholder rfl h.tx h.wire (fun _ => by omega) nofun
    (fun b hb => h.short t b (by rw [htask]; exact hb)) nofun

theorem build {t : τ} {a : SendArgs} (htask : s.tasks t = .building a) :
    Inv ed { s.goes t (.built a) with tx := s.tx.modify (writeFrame ed a) } waiting sending
      accepted := by
  have hholder := (h.mutex t).mp (by rw [htask]; rfl)
  have hfree := h.free t (by rw [htask]; rfl)
  refine h.holder hholder rfl (h.tx.modify hfree _) h.wire (fun _ => hfree)
    (fun b hb => ?_) (fun b hb => h.short t b (by rw [htask]; exact hb)) nofun
  obtain rfl := TxTask.built.inj hb
  show Spells ((s.tx.modify (writeFrame ed a)).bufs s.tx.ring.tail) 0 _
  simp only [BufferRing.modify, Function.update_self]
  exact spells_writeFrame ed a _

omit [DecidableEq τ] in
theorem transmit_eq {t : τ} {a : SendArgs} (htask : s.tasks t = .built a) :
    halEthTransmitFrame s.tx s.locked a.frameLen = (.busy, s.tx) ∨
      ∃ tx, halEthTransmitFrame s.tx s.locked a.frameLen = (.ok, tx) ∧
        tx.Holds (waiting ++ [a.frame ed]) sending := by
  cases s.locked with
  | true => exact .inl rfl
  | false =>
      obtain ⟨tx, hhand, htx⟩ := h.tx.hand (h.free t (by rw [htask]; rfl)) (h.built t a htask)
      rw [a.length_frame] at hhand
      refine .inr ⟨tx, ?_, htx⟩
      simp [halEthTransmitFrame, a.frameLen_pos, hhand]

theorem transmit {t : τ} {a : SendArgs} (htask : s.tasks t = .built a) {rc : HalStatus}
    {tx : BufferRing ethTxbufnb} (htransmit : halEthTransmitFrame s.tx s.locked a.frameLen = (rc, tx)) :
    ∃ waiting', Inv ed { s.goes t (.handed a rc) with tx } waiting' sending
      (accepted ++ (if rc = .ok then some a else none).toList) := by
  have hholder := (h.mutex t).mp (by rw [htask]; rfl)
  have hshort : ∀ b ∈ (TxTask.built a).args, b.payload.length ≤ oracleMaxPayloadV1 := fun b hb =>
    h.short t b (by rw [htask]; exact hb)
  rcases h.transmit_eq htask with hbusy | ⟨tx', hok, htx⟩
  · obtain ⟨rfl, rfl⟩ := Prod.mk.inj (htransmit.symm.trans hbusy)
    refine ⟨waiting, h.holder hholder rfl h.tx ?_ nofun nofun hshort fun b rc hrc => .inr ?_⟩
    · simpa using h.wire
    · exact (TxTask.handed.inj hrc).2.symm
  · obtain ⟨rfl, rfl⟩ := Prod.mk.inj (htransmit.symm.trans hok)
    refine ⟨_, h.holder hholder rfl htx ?_ nofun nofun hshort fun b rc hrc => .inl ?_⟩
    · simp [h.wire]
    · exact (TxTask.handed.inj hrc).2.symm

omit [DecidableEq τ] in
theorem fetch (hdma : s.dma = none) {size : Nat} {tx : BufferRing ethTxbufnb}
    (hstart : s.tx.start = some (size, tx)) :
    ∃ waiting' sending', Inv ed { s with tx, dma := some size } waiting' sending' accepted := by
  obtain rfl : sending = none := by
    have hsizes := h.dma
    rw [hdma] at hsizes
    exact Option.map_eq_none_iff.mp hsizes.symm
  cases waiting with
  | nil =>
      rw [h.tx.start_eq_none] at hstart
      cases hstart
  | cons frame rest =>
      obtain ⟨tx', hstart', htx⟩ := h.tx.start
      obtain ⟨rfl, rfl⟩ := Prod.mk.inj (Option.some.inj (hstart.symm.trans hstart'))
      obtain ⟨hbufs, htail⟩ := BufferRing.tail_start hstart
      refine ⟨rest, some frame, htx, rfl, h.wire, h.mutex, fun t ht => ?_, fun t a ht => ?_,
        h.short, h.status⟩
      · have hfree := h.free t ht
        rw [List.length_cons] at hfree
        simp only [Option.isSome_some, Option.isSome_none, Bool.toNat_true, Bool.toNat_false]
          at hfree ⊢
        omega
      · show Spells (tx.bufs tx.ring.tail) 0 _
        rw [hbufs, htail]
        exact h.built t a ht

omit [DecidableEq τ] in
/-- The DMA is through with a frame, which is the one that it started on. -/
theorem sent {size : Nat} (hdma : s.dma = some size) :
    Inv ed { s with tx := s.tx.finish, dma := none, wire := s.wire ++ [s.tx.reading size] } waiting none
      accepted := by
  have hsizes := h.dma
  rw [hdma] at hsizes
  obtain ⟨frame, rfl, rfl⟩ := Option.map_eq_some_iff.mp hsizes.symm
  obtain ⟨hread, htx⟩ := h.tx.finish
  rw [hread]
  refine ⟨htx, rfl, ?_, h.mutex, fun t ht => ?_, h.built, h.short, h.status⟩
  · rw [h.wire]
    simp
  · have hfree := h.free t ht
    simp only [Option.isSome_some, Option.isSome_none, Bool.toNat_true, Bool.toNat_false]
      at hfree ⊢
    omega

/-- A step keeps the account, with what it hands to the DMA. -/
theorem step {s' : Transmitter τ} {handed : Option SendArgs} {returned : Option (SendArgs × Int)}
    (hmove : s.Move ed s' handed returned) :
    ∃ waiting' sending', s'.Inv ed waiting' sending' (accepted ++ handed.toList) := by
  have hargs {t : τ} {phase : TxTask} (htask : s.tasks t = phase) :
      ∀ a ∈ phase.args, a.payload.length ≤ oracleMaxPayloadV1 := fun a ha =>
    h.short t a (by rw [htask]; exact ha)
  cases hmove with
  | stays | refused => exact ⟨_, _, by simpa using h⟩
  | called t a hidle hshort =>
      have hcalled : Inv ed (s.goes t (.waiting a)) waiting sending accepted := by
        refine h.outside (by rw [hidle]; rfl) rfl fun b hb => ?_
        obtain rfl := Option.some.inj hb
        exact hshort
      exact ⟨_, _, by simpa using hcalled⟩
  | took t a htask hnone => exact ⟨_, _, by simpa using h.enter (hargs htask a rfl) hnone⟩
  | expired t a htask _ =>
      have hexpired : Inv ed (s.goes t .idle) waiting sending accepted :=
        h.outside (by rw [htask]; rfl) rfl nofun
      exact ⟨_, _, by simpa using hexpired⟩
  | full t a htask _ => exact ⟨_, _, by simpa using h.leave (by rw [htask]; rfl)⟩
  | checked t a htask hcell => exact ⟨_, _, by simpa using h.checked htask hcell⟩
  | built t a htask => exact ⟨_, _, by simpa using h.build htask⟩
  | handed t a rc tx htask htransmit =>
      obtain ⟨waiting', hnext⟩ := h.transmit htask htransmit
      exact ⟨waiting', _, hnext⟩
  | gave t a rc htask => exact ⟨_, _, by simpa using h.leave (by rw [htask]; rfl)⟩
  | fetched size tx hdma hstart =>
      obtain ⟨waiting', sending', hnext⟩ := h.fetch hdma hstart
      exact ⟨waiting', sending', by simpa using hnext⟩
  | sent size hdma => exact ⟨_, _, by simpa using h.sent hdma⟩
  | locks locked =>
      refine ⟨_, _, h.tx, h.dma, ?_, h.mutex, h.free, h.built, h.short, h.status⟩
      simpa using h.wire

end Transmitter.Inv

/-! ### What the calls return -/

/-- What the HAL has accepted from a task that has not given the mutex back yet. -/
def TxTask.accepted : TxTask → List SendArgs
  | .handed a rc => if rc = .ok then [a] else []
  | .idle | .waiting _ | .took _ | .building _ | .built _ => []

def Transmitter.inHand (s : Transmitter τ) : List SendArgs :=
  s.txMutex.elim [] fun t => (s.tasks t).accepted

def succeeded (returned : List (SendArgs × Int)) : List SendArgs :=
  returned.filterMap fun r => if r.2 = 0 then some r.1 else none

theorem succeeded_append (xs ys : List (SendArgs × Int)) :
    succeeded (xs ++ ys) = succeeded xs ++ succeeded ys := List.filterMap_append

section
variable {ed} [DecidableEq τ] {s : Transmitter τ} {waiting : List (List UInt8)}
  {sending : Option (List UInt8)} {accepted : List SendArgs}

theorem inHand_goes {t : τ} (h : s.txMutex ≠ some t) (phase : TxTask) :
    (s.goes t phase).inHand = s.inHand := by
  rw [Transmitter.inHand, Transmitter.inHand, Transmitter.goes]
  cases hmutex : s.txMutex with
  | none => rfl
  | some u =>
      have hne : u ≠ t := fun heq => h (by rw [hmutex, heq])
      simp only [Option.elim_some, Function.update_of_ne hne]

/-- What a step accepts is in hand until its call returns 0. -/
theorem Transmitter.inHand_step (h : s.Inv ed waiting sending accepted) {s' : Transmitter τ}
    {handed : Option SendArgs} {returned : Option (SendArgs × Int)}
    (hmove : s.Move ed s' handed returned) :
    s.inHand ++ handed.toList = succeeded returned.toList ++ s'.inHand := by
  have hnot {t : τ} (ht : (s.tasks t).holds = false) : s.txMutex ≠ some t := by
    intro hmutex
    rw [(h.mutex t).mpr hmutex] at ht
    cases ht
  have hholder {t : τ} {phase : TxTask} (htask : s.tasks t = phase) (hphase : phase.holds = true) :
      s.inHand = phase.accepted := by
    rw [inHand, (h.mutex t).mp (by rw [htask]; exact hphase), Option.elim_some, htask]
  have hgoes {t : τ} (ht : (s.tasks t).holds = true) (phase : TxTask) :
      (s.goes t phase).inHand = phase.accepted := by
    rw [inHand, goes]
    simp only [(h.mutex t).mp ht, Option.elim_some, Function.update_self]
  cases hmove with
  | stays | refused => simp [succeeded]
  | called t a hidle _ =>
      rw [inHand_goes (hnot (by rw [hidle]; rfl))]
      simp [succeeded]
  | took t a _ hnone => simp [inHand, goes, hnone, succeeded, TxTask.accepted]
  | expired t a htask _ =>
      rw [inHand_goes (hnot (by rw [htask]; rfl))]
      simp [succeeded]
  | full t a htask _ =>
      rw [hholder htask rfl]
      simp [inHand, succeeded, TxTask.accepted]
  | checked t a htask _ =>
      rw [hholder htask rfl, hgoes (by rw [htask]; rfl)]
      simp [succeeded, TxTask.accepted]
  | built t a htask =>
      have hbuilt := hgoes (by rw [htask]; rfl) (.built a)
      rw [hholder htask rfl]
      simpa [inHand, succeeded, TxTask.accepted] using hbuilt.symm
  | handed t a rc tx htask _ =>
      have hhanded := hgoes (by rw [htask]; rfl) (.handed a rc)
      rw [hholder htask rfl]
      show _ = succeeded [] ++ (s.goes t _).inHand
      rw [hhanded, TxTask.accepted, TxTask.accepted]
      split <;> simp [succeeded]
  | gave t a rc htask =>
      rw [hholder htask rfl]
      by_cases hrc : rc = .ok <;> simp [inHand, succeeded, TxTask.accepted, hrc]
  | fetched | sent | locks => simp [succeeded, inHand]

end

/-! ### Every interleaving -/

/-- The call and the value that it returned are those of `ethSend` with some answers of the platform. -/
def ByEthSend (ed : EthTransportData) (r : SendArgs × Int) : Prop :=
  ∃ tx, ∀ dstNode, ethSend ed tx dstNode r.1.ethertype r.1.type r.1.payload
    = (r.2, if r.2 = 0 then some (r.1.frame ed) else none)

/-- How the calls that were accepted and those that have returned relate to what was sent. -/
structure Transmitter.Delivers (ed : EthTransportData) (s : Transmitter τ) (accepted : List SendArgs)
    (returned : List (SendArgs × Int)) : Prop where
  accepted_eq : accepted = succeeded returned ++ s.inHand
  inHand_le : s.inHand.length ≤ 1
  inOrder : ∃ waiting, accepted.map (SendArgs.frame ed) = s.wire ++ waiting ∧
    waiting.length ≤ ethTxbufnb
  fits : ∀ a ∈ accepted, a.frameLen ≤ ethTxBufSize
  exclusive : ∀ t u, (s.tasks t).holds = true → (s.tasks u).holds = true → t = u
  /-- A call that finds its descriptor taken finds all taken. -/
  full : ∀ t a, s.tasks t = .took a → (s.tx.ring.cells s.tx.ring.tail).isSome →
    accepted.length = s.wire.length + ethTxbufnb
  status : ∀ t a rc, s.tasks t = .handed a rc → rc = .ok ∨ rc = .busy
  /-- Every call returns what `eth_send` does with some answers of the platform. -/
  ethSend : ∀ r ∈ returned, ByEthSend ed r

theorem Transmitter.Inv.length_accepted {s : Transmitter τ} {waiting : List (List UInt8)}
    {sending : Option (List UInt8)} {accepted : List SendArgs}
    (h : s.Inv ed waiting sending accepted) :
    accepted.length = s.wire.length + (waiting.length + sending.isSome.toNat) := by
  have hlength := congrArg List.length h.wire
  rw [List.length_map, List.length_append, List.length_append] at hlength
  cases sending <;> simp at hlength ⊢ <;> omega

theorem Transmitter.Inv.delivers {s : Transmitter τ} {waiting : List (List UInt8)}
    {sending : Option (List UInt8)} {accepted : List SendArgs}
    (h : s.Inv ed waiting sending accepted) {returned : List (SendArgs × Int)}
    (hreturned : accepted = succeeded returned ++ s.inHand)
    (hshort : ∀ a ∈ accepted, a.payload.length ≤ oracleMaxPayloadV1)
    (hethSend : ∀ r ∈ returned, ByEthSend ed r) : s.Delivers ed accepted returned where
  accepted_eq := hreturned
  inHand_le := by
    rw [Transmitter.inHand]
    cases s.txMutex with
    | none => exact Nat.zero_le _
    | some t =>
        rw [Option.elim_some]
        cases s.tasks t with
        | handed a rc =>
            rw [TxTask.accepted]
            split <;> simp
        | idle | waiting | took | building | built => exact Nat.zero_le _
  inOrder := by
    have hlength := h.length_accepted
    have hroom := h.tx.room
    have hwire := congrArg List.length h.wire
    rw [List.length_map, List.length_append] at hwire
    exact ⟨_, h.wire, by omega⟩
  fits a ha := SendArgs.frameLen_le (hshort a ha)
  exclusive t u ht hu := Option.some.inj (((h.mutex t).mp ht).symm.trans ((h.mutex u).mp hu))
  full t a _ hcell := by rw [h.length_accepted, h.tx.tail_isSome_iff.mp hcell]
  status := h.status
  ethSend := hethSend

variable [DecidableEq τ] {s s' : Transmitter τ} {waiting : List (List UInt8)}
  {sending : Option (List UInt8)} {accepted : List SendArgs} {handed : Option SendArgs}
  {returned : Option (SendArgs × Int)}

theorem Transmitter.Inv.short_handed (h : s.Inv ed waiting sending accepted)
    (hmove : s.Move ed s' handed returned) : ∀ a ∈ handed, a.payload.length ≤ oracleMaxPayloadV1 := by
  intro b hb
  cases hmove with
  | handed t a rc tx htask _ =>
      split at hb
      · obtain rfl := Option.some.inj hb
        exact h.short t a (by rw [htask]; rfl)
      · cases hb
  | stays | refused | called | took | expired | full | checked | built | gave | fetched | sent | locks =>
      cases hb

theorem Transmitter.Inv.ethSend_returned (h : s.Inv ed waiting sending accepted)
    (hmove : s.Move ed s' handed returned) : ∀ r ∈ returned, ByEthSend ed r := by
  intro r hr
  have hargs {t : τ} {a : SendArgs} (ht : (s.tasks t).args = some a) :
      ¬oracleMaxPayloadV1 < a.payload.length := Nat.not_lt.mpr (h.short t a ht)
  cases hmove with
  | refused a hlong =>
      obtain rfl := Option.some.inj hr
      exact ⟨.ready, fun dstNode => ethSend_of_long hlong ..⟩
  | expired t a htask _ =>
      obtain rfl := Option.some.inj hr
      refine ⟨⟨false, true, .ok⟩, fun dstNode => ?_⟩
      simp [ethSend, hargs (t := t) (by rw [htask]; rfl)]
  | full t a htask _ =>
      obtain rfl := Option.some.inj hr
      refine ⟨⟨true, false, .ok⟩, fun dstNode => ?_⟩
      simp [ethSend, hargs (t := t) (by rw [htask]; rfl)]
  | gave t a rc htask =>
      obtain rfl := Option.some.inj hr
      refine ⟨⟨true, true, rc⟩, fun dstNode => ?_⟩
      by_cases hrc : rc = .ok <;>
        simp [ethSend, hargs (t := t) (by rw [htask]; rfl), hrc, SendArgs.frame]
  | stays | called | took | checked | built | handed | fetched | sent | locks => cases hr

theorem Transmitter.inv_run (bufs : Nat → Nat → UInt8) (es : List (TxEvent τ)) :
    ∃ waiting sending, (run (step ed) (init bufs) es).Inv ed waiting sending
        (trace (step ed) accepts (init bufs) es) ∧
      trace (step ed) accepts (init bufs) es
        = succeeded (trace (step ed) returns (init bufs) es) ++ (run (step ed) (init bufs) es).inHand ∧
      (∀ a ∈ trace (step ed) accepts (init bufs) es, a.payload.length ≤ oracleMaxPayloadV1) ∧
      ∀ r ∈ trace (step ed) returns (init bufs) es, ByEthSend ed r := by
  induction es using List.reverseRecOn with
  | nil => exact ⟨[], none, inv_init ed bufs, rfl, List.forall_mem_nil _, List.forall_mem_nil _⟩
  | append_singleton es e ih =>
      obtain ⟨waiting, sending, h, hreturned, hshort, hethSend⟩ := ih
      have hmove := (run (step ed) (init bufs) es).move ed e
      obtain ⟨waiting', sending', hnext⟩ := h.step hmove
      rw [trace_snoc, trace_snoc, run_append, run_cons, run_nil]
      refine ⟨waiting', sending', hnext, ?_, fun a ha => ?_, fun r hr => ?_⟩
      · rw [hreturned, succeeded_append, List.append_assoc, List.append_assoc, inHand_step h hmove]
      · rcases List.mem_append.mp ha with hold | hnew
        · exact hshort a hold
        · exact h.short_handed ed hmove a (Option.mem_toList.mp hnew)
      · rcases List.mem_append.mp hr with hold | hnew
        · exact hethSend r hold
        · exact h.ethSend_returned ed hmove r (Option.mem_toList.mp hnew)

/-- In every interleaving of any number of tasks with the DMA and the receive path, whatever the buffers
held at first, the frames on the wire and then those in the descriptors, of which there are at most
four, are the frames of the calls that returned 0, and of at most one that is about to, byte for byte
and in order. Only one task at a time has the mutex. A call that is turned away for want of a descriptor
finds all four taken, and the HAL turns one away only if the receive path has locked its handle. -/
theorem sent_as_returned (bufs : Nat → Nat → UInt8) (es : List (TxEvent τ)) :
    (run (Transmitter.step ed) (.init bufs) es).Delivers ed
      (trace (Transmitter.step ed) Transmitter.accepts (.init bufs) es)
      (trace (Transmitter.step ed) Transmitter.returns (.init bufs) es) := by
  obtain ⟨waiting, sending, h, hreturned, hshort, hethSend⟩ := Transmitter.inv_run ed bufs es
  exact h.delivers ed hreturned hshort hethSend

end

end L2Oracle
