import Mathlib.Algebra.Ring.Int.Defs
import L2Oracle.Base.Mailbox
import L2Oracle.Health.Tasks
import L2Oracle.Raft.Calls
import L2Oracle.Transport.LocalNodes

/-!
# The tasks of a board

`main.c` runs four tasks and a timer. `vEthRxTask` takes frames from the transport and puts each into
the queue of its EtherType, `vRaftTask` and `vHealthTask` empty the two queues and call the oracle and
the monitor, and `vRaftTimerCallback` notifies the Raft task. `vMonitorTask` only prints, and so do
the reports and the LEDs of the other tasks; they are left out.

A step of a task is one call of a queue or of the notification, with the `recv` before it or the reading
of the clock after it, and with the whole call of an oracle or monitor function that follows from it. A
run is any interleaving of such steps, of timers and of the passing of time, and nothing is assumed about
priorities. But no step of another task comes in the middle of a call. In the firmware `vRaftTask` may
preempt `vHealthTask` there, for it has the higher priority and no lock keeps the two apart. So these are
the runs in which the calls of oracle and monitor functions on one node do not overlap.

What a task calls is the result of its step, `Board.call`, so a board is what turns frames and time into
calls.
-/

namespace L2Oracle

open Base

/-! ### The code -/

def raftInboxDepth : Nat := 16

/-- What a turn of `vEthRxTask` makes of what `recv` returned: the EtherType and the message. -/
def rxMessage (rx : EthRx) : Option (UInt16 × RxMsg) :=
  match ethRecv rx oracleMaxPayloadV1 with
  | (len, some r) => if len ≤ 0 then none else some (r.ethertype, ⟨r.msgType, r.srcNode, r.payload⟩)
  | (_, none) => none

/-- Where the Raft task is: before its loop, or at one of the three places in it where it asks for
something. -/
inductive RaftTask where
  | starting
  /-- At the `xQueueReceive` that waits. -/
  | waiting
  /-- At the `xQueueReceive` of the inner loop. -/
  | draining
  /-- At `ulTaskNotifyTake`. -/
  | checking
deriving DecidableEq, Repr

/-- A board, without the oracle and the monitor. `time` is the tick count, which the code sees modulo
`2^32`, and so is `lastTick`. -/
structure Board where
  time : Nat
  raftInbox : Mailbox RxMsg
  hbInbox : Mailbox RxMsg
  /-- The notifications that the Raft task has not taken. -/
  notified : Nat
  raft : RaftTask
  lastTick : Nat
  health : HealthTask

inductive BoardEvent where
  | pass (ms : Nat)
  | timer
  /-- The next step of `vEthRxTask`; `rx` is what it finds if it is at `recv`. -/
  | rx (rx : EthRx)
  /-- The next step of `vRaftTask`; `beyond` is what lies behind the payload of a message in memory. -/
  | raft (beyond : Nat → UInt8) (env now : Nat)
  /-- The next step of `vHealthTask`; `matrix` is what lies behind the corroboration matrix, and `now`
  is the time when the oracle asks for it. -/
  | health (beyond matrix : Nat → UInt8) (env now : Nat)

def Board.boot (start : Nat) : Board where
  time := start
  raftInbox := .empty
  hbInbox := .empty
  notified := 0
  raft := .starting
  lastTick := 0
  health := .idle

/-- `elapsed`, which is an `int`. -/
def Board.elapsed (b : Board) : Int := (clock b.time - clock b.lastTick).toInt32.toInt

/-- The call that `vHealthTask` makes for a message. -/
def healthCall (msg : RxMsg) (beyond : Nat → UInt8) (sample env now : Nat) : Option NodeCall :=
  (healthMessage msg.msgType msg.payload beyond).map fun
    | .heartbeat hb => .heartbeat msg.srcNode hb sample env now
    | .announce ann => .announce msg.srcNode ann sample

def Board.ethRxStep (b : Board) (rx : EthRx) : Board :=
  if b.raftInbox.sender ≠ .idle then { b with raftInbox := b.raftInbox.retry raftInboxDepth }
  else if b.hbInbox.sender ≠ .idle then { b with hbInbox := b.hbInbox.retry hbInboxDepth }
  else
    match rxMessage rx with
    | none => b
    | some (ethertype, msg) =>
        if ethertype = ethertypeRaft then { b with raftInbox := b.raftInbox.send raftInboxDepth msg }
        else if ethertype = ethertypeHeartbeat then
          { b with hbInbox := b.hbInbox.send hbInboxDepth msg }
        else b

def Board.raftStep (b : Board) : Board :=
  match b.raft with
  | .starting => { b with lastTick := b.time, raft := .waiting }
  | .waiting =>
      match b.raftInbox.receive with
      | some (_, raftInbox) => { b with raftInbox, raft := .draining }
      | none => { b with raft := .draining }
  | .draining =>
      match b.raftInbox.receive with
      | some (_, raftInbox) => { b with raftInbox }
      | none => { b with raft := .checking }
  | .checking =>
      if 0 < b.notified then { b with notified := 0, lastTick := b.time, raft := .waiting }
      else { b with raft := .waiting }

def Board.healthStep (b : Board) : Board :=
  match b.health with
  | .idle => { b with health := .waiting b.time }
  | .waiting sample =>
      match b.hbInbox.receive with
      | some (_, hbInbox) => { b with hbInbox, health := .ready b.time }
      | none => { b with health := .ready sample }
  | .ready _ => { b with health := .idle }

def Board.step (b : Board) : BoardEvent → Board
  | .pass ms => { b with time := b.time + ms }
  | .timer => { b with notified := b.notified + 1 }
  | .rx rx => b.ethRxStep rx
  | .raft .. => b.raftStep
  | .health .. => b.healthStep

/-- The message that a step of the Raft task takes from its queue. -/
def Board.takes (b : Board) : Option RxMsg :=
  match b.raft with
  | .waiting | .draining => b.raftInbox.receive.map Prod.fst
  | .starting | .checking => none

def Board.call (b : Board) : BoardEvent → Option NodeCall
  | .raft beyond env now =>
      match b.raft with
      | .checking => if 0 < b.notified then some (.oracleTick env b.elapsed) else none
      | .starting | .waiting | .draining =>
          b.takes.map fun msg => .dispatch msg.srcNode msg.msgType msg.payload beyond env now
  | .health beyond matrix env now =>
      match b.health with
      | .idle => none
      | .waiting _ => b.hbInbox.receive.bind fun m => healthCall m.1 beyond b.time env now
      | .ready sample => some (.tick matrix sample env now)
  | .pass _ | .timer | .rx _ => none

/-! ### What is put into the queues and taken from them -/

/-- The message that a step of `vEthRxTask` puts into the queue of an EtherType. -/
def Board.accepts (ethertype : UInt16) (b : Board) : BoardEvent → Option RxMsg
  | .rx rx =>
      if b.raftInbox.sender = .idle ∧ b.hbInbox.sender = .idle then
        (rxMessage rx).bind fun m => if m.1 = ethertype then some m.2 else none
      else none
  | .pass _ | .timer | .raft .. | .health .. => none

def NodeCall.message : NodeCall → Option RxMsg
  | .dispatch srcNode msgType payload .. => some ⟨msgType, srcNode, payload⟩
  | .startHealth | .oracleTick .. | .announce .. | .heartbeat .. | .tick .. | .propose .. => none

/-- The message that a step of the health task takes from its queue. -/
def Board.attends (b : Board) : BoardEvent → Option RxMsg
  | .health .. =>
      match b.health with
      | .waiting _ => b.hbInbox.receive.map Prod.fst
      | .idle | .ready _ => none
  | .pass _ | .timer | .rx _ | .raft .. => none

theorem message_healthCall (msg : RxMsg) (beyond : Nat → UInt8) (sample env now : Nat) :
    (healthCall msg beyond sample env now).bind NodeCall.message = none := by
  rw [healthCall]
  rcases healthMessage msg.msgType msg.payload beyond with - | hb | ann <;> rfl

/-- Only the Raft task dispatches, and what it dispatches it has taken from its queue. -/
theorem Board.message_call (b : Board) (e : BoardEvent) :
    (b.call e).bind NodeCall.message = match e with
      | .raft .. => b.takes
      | _ => none := by
  cases e with
  | pass | timer | rx => rfl
  | raft beyond env now =>
      rw [Board.call, takes]
      cases b.raft with
      | starting => rfl
      | checking => dsimp only; split <;> rfl
      | waiting | draining => cases b.raftInbox.receive <;> rfl
  | health beyond matrix env now =>
      rw [Board.call]
      cases b.health with
      | idle | ready => rfl
      | waiting sample =>
          cases b.hbInbox.receive with
          | none => rfl
          | some m => exact message_healthCall ..

/-! ### The queues are mailboxes -/

/-- The call of the Raft queue that a step makes. -/
def Board.raftMail (b : Board) : BoardEvent → Option (MailboxEvent RxMsg)
  | .rx rx =>
      if b.raftInbox.sender ≠ .idle then some .retry
      else (b.accepts ethertypeRaft (.rx rx)).map .send
  | .raft .. =>
      match b.raft with
      | .waiting | .draining => some .receive
      | .starting | .checking => none
  | .pass _ | .timer | .health .. => none

/-- The call of the heartbeat queue that a step makes. -/
def Board.hbMail (b : Board) : BoardEvent → Option (MailboxEvent RxMsg)
  | .rx rx =>
      if b.raftInbox.sender ≠ .idle then none
      else if b.hbInbox.sender ≠ .idle then some .retry
      else (b.accepts ethertypeHeartbeat (.rx rx)).map .send
  | .health .. =>
      match b.health with
      | .waiting _ => some .receive
      | .idle | .ready _ => none
  | .pass _ | .timer | .raft .. => none

theorem Board.raftInboxSimulation :
    Simulation Board.step (Mailbox.step raftInboxDepth) Board.raftInbox Board.raftMail (fun _ => True)
      fun _ _ => True where
  keeps _ _ _ := trivial
  allows _ _ _ _ _ := trivial
  sees b e _ := by
    cases e with
    | pass | timer => rfl
    | rx rx =>
        rw [step, ethRxStep, raftMail, accepts]
        split
        · rfl
        · rename_i hraft
          rw [not_not] at hraft
          split
          · rename_i hhb
            rw [if_neg fun h => hhb h.2]
            rfl
          · rename_i hhb
            rw [if_pos ⟨hraft, not_not.mp hhb⟩]
            cases rxMessage rx with
            | none => rfl
            | some m =>
                dsimp only [Option.bind_some]
                split_ifs
                · rw [Option.map_some, Option.elim_some, Mailbox.step, hraft]
                · rfl
                · rfl
    | raft =>
        rw [step, raftStep, raftMail]
        cases b.raft with
        | starting => rfl
        | checking => dsimp only; split <;> rfl
        | waiting | draining =>
            dsimp only [Option.elim_some, Mailbox.step]
            cases b.raftInbox.receive <;> rfl
    | health =>
        rw [step, healthStep, raftMail]
        cases b.health with
        | idle | ready => rfl
        | waiting sample => dsimp only; cases b.hbInbox.receive <;> rfl

theorem Board.hbInboxSimulation :
    Simulation Board.step (Mailbox.step hbInboxDepth) Board.hbInbox Board.hbMail (fun _ => True)
      fun _ _ => True where
  keeps _ _ _ := trivial
  allows _ _ _ _ _ := trivial
  sees b e _ := by
    cases e with
    | pass | timer => rfl
    | rx rx =>
        rw [step, ethRxStep, hbMail, accepts]
        split
        · rfl
        · rename_i hraft
          rw [not_not] at hraft
          split
          · rfl
          · rename_i hhb
            rw [not_not] at hhb
            rw [if_pos ⟨hraft, hhb⟩]
            cases rxMessage rx with
            | none => rfl
            | some m =>
                dsimp only [Option.bind_some]
                split_ifs with hetype hetype'
                · rw [hetype] at hetype'
                  exact absurd hetype' (by decide)
                · rfl
                · rw [Option.map_some, Option.elim_some, Mailbox.step, hhb]
                · rfl
    | raft =>
        rw [step, raftStep, hbMail]
        cases b.raft with
        | starting => rfl
        | checking => dsimp only; split <;> rfl
        | waiting | draining => dsimp only; cases b.raftInbox.receive <;> rfl
    | health =>
        rw [step, healthStep, hbMail]
        cases b.health with
        | idle | ready => rfl
        | waiting sample =>
            dsimp only [Option.elim_some, Mailbox.step]
            cases b.hbInbox.receive <;> rfl

theorem Board.puts_raftMail (b : Board) (e : BoardEvent) :
    (b.raftMail e).bind b.raftInbox.puts = b.accepts ethertypeRaft e := by
  cases e with
  | pass | timer | health => rfl
  | rx rx =>
      rw [raftMail]
      split
      · rename_i hraft
        rw [accepts, if_neg fun h => hraft h.1]
        rfl
      · rename_i hraft
        cases b.accepts ethertypeRaft (.rx rx) with
        | none => rfl
        | some m => rw [Option.map_some, Option.bind_some, Mailbox.puts, not_not.mp hraft]
  | raft =>
      rw [raftMail]
      cases b.raft <;> rfl

theorem Board.puts_hbMail (b : Board) (e : BoardEvent) :
    (b.hbMail e).bind b.hbInbox.puts = b.accepts ethertypeHeartbeat e := by
  cases e with
  | pass | timer | raft => rfl
  | rx rx =>
      rw [hbMail]
      split
      · rename_i hraft
        rw [accepts, if_neg fun h => hraft h.1]
        rfl
      · split
        · rename_i hhb
          rw [accepts, if_neg fun h => hhb h.2]
          rfl
        · rename_i hhb
          cases b.accepts ethertypeHeartbeat (.rx rx) with
          | none => rfl
          | some m => rw [Option.map_some, Option.bind_some, Mailbox.puts, not_not.mp hhb]
  | health =>
      rw [hbMail]
      cases b.health <;> rfl

theorem Board.gets_raftMail (b : Board) (e : BoardEvent) :
    (b.raftMail e).bind b.raftInbox.gets = (b.call e).bind NodeCall.message := by
  rw [message_call]
  cases e with
  | pass | timer | health => rfl
  | rx rx =>
      rw [raftMail]
      split
      · rfl
      · cases b.accepts ethertypeRaft (.rx rx) <;> rfl
  | raft =>
      rw [raftMail, takes]
      cases b.raft <;> rfl

theorem Board.gets_hbMail (b : Board) (e : BoardEvent) :
    (b.hbMail e).bind b.hbInbox.gets = b.attends e := by
  cases e with
  | pass | timer | raft => rfl
  | rx rx =>
      rw [hbMail]
      split
      · rfl
      · split
        · rfl
        · cases b.accepts ethertypeHeartbeat (.rx rx) <;> rfl
  | health =>
      rw [hbMail, attends]
      cases b.health <;> rfl

/-! ### Messages -/

/-- How the messages that a task has handled relate to those that were accepted for it. -/
structure InOrder (depth : Nat) (accepted handled : List RxMsg) (box : Mailbox RxMsg) : Prop where
  sublist : handled.Sublist accepted
  count : accepted.length
    = handled.length + box.dropped + box.queue.length + box.sender.held.length
  waiting_le : box.queue.length ≤ depth
  lossless_iff : accepted = handled ++ box.queue ++ box.sender.held ↔ box.dropped = 0

theorem inOrder_of_orderly {depth : Nat} {box : Mailbox RxMsg} (h : box.Orderly depth) :
    InOrder depth box.sent box.received box where
  sublist := h.received_sublist
  count := h.length_sent
  waiting_le := h.length_le
  lossless_iff := h.lossless_iff

def Board.dispatched (b : Board) (es : List BoardEvent) : List RxMsg :=
  (trace Board.step Board.call b es).filterMap NodeCall.message

theorem Board.sent_raftInbox (start : Nat) (es : List BoardEvent) :
    (run Board.step (boot start) es).raftInbox.sent
      = trace Board.step (accepts ethertypeRaft) (boot start) es := by
  have hsent := Mailbox.sent_of_simulation raftInboxSimulation (s := boot start) rfl es
  simp only [puts_raftMail] at hsent
  exact hsent

theorem Board.received_raftInbox (start : Nat) (es : List BoardEvent) :
    (run Board.step (boot start) es).raftInbox.received = (boot start).dispatched es := by
  have hreceived := Mailbox.received_of_simulation raftInboxSimulation (s := boot start) rfl es
  simp only [gets_raftMail] at hreceived
  rw [dispatched, filterMap_trace]
  exact hreceived

/-- In every interleaving of the tasks the Raft task dispatches messages of 0x88B5 frames, and the
health task handles messages of 0x88B7 frames, in the order in which they were accepted and each once;
none is missing unless a full queue dropped one; and when a message is taken from the Raft queue, at most
16 newer ones have been accepted. -/
theorem messages_in_order (start : Nat) (es : List BoardEvent) :
    InOrder raftInboxDepth (trace Board.step (Board.accepts ethertypeRaft) (.boot start) es)
        ((Board.boot start).dispatched es) (run Board.step (.boot start) es).raftInbox ∧
      InOrder hbInboxDepth (trace Board.step (Board.accepts ethertypeHeartbeat) (.boot start) es)
        (trace Board.step Board.attends (.boot start) es) (run Board.step (.boot start) es).hbInbox ∧
      Throughout (fun pre e =>
        ∀ msg ∈ ((run Board.step (.boot start) pre).call e).bind NodeCall.message, ∃ older newer,
          trace Board.step (Board.accepts ethertypeRaft) (.boot start) pre = older ++ msg :: newer ∧
            newer.length ≤ raftInboxDepth) es := by
  have hraft (fs : List BoardEvent) : (run Board.step (.boot start) fs).raftInbox.Orderly raftInboxDepth :=
    Mailbox.orderly_of_simulation Board.raftInboxSimulation (by decide) rfl fs
  refine ⟨?_, ?_, fun pre e post hsplit msg hmsg => ?_⟩
  · have horder := inOrder_of_orderly (hraft es)
    rwa [Board.sent_raftInbox, Board.received_raftInbox] at horder
  · have hhb := Mailbox.orderly_of_simulation Board.hbInboxSimulation (s := Board.boot start)
      (by decide) rfl es
    have horder := inOrder_of_orderly hhb
    rw [Mailbox.sent_of_simulation Board.hbInboxSimulation (s := Board.boot start) rfl,
      Mailbox.received_of_simulation Board.hbInboxSimulation (s := Board.boot start) rfl] at horder
    simpa only [Board.puts_hbMail, Board.gets_hbMail] using horder
  · rw [← Board.gets_raftMail] at hmsg
    obtain ⟨mail, -, hget⟩ := Option.bind_eq_some_iff.mp hmsg
    rw [← Board.sent_raftInbox]
    exact (hraft pre).newer_le hget

/-! ### Time -/

def NodeCall.elapsed? : NodeCall → Option Int
  | .oracleTick _ elapsedMs => some elapsedMs
  | .startHealth | .dispatch .. | .announce .. | .heartbeat .. | .tick .. | .propose .. => none

theorem elapsed_healthCall (msg : RxMsg) (beyond : Nat → UInt8) (sample env now : Nat) :
    (healthCall msg beyond sample env now).bind NodeCall.elapsed? = none := by
  rw [healthCall]
  rcases healthMessage msg.msgType msg.payload beyond with - | hb | ann <;> rfl

def Board.elapsedTimes (b : Board) (es : List BoardEvent) : List Int :=
  (trace Board.step Board.call b es).filterMap NodeCall.elapsed?

/-- If the step calls `oracle_tick`, then in time for `elapsed` to hold how long it was not called. -/
def OracleTicksInTime (start : Nat) (pre : List BoardEvent) : BoardEvent → Prop
  | .raft .. =>
      let b := run Board.step (.boot start) pre
      b.raft = .checking → 0 < b.notified → b.time < b.lastTick + 2 ^ 31
  | .pass _ | .timer | .rx _ | .health .. => True

instance (start : Nat) (pre : List BoardEvent) : ∀ e, Decidable (OracleTicksInTime start pre e)
  | .raft .. => inferInstanceAs (Decidable (_ → _ → _))
  | .pass _ | .timer | .rx _ | .health .. => inferInstanceAs (Decidable True)

theorem Board.elapsed_eq {b : Board} (hle : b.lastTick ≤ b.time) (hlt : b.time < b.lastTick + 2 ^ 31) :
    b.elapsed = b.time - b.lastTick := by
  have hnat : (clock b.time - clock b.lastTick).toNat = b.time - b.lastTick := by
    rw [clock_sub_clock hle]
    omega
  have hint : (clock b.time - clock b.lastTick).toInt32.toInt
      = ((clock b.time - clock b.lastTick).toNat : Int) := by
    refine BitVec.toInt_eq_toNat_of_lt ?_
    show 2 * (clock b.time - clock b.lastTick).toNat < 2 ^ 32
    omega
  rw [elapsed, hint, hnat]
  omega

/-- Until the Raft task has begun, nothing was handed over; from then on all the time up to the last
tick was. -/
def Board.Accounted (b : Board) (start : Nat) (times : List Int) : Prop :=
  (b.raft = .starting ∧ start ≤ b.time ∧ times = []) ∨
    ∃ began, start ≤ began ∧ began ≤ b.lastTick ∧ b.lastTick ≤ b.time ∧ b.raft ≠ .starting ∧
      times.sum = (b.lastTick : Int) - began ∧ ∀ t ∈ times, 0 ≤ t

/-- The part of the board that the account is about, where the Raft task does nothing. -/
theorem Board.Accounted.other {b b' : Board} {start : Nat} {times : List Int}
    (h : b.Accounted start times) (hraft : b'.raft = b.raft) (hlast : b'.lastTick = b.lastTick)
    (htime : b.time ≤ b'.time) : b'.Accounted start times := by
  rcases h with ⟨hstarting, hstart, htimes⟩ | ⟨began, hstart, hbegan, hle, hstarted, hsum, hpos⟩
  · exact .inl ⟨hraft.trans hstarting, hstart.trans htime, htimes⟩
  · refine .inr ⟨began, hstart, hlast ▸ hbegan, ?_, hraft ▸ hstarted, hlast ▸ hsum, hpos⟩
    rw [hlast]
    exact hle.trans htime

theorem Board.Accounted.raftStep {b : Board} {start : Nat} {times : List Int}
    (h : b.Accounted start times)
    (hintime : b.raft = .checking → 0 < b.notified → b.time < b.lastTick + 2 ^ 31)
    (beyond : Nat → UInt8) (env now : Nat) :
    b.raftStep.Accounted start
      (times ++ ((b.call (.raft beyond env now)).bind NodeCall.elapsed?).toList) := by
  rcases h with ⟨hstarting, hstart, htimes⟩ | ⟨began, hstart, hbegan, hle, hstarted, hsum, hpos⟩
  · rw [Board.raftStep, Board.call, hstarting, htimes]
    exact .inr ⟨b.time, hstart, le_rfl, le_rfl, by simp, by simp [takes, hstarting], by
      simp [takes, hstarting]⟩
  · rw [Board.raftStep, Board.call]
    cases hraft : b.raft with
    | starting => exact absurd hraft hstarted
    | waiting | draining =>
        have hnone : ((b.takes.map fun msg => NodeCall.dispatch msg.srcNode msg.msgType msg.payload beyond
            env now).bind NodeCall.elapsed?).toList = [] := by
          cases b.takes <;> rfl
        rw [hnone, List.append_nil]
        cases b.raftInbox.receive <;>
          exact .inr ⟨began, hstart, hbegan, hle, by simp, hsum, hpos⟩
    | checking =>
        dsimp only
        split
        · rename_i hnotified
          have helapsed := elapsed_eq hle (hintime hraft hnotified)
          refine .inr ⟨began, hstart, hbegan.trans hle, le_rfl, by simp, ?_, fun t ht => ?_⟩
          · simp only [Option.bind_some, NodeCall.elapsed?, Option.toList_some, List.sum_append,
              List.sum_singleton, hsum, helapsed]
            omega
          · rcases List.mem_append.mp ht with hold | hnew
            · exact hpos t hold
            · rw [List.mem_singleton.mp hnew, helapsed]
              omega
        · rw [Option.bind_none, Option.toList_none, List.append_nil]
          exact .inr ⟨began, hstart, hbegan, hle, by simp, hsum, hpos⟩

/-- Two ticks of the Raft task, the second after two notifications. -/
def twoTicksRun : List BoardEvent :=
  let turn := .raft (fun _ => 0) 0 0
  [.pass 7, turn, .pass 50, .timer, turn, turn, turn, .pass 60, .timer, .timer, turn, turn, turn]

end L2Oracle
