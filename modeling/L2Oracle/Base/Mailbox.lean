import L2Oracle.Base.Simulation

/-!
# A bounded queue that drops its oldest item

One task puts items into a queue of bounded depth and never waits. If the queue is full it takes the
oldest item out and tries again. These are three calls of the queue, and another task, which receives
from it, may run between any two of them: it may empty the queue after the first call was refused, so
that an item is dropped, or none is, where there was room by then.

Beside the queue the mailbox keeps what was put into it, what was received from it and how many items
were dropped. These are no part of a program: `Orderly` relates them to the queue, and says that what
is received is what was put in, in order and without repetition, but for the items that were dropped,
and that an item is never received when more than a queue's depth of newer ones were put in.
-/

namespace Base

/-- Where the sender is in its calls, with the item it still holds. -/
inductive Sender (α : Type) where
  | idle
  /-- The queue was full. -/
  | refused (x : α)
  /-- An item was taken out. -/
  | retrying (x : α)
deriving DecidableEq, Repr

def Sender.held {α : Type} : Sender α → List α
  | idle => []
  | refused x | retrying x => [x]

structure Mailbox (α : Type) where
  queue : List α
  sender : Sender α
  sent : List α
  received : List α
  dropped : Nat
deriving DecidableEq, Repr

inductive MailboxEvent (α : Type) where
  | send (x : α)
  | retry
  | receive

namespace Mailbox

variable {α : Type} (depth : Nat)

def empty : Mailbox α where
  queue := []
  sender := .idle
  sent := []
  received := []
  dropped := 0

/-- The first call for an item. -/
def send (m : Mailbox α) (x : α) : Mailbox α :=
  if m.queue.length < depth then { m with queue := m.queue ++ [x], sent := m.sent ++ [x] }
  else { m with sender := .refused x, sent := m.sent ++ [x] }

/-- The next call for an item that was refused. -/
def retry (m : Mailbox α) : Mailbox α :=
  match m.sender with
  | .idle => m
  | .refused x =>
      { m with
        queue := m.queue.drop 1
        sender := .retrying x
        dropped := m.dropped + min m.queue.length 1 }
  | .retrying x =>
      if m.queue.length < depth then { m with queue := m.queue ++ [x], sender := .idle }
      else { m with sender := .idle, dropped := m.dropped + 1 }

def receive (m : Mailbox α) : Option (α × Mailbox α) :=
  match m.queue with
  | [] => none
  | x :: queue => some (x, { m with queue, received := m.received ++ [x] })

/-- A call of either task. The sender starts with an item when it is done with the one before. -/
def step (m : Mailbox α) : MailboxEvent α → Mailbox α
  | .send x =>
      match m.sender with
      | .idle => m.send depth x
      | .refused _ | .retrying _ => m
  | .retry => m.retry depth
  | .receive =>
      match m.receive with
      | some (_, m') => m'
      | none => m

/-- The item that a call puts in, now or in a later call. -/
def puts (m : Mailbox α) : MailboxEvent α → Option α
  | .send x =>
      match m.sender with
      | .idle => some x
      | .refused _ | .retrying _ => none
  | .retry | .receive => none

/-- The item that a call receives. -/
def gets (m : Mailbox α) : MailboxEvent α → Option α
  | .receive => m.receive.map Prod.fst
  | .send _ | .retry => none

theorem sent_step (m : Mailbox α) (e : MailboxEvent α) :
    (m.step depth e).sent = m.sent ++ (m.puts e).toList := by
  cases e with
  | send x =>
      rw [step, puts]
      cases m.sender with
      | idle =>
          dsimp only
          rw [send]
          split <;> rfl
      | refused | retrying => exact (List.append_nil _).symm
  | retry =>
      rw [step, retry, puts, Option.toList_none, List.append_nil]
      split
      · rfl
      · rfl
      · split <;> rfl
  | receive =>
      rw [step, receive, puts, Option.toList_none, List.append_nil]
      cases m.queue <;> rfl

theorem received_step (m : Mailbox α) (e : MailboxEvent α) :
    (m.step depth e).received = m.received ++ (m.gets e).toList := by
  cases e with
  | send x =>
      rw [step, gets, Option.toList_none, List.append_nil]
      cases m.sender with
      | idle =>
          dsimp only
          rw [send]
          split <;> rfl
      | refused | retrying => rfl
  | retry =>
      rw [step, retry, gets, Option.toList_none, List.append_nil]
      split
      · rfl
      · rfl
      · split <;> rfl
  | receive =>
      rw [step, gets, receive]
      cases m.queue with
      | nil => exact (List.append_nil _).symm
      | cons => rfl

/-- The sender never loses the item it holds, and what was put in is what left the queue, what is in it
and what the sender holds, in this order. Of what left, all but the dropped items were received. -/
structure Orderly (m : Mailbox α) : Prop where
  length_le : m.queue.length ≤ depth
  room : ∀ x, m.sender = .retrying x → m.queue.length < depth
  kept : ∃ gone, m.sent = gone ++ m.queue ++ m.sender.held ∧ m.received.Sublist gone ∧
    gone.length = m.received.length + m.dropped

theorem orderly_empty : (empty : Mailbox α).Orderly depth where
  length_le := Nat.zero_le _
  room _ h := by cases h
  kept := ⟨[], rfl, List.Sublist.refl _, rfl⟩

variable {depth} {m : Mailbox α} (h : m.Orderly depth)
include h

theorem Orderly.send (hidle : m.sender = .idle) (x : α) : (m.send depth x).Orderly depth := by
  obtain ⟨gone, hsent, hreceived, hlength⟩ := h.kept
  rw [hidle, Sender.held, List.append_nil] at hsent
  rw [Mailbox.send]
  split
  · rename_i hlt
    refine ⟨?_, fun y hy => ?_, gone, ?_, hreceived, hlength⟩
    · rw [List.length_append]
      exact hlt
    · rw [hidle] at hy
      cases hy
    · rw [hsent, hidle, Sender.held, List.append_nil, List.append_assoc]
  · refine ⟨h.length_le, fun y hy => ?_, gone, ?_, hreceived, hlength⟩
    · cases hy
    · rw [hsent, Sender.held]

theorem Orderly.retry (hdepth : 0 < depth) : (m.retry depth).Orderly depth := by
  obtain ⟨gone, hsent, hreceived, hlength⟩ := h.kept
  rw [Mailbox.retry]
  cases hsender : m.sender with
  | idle => exact h
  | refused x =>
      rw [hsender, Sender.held] at hsent
      have hle := h.length_le
      refine ⟨?_, fun y _ => ?_, gone ++ m.queue.take 1, ?_, ?_, ?_⟩
      · rw [List.length_drop]
        omega
      · rw [List.length_drop]
        omega
      · dsimp only
        rw [hsent, Sender.held, List.append_assoc gone (m.queue.take 1), List.take_append_drop]
      · exact hreceived.trans (List.sublist_append_left _ _)
      · dsimp only
        rw [List.length_append, List.length_take, hlength]
        omega
  | retrying x =>
      rw [hsender, Sender.held] at hsent
      have hroom := h.room x hsender
      dsimp only
      rw [if_pos hroom]
      refine ⟨?_, fun y hy => ?_, gone, ?_, hreceived, hlength⟩
      · rw [List.length_append]
        exact hroom
      · cases hy
      · rw [hsent, Sender.held, List.append_nil, List.append_assoc]

theorem Orderly.receive {x : α} {m' : Mailbox α} (hm' : m.receive = some (x, m')) :
    m'.Orderly depth := by
  obtain ⟨gone, hsent, hreceived, hlength⟩ := h.kept
  rw [Mailbox.receive] at hm'
  split at hm'
  · cases hm'
  · rename_i y queue hqueue
    cases hm'
    rw [hqueue] at hsent
    have hle := h.length_le
    rw [hqueue, List.length_cons] at hle
    refine ⟨Nat.le_of_succ_le hle, fun y hy => ?_, gone ++ [x], ?_, ?_, ?_⟩
    · have hroom := h.room y hy
      rw [hqueue, List.length_cons] at hroom
      exact Nat.lt_of_succ_lt hroom
    · dsimp only
      rw [hsent, List.append_assoc gone [x], List.singleton_append]
    · exact hreceived.append (List.Sublist.refl _)
    · dsimp only
      rw [List.length_append, List.length_append, hlength, List.length_singleton]
      omega

theorem Orderly.step (hdepth : 0 < depth) (e : MailboxEvent α) : (m.step depth e).Orderly depth := by
  cases e with
  | send x =>
      rw [Mailbox.step]
      cases hsender : m.sender with
      | idle => exact h.send hsender x
      | refused | retrying => exact h
  | retry => exact h.retry hdepth
  | receive =>
      rw [Mailbox.step]
      cases hreceive : m.receive with
      | none => exact h
      | some m' => exact h.receive hreceive

/-- When an item is received, at most a queue's depth of newer ones have been put in. -/
theorem Orderly.newer_le {x : α} {e : MailboxEvent α} (hx : x ∈ m.gets e) :
    ∃ older newer, m.sent = older ++ x :: newer ∧ newer.length ≤ depth := by
  obtain ⟨gone, hsent, -⟩ := h.kept
  cases e with
  | send | retry => cases hx
  | receive =>
      rw [gets, Mailbox.receive] at hx
      cases hqueue : m.queue with
      | nil =>
          rw [hqueue] at hx
          cases hx
      | cons y queue =>
          rw [hqueue] at hx
          obtain rfl : y = x := Option.some.inj hx
          rw [hqueue, List.append_assoc, List.cons_append] at hsent
          refine ⟨gone, _, hsent, ?_⟩
          have hle := h.length_le
          rw [hqueue, List.length_cons] at hle
          have hheld : m.sender.held.length ≤ 1 := by
            cases m.sender <;> exact Nat.le_of_ble_eq_true rfl
          rw [List.length_append]
          omega

theorem Orderly.received_sublist : m.received.Sublist m.sent := by
  obtain ⟨gone, hsent, hreceived, -⟩ := h.kept
  rw [hsent, List.append_assoc]
  exact hreceived.trans (List.sublist_append_left _ _)

/-- Every item put in was received or dropped, is waiting or is held by the sender. -/
theorem Orderly.length_sent : m.sent.length
    = m.received.length + m.dropped + m.queue.length + m.sender.held.length := by
  obtain ⟨gone, hsent, -, hlength⟩ := h.kept
  rw [hsent, List.length_append, List.length_append, hlength]

/-- Nothing is missing among the items received exactly if none was dropped. -/
theorem Orderly.lossless_iff :
    m.sent = m.received ++ m.queue ++ m.sender.held ↔ m.dropped = 0 := by
  constructor
  · intro hsent
    have hlength := congrArg List.length hsent
    rw [h.length_sent, List.length_append, List.length_append] at hlength
    omega
  · intro hdropped
    obtain ⟨gone, hsent, hreceived, hlength⟩ := h.kept
    rw [hdropped, Nat.add_zero] at hlength
    rw [hsent, hreceived.eq_of_length hlength.symm]

omit h in
theorem orderly_run (hdepth : 0 < depth) (es : List (MailboxEvent α)) :
    (run (step depth) empty es).Orderly depth :=
  List.foldlRecOn es (step depth) (motive := Orderly depth) (orderly_empty depth)
    fun _ h e _ => h.step hdepth e

/-! ### A mailbox inside a system

Each step of the system is at most one call of the mailbox. -/

section
variable {S E : Type} {sysStep : S → E → S} {box : S → Mailbox α} {mail : S → E → Option (MailboxEvent α)}
  (hsim : Simulation sysStep (step depth) box mail (fun _ => True) fun _ _ => True)
include hsim
omit h

theorem orderly_of_simulation (hdepth : 0 < depth) {s : S} (hs : box s = empty) (es : List E) :
    (box (run sysStep s es)).Orderly depth := by
  rw [hsim.sees_run trivial, hs]
  exact orderly_run hdepth _

theorem sent_of_simulation {s : S} (hs : box s = empty) (es : List E) :
    (box (run sysStep s es)).sent = trace sysStep (fun s e => (mail s e).bind (box s).puts) s es := by
  have hlog := log_run sysStep (fun s e => (mail s e).bind (box s).puts) (f := fun s => (box s).sent)
    (fun s e => by
      rw [hsim.sees s e trivial]
      cases mail s e with
      | none => exact (List.append_nil _).symm
      | some x => exact sent_step depth (box s) x) s es
  rw [hlog, hs]
  rfl

theorem received_of_simulation {s : S} (hs : box s = empty) (es : List E) :
    (box (run sysStep s es)).received
      = trace sysStep (fun s e => (mail s e).bind (box s).gets) s es := by
  have hlog := log_run sysStep (fun s e => (mail s e).bind (box s).gets)
    (f := fun s => (box s).received)
    (fun s e => by
      rw [hsim.sees s e trivial]
      cases mail s e with
      | none => exact (List.append_nil _).symm
      | some x => exact received_step depth (box s) x) s es
  rw [hlog, hs]
  rfl

end

end Mailbox

end Base
