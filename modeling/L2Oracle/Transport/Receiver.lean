import L2Oracle.Base.Ring
import L2Oracle.Base.Run
import L2Oracle.Transport.Ethernet

/-!
# Frames that are received

`eth_recv` is called in a loop by one task and runs against the receive interrupt, the DMA and a
sender. This module takes it apart into the steps that they can come between: the task takes the
semaphore, asks the HAL for a frame, and gives the descriptor back when it has parsed the frame. A
frame that arrives is put into the next descriptor, and its interrupt gives the semaphore. A sender
holds the lock of the HAL handle while it is in `HAL_ETH_TransmitFrame`.

Each call takes one token and at most one frame, so every frame needs a token of its own. The semaphore
is binary and keeps only one. A second frame that completes before the task has taken the token of the
first gets none, and a call that finds the handle locked loses the one it has taken. Nothing else can
go wrong, and each of these does: the frame whose token was lost is stranded as soon as the task has
nothing else to do. After `wedgedRun` no frame will ever wake the task again.
-/

namespace L2Oracle

open Base

/-! ### The receiver -/

/-- The number of receive descriptors. A buffer has room for the longest frame, so each holds one. -/
def ethRxbufnb : Nat := 4

inductive RxTask where
  /-- In `xSemaphoreTake`, or on its way there. -/
  | waiting
  | took
  /-- Behind `HAL_ETH_GetReceivedFrame_IT`, with the frame in the given descriptor. -/
  | processing (desc : Nat)
deriving DecidableEq, Repr

structure Receiver where
  ring : Ring (List UInt8) ethRxbufnb
  rxSem : Bool
  locked : Bool
  task : RxTask

def Receiver.init : Receiver where
  ring := .empty
  rxSem := false
  locked := false
  task := .waiting

/-- The status that `HAL_ETH_GetReceivedFrame_IT` returns. It locks the handle and finds the next frame
if there is one; every frame is one segment. -/
def halEthGetReceivedFrameIT (s : Receiver) : HalStatus × Receiver :=
  if s.locked then (.busy, s)
  else match s.ring.take with
    | none => (.error, s)
    | some (_, ring) => (.ok, { s with ring })

inductive RxEvent where
  /-- The DMA has a frame and raises the receive interrupt. -/
  | arrive (frame : List UInt8)
  /-- `xSemaphoreTake` succeeds. Where it times out instead, `eth_recv` returns and is called again. -/
  | take
  | get
  /-- The rest of `eth_recv`. Every way through it ends with `rx_descriptors_release`. -/
  | finish
  /-- A sender enters `HAL_ETH_TransmitFrame`, or leaves it. -/
  | lock
  | unlock
deriving DecidableEq, Repr

def Receiver.step (s : Receiver) : RxEvent → Receiver
  | .arrive frame =>
      match s.ring.fill frame with
      -- `HAL_ETH_IRQHandler` unlocks the handle, whoever has locked it.
      | some ring => { s with ring, rxSem := true, locked := false }
      -- Without a descriptor the frame is lost, and there is no receive interrupt.
      | none => s
  | .take => if s.task = .waiting ∧ s.rxSem then { s with rxSem := false, task := .took } else s
  | .get =>
      if s.task = .took then
        match halEthGetReceivedFrameIT s with
        | (.ok, s') => { s' with task := .processing s.ring.head }
        | (_, s') => { s' with task := .waiting }
      else s
  | .finish =>
      match s.task with
      | .processing desc => { s with ring := s.ring.release desc, task := .waiting }
      | .waiting | .took => s
  | .lock => { s with locked := true }
  | .unlock => { s with locked := false }

def Receiver.reach (es : List RxEvent) : Receiver := Base.run Receiver.step .init es

@[simp] theorem Receiver.reach_snoc (es : List RxEvent) (e : RxEvent) :
    reach (es ++ [e]) = (reach es).step e := by
  simp [reach]

/-! ### Stranded frames -/

/-- The task waits for a token that is not there. -/
def Receiver.Blocked (s : Receiver) : Prop := s.task = .waiting ∧ s.rxSem = false

instance (s : Receiver) : Decidable s.Blocked := inferInstanceAs (Decidable (_ ∧ _))

/-- No frame waits in a descriptor while the task is blocked, and the descriptors are never all full
while the semaphore is empty. -/
structure Receiver.NoneStranded (s : Receiver) : Prop where
  blocked : s.Blocked → ∀ i < ethRxbufnb, s.ring.cells i = none
  full : ¬((∀ i < ethRxbufnb, (s.ring.cells i).isSome) ∧ s.rxSem = false)

/-- A frame that is put into a descriptor finds the semaphore empty, and the task finds the handle
unlocked. -/
def Receiver.KeepsPace (s : Receiver) : RxEvent → Prop
  | .arrive frame => (s.ring.fill frame).isSome → s.rxSem = false
  | .get => s.task = .took → s.locked = false
  | .take | .finish | .lock | .unlock => True

instance (s : Receiver) : ∀ e, Decidable (s.KeepsPace e)
  | .arrive _ => inferInstanceAs (Decidable (_ → _))
  | .get => inferInstanceAs (Decidable (_ → _))
  | .take | .finish | .lock | .unlock => inferInstanceAs (Decidable True)

/-! ### One token for each frame -/

/-- The tokens that have not been used. -/
def Receiver.tokens (s : Receiver) : Nat := s.rxSem.toNat + if s.task = .took then 1 else 0

/-- Whether a descriptor is in the hands of the task. -/
def RxTask.holds : RxTask → Bool
  | .processing _ => true
  | .waiting | .took => false

/-- The ring holds a frame for every token and for every token that was lost, and the task gives back
the descriptor that it took last. -/
structure Receiver.Balanced (s : Receiver) (q : List (List UInt8)) (lost : Nat) : Prop where
  ring : s.ring.Holds q s.task.holds
  tokens : q.length = s.tokens + lost
  desc : ∀ desc, s.task = .processing desc → desc = s.ring.last

theorem balanced_init : Receiver.init.Balanced [] 0 where
  ring := Ring.holds_empty (by decide)
  tokens := rfl
  desc _ h := by cases h

namespace Receiver.Balanced

variable {s : Receiver} {q : List (List UInt8)} {lost : Nat}

/-- A frame that finds a descriptor brings a token, which is lost if there is one already. -/
theorem arrive (h : s.Balanced q lost) (frame : List UInt8) :
    ∃ q', (s.step (.arrive frame)).Balanced q'
      (if s.KeepsPace (.arrive frame) then lost else lost + 1) := by
  by_cases hroom : q.length + s.task.holds.toNat < ethRxbufnb
  · obtain ⟨ring, hfill, hring, hhead⟩ := h.ring.fill hroom frame
    have htokens := h.tokens
    have hpace : s.KeepsPace (.arrive frame) ↔ s.rxSem = false := by simp [KeepsPace, hfill]
    simp only [step, hfill, hpace]
    refine ⟨q ++ [frame], hring, ?_, fun desc hdesc => ?_⟩
    · rw [List.length_append, List.length_singleton, htokens]
      cases hsem : s.rxSem
      all_goals
        simp [Receiver.tokens, hsem]
        omega
    · rw [Ring.last, hhead]
      exact h.desc desc hdesc
  · have hfull : q.length + s.task.holds.toNat = ethRxbufnb :=
      Nat.le_antisymm h.ring.room (Nat.le_of_not_lt hroom)
    have hnone := h.ring.fill_eq_none hfull frame
    have hpace : s.KeepsPace (.arrive frame) := by simp [KeepsPace, hnone]
    rw [if_pos hpace]
    simp only [step, hnone]
    exact ⟨q, h⟩

theorem take (h : s.Balanced q lost) : (s.step .take).Balanced q lost := by
  unfold step
  dsimp only
  split
  · rename_i hready
    have htokens := h.tokens
    have hring := h.ring
    simp only [Receiver.tokens, hready.1, hready.2] at htokens
    rw [hready.1] at hring
    exact ⟨hring, htokens, fun desc hdesc => by cases hdesc⟩
  · exact h

/-- The task has a token, so there is a frame. If the handle is locked the token is lost. -/
theorem get (h : s.Balanced q lost) :
    ∃ q', (s.step .get).Balanced q' (if s.KeepsPace .get then lost else lost + 1) := by
  by_cases htook : s.task = .took
  · have htokens := h.tokens
    have hring := h.ring
    have hpace : s.KeepsPace .get ↔ s.locked = false := by simp [KeepsPace, htook]
    simp only [Receiver.tokens, htook, if_true] at htokens
    rw [htook] at hring
    obtain ⟨frame, q', rfl⟩ := List.exists_cons_of_length_pos (l := q) (by omega)
    cases hlocked : s.locked with
    | true =>
        simp only [step, htook, if_true, halEthGetReceivedFrameIT, hlocked, hpace, Bool.true_eq_false,
          if_false]
        refine ⟨frame :: q', hring, ?_, fun desc hdesc => by cases hdesc⟩
        simp only [Receiver.tokens, reduceCtorEq, if_false]
        omega
    | false =>
        obtain ⟨ring, htake, hring', hlast⟩ := Ring.Holds.take_cons hring
        simp only [step, htook, if_true, halEthGetReceivedFrameIT, hlocked, htake, hpace]
        refine ⟨q', hring', ?_, fun desc hdesc => ?_⟩
        · rw [List.length_cons] at htokens
          simp only [Receiver.tokens, reduceCtorEq, if_false]
          omega
        · cases hdesc
          exact hlast.symm
  · have hpace : s.KeepsPace .get := fun h => absurd h htook
    rw [if_pos hpace]
    simp only [step, if_neg htook]
    exact ⟨q, h⟩

theorem finish (h : s.Balanced q lost) : (s.step .finish).Balanced q lost := by
  unfold step
  dsimp only
  split
  · rename_i desc htask
    have htokens := h.tokens
    have hring := h.ring
    rw [htask] at hring
    simp only [Receiver.tokens, htask] at htokens
    rw [h.desc desc htask]
    exact ⟨Ring.Holds.release hring, htokens, fun desc hdesc => by cases hdesc⟩
  · exact h
  · exact h

/-- One event: a token is lost exactly where the pace is not kept. -/
theorem step_event (h : s.Balanced q lost) (e : RxEvent) :
    ∃ q', (s.step e).Balanced q' (if s.KeepsPace e then lost else lost + 1) := by
  cases e with
  | arrive frame => exact h.arrive frame
  | take => exact ⟨q, h.take⟩
  | get => exact h.get
  | finish => exact ⟨q, h.finish⟩
  | lock | unlock => exact ⟨q, h.ring, h.tokens, h.desc⟩

theorem noneStranded (h : s.Balanced q 0) : s.NoneStranded where
  blocked := by
    rintro ⟨htask, hsem⟩ i hi
    have htokens := h.tokens
    have hring := h.ring
    simp only [Receiver.tokens, htask, hsem, Bool.toNat_false, reduceCtorEq, if_false,
      Nat.add_zero] at htokens
    rw [htask, List.eq_nil_of_length_eq_zero htokens] at hring
    exact hring.cells_eq_none hi
  full := by
    rintro ⟨hcells, hsem⟩
    have htokens := h.tokens
    have hfull := h.ring.full hcells
    have hlent := Bool.toNat_le s.task.holds
    simp only [Receiver.tokens, hsem, Bool.toNat_false] at htokens
    unfold ethRxbufnb at hfull
    split at htokens <;> omega

end Receiver.Balanced

theorem balanced_reach {es : List RxEvent}
    (h : Throughout (fun pre e => (Receiver.reach pre).KeepsPace e) es) :
    ∃ q, (Receiver.reach es).Balanced q 0 := by
  refine h.induction (I := fun es => ∃ q, (Receiver.reach es).Balanced q 0) ⟨[], balanced_init⟩ ?_
  rintro pre e ⟨q, hq⟩ hpace
  have hstep := hq.step_event e
  rw [if_pos hpace] at hstep
  rw [Receiver.reach_snoc]
  exact hstep

/-- **In every run that keeps pace no frame is stranded.** -/
theorem no_stranded_frame {es : List RxEvent}
    (h : Throughout (fun pre e => (Receiver.reach pre).KeepsPace e) es) :
    (Receiver.reach es).NoneStranded := by
  obtain ⟨q, hbalanced⟩ := balanced_reach h
  exact hbalanced.noneStranded

/-- Two frames, of which the second completes while the first is processed. -/
def pacedRun : List RxEvent :=
  [.arrive [1], .take, .get, .arrive [2], .finish, .take, .lock, .unlock, .get, .finish]

theorem no_stranded_frame_pacedRun :
    (Receiver.reach pacedRun).Blocked ∧ (Receiver.reach pacedRun).NoneStranded := by
  have hpace : Throughout (fun pre e => (Receiver.reach pre).KeepsPace e) pacedRun := by
    decide +kernel
  exact ⟨by decide +kernel, no_stranded_frame hpace⟩

/-! ### A receiver that is stuck -/

/-- A task that holds no frame asks for one and deals with it. It is back at the semaphore, and has
touched neither that nor the lock. -/
theorem step_get_finish {s : Receiver} (h : s.task.holds = false) :
    ((s.step .get).step .finish).task = .waiting ∧
      ((s.step .get).step .finish).rxSem = s.rxSem ∧
      ((s.step .get).step .finish).locked = s.locked := by
  cases htask : s.task with
  | processing desc => rw [htask] at h; cases h
  | waiting => simp [Receiver.step, htask]
  | took =>
      cases hlocked : s.locked with
      | true => simp [Receiver.step, htask, halEthGetReceivedFrameIT, hlocked]
      | false =>
          cases htake : s.ring.take with
          | none => simp [Receiver.step, htask, halEthGetReceivedFrameIT, hlocked, htake]
          | some x => simp [Receiver.step, htask, halEthGetReceivedFrameIT, hlocked, htake]

theorem Receiver.Balanced.get_finish {s : Receiver} {q : List (List UInt8)} {lost : Nat}
    (h : s.Balanced q lost) (hlocked : s.locked = false) :
    ∃ q', ((s.step .get).step .finish).Balanced q' lost := by
  obtain ⟨q', hget⟩ := h.get
  have hpace : s.KeepsPace .get := fun _ => hlocked
  rw [if_pos hpace] at hget
  exact ⟨q', hget.finish⟩

/-- What the task does if no frame comes and no sender is in its way: it finishes what it has begun, and
uses the token that is left. -/
def drain : List RxEvent := [.finish, .unlock, .get, .finish, .take, .get, .finish]

theorem Receiver.Balanced.drain {s : Receiver} {q : List (List UInt8)} {lost : Nat}
    (h : s.Balanced q lost) :
    (Base.run Receiver.step s drain).Blocked ∧
      ∃ q', (Base.run Receiver.step s drain).Balanced q' lost := by
  obtain ⟨begun, hbegun⟩ : ∃ t, t = (s.step .finish).step .unlock := ⟨_, rfl⟩
  have hholds : begun.task.holds = false := by
    rw [hbegun]
    cases htask : s.task <;> simp [Receiver.step, RxTask.holds, htask]
  have hbalanced : begun.Balanced q lost := hbegun ▸ ⟨h.finish.ring, h.finish.tokens, h.finish.desc⟩
  have hlocked : begun.locked = false := by rw [hbegun]; rfl
  obtain ⟨q₁, hbalanced₁⟩ := hbalanced.get_finish hlocked
  obtain ⟨htask₁, -, hlocked₁⟩ := step_get_finish hholds
  obtain ⟨idle, hidle⟩ : ∃ t, t = (begun.step .get).step .finish := ⟨_, rfl⟩
  rw [← hidle] at hbalanced₁ htask₁ hlocked₁
  have htaken : (idle.step .take).task.holds = false ∧ (idle.step .take).rxSem = false ∧
      (idle.step .take).locked = false := by
    cases hsem : idle.rxSem <;> simp [Receiver.step, htask₁, hsem, RxTask.holds, hlocked₁, hlocked]
  obtain ⟨q₂, hbalanced₂⟩ := hbalanced₁.take.get_finish htaken.2.2
  obtain ⟨htask₂, hsem₂, -⟩ := step_get_finish htaken.1
  rw [hidle, hbegun] at htask₂ hsem₂ hbalanced₂
  rw [hidle, hbegun] at htaken
  exact ⟨⟨htask₂, hsem₂.trans htaken.2.1⟩, q₂, hbalanced₂⟩

/-- The condition is exact: the first token that is lost leaves a frame behind, which is stranded as
soon as the task has nothing else to do. -/
theorem stranded_of_not_keepsPace {pre : List RxEvent} {e : RxEvent}
    (hpre : Throughout (fun pre e => (Receiver.reach pre).KeepsPace e) pre)
    (he : ¬(Receiver.reach pre).KeepsPace e) :
    ¬(Receiver.reach (pre ++ e :: drain)).NoneStranded := by
  intro hnone
  obtain ⟨q, hq⟩ := balanced_reach hpre
  obtain ⟨q', hlost⟩ := hq.step_event e
  rw [if_neg he] at hlost
  obtain ⟨hblocked, q'', hend⟩ := hlost.drain
  have hreach : Receiver.reach (pre ++ e :: drain)
      = Base.run Receiver.step ((Receiver.reach pre).step e) drain := by
    rw [Receiver.reach, run_append, run_cons]
    rfl
  rw [hreach] at hnone
  have hring := hend.ring
  have htokens := hend.tokens
  simp only [Receiver.tokens, hblocked.1, hblocked.2, Bool.toNat_false, reduceCtorEq, if_false,
    Nat.zero_add] at htokens
  rw [hblocked.1] at hring
  have hfirst := hring.waiting 0 (by omega)
  rw [hnone.blocked hblocked _ (Nat.mod_lt _ (by decide)), List.getElem?_eq_getElem (by omega)] at hfirst
  cases hfirst

/-- Two frames complete before the task has taken the token of the first. -/
def strandedRun : List RxEvent := [.arrive [1], .arrive [2], .take, .get, .finish]

/-- Four frames complete, and when the task asks for the first a sender holds the lock. -/
def wedgedRun : List RxEvent :=
  [.arrive [1], .arrive [2], .arrive [3], .arrive [4], .take, .lock, .get]

/-- A blocked task with no descriptor left stays so: no frame can raise an interrupt. -/
theorem wedged_forever {s : Receiver} (hblocked : s.Blocked)
    (hfull : ∀ frame, s.ring.fill frame = none) (es : List RxEvent) :
    (Base.run Receiver.step s es).Blocked ∧ (Base.run Receiver.step s es).ring = s.ring := by
  induction es generalizing s with
  | nil => exact ⟨hblocked, rfl⟩
  | cons e es ih =>
      obtain ⟨htask, hsem⟩ := hblocked
      have hstep : (s.step e).Blocked ∧ (s.step e).ring = s.ring := by
        cases e with
        | arrive frame => simp [Receiver.step, hfull, Receiver.Blocked, htask, hsem]
        | take | get | finish | lock | unlock =>
            simp [Receiver.step, Receiver.Blocked, htask, hsem]
      obtain ⟨hblocked', hring⟩ := ih hstep.1 (by rw [hstep.2]; exact hfull)
      exact ⟨hblocked', hring.trans hstep.2⟩

/-- A frame waits for a task that is blocked, and where all descriptors are full, for good. -/
theorem stranded_strandedRun :
    ¬(Receiver.reach strandedRun).NoneStranded ∧ ¬(Receiver.reach wedgedRun).NoneStranded ∧
      ∀ es, (Receiver.reach (wedgedRun ++ es)).Blocked ∧
        ∀ i < ethRxbufnb, ((Receiver.reach (wedgedRun ++ es)).ring.cells i).isSome := by
  have hcells : ∀ i < ethRxbufnb, ((Receiver.reach wedgedRun).ring.cells i).isSome := by
    decide +kernel
  have hblocked : (Receiver.reach wedgedRun).Blocked := by decide +kernel
  refine ⟨fun h => ?_, fun h => h.full ⟨hcells, hblocked.2⟩, fun es => ?_⟩
  · have hempty := h.blocked (by decide +kernel) 1 (by decide)
    exact absurd hempty (by decide +kernel)
  · have hfull : ∀ frame, (Receiver.reach wedgedRun).ring.fill frame = none := fun frame => by
      have htail : (Receiver.reach wedgedRun).ring.tail = 0 := by decide +kernel
      obtain ⟨x, hx⟩ := Option.isSome_iff_exists.mp (hcells 0 (by decide))
      rw [Ring.fill, htail, hx]
    obtain ⟨hstays, hring⟩ := wedged_forever hblocked hfull es
    rw [Receiver.reach, run_append]
    exact ⟨hstays, fun i hi => hring ▸ hcells i hi⟩

end L2Oracle
