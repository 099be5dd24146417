import AsulaHttp.Text

/-!
# `ws::Client`: the receive loop under interleaving

`onMessage(handler)` stores the handler, then stops the receiver for an empty one and starts it otherwise.
`startReceiver` starts a thread that spawns the coroutine `doReceive` on `strand_`; `doReceive` reads frames while
`interrupted_` is clear and hands each one to the handler of the moment. `stopReceiver` sets `interrupted_`, then
joins and forgets the thread. The thread only spawned the coroutine, so nothing waits for `doReceive`: it runs on
until it next tests the flag.

A `Receiver` holds the members these read and write, and the point each `doReceive` spawned so far has reached.
One `step` is a call of `onMessage`, or one coroutine running from one suspension point to the next, or the stream
opening (`open` succeeds) or closing (`close`, the peer, an error). Any interleaving is a list of events (`run`).
The environment is left free: a read may end with a frame or an error at any time.

* `Receiver.OneLoop` : at most one `doReceive` is live, and only while the thread is set and `interrupted_` is
  clear. Every event but `onMessage(nullptr)` keeps it (`OneLoop.step`), so a client that never clears its handler
  never runs two receive loops (`live_le_one_of_no_stop`);
* `live_le_count_stop_succ` : each `onMessage(nullptr)` lets at most one more loop run on, since `stopReceiver`
  never waits for the loop and the next `startReceiver` clears the flag it would test (`liveBound_run`); and `k`
  of them can leave `k + 1` reads outstanding on the one stream at once;
* `Receiver.Stalled` : the thread is set and `interrupted_` clear but no loop is live. Only `onMessage(nullptr)`
  leaves it (`Stalled.run`), so after a failed read no frame reaches a handler again, whatever handlers are set
  and however often the stream is opened again (`no_delivery_after_failed_read`).

`handler_` is a plain `std::function`, read by `doReceive` on a worker thread and written by `onMessage` on the
caller's: each event is atomic here, which the code does not ensure for that member.
-/

namespace AsulaHttp

namespace Ws

/-- Where a `doReceive` coroutine is: at the test `while (!interrupted_)` (also before it first runs), in
`async_read`, or returned. -/
inductive LoopPc where
  | loopHead
  | reading
  | done
  deriving DecidableEq, Repr

/-- The members of `ws::Client` the receiver reads and writes: `wstream_.is_open()`, `handler_` (`none` for an
empty `std::function`, handlers told apart by a number), `interrupted_`, whether `receiveThread_` is set; the
point every `doReceive` spawned so far has reached, in the order they were spawned; and the calls
`handler_(msg)` made so far. -/
structure Receiver where
  isOpen : Bool
  handler : Option Nat
  interrupted : Bool
  thread : Bool
  loops : List LoopPc
  delivered : List (Nat × String)
  deriving DecidableEq

namespace Receiver

/-- A new `Client`: the stream closed, no handler, no thread. -/
def init : Receiver := ⟨false, none, false, false, [], []⟩

/-- `stopReceiver`: set `interrupted_`, join and forget the thread. -/
def stopReceiver (r : Receiver) : Receiver := { r with interrupted := true, thread := false }

/-- The end of `startReceiver`: clear `interrupted_` and start the thread, which spawns one more `doReceive`. -/
def startThread (r : Receiver) : Receiver := { r with interrupted := false, thread := true, loops := r.loops ++ [.loopHead] }

/-- `startReceiver`: nothing while a thread is set and `interrupted_` clear ("Receiver is already running"), with
no handler, or with the stream closed. -/
def startReceiver (r : Receiver) : Receiver :=
  if r.thread && !r.interrupted then r
  else if r.handler = none then r
  else if !r.isOpen then r
  else r.startThread

/-- `onMessage(handler)`: store the handler, then stop the receiver for an empty one and start it otherwise. -/
def onMessage (r : Receiver) (handler : Option Nat) : Receiver :=
  match handler with
  | none => { r with handler := none }.stopReceiver
  | some h => { r with handler := some h }.startReceiver

/-- Coroutine `i` moves on to `p`. -/
def setLoop (r : Receiver) (i : Nat) (p : LoopPc) : Receiver := { r with loops := r.loops.set i p }

/-- `if (handler_ != nullptr) handler_(msg)`, with the handler of the moment. -/
def deliver (r : Receiver) (msg : String) : Receiver :=
  match r.handler with
  | some h => { r with delivered := r.delivered ++ [(h, msg)] }
  | none => r

/-- The end of `async_read` in coroutine `i`: an error returns, a frame goes to the handler and back to the test. -/
def received (r : Receiver) (i : Nat) : Option String → Receiver
  | none => r.setLoop i .done
  | some msg => (r.setLoop i .loopHead).deliver msg

/-- One event of an interleaving. -/
inductive Event where
  | onMessage (handler : Option Nat)
  | loopHead (i : Nat)
  | readDone (i : Nat) (frame : Option String)
  | stream (isOpen : Bool)
  deriving DecidableEq

/-- One event, `none` where the coroutine is not at the point the event needs. -/
def step (r : Receiver) : Event → Option Receiver
  | .onMessage h => some (r.onMessage h)
  | .loopHead i =>
    if r.loops[i]? = some .loopHead then some (r.setLoop i (if r.interrupted then .done else .reading)) else none
  | .readDone i frame => if r.loops[i]? = some .reading then some (r.received i frame) else none
  | .stream isOpen => some { r with isOpen := isOpen }

/-- An interleaving. -/
def run (r : Receiver) : List Event → Option Receiver
  | [] => some r
  | e :: es => (r.step e).bind (run · es)

/-- The number of `doReceive` coroutines that have not returned. -/
def live (r : Receiver) : Nat := r.loops.countP (· != .done)

/-! ## Field lemmas -/

section Fields

variable (r : Receiver) (i : Nat) (p : LoopPc)

@[simp] theorem setLoop_isOpen : (r.setLoop i p).isOpen = r.isOpen := rfl
@[simp] theorem setLoop_handler : (r.setLoop i p).handler = r.handler := rfl
@[simp] theorem setLoop_interrupted : (r.setLoop i p).interrupted = r.interrupted := rfl
@[simp] theorem setLoop_thread : (r.setLoop i p).thread = r.thread := rfl
@[simp] theorem setLoop_loops : (r.setLoop i p).loops = r.loops.set i p := rfl
@[simp] theorem setLoop_delivered : (r.setLoop i p).delivered = r.delivered := rfl

@[simp] theorem deliver_interrupted (msg : String) : (r.deliver msg).interrupted = r.interrupted := by
  unfold deliver; split <;> rfl
@[simp] theorem deliver_thread (msg : String) : (r.deliver msg).thread = r.thread := by
  unfold deliver; split <;> rfl
@[simp] theorem deliver_loops (msg : String) : (r.deliver msg).loops = r.loops := by
  unfold deliver; split <;> rfl

@[simp] theorem received_interrupted (frame : Option String) :
    (r.received i frame).interrupted = r.interrupted := by cases frame <;> simp [received]
@[simp] theorem received_thread (frame : Option String) : (r.received i frame).thread = r.thread := by
  cases frame <;> simp [received]
@[simp] theorem received_loops (frame : Option String) :
    (r.received i frame).loops = r.loops.set i (if frame.isSome then .loopHead else .done) := by
  cases frame <;> simp [received]

/-- A running receiver is left as it is by `startReceiver`. -/
theorem startReceiver_of_running (h : r.thread = true ∧ r.interrupted = false) : r.startReceiver = r := by
  simp [startReceiver, h]

/-- `startReceiver` either changes nothing or, with no thread running, spawns one more coroutine. -/
theorem startReceiver_cases :
    r.startReceiver = r ∨ ((r.thread = true → r.interrupted = true) ∧ r.handler ≠ none ∧ r.isOpen = true ∧
      r.startReceiver = r.startThread) := by
  unfold startReceiver
  split
  · exact .inl rfl
  · split
    · exact .inl rfl
    · split
      · exact .inl rfl
      · right; simp_all

end Fields

/-! ## Counting the live loops -/

section Live

variable {r : Receiver} {i : Nat} {q : LoopPc}

theorem ite_bne_done (x : LoopPc) : (if (x != .done) = true then 1 else 0) = if x = .done then 0 else 1 := by
  cases x <;> rfl

/-- A coroutine that moves from `q` to `p` changes the count by what `q` and `p` count. -/
theorem live_setLoop (h : r.loops[i]? = some q) (p : LoopPc) :
    (r.setLoop i p).live + (if q = .done then 0 else 1) = r.live + (if p = .done then 0 else 1) := by
  obtain ⟨hi, rfl⟩ := List.getElem?_eq_some_iff.1 h
  rw [live, setLoop_loops, List.countP_set _ _ _ _ hi, ← live, ite_bne_done, ite_bne_done]
  by_cases hq : r.loops[i] = .done
  · simp only [hq, if_true]; omega
  · have : 0 < r.live := List.countP_pos_iff.2 ⟨_, List.getElem_mem hi, by simpa using hq⟩
    simp only [hq, if_false]; omega

theorem live_pos (h : r.loops[i]? = some q) (hq : q ≠ .done) : 0 < r.live := by
  have := live_setLoop h .done
  rw [if_neg hq] at this
  simp at this
  omega

@[simp] theorem live_startThread (r : Receiver) : r.startThread.live = r.live + 1 := by
  simp [live, startThread, List.countP_append]

@[simp] theorem live_deliver (r : Receiver) (msg : String) : (r.deliver msg).live = r.live := by
  simp [live]

/-- The end of a read never adds a live loop. -/
theorem live_received (h : r.loops[i]? = some .reading) (frame : Option String) :
    (r.received i frame).live ≤ r.live := by
  cases frame with
  | none => have := live_setLoop h .done; simp at this; simp [received]; omega
  | some msg => have := live_setLoop h .loopHead; simp at this; simp [received, this]

end Live

/-! ## Without `onMessage(nullptr)`, one receive loop at most -/

/-- At most one `doReceive` is live, and only while the thread is set and `interrupted_` clear. -/
structure OneLoop (r : Receiver) : Prop where
  atMostOne : r.live ≤ 1
  running : 0 < r.live → r.thread = true ∧ r.interrupted = false

theorem oneLoop_init : OneLoop init := ⟨by decide, by decide⟩

/-- `onMessage(h)` for a non-empty handler keeps the invariant: `startReceiver` spawns only when no loop is live. -/
theorem OneLoop.onMessage_some {r : Receiver} (hr : OneLoop r) (h : Nat) : OneLoop (r.onMessage (some h)) := by
  rcases startReceiver_cases { r with handler := some h } with he | ⟨hidle, -, -, he⟩ <;>
    simp only [onMessage, he]
  · exact ⟨hr.1, hr.2⟩
  · have h0 : r.live = 0 := Nat.eq_zero_of_not_pos fun hp => by
      have := hr.running hp; simp_all
    exact ⟨by rw [live_startThread]; exact Nat.succ_le_succ h0.le, fun _ => ⟨rfl, rfl⟩⟩

theorem OneLoop.step {r r' : Receiver} {e : Event} (hr : OneLoop r) (he : e ≠ .onMessage none)
    (hs : r.step e = some r') : OneLoop r' := by
  cases e with
  | onMessage h =>
    cases h with
    | none => exact absurd rfl he
    | some h => cases hs; exact hr.onMessage_some h
  | loopHead i =>
    simp only [Receiver.step] at hs; split at hs <;> cases hs; rename_i hi
    have hrun := hr.running (live_pos hi (by decide))
    have hc := live_setLoop hi .reading
    rw [hrun.2, if_neg Bool.false_ne_true]
    simp at hc
    exact ⟨hc ▸ hr.atMostOne, fun _ => hrun⟩
  | readDone i frame =>
    simp only [Receiver.step] at hs; split at hs <;> cases hs; rename_i hi
    have hrun := hr.running (live_pos hi (by decide))
    exact ⟨(live_received hi frame).trans hr.atMostOne, fun _ => by simpa using hrun⟩
  | stream b => cases hs; exact ⟨hr.1, hr.2⟩

theorem OneLoop.run {r r' : Receiver} (hr : OneLoop r) :
    ∀ {es : List Event}, (∀ e ∈ es, e ≠ .onMessage none) → r.run es = some r' → OneLoop r'
  | [], _, hs => by cases hs; exact hr
  | e :: es, hne, hs => by
    obtain ⟨r₁, h₁, h₂⟩ := Option.bind_eq_some.1 hs
    exact (hr.step (hne e (.head _)) h₁).run (fun e he => hne e (.tail _ he)) h₂

/-- A client that never clears its handler never has two `doReceive` coroutines live, however its calls, the
reads and the stream's openings and closings interleave. -/
theorem live_le_one_of_no_stop {es : List Event} {r : Receiver} (hne : ∀ e ∈ es, e ≠ .onMessage none)
    (hr : init.run es = some r) : r.live ≤ 1 :=
  (oneLoop_init.run hne hr).atMostOne

theorem live_le_one_of_no_stop_resubscribe :
    (∀ e ∈ [Event.stream true, .onMessage (some 0), .loopHead 0, .readDone 0 (some "a"), .onMessage (some 1)],
      e ≠ .onMessage none) ∧
    init.run [.stream true, .onMessage (some 0), .loopHead 0, .readDone 0 (some "a"), .onMessage (some 1)] =
      some ⟨true, some 1, false, true, [.loopHead], [(0, "a")]⟩ ∧
    live ⟨true, some 1, false, true, [.loopHead], [(0, "a")]⟩ ≤ 1 :=
  ⟨by decide, rfl, @live_le_one_of_no_stop
    [.stream true, .onMessage (some 0), .loopHead 0, .readDone 0 (some "a"), .onMessage (some 1)] _ (by decide) rfl⟩

/-! ## Each `onMessage(nullptr)` can leave one more reader behind -/

theorem run_append (r : Receiver) (es₁ es₂ : List Event) : r.run (es₁ ++ es₂) = (r.run es₁).bind (run · es₂) := by
  induction es₁ generalizing r with
  | nil => rfl
  | cons e es ih =>
    show (r.step e).bind (run · (es ++ es₂)) = ((r.step e).bind (run · es)).bind (run · es₂)
    rw [Option.bind_assoc]; congr 1; funext x; exact ih x

/-- The live loops, and one more while no thread is running, when `startReceiver` may spawn one. -/
def liveBound (r : Receiver) : Nat := r.live + if r.thread && !r.interrupted then 0 else 1

/-- Only `onMessage(nullptr)` raises the bound, and by one: it clears the running thread without waiting for
its loop. -/
theorem liveBound_step {r r' : Receiver} {e : Event} (hs : r.step e = some r') :
    r'.liveBound ≤ r.liveBound + if e = .onMessage none then 1 else 0 := by
  cases e with
  | onMessage h =>
    cases h with
    | none =>
      cases hs
      simp only [liveBound, onMessage, stopReceiver, live, if_true]
      split <;> omega
    | some h =>
      cases hs
      rcases startReceiver_cases { r with handler := some h } with he | ⟨hidle, -, -, he⟩ <;>
        simp only [onMessage, he]
      · simp [liveBound, live]
      · have hr : (r.thread && !r.interrupted) = false := by cases ht : r.thread <;> simp_all
        simp [liveBound, live_startThread, startThread, hr, live]
  | loopHead i =>
    simp only [Receiver.step] at hs; split at hs <;> cases hs; rename_i hi
    have hc := live_setLoop hi (if r.interrupted then .done else .reading)
    have hle : (r.setLoop i (if r.interrupted then .done else .reading)).live ≤ r.live := by
      cases h : r.interrupted <;> simp [h] at hc ⊢ <;> omega
    simp only [liveBound, setLoop_thread, setLoop_interrupted]
    omega
  | readDone i frame =>
    simp only [Receiver.step] at hs; split at hs <;> cases hs; rename_i hi
    simp only [liveBound, received_thread, received_interrupted]
    have := live_received hi frame
    omega
  | stream b => cases hs; simp [liveBound, live]

theorem liveBound_run {r : Receiver} : ∀ {es : List Event} {r' : Receiver}, r.run es = some r' →
    r'.liveBound ≤ r.liveBound + es.count (.onMessage none)
  | [], _, hs => by cases hs; simp
  | e :: es, _, hs => by
    obtain ⟨r₁, h₁, h₂⟩ := Option.bind_eq_some.1 hs
    have h₁' := liveBound_step h₁
    have h₂' := liveBound_run h₂
    simp only [List.count_cons, beq_iff_eq]
    split at h₁' <;> rename_i he <;> simp only [he, ↓reduceIte] <;> omega

/-- Clearing the handler and setting it again one more time from the reading state. -/
theorem run_resubscribe (k : Nat) :
    run ⟨true, some 0, false, true, List.replicate (k + 1) .reading, []⟩
        [.onMessage none, .onMessage (some 0), .loopHead (k + 1)] =
      some ⟨true, some 0, false, true, List.replicate (k + 2) .reading, []⟩ := by
  have hlen : (List.replicate (k + 1) LoopPc.reading).length = k + 1 := List.length_replicate _ _
  simp [run, step, onMessage, stopReceiver, startReceiver, startThread, setLoop, List.getElem?_append_right, hlen,
    List.set_append_right]
  exact (List.replicate_succ' (k + 1) LoopPc.reading).symm

/-- However a client's calls, reads and stream events interleave, at most one more `doReceive` is live than the
times it cleared its handler; and `k` clears can leave `k + 1` reads outstanding on the one stream at once, since
`stopReceiver` never waits for a loop and the next `startReceiver` clears the flag it would have seen. -/
theorem live_le_count_stop_succ :
    (∀ es r, init.run es = some r → r.live ≤ es.count (.onMessage none) + 1) ∧
      ∀ k, ∃ es r, es.count (.onMessage none) = k ∧ init.run es = some r ∧
        r.loops = List.replicate (k + 1) .reading := by
  refine ⟨fun es r hr => ?_, fun k => ?_⟩
  · have h := liveBound_run hr
    have h0 : init.liveBound = 1 := rfl
    have h1 : r.live ≤ r.liveBound := Nat.le_add_right _ _
    omega
  · suffices ∃ es, es.count (.onMessage none) = k ∧
        init.run es = some ⟨true, some 0, false, true, List.replicate (k + 1) .reading, []⟩ from
      let ⟨es, hc, hr⟩ := this; ⟨es, _, hc, hr, rfl⟩
    induction k with
    | zero => exact ⟨[.stream true, .onMessage (some 0), .loopHead 0], by decide, rfl⟩
    | succ k ih =>
      obtain ⟨es, hc, hr⟩ := ih
      refine ⟨es ++ [.onMessage none, .onMessage (some 0), .loopHead (k + 1)], ?_, ?_⟩
      · simp [hc]
      · rw [run_append, hr, Option.some_bind, run_resubscribe]

/-! ## After a failed read nothing is delivered again -/

/-- The thread is set and `interrupted_` clear, but every `doReceive` has returned. -/
structure Stalled (r : Receiver) : Prop where
  running : r.thread = true ∧ r.interrupted = false
  idle : r.live = 0

/-- In a client that keeps at most one loop, the loop's failed read leaves it stalled, with nothing delivered. -/
theorem Stalled.of_failed_read {r r' : Receiver} {i : Nat} (hr : OneLoop r) (hs : r.step (.readDone i none) = some r') :
    Stalled r' ∧ r'.delivered = r.delivered := by
  simp only [Receiver.step] at hs; split at hs <;> cases hs; rename_i hi
  have hc := live_setLoop hi .done
  simp at hc
  exact ⟨⟨hr.running (live_pos hi (by decide)), by simp [received]; have := hr.atMostOne; omega⟩, rfl⟩

/-- From a stalled receiver no event but `onMessage(nullptr)` runs a coroutine or calls a handler:
`startReceiver` finds the thread set and `interrupted_` clear. -/
theorem Stalled.step {r r' : Receiver} {e : Event} (hr : Stalled r) (he : e ≠ .onMessage none)
    (hs : r.step e = some r') : Stalled r' ∧ r'.delivered = r.delivered := by
  cases e with
  | onMessage h =>
    cases h with
    | none => exact absurd rfl he
    | some h =>
      cases hs
      rw [onMessage, startReceiver_of_running { r with handler := some h } hr.running]
      exact ⟨⟨hr.running, hr.idle⟩, rfl⟩
  | loopHead i =>
    simp only [Receiver.step] at hs; split at hs <;> cases hs
    exact absurd hr.idle (live_pos ‹_› (by decide)).ne'
  | readDone i frame =>
    simp only [Receiver.step] at hs; split at hs <;> cases hs
    exact absurd hr.idle (live_pos ‹_› (by decide)).ne'
  | stream b => cases hs; exact ⟨⟨hr.running, hr.idle⟩, rfl⟩

theorem Stalled.run {r r' : Receiver} (hr : Stalled r) :
    ∀ {es : List Event}, (∀ e ∈ es, e ≠ .onMessage none) → r.run es = some r' →
      Stalled r' ∧ r'.delivered = r.delivered
  | [], _, hs => by cases hs; exact ⟨hr, rfl⟩
  | e :: es, hne, hs => by
    obtain ⟨r₁, h₁, h₂⟩ := Option.bind_eq_some.1 hs
    obtain ⟨hr₁, hd₁⟩ := hr.step (hne e (.head _)) h₁
    obtain ⟨hr', hd'⟩ := hr₁.run (fun e he => hne e (.tail _ he)) h₂
    exact ⟨hr', hd'.trans hd₁⟩

/-- In a client that never clears its handler, once a read fails no frame reaches a handler again, whatever
handlers are set afterwards and however often the stream is opened again. -/
theorem no_delivery_after_failed_read {es₁ es₂ : List Event} {r₁ r₂ r₃ : Receiver} {i : Nat}
    (hne : ∀ e ∈ es₁ ++ es₂, e ≠ .onMessage none) (h₁ : init.run es₁ = some r₁)
    (hfail : r₁.step (.readDone i none) = some r₂) (h₃ : r₂.run es₂ = some r₃) : r₃.delivered = r₁.delivered := by
  have hr₁ := oneLoop_init.run (fun e he => hne e (List.mem_append_left _ he)) h₁
  obtain ⟨hst, hd⟩ := Stalled.of_failed_read hr₁ hfail
  exact ((hst.run (fun e he => hne e (List.mem_append_right _ he)) h₃).2.trans hd)

theorem no_delivery_after_failed_read_reopen :
    init.run [.stream true, .onMessage (some 0), .loopHead 0, .readDone 0 (some "a"), .loopHead 0] =
      some ⟨true, some 0, false, true, [.reading], [(0, "a")]⟩ ∧
    step ⟨true, some 0, false, true, [.reading], [(0, "a")]⟩ (.readDone 0 none) =
      some ⟨true, some 0, false, true, [.done], [(0, "a")]⟩ ∧
    run ⟨true, some 0, false, true, [.done], [(0, "a")]⟩ [.stream false, .stream true, .onMessage (some 1)] =
      some ⟨true, some 1, false, true, [.done], [(0, "a")]⟩ ∧
    (⟨true, some 1, false, true, [.done], [(0, "a")]⟩ : Receiver).delivered =
      (⟨true, some 0, false, true, [.reading], [(0, "a")]⟩ : Receiver).delivered :=
  ⟨rfl, rfl, rfl, @no_delivery_after_failed_read
    [.stream true, .onMessage (some 0), .loopHead 0, .readDone 0 (some "a"), .loopHead 0]
    [.stream false, .stream true, .onMessage (some 1)] _ _ _ 0 (by decide) rfl rfl rfl⟩

end Receiver

end Ws

end AsulaHttp
