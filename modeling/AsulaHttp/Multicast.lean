import AsulaHttp.Text

/-!
# `MulticastReceiver`: start, stop and the receive chain

A `MulticastReceiver` holds the members its functions read and write: the three settings, `handler_` (`none` for
an empty `std::function`), whether `socket_` is open, whether `io_` is stopped, whether `worker_` is joinable,
whether an `async_receive_from` is outstanding, `err_`, and the calls of the handler made so far.

`start` runs its tests in order, then its `try` block, where a `StartEnv` says which system call throws, if any.
`make_address(localIp_)` and `socket_.open` throw with the socket still closed; `set_option`, `bind` and
`join_group` throw with it open, and nothing ever closes it. `stop` stops `io_` and joins the worker, and
`isRunning` is `!io_.stopped()`. `doReceive` re-arms itself only after a frame that found a handler.

* `start_snd_iff` : `start` returns true exactly when there is a handler, a group address, a port other than
  0, the socket is closed and no call throws;
* `start_false_of_socketOpen` : once the socket is open, whether by a successful start or by one that threw after
  the open, no later start in any run returns true;
* `delivered_of_ioStopped` : after `stop()` no handler is called again and `isRunning()` stays false, across any
  later calls, `start` included;
* `delivered_of_failed_receive` : a failed receive, or a frame that finds no handler, ends reception for good;
* `Inv` : in every reachable state a joinable worker or an outstanding receive comes with an open socket, so the
  assignment `worker_ = std::thread(...)` never replaces a joinable thread (`worker_eq_false_of_start`).

The worker runs the completion handler while the caller's thread may call the setters; each event is atomic here,
which the code does not ensure. `msgCount_` only feeds a log line and the handler's time argument is not kept.
-/

namespace AsulaHttp

/-- A system call in `start`'s `try` block that throws a `boost::system::system_error`: whether it came after
`socket_.open` (`set_option`, `bind`, `join_group`), and its `what()`. -/
structure StartFault where
  opened : Bool
  what : String
  deriving DecidableEq

/-- What `start`'s `try` block meets: the address `IpUtil::getSpeculativeIpV4()` finds, and the call that throws. -/
structure StartEnv where
  speculativeIp : String
  fault : Option StartFault
  deriving DecidableEq

structure MulticastReceiver where
  localIp : String
  destIp : String
  port : UInt16
  handler : Option Nat
  socketOpen : Bool
  ioStopped : Bool
  /-- `worker_.joinable()`. -/
  worker : Bool
  /-- An `async_receive_from` is outstanding. -/
  receiving : Bool
  err : String
  delivered : List (Nat × List UInt8)
  deriving DecidableEq

namespace MulticastReceiver

/-- `MulticastReceiver(localIp, destIp, port, handler)`; the default constructor passes `"", "", 0, nullptr`. -/
def create (localIp destIp : String) (port : UInt16) (handler : Option Nat) : MulticastReceiver :=
  ⟨localIp, destIp, port, handler, false, false, false, false, "", []⟩

def setLocalIp (m : MulticastReceiver) (ip : String) : MulticastReceiver := { m with localIp := ip }

def setDestIp (m : MulticastReceiver) (ip : String) : MulticastReceiver := { m with destIp := ip }

/-- `setPort(int port)`: `port_ = port` converts the `int` to `uint16_t`, modulo 2^16. -/
def setPort (m : MulticastReceiver) (port : Int) : MulticastReceiver :=
  { m with port := UInt16.ofNat (port % 65536).toNat }

def setMessageHandler (m : MulticastReceiver) (handler : Option Nat) : MulticastReceiver :=
  { m with handler := handler }

/-- `isRunning()`: `!io_.stopped()`. -/
def isRunning (m : MulticastReceiver) : Bool := !m.ioStopped

/-- The error `start` sets for a missing group address or port. -/
def settingsError (destIp : String) (port : UInt16) : String :=
  "Invalid multicast ip or port settings. dest ip=" ++ destIp ++ ", port=" ++ toString port

/-- The error `start` sets when its `try` block throws. -/
def joinError (localIp destIp : String) (port : UInt16) (what : String) : String :=
  "Join multicast group exception, local ip=" ++ localIp ++ ", group ip=" ++ destIp ++ ", port=" ++
    toString port ++ ", exception=" ++ what

/-- `start()`, built without `NDEBUG` checks (`assert` is a no-op): the tests in order, then the `try` block, which
fills in an empty `localIp_`, opens, binds and joins, starts the worker and the first `doReceive`. -/
def start (m : MulticastReceiver) (env : StartEnv) : MulticastReceiver × Bool :=
  let m := { m with err := "" }
  if m.handler = none then ({ m with err := "Invalid handler" }, false)
  else if m.destIp = "" ∨ m.port ≤ 0 then ({ m with err := settingsError m.destIp m.port }, false)
  else if m.handler = none then ({ m with err := "Invalid message handler" }, false)
  else if m.socketOpen then ({ m with err := "Duplicate socket open" }, false)
  else
    let m := if m.localIp = "" then { m with localIp := env.speculativeIp } else m
    match env.fault with
    | none => ({ m with socketOpen := true, worker := true, receiving := true }, true)
    | some f => ({ m with socketOpen := f.opened, err := joinError m.localIp m.destIp m.port f.what }, false)

/-- `stop()`: nothing once `io_` is stopped; else release the work guard, stop `io_` and join the worker. -/
def stop (m : MulticastReceiver) : MulticastReceiver :=
  if !m.isRunning then { m with err := "" } else { m with err := "", ioStopped := true, worker := false }

/-- The completion handler of `async_receive_from`: an error is logged and ends the chain; a frame goes to the
handler, which re-arms `doReceive`; with no handler nothing re-arms it. -/
def received (m : MulticastReceiver) : Option (List UInt8) → MulticastReceiver
  | none => { m with receiving := false }
  | some msg =>
    match m.handler with
    | some h => { m with delivered := m.delivered ++ [(h, msg)] }
    | none => { m with receiving := false }

/-- One event: a call by the user, or the completion of the outstanding receive (`msg` is `none` for an error),
which the worker runs only while `io_` is not stopped. -/
inductive Event where
  | setLocalIp (ip : String)
  | setDestIp (ip : String)
  | setPort (port : Int)
  | setMessageHandler (handler : Option Nat)
  | start (env : StartEnv)
  | stop
  | received (msg : Option (List UInt8))
  deriving DecidableEq

def step (m : MulticastReceiver) : Event → Option MulticastReceiver
  | .setLocalIp ip => some (m.setLocalIp ip)
  | .setDestIp ip => some (m.setDestIp ip)
  | .setPort port => some (m.setPort port)
  | .setMessageHandler h => some (m.setMessageHandler h)
  | .start env => some (m.start env).1
  | .stop => some m.stop
  | .received msg => if m.receiving && !m.ioStopped then some (m.received msg) else none

def run (m : MulticastReceiver) : List Event → Option MulticastReceiver
  | [] => some m
  | e :: es => (m.step e).bind (run · es)

/-! ## What `start` does -/

theorem port_le_zero_iff (p : UInt16) : p ≤ 0 ↔ p = 0 := by
  rw [UInt16.le_def, BitVec.le_def, UInt16.ext_iff]; exact Nat.le_zero

/-- The five ways `start` ends: each failed test with its own error, a throw in the `try` block (which may leave the
socket open), and success. Later lemmas read `start` through this one. -/
theorem start_cases (m : MulticastReceiver) (env : StartEnv) :
    (m.handler = none ∧ m.start env = ({ m with err := "Invalid handler" }, false)) ∨
    (m.handler ≠ none ∧ (m.destIp = "" ∨ m.port = 0) ∧
      m.start env = ({ m with err := settingsError m.destIp m.port }, false)) ∨
    (m.handler ≠ none ∧ m.destIp ≠ "" ∧ m.port ≠ 0 ∧ m.socketOpen = true ∧
      m.start env = ({ m with err := "Duplicate socket open" }, false)) ∨
    (m.handler ≠ none ∧ m.destIp ≠ "" ∧ m.port ≠ 0 ∧ m.socketOpen = false ∧ ∃ l f, env.fault = some f ∧
      m.start env = ({ m with localIp := l, err := joinError l m.destIp m.port f.what, socketOpen := f.opened },
        false)) ∨
    (m.handler ≠ none ∧ m.destIp ≠ "" ∧ m.port ≠ 0 ∧ m.socketOpen = false ∧ env.fault = none ∧ ∃ l,
      m.start env = ({ m with localIp := l, err := "", socketOpen := true, worker := true, receiving := true },
        true)) := by
  have hs : m.destIp = "" ∨ m.port ≤ 0 ↔ m.destIp = "" ∨ m.port = 0 := by rw [port_le_zero_iff]
  by_cases h1 : m.handler = none
  · exact .inl ⟨h1, by dsimp only [start]; rw [if_pos h1]⟩
  by_cases h2 : m.destIp = "" ∨ m.port = 0
  · exact .inr (.inl ⟨h1, h2, by dsimp only [start]; rw [if_neg h1, if_pos (hs.2 h2)]⟩)
  obtain ⟨hd, hp⟩ := not_or.1 h2
  replace h2 := mt hs.1 h2
  by_cases h4 : m.socketOpen = true
  · exact .inr (.inr (.inl ⟨h1, hd, hp, h4, by dsimp only [start]; rw [if_neg h1, if_neg h2, if_neg h1, if_pos h4]⟩))
  have ho : m.socketOpen = false := by simpa using h4
  rcases hf : env.fault with _ | f
  · refine .inr (.inr (.inr (.inr ⟨h1, hd, hp, ho, rfl, if m.localIp = "" then env.speculativeIp else m.localIp, ?_⟩)))
    dsimp only [start]; rw [if_neg h1, if_neg h2, if_neg h1, if_neg h4, hf]; split_ifs <;> rfl
  · refine .inr (.inr (.inr (.inl ⟨h1, hd, hp, ho, if m.localIp = "" then env.speculativeIp else m.localIp, f, rfl, ?_⟩)))
    dsimp only [start]; rw [if_neg h1, if_neg h2, if_neg h1, if_neg h4, hf]; split_ifs <;> rfl

/-- What `start` writes: on failure the local address, the error and the socket, which it never closes; on
success also the worker and the outstanding receive. -/
theorem start_eq (m : MulticastReceiver) (env : StartEnv) :
    (∃ l e o, (m.socketOpen = true → o = true) ∧
      m.start env = ({ m with localIp := l, err := e, socketOpen := o }, false)) ∨
    ∃ l, m.start env = ({ m with localIp := l, err := "", socketOpen := true, worker := true, receiving := true },
      true) := by
  rcases start_cases m env with ⟨-, h⟩ | ⟨-, -, h⟩ | ⟨-, -, -, -, h⟩ | ⟨-, -, -, ho, l, f, -, h⟩ | ⟨-, -, -, -, -, h⟩
  · exact .inl ⟨_, _, _, id, h⟩
  · exact .inl ⟨_, _, _, id, h⟩
  · exact .inl ⟨_, _, _, id, h⟩
  · exact .inl ⟨l, _, f.opened, fun h => absurd (ho ▸ h) nofun, h⟩
  · exact .inr h

/-! ## Field lemmas -/

section Fields

variable (m : MulticastReceiver) (env : StartEnv)

@[simp] theorem start_delivered : (m.start env).1.delivered = m.delivered := by
  rcases start_eq m env with ⟨_, _, _, -, h⟩ | ⟨_, h⟩ <;> rw [h]
@[simp] theorem start_ioStopped : (m.start env).1.ioStopped = m.ioStopped := by
  rcases start_eq m env with ⟨_, _, _, -, h⟩ | ⟨_, h⟩ <;> rw [h]
/-- Only a start that returns true, or one on an open socket, is sure to leave it open. -/
theorem start_socketOpen (h : m.socketOpen = true ∨ (m.start env).2 = true) : (m.start env).1.socketOpen = true := by
  rcases start_eq m env with ⟨_, _, _, ho, hs⟩ | ⟨_, hs⟩ <;> rw [hs] at h ⊢
  exact ho (h.resolve_right nofun)
theorem start_worker : (m.start env).1.worker = (m.worker || (m.start env).2) := by
  rcases start_eq m env with ⟨_, _, _, -, h⟩ | ⟨_, h⟩ <;> simp [h]
theorem start_receiving : (m.start env).1.receiving = (m.receiving || (m.start env).2) := by
  rcases start_eq m env with ⟨_, _, _, -, h⟩ | ⟨_, h⟩ <;> simp [h]

@[simp] theorem stop_delivered : m.stop.delivered = m.delivered := by unfold stop; split <;> rfl
@[simp] theorem stop_socketOpen : m.stop.socketOpen = m.socketOpen := by unfold stop; split <;> rfl
@[simp] theorem stop_ioStopped : m.stop.ioStopped = true := by unfold stop; split <;> simp_all [isRunning]
@[simp] theorem stop_receiving : m.stop.receiving = m.receiving := by unfold stop; split <;> rfl
theorem stop_worker : m.stop.worker = (m.worker && m.ioStopped) := by
  unfold stop; split <;> simp_all [isRunning]

@[simp] theorem received_socketOpen (msg : Option (List UInt8)) : (m.received msg).socketOpen = m.socketOpen := by
  unfold received; split <;> (try split) <;> rfl
@[simp] theorem received_ioStopped (msg : Option (List UInt8)) : (m.received msg).ioStopped = m.ioStopped := by
  unfold received; split <;> (try split) <;> rfl
@[simp] theorem received_worker (msg : Option (List UInt8)) : (m.received msg).worker = m.worker := by
  unfold received; split <;> (try split) <;> rfl

theorem received_receiving (msg : Option (List UInt8)) :
    (m.received msg).receiving = (m.receiving && msg.isSome && m.handler.isSome) := by
  unfold received; split <;> (try split) <;> simp_all
theorem received_delivered_of_end {msg : Option (List UInt8)} (h : msg = none ∨ m.handler = none) :
    (m.received msg).delivered = m.delivered := by
  unfold received; split <;> (try split) <;> simp_all

end Fields

/-! ## What `start` returns -/

section Start

variable {m : MulticastReceiver} {env : StartEnv}

/-- `start` succeeds exactly when every test passes and no call of the `try` block throws. -/
theorem start_snd_iff : (m.start env).2 = true ↔
    m.handler ≠ none ∧ m.destIp ≠ "" ∧ m.port ≠ 0 ∧ m.socketOpen = false ∧ env.fault = none := by
  rcases start_cases m env with ⟨h1, h⟩ | ⟨h1, h2, h⟩ | ⟨-, -, -, h4, h⟩ | ⟨-, -, -, -, _, _, hf, h⟩ |
    ⟨h1, hd, hp, h4, hf, _, h⟩ <;> rw [h]
  · simp [h1]
  · rcases h2 with h2 | h2 <;> simp [h2]
  · simp [h4]
  · simp [hf]
  · exact iff_of_true rfl ⟨h1, hd, hp, h4, hf⟩

theorem start_snd_of_socketOpen (h : m.socketOpen = true) : (m.start env).2 = false :=
  Bool.eq_false_iff.2 fun ht => by simp_all [start_snd_iff]

end Start

/-! ## Along any run -/

section Runs

/-- A property every step keeps holds after any run. -/
theorem run_of_step (P : MulticastReceiver → Prop)
    (hP : ∀ {m m' : MulticastReceiver} {e : Event}, P m → m.step e = some m' → P m') :
    ∀ {m m' : MulticastReceiver} {es : List Event}, P m → m.run es = some m' → P m'
  | _, _, [], h, hr => by cases hr; exact h
  | _, _, _ :: _, h, hr => by
    obtain ⟨m₁, h₁, h₂⟩ := Option.bind_eq_some.1 hr
    exact run_of_step P hP (hP h h₁) h₂

variable {m m' : MulticastReceiver} {e : Event}

/-- Nothing closes the socket. -/
theorem step_socketOpen (h : m.socketOpen = true) (hs : m.step e = some m') : m'.socketOpen = true := by
  cases e <;> simp only [step, Option.some.injEq] at hs <;> (try split at hs) <;> cases hs <;>
    simp_all [setLocalIp, setDestIp, setPort, setMessageHandler, start_socketOpen]

/-- Once the socket is open, whether a start succeeded or threw after `socket_.open`, no start in any later run
returns true. -/
theorem start_false_of_socketOpen {es : List Event} (h : m.socketOpen = true) (hr : m.run es = some m')
    (env : StartEnv) : (m'.start env).2 = false := by
  exact start_snd_of_socketOpen (run_of_step (·.socketOpen = true) step_socketOpen h hr)

theorem start_false_of_socketOpen_restart :
    run ⟨"10.0.0.2", "239.0.0.1", 5000, some 0, true, false, true, true, "", []⟩ [.stop, .setPort 6000] =
      some ⟨"10.0.0.2", "239.0.0.1", 6000, some 0, true, true, false, true, "", []⟩ ∧
    (start ⟨"10.0.0.2", "239.0.0.1", 6000, some 0, true, true, false, true, "", []⟩ ⟨"", none⟩).2 = false :=
  ⟨rfl, @start_false_of_socketOpen ⟨"10.0.0.2", "239.0.0.1", 5000, some 0, true, false, true, true, "", []⟩
    ⟨"10.0.0.2", "239.0.0.1", 6000, some 0, true, true, false, true, "", []⟩ [.stop, .setPort 6000] rfl rfl
    ⟨"", none⟩⟩

/-- Once `io_` is stopped it stays stopped, and no completion handler runs. -/
theorem step_of_ioStopped (h : m.ioStopped = true) (hs : m.step e = some m') :
    m'.ioStopped = true ∧ m'.delivered = m.delivered := by
  cases e <;> simp only [step, Option.some.injEq] at hs <;> (try split at hs) <;> cases hs <;>
    simp_all [setLocalIp, setDestIp, setPort, setMessageHandler]

/-- After `stop()` no handler is called again and `isRunning()` stays false, whatever is called later: a later
`start` may return true, but `io_.run()` on its worker returns at once. -/
theorem delivered_of_ioStopped {es : List Event} (hr : m.stop.run es = some m') :
    m'.delivered = m.delivered ∧ m'.isRunning = false := by
  obtain ⟨h1, h2⟩ := run_of_step (fun x => x.ioStopped = true ∧ x.delivered = m.delivered)
    (fun h hs => (step_of_ioStopped h.1 hs).imp_right (·.trans h.2)) ⟨stop_ioStopped m, stop_delivered m⟩ hr
  exact ⟨h2, by simp [isRunning, h1]⟩

theorem delivered_of_ioStopped_start :
    run (stop ⟨"10.0.0.2", "239.0.0.1", 5000, some 0, false, false, false, false, "", []⟩) [.start ⟨"", none⟩] =
      some ⟨"10.0.0.2", "239.0.0.1", 5000, some 0, true, true, true, true, "", []⟩ ∧
    (start (stop ⟨"10.0.0.2", "239.0.0.1", 5000, some 0, false, false, false, false, "", []⟩) ⟨"", none⟩).2 = true ∧
    (⟨"10.0.0.2", "239.0.0.1", 5000, some 0, true, true, true, true, "", []⟩ : MulticastReceiver).delivered =
      (⟨"10.0.0.2", "239.0.0.1", 5000, some 0, false, false, false, false, "", []⟩ : MulticastReceiver).delivered ∧
    (⟨"10.0.0.2", "239.0.0.1", 5000, some 0, true, true, true, true, "", []⟩ : MulticastReceiver).isRunning = false :=
  ⟨rfl, by decide, @delivered_of_ioStopped ⟨"10.0.0.2", "239.0.0.1", 5000, some 0, false, false, false, false, "", []⟩
    ⟨"10.0.0.2", "239.0.0.1", 5000, some 0, true, true, true, true, "", []⟩ [.start ⟨"", none⟩] rfl⟩

/-- With the socket open and no receive outstanding, no completion handler runs and no start re-arms the chain. -/
theorem step_of_idle (h : m.socketOpen = true ∧ m.receiving = false) (hs : m.step e = some m') :
    (m'.socketOpen = true ∧ m'.receiving = false) ∧ m'.delivered = m.delivered := by
  cases e <;> simp only [step, Option.some.injEq] at hs <;> (try split at hs) <;> cases hs <;>
    simp_all [setLocalIp, setDestIp, setPort, setMessageHandler, start_socketOpen, start_receiving,
      start_snd_of_socketOpen]

/-- In a reachable state a joinable worker or an outstanding receive comes with an open socket. -/
structure Inv (m : MulticastReceiver) : Prop where
  worker : m.worker = true → m.socketOpen = true
  receiving : m.receiving = true → m.socketOpen = true

theorem Inv.step (hi : Inv m) (hs : m.step e = some m') : Inv m' := by
  cases e with
  | start env =>
    cases hs
    cases hb : (m.start env).2
    · have ho := fun h => start_socketOpen m env (.inl h)
      exact ⟨fun hw => ho (hi.worker (by simpa [start_worker, hb] using hw)),
        fun hw => ho (hi.receiving (by simpa [start_receiving, hb] using hw))⟩
    · exact ⟨fun _ => start_socketOpen m env (.inr hb), fun _ => start_socketOpen m env (.inr hb)⟩
  | stop => cases hs; exact ⟨fun hw => by simp_all [stop_worker, hi.worker], by simpa using hi.receiving⟩
  | received msg =>
    simp only [step] at hs; split at hs <;> cases hs
    exact ⟨by simpa using hi.worker, fun hw => by simp_all [received_receiving, hi.receiving]⟩
  | _ => cases hs; exact ⟨hi.1, hi.2⟩

/-- The states some run reaches from a constructed receiver. -/
def Reachable (m : MulticastReceiver) : Prop :=
  ∃ localIp destIp port handler es, (create localIp destIp port handler).run es = some m

theorem Inv.of_reachable (h : Reachable m) : Inv m := by
  obtain ⟨l, d, p, hd, es, hr⟩ := h
  exact run_of_step Inv Inv.step ⟨by simp [create], by simp [create]⟩ hr

/-- The assignment `worker_ = std::thread(...)` of a successful start never replaces a joinable thread, which would
call `std::terminate`. -/
theorem worker_eq_false_of_start (env : StartEnv) (hr : Reachable m) (hs : (m.start env).2 = true) :
    m.worker = false :=
  Bool.eq_false_iff.2 fun hw => by
    have := (Inv.of_reachable hr).worker hw
    simp_all [start_snd_iff]

theorem worker_eq_false_of_start_restart :
    Reachable ⟨"10.0.0.2", "239.0.0.1", 5000, some 0, false, true, false, false, "", []⟩ ∧
      (start ⟨"10.0.0.2", "239.0.0.1", 5000, some 0, false, true, false, false, "", []⟩ ⟨"", none⟩).2 = true ∧
      (⟨"10.0.0.2", "239.0.0.1", 5000, some 0, false, true, false, false, "", []⟩ : MulticastReceiver).worker =
        false :=
  ⟨⟨"10.0.0.2", "239.0.0.1", 5000, some 0, [.stop], rfl⟩, rfl, worker_eq_false_of_start ⟨"", none⟩
    ⟨"10.0.0.2", "239.0.0.1", 5000, some 0, [.stop], rfl⟩ rfl⟩

/-- A failed receive, or a frame that finds no handler, ends reception for good: whatever is called later, no
handler is called again. -/
theorem delivered_of_failed_receive {m₁ : MulticastReceiver} {msg : Option (List UInt8)} {es : List Event}
    (hr : Reachable m) (hs : m.step (.received msg) = some m₁) (hend : msg = none ∨ m.handler = none)
    (hrun : m₁.run es = some m') : m'.delivered = m.delivered := by
  simp only [step] at hs; split at hs <;> cases hs; rename_i hg
  have ho := (Inv.of_reachable hr).receiving (by simp_all)
  have hidle : (m.received msg).socketOpen = true ∧ (m.received msg).receiving = false := by
    rcases hend with rfl | hn <;> simp_all [received_receiving]
  exact (run_of_step (fun x => (x.socketOpen = true ∧ x.receiving = false) ∧ x.delivered = m.delivered)
    (fun h hs => (step_of_idle h.1 hs).imp_right (·.trans h.2)) ⟨hidle, received_delivered_of_end m hend⟩ hrun).2

theorem delivered_of_failed_receive_resubscribe :
    Reachable ⟨"10.0.0.2", "239.0.0.1", 5000, some 0, true, false, true, true, "", []⟩ ∧
      step ⟨"10.0.0.2", "239.0.0.1", 5000, some 0, true, false, true, true, "", []⟩ (.received none) =
        some ⟨"10.0.0.2", "239.0.0.1", 5000, some 0, true, false, true, false, "", []⟩ ∧
      run ⟨"10.0.0.2", "239.0.0.1", 5000, some 0, true, false, true, false, "", []⟩
          [.setMessageHandler (some 1), .start ⟨"", none⟩] =
        some ⟨"10.0.0.2", "239.0.0.1", 5000, some 1, true, false, true, false, "Duplicate socket open", []⟩ ∧
      (⟨"10.0.0.2", "239.0.0.1", 5000, some 1, true, false, true, false, "Duplicate socket open", []⟩ :
        MulticastReceiver).delivered = (⟨"10.0.0.2", "239.0.0.1", 5000, some 0, true, false, true, true, "", []⟩ :
        MulticastReceiver).delivered :=
  ⟨⟨"10.0.0.2", "239.0.0.1", 5000, some 0, [.start ⟨"", none⟩], rfl⟩, rfl, rfl,
    @delivered_of_failed_receive ⟨"10.0.0.2", "239.0.0.1", 5000, some 0, true, false, true, true, "", []⟩
      ⟨"10.0.0.2", "239.0.0.1", 5000, some 1, true, false, true, false, "Duplicate socket open", []⟩
      ⟨"10.0.0.2", "239.0.0.1", 5000, some 0, true, false, true, false, "", []⟩ none
      [.setMessageHandler (some 1), .start ⟨"", none⟩]
      ⟨"10.0.0.2", "239.0.0.1", 5000, some 0, [.start ⟨"", none⟩], rfl⟩ rfl (.inl rfl) rfl⟩

end Runs

end MulticastReceiver

end AsulaHttp
