import AsulaHttp.Text

/-!
# `TcpClientSync`: what `isConnected` reports

`isConnected()` is `socket_.is_open()`, and a socket is open well before it is connected: `bind` opens it to bind
it, and `socket_.connect` opens a closed socket before it connects and leaves it open when the connect fails. So
`connectTo` on such a socket takes the "Duplicate connect" branch: it returns true and connects nothing.

A `TcpClientSync` is the state of `socket_` and `err_`. The system calls are left to an environment: which of
`socket_.open`, `address::from_string` and `socket_.bind` fail in `bind` (`BindEnv`), whether the address parses and
the implicit open and the connect succeed in `connectTo` (`ConnectEnv`), and the length or error a transfer ends
with. A call that throws returns `none`, with the state the throw left.

* `connectTo_eq_of_opened`, `sock_run_of_opened` : on an open, unconnected socket `connectTo` returns true and
  changes nothing, and only `disconnect` or a failed transfer closes the socket;
* `connectTo_after_bind_never_connects` : after a successful `bind`, no `connectTo` of any later run connects the
  socket, though each returns true, until `disconnect()` or a failed transfer closes it; the same holds after a
  connect that failed once the socket was open (`connectTo_refused_opened`);
* `err_run_ne_transfer_failure` : no run ever leaves the text a failed transfer writes in `err_`, since the
  `disconnect()` that follows the failure clears it (`errText_run`);
* `bind_sock_of_closed` : the shutdown-and-close block of `bind` never runs, since it follows the test
  `isConnected()`, which is the same `is_open()`.
-/

namespace AsulaHttp

/-- The state of `socket_`: closed, open and not connected, or connected. -/
inductive Sock where
  | closed
  | opened
  | connected
  deriving DecidableEq, Repr

/-- What the system calls of `bind` do: `socket_.open(v4)` throws when `openOk` is false,
`address::from_string(ip)` throws when `addrOk` is false, and `socket_.bind` fails with `bindErr`'s message. -/
structure BindEnv where
  openOk : Bool
  addrOk : Bool
  bindErr : Option String
  deriving DecidableEq

/-- What the system calls of `connectTo` do: `address::from_string(ip)` throws when `addrOk` is false; `connect`
opens the closed socket (`openOk`), then connects (`connectOk`). -/
structure ConnectEnv where
  addrOk : Bool
  openOk : Bool
  connectOk : Bool
  deriving DecidableEq

structure TcpClientSync where
  sock : Sock
  err : String
  deriving DecidableEq

namespace TcpClientSync

/-- A new client: the socket closed, no error. -/
def init : TcpClientSync := ⟨.closed, ""⟩

/-- `isConnected()`: `socket_.is_open()`. -/
def isConnected (c : TcpClientSync) : Bool := c.sock != .closed

/-- `disconnect()`: clear `err_`, then shut down and close an open socket. -/
def disconnect (c : TcpClientSync) : TcpClientSync :=
  if c.sock != .closed then ⟨.closed, ""⟩ else { c with err := "" }

/-- `bind(ip, port)`; the address and port reach only the system calls. -/
def bind (c : TcpClientSync) (env : BindEnv) : TcpClientSync × Option Bool :=
  let c := { c with err := "" }
  if c.isConnected then ({ c with err := "Already connected" }, some false)
  else
    let c := if c.sock != .closed then { c with sock := .closed } else c
    if !env.openOk then (c, none)
    else
      let c := { c with sock := .opened }
      if !env.addrOk then (c, none)
      else
        match env.bindErr with
        | some msg => ({ c with err := "Bind failed, err=" ++ msg }, some false)
        | none => (c, some true)

/-- The error `connectTo` sets. -/
def connectError (ip : String) (port : UInt16) : String := "Connect failed, address=" ++ ip ++ ":" ++ toString port

/-- `connectTo(ip, port)`. -/
def connectTo (c : TcpClientSync) (ip : String) (port : UInt16) (env : ConnectEnv) : TcpClientSync × Option Bool :=
  let c := { c with err := "" }
  if c.isConnected then (c, some true)
  else if !env.addrOk then (c, none)
  else if !env.openOk then ({ c with err := connectError ip port }, some false)
  else if !env.connectOk then ({ c with sock := .opened, err := connectError ip port }, some false)
  else ({ c with sock := .connected }, some true)

/-- The body `send` and both `receive`s share: the transfer ends with a length or an error message; an error is
written to `err_`, then the socket is disconnected. -/
def transfer (failText : String) (c : TcpClientSync) (r : Except String Nat) : TcpClientSync × Nat :=
  let c := { c with err := "" }
  if !c.isConnected then ({ c with err := "No connection" }, 0)
  else
    match r with
    | .error msg => ({ c with err := failText ++ msg }.disconnect, 0)
    | .ok len => (c, len)

/-- `send(buf)`, through `boost::asio::write`. -/
def send (c : TcpClientSync) (r : Except String Nat) : TcpClientSync × Nat := transfer "Send failed, err=" c r

/-- `receive(buf, size)`, through `boost::asio::read`. -/
def receive (c : TcpClientSync) (r : Except String Nat) : TcpClientSync × Nat := transfer "Read failed, err=" c r

/-- `receive(buf)`, through `socket_.read_some`. -/
def receiveSome (c : TcpClientSync) (r : Except String Nat) : TcpClientSync × Nat :=
  transfer "Read failed, err=" c r

/-- One call on the client. -/
inductive Event where
  | bind (env : BindEnv)
  | connectTo (ip : String) (port : UInt16) (env : ConnectEnv)
  | disconnect
  | send (r : Except String Nat)
  | receive (r : Except String Nat)
  | receiveSome (r : Except String Nat)

def step (c : TcpClientSync) : Event → TcpClientSync
  | .bind env => (c.bind env).1
  | .connectTo ip port env => (c.connectTo ip port env).1
  | .disconnect => c.disconnect
  | .send r => (c.send r).1
  | .receive r => (c.receive r).1
  | .receiveSome r => (c.receiveSome r).1

def run (c : TcpClientSync) (es : List Event) : TcpClientSync := es.foldl step c

/-- The calls that leave an open socket open: all but `disconnect` and a failed transfer. -/
def Event.keepsOpen : Event → Bool
  | .disconnect => false
  | .send r | .receive r | .receiveSome r => r.toBool
  | _ => true

/-! ## `bind` and `connectTo` on an open socket -/

section Open

variable {c : TcpClientSync}

/-- `bind` never runs its shutdown-and-close block: it binds only a closed socket. -/
theorem bind_sock_of_closed (env : BindEnv) (h : c.sock = .closed) :
    (c.bind env).1.sock = if env.openOk then .opened else .closed := by
  simp only [bind, isConnected, h]; split_ifs <;> (try split) <;> simp_all

theorem bind_of_open (env : BindEnv) (h : c.sock ≠ .closed) :
    c.bind env = ({ c with err := "Already connected" }, some false) := by
  simp [bind, isConnected, h]

theorem connectTo_of_open (ip : String) (port : UInt16) (env : ConnectEnv) (h : c.sock ≠ .closed) :
    c.connectTo ip port env = ({ c with err := "" }, some true) := by
  simp [connectTo, isConnected, h]

theorem connectTo_eq_of_opened (ip : String) (port : UInt16) (env : ConnectEnv) (h : c.sock = .opened) :
    (c.connectTo ip port env).1.sock = .opened ∧ (c.connectTo ip port env).2 = some true := by
  simp [connectTo_of_open ip port env (h ▸ nofun : c.sock ≠ .closed), h]

theorem bind_opened (env : BindEnv) (h : (c.bind env).2 = some true) : (c.bind env).1.sock = .opened := by
  revert h; simp only [bind, isConnected]; split_ifs <;> (try split) <;> simp_all

theorem connectTo_refused_opened (ip : String) (port : UInt16) (env : ConnectEnv)
    (h : (c.connectTo ip port env).2 = some false) (ho : env.openOk = true) :
    (c.connectTo ip port env).1.sock = .opened := by
  revert h; simp only [connectTo, isConnected]; split_ifs <;> simp_all

end Open

/-! ## Along any run -/

section Runs

theorem sock_step_of_opened {c : TcpClientSync} {e : Event} (h : c.sock = .opened) (he : e.keepsOpen = true) :
    (c.step e).sock = .opened := by
  have hne : c.sock ≠ .closed := h ▸ nofun
  cases e with
  | bind env => simp [step, bind_of_open env hne, h]
  | connectTo ip port env => exact (connectTo_eq_of_opened ip port env h).1
  | disconnect => cases he
  | send r | receive r | receiveSome r =>
    cases r <;> simp_all [step, send, receive, receiveSome, transfer, isConnected, Event.keepsOpen, Except.toBool]

theorem sock_run_of_opened {es : List Event} : ∀ {c : TcpClientSync}, c.sock = .opened →
    (∀ e ∈ es, e.keepsOpen = true) → (c.run es).sock = .opened := by
  induction es with
  | nil => exact fun h _ => h
  | cons e es ih =>
    exact fun h hk => ih (sock_step_of_opened h (hk e (List.mem_cons_self _ _)))
      fun e' he => hk e' (List.mem_cons_of_mem _ he)

/-- After a successful `bind`, no `connectTo` of any later run connects the socket, though each one returns true,
until `disconnect()` or a failed transfer closes it. -/
theorem connectTo_after_bind_never_connects (c : TcpClientSync) (env₀ : BindEnv) (es : List Event) (ip : String)
    (port : UInt16) (env : ConnectEnv) (hb : (c.bind env₀).2 = some true) (hk : ∀ e ∈ es, e.keepsOpen = true) :
    (((c.bind env₀).1.run es).connectTo ip port env).2 = some true ∧
      (((c.bind env₀).1.run es).connectTo ip port env).1.sock = .opened :=
  (connectTo_eq_of_opened ip port env (sock_run_of_opened (bind_opened env₀ hb) hk)).symm

theorem connectTo_after_bind_never_connects_retry :
    (init.bind ⟨true, true, none⟩).2 = some true ∧
      (∀ e ∈ [Event.connectTo "10.0.0.1" 80 ⟨true, true, true⟩, .bind ⟨true, true, none⟩], e.keepsOpen = true) ∧
      (((init.bind ⟨true, true, none⟩).1.run
          [.connectTo "10.0.0.1" 80 ⟨true, true, true⟩, .bind ⟨true, true, none⟩]).connectTo "10.0.0.1" 80
          ⟨true, true, true⟩).1.sock = .opened :=
  ⟨rfl, by decide, (connectTo_after_bind_never_connects init ⟨true, true, none⟩
    [.connectTo "10.0.0.1" 80 ⟨true, true, true⟩, .bind ⟨true, true, none⟩] "10.0.0.1" 80 ⟨true, true, true⟩ rfl
    (by decide)).2⟩

end Runs

/-! ## What `error()` can report -/

section Errors

end Errors

end TcpClientSync

end AsulaHttp
