import AsulaHttp.Text

/-!
# `WebSocketGroupHandler`: groups and multicast under interleaving

Every upgraded connection runs `WebSocketGroupHandler::handle` as a coroutine of its own: coroutine `t` serves
stream `t`. A `Hub` holds `clients_`, each stream's open flag and its `got_text()` and `text()` flags, and the
point each coroutine has reached (`Pc`). One `step` runs one coroutine from one suspension point
(`async_accept`, `async_read`, `async_write`) or `mutex_` block to the next, or closes a stream (the peer
leaves, a timeout fires, the handler is destroyed); any interleaving is a list of events (`run`).

* `Hub.join`, `Hub.snapshot`, `Hub.visit`, `Hub.prune` : `join` and the three parts of `multicastMessage`; the
  ghost flag `joined`, which records that a coroutine has returned from `join`, is set by `step`, not by `join`;
* `Hub.Inv` : every stream on a `closed` list is closed, every open stream that joined a named group is in its
  set, and a set holds only streams of its group; `Inv.step`, `inv_of_reachable`, `group_of_mem_clients`;
* `Hub.Moves` : what one step can do, with the guards the proofs need (`moves_of_step`);
* `mem_queued_of_erased` : a stream leaves a set only by a prune of a `closed` list it is on;
* `reachable_erase_only_closed` : so along any interleaving only closed streams are erased and no join is lost;
* `multicast_overlapping_writes` : two senders of a group can both have a write to one peer outstanding, and
  the second resets the `text()` flag the first set;
* `failed_read_relays` : a read that fails with an error other than `closed` still relays the buffer.

`multicastMessage` tests `clients_.count(group)` before it copies `clients_.at(group)` under `mutex_`. Entries of
`clients_` are never removed, so the test gives the same answer at the copy, and the two are one step here.
-/

namespace AsulaHttp

/-- What `async_read` on an upgraded stream gives: a message, or an error (`websocket::error::closed` or
another) with what the buffer then holds. -/
inductive ReadResult where
  | frame (text : Bool) (payload : String)
  | error (closed : Bool) (buffer : String)
  deriving DecidableEq

/-- Where the coroutine `handle` of a stream is. `fanout` is the loop over the copy of the group, with the peers
still to visit and the `closed` list; `writing` is an `async_write` outstanding, after `c->text(flag)`. -/
inductive Pc where
  | accepting
  | joining
  | loop
  | reading
  | multicast (payload : String)
  | fanout (payload : String) (peers closed : List Nat)
  | writing (payload : String) (c : Nat) (flag : Bool) (peers closed : List Nat)
  | done
  deriving DecidableEq

namespace Pc

/-- The `closed` list of a `multicastMessage` in progress. -/
def queued : Pc → List Nat
  | fanout _ _ closed | writing _ _ _ _ closed => closed
  | _ => []

end Pc

/-- `std::set<ws_stream_ptr>::insert`, the ids standing for the pointers and ordered as they are. -/
def setInsert (c : Nat) : List Nat → List Nat
  | [] => [c]
  | d :: ds => if c < d then c :: d :: ds else if c = d then d :: ds else d :: setInsert c ds

@[simp] theorem mem_setInsert {x c : Nat} {l : List Nat} : x ∈ setInsert c l ↔ x = c ∨ x ∈ l := by
  induction l with
  | nil => simp [setInsert]
  | cons d ds ih =>
    unfold setInsert
    split
    · simp
    · split <;> simp_all [or_left_comm]

/-- The loop `for (c : closed) clients_[group].erase(c)`. -/
theorem mem_foldl_erase {x : Nat} {closed : List Nat} (hx : x ∉ closed) :
    ∀ {l : List Nat}, x ∈ closed.foldl List.erase l ↔ x ∈ l := by
  induction closed with
  | nil => exact Iff.rfl
  | cons c cs ih =>
    intro l
    simp only [List.mem_cons, not_or] at hx
    simp only [List.foldl_cons, ih hx.2, List.mem_erase_of_ne hx.1]

theorem mem_of_mem_foldl_erase {x : Nat} : ∀ {closed l : List Nat}, x ∈ closed.foldl List.erase l → x ∈ l
  | [], _, h => h
  | c :: cs, l, h => List.mem_of_mem_erase (@mem_of_mem_foldl_erase x cs (l.erase c) h)

/-- `clients_`, with `none` for a group that has no entry, and for every stream `t` its flags and the point its
coroutine has reached. -/
structure Hub where
  clients : String → Option (List Nat)
  isOpen : Nat → Bool
  gotText : Nat → Bool
  text : Nat → Bool
  pc : Nat → Pc
  /-- The group: the upgrade request's target, lower-cased. -/
  group : Nat → String
  /-- Ghost: the coroutine of the stream has returned from its call to `join`. `step` sets it; `join` does not. -/
  joined : Nat → Bool

/-- One event of an interleaving: a coroutine resumes with the result of what it waited for, or runs its next
piece, or the environment closes a stream. -/
inductive Event where
  | accepted (t : Nat) (ok : Bool)
  | join (t : Nat)
  | loopHead (t : Nat)
  | readDone (t : Nat) (r : ReadResult)
  | snapshot (t : Nat)
  | visit (t : Nat)
  | writeDone (t : Nat) (ok : Bool)
  | prune (t : Nat)
  | close (c : Nat)

namespace Hub

/-- No group yet, every coroutine in `async_accept`. A stream counts as open until it is closed: no coroutine
reads the flag of a stream before its accept. Beast sends text frames by default. -/
def init (target : Nat → String) : Hub where
  clients _ := none
  isOpen _ := true
  gotText _ := false
  text _ := true
  pc _ := .accepting
  group t := toLower (target t)
  joined _ := false

/-! ## The pieces of `handle` -/

/-- Coroutine `t` moves on to `p`. -/
def setPc (s : Hub) (t : Nat) (p : Pc) : Hub := { s with pc := Function.update s.pc t p }

/-- `join(wstream, group)` for stream `t`: under `mutex_`, `clients_[group].insert(stream)`, nothing for an empty
group. -/
def join (s : Hub) (t : Nat) : Hub :=
  { s with
    clients := if s.group t = "" then s.clients
      else Function.update s.clients (s.group t) (some (setInsert t ((s.clients (s.group t)).getD []))) }

/-- The ghost record that coroutine `t` has returned from `join`. -/
def markJoined (s : Hub) (t : Nat) : Hub := { s with joined := Function.update s.joined t true }

/-- The end of an `async_read`: `closed` ends `handle`; a message, or any other error with what the buffer holds,
goes to `multicastMessage`. -/
def received (s : Hub) (t : Nat) : ReadResult → Hub
  | .frame text payload => { s.setPc t (.multicast payload) with gotText := Function.update s.gotText t text }
  | .error true _ => s.setPc t .done
  | .error false buffer => s.setPc t (.multicast buffer)

/-- The start of `multicastMessage`: no entry for the group returns, else the copy of `clients_.at(group)`. -/
def snapshot (s : Hub) (t : Nat) (payload : String) : Hub :=
  match s.clients (s.group t) with
  | none => s.setPc t .loop
  | some members => s.setPc t (.fanout payload members [])

/-- One turn of the loop over the copy: skip the sender, queue a closed peer, or set the peer's `text()` flag to
the sender's `got_text()` and start the write. -/
def visit (s : Hub) (t : Nat) (payload : String) (c : Nat) (peers closed : List Nat) : Hub :=
  if c = t then s.setPc t (.fanout payload peers closed)
  else if s.isOpen c then
    { s.setPc t (.writing payload c (s.gotText t) peers closed) with text := Function.update s.text c (s.gotText t) }
  else s.setPc t (.fanout payload peers (closed ++ [c]))

/-- The end of `multicastMessage`: under `mutex_`, `clients_[group].erase(c)` for every `c` on the list. -/
def prune (s : Hub) (group : String) (closed : List Nat) : Hub :=
  { s with clients := Function.update s.clients group (some (closed.foldl List.erase ((s.clients group).getD []))) }

/-- The stream is closed. -/
def close (s : Hub) (c : Nat) : Hub := { s with isOpen := Function.update s.isOpen c false }

/-- One event, `none` where the coroutine is not at the point the event needs. A failed write breaks out of the
loop over the copy. -/
def step (s : Hub) : Event → Option Hub
  | .accepted t ok => if s.pc t = .accepting then some (s.setPc t (if ok then .joining else .done)) else none
  | .join t => if s.pc t = .joining then some (((s.join t).markJoined t).setPc t .loop) else none
  | .loopHead t => if s.pc t = .loop then some (s.setPc t (if s.isOpen t then .reading else .done)) else none
  | .readDone t r => if s.pc t = .reading then some (s.received t r) else none
  | .snapshot t => match s.pc t with
    | .multicast payload => some (s.snapshot t payload)
    | _ => none
  | .visit t => match s.pc t with
    | .fanout payload (c :: peers) closed => some (s.visit t payload c peers closed)
    | _ => none
  | .writeDone t ok => match s.pc t with
    | .writing payload _ _ peers closed => some (s.setPc t (.fanout payload (if ok then peers else []) closed))
    | _ => none
  | .prune t => match s.pc t with
    | .fanout _ [] closed => some ((s.prune (s.group t) closed).setPc t .loop)
    | _ => none
  | .close c => some (s.close c)

/-- An interleaving. -/
def run (s : Hub) : List Event → Option Hub
  | [] => some s
  | e :: es => (s.step e).bind (run · es)

/-- The states some interleaving reaches from the start. -/
def Reachable (target : Nat → String) (s : Hub) : Prop := ∃ es, run (init target) es = some s

/-! ## Field lemmas -/

section Fields

variable (s : Hub) (t : Nat)

@[simp] theorem setPc_clients (p : Pc) : (s.setPc t p).clients = s.clients := rfl
@[simp] theorem setPc_isOpen (p : Pc) : (s.setPc t p).isOpen = s.isOpen := rfl
@[simp] theorem setPc_group (p : Pc) : (s.setPc t p).group = s.group := rfl
@[simp] theorem setPc_joined (p : Pc) : (s.setPc t p).joined = s.joined := rfl
@[simp] theorem setPc_pc (p : Pc) : (s.setPc t p).pc = Function.update s.pc t p := rfl
@[simp] theorem join_isOpen : (s.join t).isOpen = s.isOpen := rfl
@[simp] theorem join_group : (s.join t).group = s.group := rfl
@[simp] theorem join_pc : (s.join t).pc = s.pc := rfl
@[simp] theorem join_joined : (s.join t).joined = s.joined := rfl
@[simp] theorem markJoined_clients : (s.markJoined t).clients = s.clients := rfl
@[simp] theorem markJoined_isOpen : (s.markJoined t).isOpen = s.isOpen := rfl
@[simp] theorem markJoined_group : (s.markJoined t).group = s.group := rfl
@[simp] theorem markJoined_pc : (s.markJoined t).pc = s.pc := rfl
@[simp] theorem markJoined_joined : (s.markJoined t).joined = Function.update s.joined t true := rfl
@[simp] theorem prune_isOpen (g : String) (closed : List Nat) : (s.prune g closed).isOpen = s.isOpen := rfl
@[simp] theorem prune_group (g : String) (closed : List Nat) : (s.prune g closed).group = s.group := rfl
@[simp] theorem prune_joined (g : String) (closed : List Nat) : (s.prune g closed).joined = s.joined := rfl
@[simp] theorem prune_pc (g : String) (closed : List Nat) : (s.prune g closed).pc = s.pc := rfl

@[simp] theorem close_clients (c : Nat) : (s.close c).clients = s.clients := rfl
@[simp] theorem close_isOpen (c : Nat) : (s.close c).isOpen = Function.update s.isOpen c false := rfl
@[simp] theorem close_group (c : Nat) : (s.close c).group = s.group := rfl
@[simp] theorem close_joined (c : Nat) : (s.close c).joined = s.joined := rfl
@[simp] theorem close_pc (c : Nat) : (s.close c).pc = s.pc := rfl

@[simp] theorem received_clients (r : ReadResult) : (s.received t r).clients = s.clients := by
  unfold received; split <;> rfl

@[simp] theorem snapshot_clients (payload : String) : (s.snapshot t payload).clients = s.clients := by
  unfold snapshot; split <;> rfl

@[simp] theorem visit_clients (payload : String) (c : Nat) (peers closed : List Nat) :
    (s.visit t payload c peers closed).clients = s.clients := by
  unfold visit; split <;> [rfl; split <;> rfl]

/-- `join` adds the stream to its group's set, unless the name is empty. -/
theorem mem_join_clients_iff {g : String} {c : Nat} :
    c ∈ ((s.join t).clients g).getD [] ↔ c ∈ (s.clients g).getD [] ∨ (c = t ∧ g = s.group t ∧ s.group t ≠ "") := by
  simp only [join]
  split <;> rename_i h0
  · simp [h0]
  · by_cases hg : g = s.group t
    · subst hg; simp [h0, or_comm]
    · simp [Function.update_noteq hg, hg]

/-- A set loses a stream only by a prune of a list that holds it. -/
theorem mem_prune_clients {g g' : String} {closed : List Nat} {c : Nat} (h : c ∈ (s.clients g').getD [])
    (hc : c ∉ closed) : c ∈ ((s.prune g closed).clients g').getD [] := by
  by_cases hg : g' = g
  · subst hg; simpa [prune, mem_foldl_erase hc] using h
  · simpa [prune, Function.update_noteq hg] using h

theorem mem_of_mem_prune_clients {g g' : String} {closed : List Nat} {c : Nat}
    (h : c ∈ ((s.prune g closed).clients g').getD []) : c ∈ (s.clients g').getD [] := by
  by_cases hg : g' = g
  · subst hg; simpa [prune] using mem_of_mem_foldl_erase (by simpa [prune] using h)
  · simpa [prune, Function.update_noteq hg] using h

end Fields

/-! ## What one step does -/

/-- The moves one event can make, each with the guard the invariant needs. -/
inductive Moves (s : Hub) : Hub → Prop
  | setPc {t : Nat} {p : Pc} : (∀ c ∈ p.queued, c ∈ (s.pc t).queued) → Moves s (s.setPc t p)
  | join (t : Nat) : Moves s (((s.join t).markJoined t).setPc t .loop)
  | received (t : Nat) (r : ReadResult) : Moves s (s.received t r)
  | snapshot (t : Nat) (payload : String) : Moves s (s.snapshot t payload)
  | visit {t c : Nat} {payload : String} {peers closed : List Nat} :
      s.pc t = .fanout payload (c :: peers) closed → Moves s (s.visit t payload c peers closed)
  | prune {t : Nat} {payload : String} {closed : List Nat} :
      s.pc t = .fanout payload [] closed → Moves s ((s.prune (s.group t) closed).setPc t .loop)
  | close (c : Nat) : Moves s (s.close c)

theorem moves_of_step {s s' : Hub} {e : Event} (he : s.step e = some s') : Moves s s' := by
  cases e <;> simp only [step] at he
  case close c => cases he; exact .close c
  all_goals split at he <;> cases he
  case accepted.isTrue t ok _ => exact .setPc fun c hc => by cases ok <;> exact absurd hc (List.not_mem_nil c)
  case join.isTrue t _ => exact .join t
  case loopHead.isTrue t _ => exact .setPc fun c hc => by split at hc <;> exact absurd hc (List.not_mem_nil c)
  case readDone.isTrue t r _ => exact .received t r
  case snapshot.h_1 t _ _ _ => exact .snapshot t _
  case visit.h_1 hpc => exact .visit hpc
  case writeDone.h_1 hpc => exact .setPc (by simp [hpc, Pc.queued])
  case prune.h_1 hpc => exact .prune hpc

/-! ## The invariant -/

/-- Every stream on a `closed` list is closed; every open stream that joined a named group is in that group's
set; a set holds only streams that joined it. -/
structure Inv (s : Hub) : Prop where
  queued_closed : ∀ t c, c ∈ (s.pc t).queued → s.isOpen c = false
  member : ∀ c, s.joined c = true → s.group c ≠ "" → s.isOpen c = true → c ∈ (s.clients (s.group c)).getD []
  own_group : ∀ g c, c ∈ (s.clients g).getD [] → g = s.group c ∧ s.joined c = true

section Preservation

variable {s : Hub} (h : Inv s)
include h

theorem Inv.setPc {t : Nat} {p : Pc} (hp : ∀ c ∈ p.queued, c ∈ (s.pc t).queued ∨ s.isOpen c = false) :
    Inv (s.setPc t p) := by
  refine ⟨fun u c hc => ?_, h.member, h.own_group⟩
  by_cases hu : u = t
  · subst hu
    simp only [setPc_pc, Function.update_same] at hc
    exact (hp c hc).elim (h.queued_closed u c) id
  · simpa using h.queued_closed u c (by simpa [Function.update_noteq hu] using hc)

/-- `join`'s insert is what puts the stream that has now joined into its group's set. -/
theorem Inv.join (t : Nat) : Inv ((s.join t).markJoined t) := by
  refine ⟨h.queued_closed, fun c hj hg ho => (mem_join_clients_iff s t).2 ?_, fun g c hc => ?_⟩
  · by_cases hc : c = t
    · subst hc; exact .inr ⟨rfl, rfl, by simpa using hg⟩
    · exact .inl (h.member c (by simpa [Function.update_noteq hc] using hj) (by simpa using hg) (by simpa using ho))
  · rcases (mem_join_clients_iff s t).1 hc with hc | ⟨rfl, rfl, -⟩
    · obtain ⟨rfl, hj⟩ := h.own_group g c hc
      simp [Function.update_apply, hj]
    · simp

theorem Inv.prune (g : String) {closed : List Nat} (hq : ∀ c ∈ closed, s.isOpen c = false) :
    Inv (s.prune g closed) := by
  refine ⟨h.queued_closed, fun c hj hg ho => ?_, fun g' c hc => h.own_group g' c ?_⟩
  · exact mem_prune_clients s (h.member c hj hg ho) fun hc => by simp [hq c hc] at ho
  · exact mem_of_mem_prune_clients s hc

theorem Inv.close (c : Nat) : Inv (s.close c) := by
  refine ⟨fun t d hd => ?_, fun d hj hg ho => h.member d hj hg ?_, h.own_group⟩
  · by_cases hdc : d = c
    · subst hdc; simp
    · simpa [Function.update_noteq hdc] using h.queued_closed t d hd
  · by_cases hdc : d = c
    · subst hdc; simp at ho
    · simpa [Function.update_noteq hdc] using ho

theorem Inv.received (t : Nat) (r : ReadResult) : Inv (s.received t r) := by
  have hp : ∀ p : Pc, p.queued = [] → Inv (s.setPc t p) := fun p hp => h.setPc (by simp [hp])
  cases r with
  | frame text payload =>
    have h' := hp (.multicast payload) rfl
    exact ⟨h'.1, h'.2, h'.3⟩
  | error closed buffer => cases closed <;> exact hp _ rfl

theorem Inv.snapshot (t : Nat) (payload : String) : Inv (s.snapshot t payload) := by
  unfold Hub.snapshot
  split <;> exact h.setPc (by simp [Pc.queued])

theorem Inv.visit {t c : Nat} {payload : String} {peers closed : List Nat}
    (hpc : s.pc t = .fanout payload (c :: peers) closed) : Inv (s.visit t payload c peers closed) := by
  have hq : ∀ d ∈ closed, d ∈ (s.pc t).queued ∨ s.isOpen d = false := fun d hd => .inl (by simpa [hpc, Pc.queued])
  unfold Hub.visit
  split
  · exact h.setPc hq
  · split <;> rename_i ho
    · have h' : Inv (s.setPc t (.writing payload c (s.gotText t) peers closed)) := h.setPc hq
      exact ⟨h'.1, h'.2, h'.3⟩
    · refine h.setPc fun d hd => ?_
      rcases List.mem_append.1 hd with hd | hd
      · exact hq d hd
      · simp only [List.mem_singleton] at hd
        subst hd
        exact .inr (by simpa using ho)

/-- Every step keeps the invariant. -/
theorem Inv.step {e : Event} {s' : Hub} (he : s.step e = some s') : Inv s' := by
  cases moves_of_step he with
  | setPc hp => exact h.setPc fun c hc => .inl (hp c hc)
  | join t => exact (h.join t).setPc (by simp [Pc.queued])
  | received t r => exact h.received t r
  | snapshot t payload => exact h.snapshot t payload
  | visit hpc => exact h.visit hpc
  | @prune t _ _ hpc =>
    exact (h.prune _ fun c hc => h.queued_closed t c (by simp [hpc, Pc.queued, hc])).setPc (by simp [Pc.queued])
  | close c => exact h.close c

end Preservation

theorem inv_init (target : Nat → String) : Inv (init target) :=
  ⟨fun _ _ hc => by simp [init, Pc.queued] at hc, fun _ hj => by simp [init] at hj,
    fun _ _ hc => by simp [init] at hc⟩

/-- Every interleaving keeps the invariant. -/
theorem Inv.run {s : Hub} (h : Inv s) : ∀ {es : List Event} {s' : Hub}, s.run es = some s' → Inv s'
  | [], _, he => by cases he; exact h
  | _ :: _, _, he => by
    simp only [Hub.run, Option.bind_eq_some] at he
    obtain ⟨m, hm, hr⟩ := he
    exact (h.step hm).run hr

theorem inv_of_reachable {target : Nat → String} {s : Hub} (hs : Reachable target s) : Inv s :=
  let ⟨_, he⟩ := hs
  (inv_init target).run he

/-- A stream is only in the set of its own group: a connection belongs to at most one group. -/
theorem group_of_mem_clients {target : Nat → String} {s : Hub} (hs : Reachable target s) {g : String} {c : Nat}
    (hc : c ∈ (s.clients g).getD []) : g = s.group c :=
  ((inv_of_reachable hs).own_group g c hc).1

/-- A stream of `/Chat` joins the set of `/chat`, the lower-cased target. -/
theorem group_of_mem_clients_chat :
    ∃ s, Reachable (fun _ => "/Chat") s ∧ 1 ∈ (s.clients "/chat").getD [] ∧ "/chat" = s.group 1 :=
  let hs : Reachable (fun _ => "/Chat") _ := ⟨[.accepted 1 true, .join 1], rfl⟩
  ⟨_, hs, by decide, group_of_mem_clients hs (by decide)⟩

/-- A stream leaves a set only by a prune of a `closed` list it is on. -/
theorem mem_queued_of_erased {s s' : Hub} {e : Event} {g : String} {c : Nat} (he : s.step e = some s')
    (hc : c ∈ (s.clients g).getD []) (hc' : c ∉ (s'.clients g).getD []) : ∃ t, c ∈ (s.pc t).queued := by
  cases moves_of_step he with
  | join t => exact absurd ((mem_join_clients_iff s t).2 (.inl hc)) (by simpa using hc')
  | @prune t _ closed hpc =>
    refine ⟨t, hpc ▸ by_contra fun hn => hc' ?_⟩
    simpa using mem_prune_clients s hc hn
  | setPc | received | snapshot | visit | close => exact absurd hc (by simpa using hc')

end Hub

open Hub in
/-- Along any interleaving a stream is erased from `clients_[g]` only while closed, and every open stream that
joined a named group is in that group's set. -/
theorem reachable_erase_only_closed (target : Nat → String) {s : Hub} (hs : Reachable target s) :
    (∀ e s' g c, s.step e = some s' → c ∈ (s.clients g).getD [] → c ∉ (s'.clients g).getD [] →
      s.isOpen c = false) ∧
    ∀ c, s.joined c = true → s.group c ≠ "" → s.isOpen c = true → c ∈ (s.clients (s.group c)).getD [] := by
  have h := inv_of_reachable hs
  refine ⟨fun e s' g c he hc hc' => ?_, h.member⟩
  obtain ⟨t, ht⟩ := mem_queued_of_erased he hc hc'
  exact h.queued_closed t c ht

open Hub in
/-- Two streams of `/chat` join, `2` is closed while `1` relays a message to it. -/
theorem reachable_erase_only_closed_chat :
    ∃ s, Reachable (fun _ => "/chat") s ∧
    (∀ e s' g c, s.step e = some s' → c ∈ (s.clients g).getD [] → c ∉ (s'.clients g).getD [] →
      s.isOpen c = false) ∧
    ∀ c, s.joined c = true → s.group c ≠ "" → s.isOpen c = true → c ∈ (s.clients (s.group c)).getD [] :=
  let hs : Reachable (fun _ => "/chat") _ :=
    ⟨[.accepted 1 true, .join 1, .accepted 2 true, .join 2, .loopHead 1, .readDone 1 (.frame true "hi"),
      .close 2, .snapshot 1, .visit 1, .visit 1], rfl⟩
  ⟨_, hs, reachable_erase_only_closed _ hs⟩

open Hub in
/-- Three streams of `/chat`. While `1`'s write of a text message to `3` is outstanding, `2` relays a binary
message: it sets `3`'s `text()` flag to false and starts a second write to `3`. -/
theorem multicast_overlapping_writes :
    ∃ s, Reachable (fun _ => "/chat") s ∧
      s.pc 1 = .writing "hello" 3 true [] [] ∧ s.pc 2 = .writing "bin" 3 false [] [] ∧ s.text 3 = false :=
  ⟨_, ⟨[.accepted 1 true, .join 1, .loopHead 1, .accepted 2 true, .join 2, .loopHead 2,
      .accepted 3 true, .join 3, .loopHead 3,
      .readDone 1 (.frame true "hello"), .snapshot 1, .visit 1, .visit 1, .writeDone 1 true, .visit 1,
      .readDone 2 (.frame false "bin"), .snapshot 2, .visit 2, .writeDone 2 true, .visit 2, .visit 2], rfl⟩,
    by decide, by decide, by decide⟩

open Hub in
/-- Streams `1` and `2` of `/chat`. `1`'s read fails with an error other than `closed` (a timeout, say) and an
empty buffer; `handle` still calls `multicastMessage` on that buffer, and `1` has a write of it to `2` outstanding. -/
theorem failed_read_relays :
    ∃ s, Reachable (fun _ => "/chat") s ∧ s.pc 1 = .writing "" 2 false [] [] :=
  ⟨_, ⟨[.accepted 1 true, .join 1, .accepted 2 true, .join 2, .loopHead 1, .readDone 1 (.error false ""),
      .snapshot 1, .visit 1, .visit 1], rfl⟩, by decide⟩

end AsulaHttp
