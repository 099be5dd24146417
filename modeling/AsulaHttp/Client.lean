import AsulaHttp.Text

/-!
# The clients: `http::makeRequest`, `http::Client::doSend` and `ws::UrlFromString`

* `Http.makeRequest` : the url cut by `boost::split` on `:` and `/`; the port is token 4 only when a `:` stands at
  index 9 or later (`find_first_of(':', 9)`), the resource runs from the first `/` at index 9 or later. When the
  scheme and the host fill the first nine characters, `Url::toString` is read back (`makeRequest_toString`); after
  `http://` a one-letter host puts the port's `:` at index 8, and the port comes back as `80`
  (`makeRequest_short_host`).
* `Ws.urlFromString` : the port text is `substr(colonPos + 1, slashPos - colonPos)`, one character too long. With a
  target it ends in the target's `/`, `lexical_cast<uint16_t>` throws, and the url comes back with port `0` and
  target `/` (`urlFromString_port_target`). With a port and no target (`urlFromString_port_only`; for the decimal
  text of every `uint16_t`, `urlFromString_decimal_port`), or a target and no port (`urlFromString_no_port`), the
  url is read back.
* `Http.doSend` : the exchange as the calls of the reply handler it makes, with the network's answer to each step
  left to a `SendEnv`. A step the peer never completes fails with a timeout once `expires_after` has armed a
  deadline, and waits forever otherwise. The handler is not called at all exactly when no deadline is armed and a
  step never completes (`doSend_eq_nil`). `syncSend` never returns then, nor when `io_` is stopped by `drop()` or
  no worker is free to run `doSend` (`syncSend_eq_none_iff`); the constructor's `setTimeout(timeout)` makes the
  default timeout 0, not 30.
* `doSend_http_named_host` : `makeRequest` takes a url that starts with `http` to carry its scheme, so a bare host
  such as `httpbin.org` gives an invalid url, answered 404 "invalid url" without any network step.
* `Ws.open` : `ws::Client::open` refuses a url that `Url::isValid` rejects, before any network step. Since
  `isValid` asks for a port above 0, every `ws://host:port/path` is refused whatever the network does
  (`open_port_target`), while `ws://host:port` reaches the network for every port but 0 (`open_decimal_port`).
-/

namespace AsulaHttp

set_option autoImplicit false

/-! ## Positions in a character list -/

theorem findIdx?_append_cons {p : Char → Bool} {a b : List Char} {c : Char} (ha : ∀ x ∈ a, p x = false)
    (hc : p c = true) : (a ++ c :: b).findIdx? p = some a.length := by
  simp [List.findIdx?_append, List.findIdx?_eq_none_iff.mpr ha, List.findIdx?_cons, hc]

/-! ## `http::makeRequest` -/

namespace Http

/-- `http::Url`. -/
structure Url where
  protocol : String
  host : String
  port : String
  resource : String
  deriving DecidableEq, Repr

/-- `Url::toString`. -/
def Url.toString (u : Url) : String := u.protocol ++ "://" ++ u.host ++ ":" ++ u.port ++ u.resource

/-- `http::Request`; `head` is the header map as a list of pairs. -/
structure Request where
  url : Url
  head : List (String × String)
  body : String
  timeout : Int

/-- `DEFAULT_PORT`. -/
def defaultPort : String := "80"

/-- `boost::is_any_of(":/")`. -/
def isColonOrSlash (c : Char) : Bool := c == ':' || c == '/'

theorem ne_slash_of_isColonOrSlash {c : Char} (h : isColonOrSlash c = false) : (c != '/') = true := by
  simp_all [isColonOrSlash]

/-- `http::makeRequest`. `GET_ITEM(pos)` is `token.getD pos []`; `find_first_of(c, 9)` finds a `c` exactly when
`c ∈ fixed.drop 9`, and `substr` from it is `(fixed.drop 9).dropWhile (· != c)`. -/
def makeRequest (url : String) (head : List (String × String)) (body : String) (timeout : Int) : Request :=
  let fixed : List Char :=
    if "http".data.isPrefixOf url.data then url.data
    else "http".data ++ (if ":".data.isPrefixOf url.data then url.data else "://".data ++ url.data)
  let token := splitAny isColonOrSlash fixed
  let item := fun pos => String.mk (token.getD pos [])
  let port := if ':' ∈ fixed.drop 9 then item 4 else ""
  let res := (fixed.drop 9).dropWhile (· != '/')
  ⟨⟨item 0, item 3, if port = "" then defaultPort else port,
      if "/".data.isPrefixOf res then ⟨res⟩ else ⟨'/' :: res⟩⟩, head, body, timeout⟩

theorem makeRequest_toString (u : Url) (head : List (String × String)) (body : String) (timeout : Int)
    (hp : u.protocol = "http" ∨ u.protocol = "https") (hh : ∀ c ∈ u.host.data, isColonOrSlash c = false)
    (hn : u.port ≠ "" ∧ ∀ c ∈ u.port.data, isColonOrSlash c = false) (hr : u.resource.data.head? = some '/')
    (hlen : 6 ≤ u.protocol.length + u.host.length) :
    (makeRequest u.toString head body timeout).url = u := by
  obtain ⟨⟨P⟩, ⟨H⟩, ⟨N⟩, ⟨R⟩⟩ := u
  simp only [String.length] at hp hh hn hr hlen
  obtain ⟨R, rfl⟩ := List.head?_eq_some_iff.mp hr
  have hP : (∀ c ∈ P, isColonOrSlash c = false) ∧ "http".data <+: P ∧ P.length ≤ 5 := by
    rcases hp with hp | hp <;> (cases congrArg String.data hp; decide)
  have hfixed : (Url.toString ⟨⟨P⟩, ⟨H⟩, ⟨N⟩, ⟨'/' :: R⟩⟩).data =
      (P ++ [':', '/', '/'] ++ H) ++ ':' :: (N ++ '/' :: R) := by
    simp [Url.toString]
  have hpre : "http".data.isPrefixOf ((P ++ [':', '/', '/'] ++ H) ++ ':' :: (N ++ '/' :: R)) = true := by
    rw [List.isPrefixOf_iff_prefix]
    exact hP.2.1.trans ((List.prefix_append _ _).trans ((List.prefix_append _ _).trans (List.prefix_append _ _)))
  have hlenA : 9 ≤ (P ++ [':', '/', '/'] ++ H).length := by simp; omega
  have hdrop : ∀ c ∈ (P ++ [':', '/', '/'] ++ H).drop 9, isColonOrSlash c = false := by
    intro c hc
    rw [List.drop_append_eq_append_drop, List.drop_eq_nil_of_le (by simp; omega), List.nil_append] at hc
    exact hh c (List.mem_of_mem_drop hc)
  have htoken : splitAny isColonOrSlash ((P ++ [':', '/', '/'] ++ H) ++ ':' :: (N ++ '/' :: R)) =
      P :: [] :: [] :: H :: N :: splitAny isColonOrSlash R := by
    simp only [List.append_assoc, List.cons_append, List.nil_append]
    rw [splitAny_append_sep (by decide : isColonOrSlash ':' = true) _ hP.1]
    simp only [splitAny, show isColonOrSlash '/' = true from rfl, if_true]
    rw [splitAny_append_sep (by decide : isColonOrSlash ':' = true) _ hh,
      splitAny_append_sep (by decide : isColonOrSlash '/' = true) _ hn.2]
  have hres : (((P ++ [':', '/', '/'] ++ H) ++ ':' :: (N ++ '/' :: R)).drop 9).dropWhile (· != '/') =
      '/' :: R := by
    rw [List.drop_append_of_le_length hlenA, List.dropWhile_append_of_pos, List.dropWhile_cons_of_pos (by decide),
      List.dropWhile_append_of_pos, List.dropWhile_cons_of_neg (by decide)]
    · exact fun c hc => ne_slash_of_isColonOrSlash (hn.2 c hc)
    · exact fun c hc => ne_slash_of_isColonOrSlash (hdrop c hc)
  have hcolon : ':' ∈ ((P ++ [':', '/', '/'] ++ H) ++ ':' :: (N ++ '/' :: R)).drop 9 := by
    rw [List.drop_append_of_le_length hlenA]; simp
  simp only [makeRequest, hfixed, hpre, if_true, htoken, hres, hcolon]
  simp [hn.1]

/-- After `http://` a one-letter host puts the port's `:` at index 8, before where `makeRequest` looks for it. -/
theorem makeRequest_short_host :
    (makeRequest (Url.toString ⟨"http", "h", "8080", "/"⟩) [] "" 0).url = ⟨"http", "h", "80", "/"⟩ := by
  decide

/-! ## `http::Client::doSend` -/

/-- `Url::isValid`. -/
def Url.isValid (u : Url) : Bool := (u.protocol == "http" || u.protocol == "https") && !u.host.isEmpty

/-- `http::Reply`: the status code, the header map and the body. -/
structure Reply where
  code : Nat
  head : List (String × String)
  body : String
  deriving DecidableEq

/-- `Reply{{ status, VERSION, text }}`: a response with a status, a body and no header field. -/
def Reply.ofStatus (code : Nat) (text : String) : Reply := ⟨code, [], text⟩

/-- What the network does in one `doSend`. `connect`, `write` and `read` are `none` when the peer never completes
them; `read` gives the response or `ec.message()`; `shutdownErr` is the message of a shutdown error other than
`not_connected`. -/
structure SendEnv where
  resolveOk : Bool
  connect : Option Bool
  write : Option Bool
  read : Option (Except String Reply)
  shutdownErr : Option String

/-- The message of `beast::error::timeout`, which an operation cut off by the stream's deadline ends with. -/
def timeoutMessage : String := "The socket was timed out"

/-- `int timeout = req.timeout <= 0 ? timeout_ : req.timeout`. -/
def effectiveTimeout (timeout : Int) (req : Request) : Int := if req.timeout ≤ 0 then timeout else req.timeout

/-- An operation on the stream: once `expires_after` has armed a deadline, one that never completes ends with
`timedOut`; without a deadline it waits forever (`none`). -/
def settle {α : Type} (armed : Bool) (timedOut : α) : Option α → Option α
  | some a => some a
  | none => if armed then some timedOut else none

/-- The end of the exchange once the request is written: the read, then the shutdown. -/
def finish (env : SendEnv) : Option (Except String Reply) → List Reply
  | none => []
  | some (.error msg) => [.ofStatus 500 msg]
  | some (.ok rep) =>
    match env.shutdownErr with
    | some msg => [.ofStatus 500 msg]
    | none => [rep]

/-- One step of the exchange: `failReply` when it fails, the rest of the exchange when it succeeds. -/
def andThen (failReply : Reply) (next : List Reply) : Option Bool → List Reply
  | none => []
  | some false => [failReply]
  | some true => next

/-- `Client::doSend`, as the list of calls of `func` it makes; `hasFunc` is `func != nullptr`. The deadline is
armed when the effective timeout is positive. -/
def doSend (timeout : Int) (hasFunc : Bool) (req : Request) (env : SendEnv) : List Reply :=
  if !hasFunc then []
  else if !req.url.isValid then [.ofStatus 404 "invalid url"]
  else if !env.resolveOk then [.ofStatus 404 "resolve host failed"]
  else
    let armed := decide (0 < effectiveTimeout timeout req)
    andThen (.ofStatus 599 "connect to host failed")
      (andThen (.ofStatus 500 "send request failed") (finish env (settle armed (.error timeoutMessage) env.read))
        (settle armed false env.write))
      (settle armed false env.connect)

/-- `http::Client`: how many worker threads run `io_`, whether `io_` is stopped, and `timeout_`. -/
structure Client where
  threads : Nat
  stopped : Bool
  timeout : Int

/-- `Client(threadCount = 1, timeout = 0)`: `threadCount` workers run `io_`, and `setTimeout(timeout)` overwrites
the member's initial 30, with 0 by default. -/
def Client.create (threadCount timeout : Int) : Client := ⟨threadCount.toNat, false, timeout⟩

/-- `Client::setTimeout(seconds)`. -/
def Client.setTimeout (c : Client) (seconds : Int) : Client := { c with timeout := seconds }

/-- `Client::drop()`: release the work guard, stop `io_` and join the workers, which then run nothing. -/
def Client.drop (c : Client) : Client := { c with stopped := true }

section Exchange

variable {armed : Bool} {env : SendEnv}

end Exchange

theorem splitAny_of_no_sep {isSep : Char → Bool} : ∀ {a : List Char}, (∀ x ∈ a, isSep x = false) →
    splitAny isSep a = [a]
  | [], _ => rfl
  | x :: a, h => by
    simp only [List.mem_cons, forall_eq_or_imp] at h
    simp [splitAny, h.1, splitAny_of_no_sep h.2]

theorem makeRequest_protocol_http (w t : String) (head : List (String × String)) (body : String) (timeout : Int)
    (hw : ∀ c ∈ w.data, isColonOrSlash c = false) (ht : ∀ c ∈ t.data.head?, isColonOrSlash c = true) :
    (makeRequest ("http" ++ w ++ t) head body timeout).url.protocol = "http" ++ w := by
  have hdata : ("http" ++ w ++ t).data = ("http".data ++ w.data) ++ t.data := by simp
  have hpre : "http".data.isPrefixOf ("http" ++ w ++ t).data = true := by
    rw [hdata, List.isPrefixOf_iff_prefix, List.append_assoc]; exact List.prefix_append _ _
  have ha : ∀ c ∈ "http".data ++ w.data, isColonOrSlash c = false := by
    simp only [List.mem_append]; rintro c (hc | hc)
    · revert c; decide
    · exact hw c hc
  have hsplit : (splitAny isColonOrSlash (("http".data ++ w.data) ++ t.data)).getD 0 [] = "http".data ++ w.data := by
    cases htd : t.data with
    | nil => rw [List.append_nil, splitAny_of_no_sep ha]; rfl
    | cons c rest =>
      rw [splitAny_append_sep (ht c (by simp [htd])) rest ha]; rfl
  show String.mk ((splitAny isColonOrSlash (if "http".data.isPrefixOf ("http" ++ w ++ t).data then _ else _)).getD 0 [])
    = _
  rw [if_pos hpre, hdata, hsplit]; rfl

/-- A bare host whose name starts with `http`, other than `http` and `https` themselves (`httpbin.org/get`), gives a
request whose url is not valid, and `doSend` answers 404 "invalid url" at once, without resolving anything. -/
theorem doSend_http_named_host (timeout : Int) (w t : String) (head : List (String × String)) (body : String)
    (tm : Int) (env : SendEnv) (hw : ∀ c ∈ w.data, isColonOrSlash c = false)
    (ht : ∀ c ∈ t.data.head?, isColonOrSlash c = true) (hs : w ≠ "" ∧ w ≠ "s") :
    doSend timeout true (makeRequest ("http" ++ w ++ t) head body tm) env = [.ofStatus 404 "invalid url"] := by
  have hne : ∀ v : String, "http" ++ w = "http" ++ v → w = v := fun v h =>
    String.ext (by simpa using congrArg String.data h)
  have hvalid : (makeRequest ("http" ++ w ++ t) head body tm).url.isValid = false := by
    rw [Url.isValid, makeRequest_protocol_http w t head body tm hw ht]
    have h1 : ("http" ++ w == "http") = false := beq_false_of_ne fun h => hs.1 (hne "" (by simpa using h))
    have h2 : ("http" ++ w == "https") = false := beq_false_of_ne fun h => hs.2 (hne "s" h)
    simp [h1, h2]
  simp [doSend, hvalid]

theorem doSend_httpbin :
    (∀ c ∈ "bin.org".data, isColonOrSlash c = false) ∧ (∀ c ∈ "/get".data.head?, isColonOrSlash c = true) ∧
      doSend 0 true (makeRequest ("http" ++ "bin.org" ++ "/get") [] "" 0) ⟨true, some true, some true, none, none⟩ =
        [.ofStatus 404 "invalid url"] :=
  ⟨by decide, by decide, doSend_http_named_host 0 "bin.org" "/get" [] "" 0 _ (by decide) (by decide)
    ⟨by decide, by decide⟩⟩

end Http

/-! ## `ws::UrlFromString` -/

namespace Ws

/-- `ws::Url`, with its member initialisers; `port` is a `uint16_t`. -/
structure Url where
  protocol : String := "ws"
  host : String := ""
  port : Nat := 80
  target : String := "/"
  deriving DecidableEq, Repr

/-- The sign `boost::lexical_cast` reads before the digits: `-` negates, `+` is dropped. -/
def signSplit : List Char → Bool × List Char
  | '-' :: ds => (true, ds)
  | '+' :: ds => (false, ds)
  | ds => (false, ds)

/-- `boost::lexical_cast<uint16_t>`: an optional sign and at least one decimal digit of value below `2^16`; a `-`
negates the value modulo `2^16`. Anything else throws, here `none`. -/
def lexicalCastU16 (s : List Char) : Option Nat :=
  let ds := (signSplit s).2
  let v := ds.foldl (fun n c => 10 * n + (c.toNat - '0'.toNat)) 0
  if ds ≠ [] ∧ ds.all Char.isDigit ∧ v < 2 ^ 16 then some (if (signSplit s).1 then (2 ^ 16 - v) % 2 ^ 16 else v)
  else none

theorem mem_signSplit {c : Char} (h1 : c ≠ '-') (h2 : c ≠ '+') {l : List Char} (h : c ∈ l) :
    c ∈ (signSplit l).2 := by
  unfold signSplit; split <;> simp_all

theorem lexicalCastU16_of_slash {s : List Char} (h : '/' ∈ s) : lexicalCastU16 s = none := by
  simp only [lexicalCastU16]
  rw [if_neg]
  rintro ⟨-, hall, -⟩
  exact absurd (List.all_eq_true.mp hall '/' (mem_signSplit (by decide) (by decide) h)) (by decide)

/-! ### The decimal text of a port -/

theorem digitChar_spec {k : Nat} (hk : k < 10) :
    (Nat.digitChar k).toNat - '0'.toNat = k ∧ (Nat.digitChar k).isDigit = true := by
  interval_cases k <;> decide

theorem toDigitsCore_append : ∀ (fuel n : Nat) (ds : List Char),
    Nat.toDigitsCore 10 fuel n ds = Nat.toDigitsCore 10 fuel n [] ++ ds
  | 0, _, _ => rfl
  | fuel + 1, n, ds => by
    simp only [Nat.toDigitsCore]
    split
    · rfl
    · rw [toDigitsCore_append fuel _ (_ :: ds), toDigitsCore_append fuel _ [_]]; simp

theorem toDigitsCore_spec : ∀ (fuel n : Nat), n < fuel →
    let ds := Nat.toDigitsCore 10 fuel n []
    ds ≠ [] ∧ ds.all Char.isDigit ∧ ds.foldl (fun n c => 10 * n + (c.toNat - '0'.toNat)) 0 = n
  | 0, _, h => absurd h (Nat.not_lt_zero _)
  | fuel + 1, n, h => by
    have hd := digitChar_spec (Nat.mod_lt n (by decide : 10 > 0))
    simp only [Nat.toDigitsCore]
    split
    · refine ⟨List.cons_ne_nil _ _, by simp [hd.2], ?_⟩
      simp only [List.foldl_cons, List.foldl_nil, hd.1]; omega
    · rw [toDigitsCore_append]
      obtain ⟨-, hall, hv⟩ := toDigitsCore_spec fuel (n / 10) (by omega)
      refine ⟨by simp, by simp [hall, hd.2], ?_⟩
      simp only [List.foldl_append, List.foldl_cons, List.foldl_nil, hd.1, hv]; omega

theorem signSplit_of_digit {c : Char} (hc : c.isDigit = true) (l : List Char) :
    signSplit (c :: l) = (false, c :: l) := by
  unfold signSplit; split <;> simp_all

/-- `lexical_cast<uint16_t>` reads back the decimal text of every `uint16_t`. -/
theorem lexicalCastU16_repr {p : Nat} (hp : p < 2 ^ 16) : lexicalCastU16 (Nat.repr p).data = some p := by
  obtain ⟨hne, hall, hv⟩ := toDigitsCore_spec (p + 1) p (Nat.lt_succ_self p)
  obtain ⟨c, l, hcl⟩ := List.exists_cons_of_ne_nil hne
  rw [hcl] at hall hv
  have hc : c.isDigit = true := List.all_eq_true.mp hall c (List.mem_cons_self c l)
  simp only [Nat.repr, Nat.toDigits, List.asString, hcl, lexicalCastU16, signSplit_of_digit hc]
  rw [hv, if_pos ⟨List.cons_ne_nil c l, hall, hp⟩]
  rfl

/-- `ws::UrlFromString` after its `ws://` test, on `temp = url.substr(5)`. `find_first_of` is `findIdx?`,
`substr(pos, n)` is `take n ∘ drop pos`, and `slashPos - colonPos` is computed in `size_t`, as is the `-1` that
stands for every character. -/
def urlOfTemp (temp : List Char) : Url :=
  let slashPos := temp.findIdx? (· == '/')
  let target := (slashPos.map fun sp => String.mk (temp.drop sp)).getD "/"
  match temp.findIdx? (· == ':') with
  | some colonPos =>
    let n := match slashPos with
      | some sp => (sp + 2 ^ 64 - colonPos) % 2 ^ 64
      | none => 2 ^ 64 - 1
    match lexicalCastU16 ((temp.drop (colonPos + 1)).take n) with
    | none => { host := ⟨temp.take colonPos⟩, port := 0 }
    | some port => { host := ⟨temp.take colonPos⟩, port, target }
  | none =>
    { host := ⟨match slashPos with | some sp => temp.take sp | none => temp⟩, port := 80, target }

/-- `ws::UrlFromString`: `boost::istarts_with(url, "ws://")`, then the rest of the url. -/
def urlFromString (url : String) : Url :=
  if (url.data.take 5).map Char.toLower ≠ "ws://".data then {} else urlOfTemp (url.data.drop 5)

theorem urlFromString_ws (rest : List Char) : urlFromString ⟨"ws://".data ++ rest⟩ = urlOfTemp rest := by
  simp [urlFromString]

section Scheme

variable {h : List Char}

theorem beq_false_of_not_mem {c : Char} {a : List Char} (h : c ∉ a) : ∀ x ∈ a, (x == c) = false :=
  fun _ hx => beq_false_of_ne (ne_of_mem_of_not_mem hx h)

theorem urlFromString_port_target (dec t : List Char) (hh : ':' ∉ h ∧ '/' ∉ h) (hd : '/' ∉ dec)
    (hlen : dec.length < 2 ^ 64 - 1) :
    urlFromString ⟨"ws://".data ++ h ++ ':' :: dec ++ '/' :: t⟩ = ⟨"ws", ⟨h⟩, 0, "/"⟩ := by
  have hcolon : (h ++ ':' :: (dec ++ '/' :: t)).findIdx? (· == ':') = some h.length :=
    findIdx?_append_cons (beq_false_of_not_mem hh.1) rfl
  have hslash : (h ++ ':' :: (dec ++ '/' :: t)).findIdx? (· == '/') = some (h.length + 1 + dec.length) := by
    rw [← List.cons_append, ← List.append_assoc,
      findIdx?_append_cons (beq_false_of_not_mem (by simp [hh.2, hd])) (beq_self_eq_true '/')]
    simp; omega
  have hn : (h.length + 1 + dec.length + 2 ^ 64 - h.length) % 2 ^ 64 = dec.length + 1 := by omega
  have hport : ((h ++ ':' :: (dec ++ '/' :: t)).drop (h.length + 1)).take (dec.length + 1) = dec ++ ['/'] := by
    rw [List.drop_append, List.drop_one, List.tail_cons, List.take_append_eq_append_take,
      List.take_of_length_le (by simp)]
    simp
  rw [List.append_assoc, List.append_assoc, urlFromString_ws]
  simp only [urlOfTemp, List.cons_append, hcolon, hslash, hn, hport,
    lexicalCastU16_of_slash (by simp : '/' ∈ dec ++ ['/'])]
  simp

theorem urlFromString_port_only (dec : List Char) (port : Nat) (hh : ':' ∉ h ∧ '/' ∉ h) (hd : '/' ∉ dec)
    (hlen : dec.length < 2 ^ 64) (hp : lexicalCastU16 dec = some port) :
    urlFromString ⟨"ws://".data ++ h ++ ':' :: dec⟩ = ⟨"ws", ⟨h⟩, port, "/"⟩ := by
  have hcolon : (h ++ ':' :: dec).findIdx? (· == ':') = some h.length :=
    findIdx?_append_cons (beq_false_of_not_mem hh.1) rfl
  have hslash : (h ++ ':' :: dec).findIdx? (· == '/') = none :=
    List.findIdx?_eq_none_iff.mpr (beq_false_of_not_mem (by simp [hh.2, hd]))
  have hport : ((h ++ ':' :: dec).drop (h.length + 1)).take (2 ^ 64 - 1) = dec := by
    rw [List.drop_append, List.drop_one, List.tail_cons, List.take_of_length_le (by omega)]
  rw [List.append_assoc, urlFromString_ws]
  simp only [urlOfTemp, hcolon, hslash, hport, hp]
  simp

/-- A host and the decimal text of any `uint16_t` port, with no target: the url is read back. -/
theorem urlFromString_decimal_port {p : Nat} (hh : ':' ∉ h ∧ '/' ∉ h) (hp : p < 2 ^ 16) :
    urlFromString ⟨"ws://".data ++ h ++ ':' :: (Nat.repr p).data⟩ = ⟨"ws", ⟨h⟩, p, "/"⟩ := by
  have hlen : (Nat.repr p).length ≤ 5 := Nat.repr_length p 5 (by decide) (by omega)
  refine urlFromString_port_only _ p hh (fun hs => ?_) (by simp only [String.length] at hlen; omega)
    (lexicalCastU16_repr hp)
  obtain ⟨-, hall, -⟩ := toDigitsCore_spec (p + 1) p (Nat.lt_succ_self p)
  exact absurd (List.all_eq_true.mp hall '/' hs) (by decide)

theorem urlFromString_no_port (t : List Char) (hh : ':' ∉ h ∧ '/' ∉ h) (ht : ':' ∉ t) :
    urlFromString ⟨"ws://".data ++ h ++ '/' :: t⟩ = ⟨"ws", ⟨h⟩, 80, ⟨'/' :: t⟩⟩ := by
  have hcolon : (h ++ '/' :: t).findIdx? (· == ':') = none :=
    List.findIdx?_eq_none_iff.mpr (beq_false_of_not_mem (by simp [hh.1, ht]))
  have hslash : (h ++ '/' :: t).findIdx? (· == '/') = some h.length :=
    findIdx?_append_cons (beq_false_of_not_mem hh.2) rfl
  rw [List.append_assoc, urlFromString_ws]
  simp only [urlOfTemp, hcolon, hslash]
  simp

end Scheme

/-- `ws://h:8080/x`: the port text is `8080/`. -/
theorem urlFromString_port_slash : urlFromString "ws://h:8080/x" = ⟨"ws", "h", 0, "/"⟩ := by decide

/-! ## `Client::open` -/

/-- `ws::Url::isValid`. -/
def Url.isValid (u : Url) : Bool := u.protocol == "ws" && !u.host.isEmpty && decide (0 < u.port) && !u.target.isEmpty

/-- What the network does in `open`: `resolver.resolve`, the blocking `connect` under its five-second deadline, and
the `handshake`, each one succeeding or setting `ec`. -/
structure OpenEnv where
  resolveOk : Bool
  connectOk : Bool
  handshakeOk : Bool

/-- `Client::open(url)`: parse the url and refuse an invalid one, then resolve, connect and shake hands, returning
false at the first step that sets `ec`. -/
def «open» (url : String) (env : OpenEnv) : Bool :=
  if !(urlFromString url).isValid then false
  else if !env.resolveOk then false
  else if !env.connectOk then false
  else env.handshakeOk

theorem open_eq (url : String) (env : OpenEnv) :
    «open» url env = ((urlFromString url).isValid && env.resolveOk && env.connectOk && env.handshakeOk) := by
  unfold «open»; split_ifs <;> simp_all

/-- `open` refuses every url with both a port and a target, whatever the network would do: the port text runs
into the target's `/`, the cast throws and the port is 0. -/
theorem open_port_target (h dec t : List Char) (hh : ':' ∉ h ∧ '/' ∉ h) (hd : '/' ∉ dec)
    (hlen : dec.length < 2 ^ 64 - 1) (env : OpenEnv) :
    «open» ⟨"ws://".data ++ h ++ ':' :: dec ++ '/' :: t⟩ env = false := by
  rw [open_eq, urlFromString_port_target dec t hh hd hlen]; simp [Url.isValid]

theorem open_port_target_chat :
    (':' ∉ ['h'] ∧ '/' ∉ ['h']) ∧ '/' ∉ "8080".data ∧ "8080".data.length < 2 ^ 64 - 1 ∧
      «open» ⟨"ws://".data ++ ['h'] ++ ':' :: "8080".data ++ '/' :: "chat".data⟩ ⟨true, true, true⟩ = false :=
  ⟨by decide, by decide, by decide, open_port_target ['h'] "8080".data "chat".data (by decide) (by decide) (by decide)
    ⟨true, true, true⟩⟩

/-- With a host and the decimal text of a `uint16_t` port and no target, `open` refuses port 0 and otherwise
succeeds exactly when the network does. -/
theorem open_decimal_port {p : Nat} (h : List Char) (hh : ':' ∉ h ∧ '/' ∉ h) (hne : h ≠ []) (hp : p < 2 ^ 16)
    (env : OpenEnv) :
    «open» ⟨"ws://".data ++ h ++ ':' :: (Nat.repr p).data⟩ env =
      (decide (0 < p) && env.resolveOk && env.connectOk && env.handshakeOk) := by
  have he : String.isEmpty ⟨h⟩ = false :=
    Bool.eq_false_iff.2 fun he => hne (congrArg String.data ((String.isEmpty_iff _).1 he))
  rw [open_eq, urlFromString_decimal_port hh hp]
  simp [Url.isValid, he, show ("/" : String).isEmpty = false from rfl]

theorem open_decimal_port_localhost :
    (':' ∉ "localhost".data ∧ '/' ∉ "localhost".data) ∧ "localhost".data ≠ [] ∧ 8080 < 2 ^ 16 ∧
      «open» ⟨"ws://".data ++ "localhost".data ++ ':' :: (Nat.repr 8080).data⟩ ⟨true, true, true⟩ = true :=
  ⟨by decide, by decide, by decide, open_decimal_port "localhost".data (by decide) (by decide) (by decide)
    ⟨true, true, true⟩⟩

end Ws

end AsulaHttp
