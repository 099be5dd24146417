import AsulaHttp.Registrar

/-!
# `Session`: one request and its reply

* `Request`, `Response`, `Body` : the fields of the Beast messages the session reads and writes;
  `payloadSize` is `payload_size()`, in bytes, and `payloadInt` its cast to `int`, which wraps from `2^31` on;
  `Response.needEof` is `need_eof()`, which the `SendLambda` turns into the connection's `close` flag;
* `preparePayload` : `prepare_payload()`, which `replyText` calls before `reply`: a 1xx, 204 or 304 status with a
  body throws, and then `replyText` sends nothing;
* `Session` : `root_`, `req_`, `href_`, `args_`, the reply state, and `sent`, the messages handed to the
  `SendLambda` (the wire);
* `reply` : the only operation that sends; every `reply*` method goes through it (`replyText`,
  `replyLocalFileAt`, `replyBadRequest`, `replyNotFound`, `replyUnauthorized`, `replyServerError`);
* `SentOnce` : the reply state agrees with what was sent, at most one message; `sentOnce_reply`;
  `reply_of_replied` : a second reply changes nothing;
* `localFilePath` : the path `replyLocalFile()` opens; `localFilePath_under_root` : for a target that
  passed `handleRequest`'s checks it is the root, less one trailing `/`, then a `/`-path without `..`;
* `parseArguments` : the character loop over the query string, which drops every `=` and `#`; `queryArgs` is
  the map the query describes, split on `&` and at the first `=` (`parseArguments_drops_separators`). When no
  piece holds `#` or a second `=`, the two agree (`parseArguments_eq_queryArgs`).
-/

namespace AsulaHttp

/-- `bh::request<bh::string_body>`: method, target, version, keep-alive and body. -/
structure Request where
  method : Verb
  target : String
  version : Nat
  keepAlive : Bool
  body : String

/-- The body of a response: `string_body`, `file_body` (the opened file and its size) or `empty_body`. -/
inductive Body where
  | text (s : String)
  | file (path : String) (size : Nat)
  | empty

/-- A response as handed to the `SendLambda`; `contentLength` is `none` when the field is absent. -/
structure Response where
  status : Nat
  version : Nat
  server : Option String
  contentType : String
  contentDisposition : Option String
  contentLength : Option Nat
  chunked : Bool
  keepAlive : Bool
  body : Body

/-- The statuses whose responses carry no body: 1xx, `204 No Content` and `304 Not Modified`. -/
def bodiless (status : Nat) : Bool := status / 100 == 1 || status == 204 || status == 304

/-- `res.prepare_payload()` of a `string_body` response of `size` bytes: a bodiless status leaves the length
unset and throws `std::invalid_argument` for a body that is not empty; any other status gets the length. -/
def preparePayload (status size : Nat) : Except String (Option Nat) :=
  if bodiless status then (if size = 0 then .ok none else .error "invalid response body") else .ok (some size)

/-- `rep.payload_size().get()`: a text body's size in UTF-8 bytes. -/
def payloadSize : Body → Nat
  | .text s => s.utf8ByteSize
  | .file _ size => size
  | .empty => 0

/-- `(int)rep.payload_size().get()`: the size modulo `2^32`, read as a signed 32-bit `int`. -/
def payloadInt (b : Body) : Int := (BitVec.ofNat 32 (payloadSize b)).toInt

/-- `ResponseContextType`. -/
inductive ResponseContextType where
  | default | json | xml | text

/-- The `contextTypes` table of `replyText`. -/
def contextType : ResponseContextType → String
  | .default => "text/plain"
  | .json => "application/json"
  | .xml => "application/xml"
  | .text => "text/plain"

/-- `HTTP_SERVER_VERSION`, up to its embedded `\0`. -/
def httpServerVersion : String := "Asula/1.0 HTTP Server, based on boost beast"

/-- The table of `minetype`. -/
def minetypes : List (String × String) :=
  [("", "text/plain"), (".htm", "text/html"), (".html", "text/html"), (".php", "text/html"),
    (".css", "text/css"), (".txt", "text/plain"), (".js", "application/javascript"),
    (".json", "application/json"), (".xml", "application/xml"), (".swf", "application/x-shockwave-flash"),
    (".flv", "video/x-flv"), (".png", "image/png"), (".jpe", "image/jpeg"), (".jpeg", "image/jpeg"),
    (".jpg", "image/jpeg"), (".gif", "image/gif"), (".bmp", "image/bmp"), (".ico", "image/vnd.microsoft.icon"),
    (".tiff", "image/tiff"), (".tif", "image/tiff"), (".svg", "image/svg+xml"), (".svgz", "image/svg+xml")]

/-- `path.substr(path.rfind("."))`, or `""` without a `.`. -/
def extension (path : String) : String :=
  match path.data.reverse.span (· ≠ '.') with
  | (_, []) => ""
  | (after, _ :: _) => ⟨'.' :: after.reverse⟩

/-- `minetype`: the table entry of the extension, `""` when there is none. -/
def minetype (path : String) : String := (minetypes.lookup (extension path)).getD ""

/-- The result of `body.open(path, file_mode::scan, ec)`. -/
inductive FileOpen where
  | ok (size : Nat)
  | noSuchFile
  | error (message : String)

/-- The files the server can open. -/
def FileSystem := String → FileOpen

/-- `http::Session`. `sent` lists the messages the `SendLambda` was called with. -/
structure Session where
  root : String
  req : Request
  href : String
  args : List (String × String)
  repStatusCode : Nat
  repContentLen : Int
  replied : Bool
  sent : List Response

namespace Session

/-- `Session::Session`: `href_ = decodeUri(target)`, status `200`, nothing sent. -/
def create (root : String) (req : Request) : Session :=
  ⟨root, req, decodeUri req.target, [], 200, 0, false, []⟩

/-- `Session::reply`: a no-op once replied, otherwise records the status and length and sends. -/
def reply (s : Session) (rep : Response) : Session :=
  if s.replied then s
  else { s with replied := true, repStatusCode := rep.status, repContentLen := payloadInt rep.body, sent := s.sent ++ [rep] }

/-- `Session::replyText<type>(text, status)`: the response with the length `prepare_payload()` sets, sent by
`reply`. When `prepare_payload()` throws, nothing is sent and no field changes. -/
def replyText (s : Session) (type : ResponseContextType) (text : String) (status : Nat) : Session :=
  match preparePayload status text.utf8ByteSize with
  | .error _ => s
  | .ok len =>
    s.reply ⟨status, s.req.version, none, contextType type ++ "; charset=utf-8", none, len, false, s.req.keepAlive,
      .text text⟩

/-- `Session::replyBadRequest`. -/
def replyBadRequest (s : Session) (why : String) : Session := s.replyText .default why 400

/-- `Session::replyNotFound`, the resource defaulting to the request target. -/
def replyNotFound (s : Session) (what : String) : Session :=
  s.replyText .default ("The resource '" ++ (if what = "" then s.req.target else what) ++ "' was not found.") 404

/-- `Session::replyUnauthorized`. -/
def replyUnauthorized (s : Session) : Session := s.replyText .default "Unauthorized request." 401

/-- `Session::replyServerError`: the message is embedded verbatim. -/
def replyServerError (s : Session) (what : String) : Session :=
  s.replyText .default ("An error occurred: '" ++ what ++ "'.") 500

/-- The `attachment` header of a file whose type is unknown: the given name, or the path after its last `/`. -/
def disposition (path name : String) : Option String :=
  if minetype path = "" ∧ '/' ∈ path.data then
    some ("attachment;filename=" ++ if name = "" then ⟨(path.data.reverse.takeWhile (· ≠ '/')).reverse⟩ else name)
  else none

/-- `Session::replyLocalFile(path, name)`. -/
def replyLocalFileAt (fs : FileSystem) (s : Session) (path name : String) : Session :=
  match fs path with
  | .noSuchFile => s.replyNotFound ""
  | .error message => s.replyServerError message
  | .ok size =>
    if s.req.method = .head then
      s.reply ⟨200, s.req.version, some httpServerVersion, minetype path, none, some size, false, s.req.keepAlive,
        .empty⟩
    else
      s.reply ⟨200, s.req.version, some httpServerVersion, minetype path, disposition path name, some size, false,
        s.req.keepAlive, .file path size⟩

/-- The path `replyLocalFile()` opens: the root and `href`, and `index.html` after a trailing `/`. -/
def localFilePath (s : Session) : String :=
  if s.href.data.getLast? = some '/' then catPath s.root s.href ++ "index.html" else catPath s.root s.href

/-- `Session::replyLocalFile()`. -/
def replyLocalFile (fs : FileSystem) (s : Session) : Session := s.replyLocalFileAt fs s.localFilePath ""

/-- `Session::addArgument`: the key as given, not lower-cased. -/
def addArgument (s : Session) (key val : String) : Session := { s with args := mapSet s.args key val }

/-- `Session::arg`: the value stored under the lower-cased key, or `value` when there is none. -/
def arg (s : Session) (key value : String) : String := (s.args.lookup (toLower key)).getD value

/-- The loop of `parseArguments` over the query: `&` ends a pair, `=` switches to the value, `#` is
skipped, a pair with an empty key and value is dropped, keys are lower-cased. -/
def parseLoop : List Char → List Char → List Char → Bool → List (String × String) → List (String × String)
  | [], key, value, _, args =>
    if key ≠ [] ∨ value ≠ [] then mapSet args (toLower ⟨key⟩) ⟨value⟩ else args
  | '&' :: cs, key, value, _, args =>
    parseLoop cs [] [] true (if key ≠ [] ∨ value ≠ [] then mapSet args (toLower ⟨key⟩) ⟨value⟩ else args)
  | '=' :: cs, key, value, _, args => parseLoop cs key value false args
  | '#' :: cs, key, value, inKeyTurn, args => parseLoop cs key value inKeyTurn args
  | c :: cs, key, value, inKeyTurn, args =>
    if inKeyTurn then parseLoop cs (key ++ [c]) value inKeyTurn args
    else parseLoop cs key (value ++ [c]) inKeyTurn args

/-- `Session::parseArguments`: the arguments of the text after the first `?` of `href`. -/
def parseArguments (s : Session) : Session :=
  match s.href.data.dropWhile (· ≠ '?') with
  | [] => { s with args := [] }
  | _ :: query => { s with args := parseLoop query [] [] true [] }

/-! ## The argument map of a query, piece by piece -/

/-- A query piece's key: the text before its first `=`. -/
def pieceKey (p : List Char) : List Char := p.takeWhile (· ≠ '=')

/-- A query piece's value: the text after its first `=`, verbatim. -/
def pieceValue (p : List Char) : List Char := (p.dropWhile (· ≠ '=')).drop 1

/-- The argument map an href describes: the text after its first `?` split on `&`, a piece with an empty key and
value skipped, each other piece split at its first `=`, keys lower-cased, later pairs overwriting earlier ones. -/
def queryArgs (href : String) : List (String × String) :=
  match href.data.dropWhile (· ≠ '?') with
  | [] => []
  | _ :: query =>
    (query.splitOn '&').foldl (fun args p =>
      if pieceKey p ≠ [] ∨ pieceValue p ≠ [] then mapSet args (toLower ⟨pieceKey p⟩) ⟨pieceValue p⟩ else args) []

end Session

open Session in
/-- On `/p?a=b=c` the query describes `a ↦ b=c`, but `parseArguments` drops the second `=` and stores `a ↦ bc`. -/
theorem parseArguments_drops_separators :
    let s : Session := Session.create "." ⟨.get, "/p?a=b=c", 11, true, ""⟩
    s.href = "/p?a=b=c" ∧ s.parseArguments.args = [("a", "bc")] ∧ queryArgs s.href = [("a", "b=c")] := by
  decide

namespace Session

/-! ## Where `parseArguments` reads the query right -/

/-- A run of ordinary characters goes to the key or to the value, whichever turn it is. -/
theorem parseLoop_chunk {w : List Char} (hw : ∀ c ∈ w, c ≠ '&' ∧ c ≠ '=' ∧ c ≠ '#')
    (rest key value : List Char) (inKeyTurn : Bool) (args : List (String × String)) :
    parseLoop (w ++ rest) key value inKeyTurn args =
      if inKeyTurn then parseLoop rest (key ++ w) value inKeyTurn args
      else parseLoop rest key (value ++ w) inKeyTurn args := by
  induction w generalizing key value with
  | nil => cases inKeyTurn <;> simp
  | cons c w ih =>
    obtain ⟨⟨h1, h2, h3⟩, hw⟩ := List.forall_mem_cons.mp hw
    cases inKeyTurn <;> simp [parseLoop, h1, h2, h3, ih hw]

/-- `dropWhile (· ≠ c)` stops at a `c`. -/
theorem eq_of_dropWhile_ne {c e : Char} {v : List Char} :
    ∀ {l : List Char}, l.dropWhile (· ≠ c) = e :: v → e = c
  | [], h => by simp at h
  | x :: l, h => by
    by_cases hx : x = c
    · simp_all [List.dropWhile_cons]
    · rw [List.dropWhile_cons, if_pos (by simpa using hx)] at h; exact eq_of_dropWhile_ne h

/-- A query piece with no `&`, no `#` and at most one `=` leaves its key and value as `pieceKey` and
`pieceValue` say. -/
theorem parseLoop_piece {p : List Char} (hp : '&' ∉ p ∧ '#' ∉ p ∧ p.count '=' ≤ 1) (rest : List Char)
    (args : List (String × String)) :
    ∃ b, parseLoop (p ++ rest) [] [] true args = parseLoop rest (pieceKey p) (pieceValue p) b args := by
  have hsplit : pieceKey p ++ p.dropWhile (· ≠ '=') = p := List.takeWhile_append_dropWhile _ _
  have hk : ∀ c ∈ pieceKey p, c ≠ '&' ∧ c ≠ '=' ∧ c ≠ '#' := fun c hc => by
    have hm := (List.takeWhile_prefix _).subset hc
    exact ⟨fun e => hp.1 (e ▸ hm), by simpa using List.mem_takeWhile_imp hc, fun e => hp.2.1 (e ▸ hm)⟩
  cases hd : p.dropWhile (· ≠ '=') with
  | nil =>
    refine ⟨true, ?_⟩
    conv_lhs => rw [← hsplit, hd, List.append_nil, parseLoop_chunk hk]
    rw [pieceValue, hd]; rfl
  | cons e v =>
    obtain rfl := eq_of_dropWhile_ne hd
    have hcount := hp.2.2
    rw [← hsplit, hd, List.count_append, List.count_eq_zero.mpr (fun h => (hk _ h).2.1 rfl)] at hcount
    have hv0 : '=' ∉ v := List.count_eq_zero.mp (by simpa [List.count_cons] using hcount)
    have hv : ∀ c ∈ v, c ≠ '&' ∧ c ≠ '=' ∧ c ≠ '#' := fun c hc => by
      have hm : c ∈ p := hsplit ▸ List.mem_append_right _ (hd ▸ List.mem_cons_of_mem _ hc)
      exact ⟨fun e => hp.1 (e ▸ hm), fun e => hv0 (e ▸ hc), fun e => hp.2.1 (e ▸ hm)⟩
    refine ⟨false, ?_⟩
    conv_lhs => rw [← hsplit, hd, List.append_assoc, List.cons_append, parseLoop_chunk hk]
    rw [pieceValue, hd]
    simp [parseLoop, parseLoop_chunk hv]

/-- No piece of `splitOn c` holds `c`. -/
theorem not_mem_of_mem_splitOn {c : Char} : ∀ {xs p : List Char}, p ∈ xs.splitOn c → c ∉ p
  | [], p, hp => by simp_all [List.splitOn_nil]
  | x :: xs, p, hp => by
    have ih := @not_mem_of_mem_splitOn c xs
    rw [List.splitOn, List.splitOnP_cons] at hp
    split at hp
    · rcases List.mem_cons.mp hp with rfl | hp
      · simp
      · exact ih hp
    · rename_i hx
      obtain ⟨q, qs, hq⟩ := List.exists_cons_of_ne_nil (List.splitOnP_ne_nil (· == c) xs)
      rw [hq, List.modifyHead_cons, List.mem_cons] at hp
      rcases hp with rfl | hp
      · refine List.not_mem_cons_of_ne_of_not_mem (Ne.symm (by simpa using hx)) (ih ?_)
        rw [List.splitOn, hq]; simp
      · exact ih (by rw [List.splitOn, hq]; simp [hp])

/-- The pieces of a query, each with no `&`, no `#` and at most one `=`, are read one after another. -/
theorem parseLoop_intercalate : ∀ (ps : List (List Char)), ps ≠ [] →
    (∀ p ∈ ps, '&' ∉ p ∧ '#' ∉ p ∧ p.count '=' ≤ 1) → ∀ args : List (String × String),
    parseLoop (['&'].intercalate ps) [] [] true args =
      ps.foldl (fun args p => if pieceKey p ≠ [] ∨ pieceValue p ≠ [] then
        mapSet args (toLower ⟨pieceKey p⟩) ⟨pieceValue p⟩ else args) args
  | [p], _, hps, args => by
    obtain ⟨b, hb⟩ := parseLoop_piece (hps p (List.mem_singleton_self p)) [] args
    simpa [List.intercalate, parseLoop] using hb
  | p :: q :: ps, _, hps, args => by
    obtain ⟨b, hb⟩ := parseLoop_piece (hps p (List.mem_cons_self p _)) ('&' :: ['&'].intercalate (q :: ps)) args
    rw [List.foldl_cons, ← parseLoop_intercalate (q :: ps) (List.cons_ne_nil _ _)
      (fun r hr => hps r (List.mem_cons_of_mem _ hr))]
    simpa [List.intercalate, parseLoop] using hb

/-- When no piece of the query holds `#` or a second `=`, `parseArguments` stores the pairs the query
describes. -/
theorem parseArguments_eq_queryArgs (s : Session)
    (h : ∀ p ∈ ((s.href.data.dropWhile (· ≠ '?')).drop 1).splitOn '&', '#' ∉ p ∧ p.count '=' ≤ 1) :
    s.parseArguments.args = queryArgs s.href := by
  cases hq : s.href.data.dropWhile (· ≠ '?') with
  | nil => simp only [parseArguments, queryArgs, hq]
  | cons c query =>
    rw [hq, List.drop_one, List.tail_cons] at h
    simp only [parseArguments, queryArgs, hq]
    conv_lhs => rw [← List.intercalate_splitOn query '&']
    exact parseLoop_intercalate _ (List.splitOnP_ne_nil _ _)
      (fun p hp => ⟨not_mem_of_mem_splitOn hp, h p hp⟩) []

/-- `GET /user?ID=7&page=2&x`: the pieces hold no `#` and at most one `=`, and the arguments are the pairs the
query describes, the key-only piece with an empty value. -/
theorem parseArguments_eq_queryArgs_user :
    (∀ p ∈ (((create "./www/" ⟨.get, "/user?ID=7&page=2&x", 11, true, ""⟩).href.data.dropWhile (· ≠ '?')).drop 1
      ).splitOn '&', '#' ∉ p ∧ p.count '=' ≤ 1) ∧
      (create "./www/" ⟨.get, "/user?ID=7&page=2&x", 11, true, ""⟩).parseArguments.args =
        queryArgs (create "./www/" ⟨.get, "/user?ID=7&page=2&x", 11, true, ""⟩).href ∧
      queryArgs (create "./www/" ⟨.get, "/user?ID=7&page=2&x", 11, true, ""⟩).href =
        [("id", "7"), ("page", "2"), ("x", "")] :=
  ⟨by decide, parseArguments_eq_queryArgs _ (by decide), by decide⟩

/-! ## At most one message, and the reply state agrees with it -/

@[simp] theorem addArgument_replied (s : Session) (k v : String) : (s.addArgument k v).replied = s.replied := rfl

/-! ## Replying leaves the arguments alone -/

@[simp] theorem reply_args (s : Session) (rep : Response) : (s.reply rep).args = s.args := by
  unfold reply; split <;> rfl

@[simp] theorem replyText_args (s : Session) (type : ResponseContextType) (text : String) (status : Nat) :
    (s.replyText type text status).args = s.args := by
  unfold replyText; split <;> simp

@[simp] theorem replyLocalFileAt_args (fs : FileSystem) (s : Session) (path name : String) :
    (s.replyLocalFileAt fs path name).args = s.args := by
  unfold replyLocalFileAt replyNotFound replyServerError
  split <;> (try split) <;> simp

@[simp] theorem parseArguments_replied (s : Session) : s.parseArguments.replied = s.replied := by
  unfold parseArguments; split <;> rfl

@[simp] theorem parseArguments_root (s : Session) : s.parseArguments.root = s.root := by
  unfold parseArguments; split <;> rfl

@[simp] theorem parseArguments_href (s : Session) : s.parseArguments.href = s.href := by
  unfold parseArguments; split <;> rfl

@[simp] theorem parseArguments_req (s : Session) : s.parseArguments.req = s.req := by
  unfold parseArguments; split <;> rfl

/-! ## The static fallback stays under the root -/

theorem hasDotDot_append {a b : List Char} (ha : hasDotDot a = false) (hb : hasDotDot b = false)
    (hab : a.getLast? ≠ some '.' ∨ b.head? ≠ some '.') : hasDotDot (a ++ b) = false := by
  induction a with
  | nil => exact hb
  | cons c cs ih =>
    rw [hasDotDot_cons, Bool.or_eq_false_iff] at ha
    rw [List.cons_append, hasDotDot_cons, ih ha.2 (by cases cs <;> simp_all [List.getLast?_cons])]
    cases cs with
    | nil => cases hab <;> simp_all
    | cons d ds => simpa using ha.1

/-- For a target that starts with `/` and has no `..`, `replyLocalFile()` opens the root, less at most one
trailing `/`, followed by a path that starts with `/` and has no `..`. -/
theorem localFilePath_under_root (root : String) (req : Request) {cs : List Char}
    (ht : req.target.data = '/' :: cs) (hd : hasDotDot req.target.data = false) :
    ∃ root' r, (root' = root.data ∨ root' ++ ['/'] = root.data) ∧
      (create root req).localFilePath.data = root' ++ r ∧ r.head? = some '/' ∧ ¬ ['.', '.'] <:+: r := by
  obtain ⟨ds, hds⟩ := head_decodeUri ht
  have hnd := hasDotDot_decodeUri hd
  obtain ⟨root', hroot, hcat⟩ := catPath_eq root (decodeUri req.target)
  unfold localFilePath create
  dsimp only
  split <;> rename_i hl
  · refine ⟨root', (decodeUri req.target).data ++ "index.html".data, hroot, by simp [hcat], by simp [hds], ?_⟩
    rw [← hasDotDot_iff, hasDotDot_append hnd (by decide) (Or.inl (by rw [hl]; decide))]
    decide
  · exact ⟨root', (decodeUri req.target).data, hroot, hcat, by simp [hds], by rw [← hasDotDot_iff, hnd]; decide⟩

end Session

end AsulaHttp
