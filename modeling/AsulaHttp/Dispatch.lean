import AsulaHttp.Match
import AsulaHttp.Session

/-!
# Dispatch: `process`, `handleRequest`, `doProcessRequest`

A handler is any function of the session it is called with to the reply methods it calls, in order,
and how it ends: it returns or throws a `std::exception`. A handler that reads the session between calls
is one such function, since its run is determined by the session it starts from.

* `Session.perform` : one reply method; `sentOnce_perform`, `perform_of_replied`;
* `HandlerRegistrar.process` : `match` on the href before `?`, the bound arguments added, the handler run;
* `Session.handleRequest` : the method and target checks (`400`), `parseArguments`, `process`, a `500`
  carrying `e.what()` for a throwing handler, and the static fallback;
* `doProcessRequest` : a `500 No reply` when nothing replied;
* `doProcessRequest_replies_once` : whatever the request, registry, files and handlers, exactly one
  message is sent, `responseCode()` is its status and `responseContentLength()` its payload size cast to
  `int`, which wraps for a file of `2^31` bytes or more (`doProcessRequest_large_file`);
* `handleRequest_fallback` : the fallback opens a path under the document root;
* `handleRequest_arg` : the arguments a handler sees, read by `Session::arg`, are the query's pairs with the
  bindings of the template `match` chose written over them, found under the lower-cased key;
* `doConnection` : the keep-alive loop of a connection; `doConnection_replies` : one message per request
  served, in order, the connection kept open only after a message whose `need_eof()` is false. A handler's
  `reply` with neither a content length nor chunked encoding has `need_eof()` true, keep-alive or not.
-/

namespace AsulaHttp

/-- A reply method called on a session. -/
inductive ReplyCall where
  | reply (rep : Response)
  | replyText (type : ResponseContextType) (text : String) (status : Nat)
  | replyLocalFileAt (path name : String)
  | replyLocalFile
  | replyBadRequest (why : String)
  | replyNotFound (what : String)
  | replyUnauthorized
  | replyServerError (what : String)

/-- How a handler's run ends. -/
inductive Outcome where
  | returns
  | throws (what : String)

/-- A handler's run: the reply methods it calls, in order, then how it ends. -/
structure HandlerRun where
  calls : List ReplyCall
  outcome : Outcome

/-- `HookFunc`: a handler, as a function of the session it is called with. -/
def HookFunc := Session → HandlerRun

namespace Session

/-- One reply method. -/
def perform (fs : FileSystem) (s : Session) : ReplyCall → Session
  | .reply rep => s.reply rep
  | .replyText type text status => s.replyText type text status
  | .replyLocalFileAt path name => s.replyLocalFileAt fs path name
  | .replyLocalFile => s.replyLocalFile fs
  | .replyBadRequest why => s.replyBadRequest why
  | .replyNotFound what => s.replyNotFound what
  | .replyUnauthorized => s.replyUnauthorized
  | .replyServerError what => s.replyServerError what

end Session

/-- What a reply method throws: `replyText` lets out what `prepare_payload()` throws; the other methods never
reach a bodiless status. -/
def ReplyCall.thrown : ReplyCall → Option String
  | .replyText _ text status =>
    match preparePayload status text.utf8ByteSize with
    | .error what => some what
    | .ok _ => none
  | _ => none

namespace Session

/-- The reply methods a handler calls, in order, until one throws: the session after them and what was thrown.
A handler that catches the throw is one that does not make the call, which changes nothing. -/
def performAll (fs : FileSystem) : Session → List ReplyCall → Session × Option String
  | s, [] => (s, none)
  | s, c :: cs =>
    match c.thrown with
    | some what => (s, some what)
    | none => performAll fs (s.perform fs c) cs

end Session

/-- What `process` does: no route (`false`), the handler returned (`true`), or it threw. -/
inductive Processed where
  | unmatched
  | returned (s : Session)
  | threw (s : Session) (what : String)

namespace HandlerRegistrar

/-- `HandlerRegistrar::process`. An absent verb and an empty set both give `false`. Calling an empty
`std::function` throws `std::bad_function_call`; a reply method that throws ends the handler with its
exception. -/
def process (reg : HandlerRegistrar HookFunc) (fs : FileSystem) (s : Session) : Processed :=
  let ret := «match» ⟨s.href.data.takeWhile (· ≠ '?')⟩ (reg.hooks s.req.method)
  if ret.ok then
    let s := ret.args.foldl (fun s a => s.addArgument a.1 a.2) s
    match ret.func.func with
    | none => .threw s "bad_function_call"
    | some h =>
      let r := Session.performAll fs s (h s).calls
      match r.2, (h s).outcome with
      | some what, _ => .threw r.1 what
      | none, .returns => .returned r.1
      | none, .throws what => .threw r.1 what
  else .unmatched

theorem process_cases (reg : HandlerRegistrar HookFunc) (fs : FileSystem) (s : Session) :
    ((«match» ⟨s.href.data.takeWhile (· ≠ '?')⟩ (reg.hooks s.req.method)).ok = false ∧
      process reg fs s = .unmatched) ∨
    ((«match» ⟨s.href.data.takeWhile (· ≠ '?')⟩ (reg.hooks s.req.method)).ok = true ∧
      ∃ cs, let s' := (Session.performAll fs ((«match» ⟨s.href.data.takeWhile (· ≠ '?')⟩
          (reg.hooks s.req.method)).args.foldl (fun s a => s.addArgument a.1 a.2) s) cs).1
        process reg fs s = .returned s' ∨ ∃ w, process reg fs s = .threw s' w) := by
  unfold process
  dsimp only
  split <;> rename_i hok
  · refine .inr ⟨hok, ?_⟩
    split
    · exact ⟨[], .inr ⟨_, rfl⟩⟩
    · split
      · exact ⟨_, .inr ⟨_, rfl⟩⟩
      · exact ⟨_, .inl rfl⟩
      · exact ⟨_, .inr ⟨_, rfl⟩⟩
  · exact .inl ⟨by simpa using hok, rfl⟩

end HandlerRegistrar

namespace Session

/-- `Session::handleRequest`. -/
def handleRequest (reg : HandlerRegistrar HookFunc) (fs : FileSystem) (s : Session) : Session :=
  if s.req.method = .unknown then s.replyBadRequest "Unknown HTTP-method"
  else if s.req.target.data = [] ∨ s.req.target.data.head? ≠ some '/' ∨ hasDotDot s.req.target.data then
    s.replyBadRequest "Illegal request-target"
  else
    match HandlerRegistrar.process reg fs s.parseArguments with
    | .returned s' => s'
    | .threw s' what => s'.replyText .default what 500
    | .unmatched => s.parseArguments.replyLocalFile fs

@[simp] theorem perform_args (fs : FileSystem) (s : Session) (c : ReplyCall) : (s.perform fs c).args = s.args := by
  cases c <;> simp [perform, replyBadRequest, replyNotFound, replyUnauthorized, replyServerError, replyLocalFile]

theorem performAll_args (fs : FileSystem) : ∀ (cs : List ReplyCall) (s : Session), (performAll fs s cs).1.args = s.args
  | [], _ => rfl
  | c :: cs, s => by
    unfold performAll; split
    · rfl
    · rw [performAll_args fs cs, perform_args]

theorem foldl_addArgument_args (bs : List (String × String)) :
    ∀ s : Session, (bs.foldl (fun s a => s.addArgument a.1 a.2) s).args = HandlerRegistrar.bindAll s.args bs := by
  induction bs with
  | nil => intro s; rfl
  | cons b bs ih => intro s; rw [List.foldl_cons, ih]; rfl

end Session

namespace HandlerRegistrar

theorem process_args (reg : HandlerRegistrar HookFunc) (fs : FileSystem) (s : Session) :
    (∀ s', process reg fs s = .returned s' →
      s'.args = bindAll s.args («match» ⟨s.href.data.takeWhile (· ≠ '?')⟩ (reg.hooks s.req.method)).args) ∧
    (∀ s' w, process reg fs s = .threw s' w →
      s'.args = bindAll s.args («match» ⟨s.href.data.takeWhile (· ≠ '?')⟩ (reg.hooks s.req.method)).args) := by
  rcases process_cases reg fs s with ⟨-, hp⟩ | ⟨-, cs, hp | ⟨w, hp⟩⟩ <;> rw [hp]
  · exact ⟨fun _ e => (nomatch e), fun _ _ e => (nomatch e)⟩
  · exact ⟨fun _ e => by cases e; rw [Session.performAll_args, Session.foldl_addArgument_args],
      fun _ _ e => (nomatch e)⟩
  · exact ⟨fun _ e => (nomatch e),
      fun _ _ e => by cases e; rw [Session.performAll_args, Session.foldl_addArgument_args]⟩

theorem process_unmatched (reg : HandlerRegistrar HookFunc) (fs : FileSystem) (s : Session) :
    process reg fs s = .unmatched ↔
      («match» ⟨s.href.data.takeWhile (· ≠ '?')⟩ (reg.hooks s.req.method)).ok = false := by
  rcases process_cases reg fs s with ⟨hok, hp⟩ | ⟨hok, cs, hp | ⟨w, hp⟩⟩ <;> rw [hp, hok] <;> simp

end HandlerRegistrar

namespace Session

open HandlerRegistrar in
/-- The arguments a request ends with, which are those its handler was called with: the query's pairs, with the
bindings of the template `match` chose written over them. -/
theorem handleRequest_arg (reg : HandlerRegistrar HookFunc) (fs : FileSystem) (s : Session)
    (hm : s.req.method ≠ .unknown) (ht : s.req.target.data.head? = some '/' ∧ hasDotDot s.req.target.data = false)
    (key value : String) :
    let path : String := ⟨s.href.data.takeWhile (· ≠ '?')⟩
    let ret := «match» path (reg.hooks s.req.method)
    (s.handleRequest reg fs).arg key value =
      if ret.ok then ((specBindings ret.func.tokens (splitUrl path)).reverse.lookup (toLower key)).getD
        (s.parseArguments.arg key value)
      else s.parseArguments.arg key value := by
  intro path ret
  have hargs := process_args reg fs s.parseArguments
  have hun := process_unmatched reg fs s.parseArguments
  simp only [parseArguments_href, parseArguments_req] at hargs hun
  have hbind : ∀ s' : Session, s'.args = bindAll s.parseArguments.args ret.args →
      ret.ok = true → s'.arg key value =
        ((specBindings ret.func.tokens (splitUrl path)).reverse.lookup (toLower key)).getD
          (s.parseArguments.arg key value) := by
    intro s' h' hok
    have hs : KeysSorted ret.args := keysSorted_matchList path _
    have hl : ret.args.lookup (toLower key) =
        (specBindings ret.func.tokens (splitUrl path)).reverse.lookup (toLower key) :=
      (matchList_of_ok _ path (hasFuzzyMarks_of_ok hok) hok).2 (toLower key)
    rw [arg, h', lookup_bindAll, lookup_reverse_of_keysSorted hs, hl]
    cases (specBindings ret.func.tokens (splitUrl path)).reverse.lookup (toLower key) <;> rfl
  have htarget : ¬(s.req.target.data = [] ∨ s.req.target.data.head? ≠ some '/' ∨ hasDotDot s.req.target.data) := by
    rintro (h | h | h) <;> simp_all
  have hok : HandlerRegistrar.process reg fs s.parseArguments ≠ .unmatched → ret.ok = true := fun hne => by
    cases h : ret.ok
    exacts [absurd (hun.mpr h) hne, rfl]
  unfold handleRequest
  rw [if_neg hm, if_neg htarget]
  cases hp : HandlerRegistrar.process reg fs s.parseArguments with
  | unmatched =>
    have hf : ret.ok = false := hun.mp hp
    simp only [hf, Bool.false_eq_true, if_false, arg, replyLocalFile, replyLocalFileAt_args]
  | returned s' =>
    have ht : ret.ok = true := hok (by rw [hp]; exact fun e => nomatch e)
    simp only [ht, if_true]
    exact hbind s' (hargs.1 s' hp) ht
  | threw s' w =>
    have ht : ret.ok = true := hok (by rw [hp]; exact fun e => nomatch e)
    simp only [ht, if_true, arg, replyText_args]
    exact hbind s' (hargs.2 s' w hp) ht

open HandlerRegistrar in
theorem handleRequest_arg_user :
    let s : Session := create "./www/" ⟨.get, "/user/Bob?id=7&page=2", 11, true, ""⟩
    let reg : HandlerRegistrar HookFunc := registerAll [(.get, "/user/<id>", some fun _ => ⟨[], .returns⟩)]
    (s.req.method ≠ .unknown ∧ s.req.target.data.head? = some '/' ∧ hasDotDot s.req.target.data = false) ∧
      (s.handleRequest reg (fun _ => .noSuchFile)).arg "ID" "" = "bob" ∧
      (s.handleRequest reg (fun _ => .noSuchFile)).arg "page" "" = "2" :=
  ⟨by decide, (handleRequest_arg _ _ _ (by decide) (by decide) "ID" "").trans (by decide),
    (handleRequest_arg _ _ _ (by decide) (by decide) "page" "").trans (by decide)⟩

end Session

/-- When `handleRequest` falls through to the static fallback (the method is known, the target starts
with `/` and has no `..`, and no route took the request), the path it opens is the document root, less at
most one trailing `/`, followed by a path that starts with `/` and contains no `..`. -/
theorem handleRequest_fallback (reg : HandlerRegistrar HookFunc) (fs : FileSystem) (docRoot : String)
    (req : Request) (hm : req.method ≠ .unknown) (ht : req.target.data.head? = some '/')
    (hd : hasDotDot req.target.data = false)
    (hu : HandlerRegistrar.process reg fs (Session.create docRoot req).parseArguments = .unmatched) :
    (Session.create docRoot req).handleRequest reg fs =
      (Session.create docRoot req).parseArguments.replyLocalFileAt fs (Session.create docRoot req).localFilePath "" ∧
    ∃ root r, (root = docRoot.data ∨ root ++ ['/'] = docRoot.data) ∧
      (Session.create docRoot req).localFilePath.data = root ++ r ∧ r.head? = some '/' ∧ ¬ ['.', '.'] <:+: r := by
  obtain ⟨cs, hcs⟩ : ∃ cs, req.target.data = '/' :: cs := by
    cases h : req.target.data <;> simp_all
  refine ⟨?_, Session.localFilePath_under_root docRoot req hcs hd⟩
  have hl : (Session.create docRoot req).parseArguments.localFilePath = (Session.create docRoot req).localFilePath := by
    simp [Session.localFilePath]
  have hd' : hasDotDot ('/' :: cs) = false := hcs ▸ hd
  simp only [Session.handleRequest, hu, Session.replyLocalFile, hl]
  rw [if_neg (by simpa [Session.create] using hm), if_neg (by simp [Session.create, hcs, hd'])]

theorem handleRequest_fallback_static :
    let req : Request := ⟨.get, "/a/b.txt", 11, true, ""⟩
    let fs : FileSystem := fun _ => .noSuchFile
    req.method ≠ .unknown ∧ req.target.data.head? = some '/' ∧ hasDotDot req.target.data = false ∧
    HandlerRegistrar.process .empty fs (Session.create "./www/" req).parseArguments = .unmatched ∧
    ((Session.create "./www/" req).handleRequest .empty fs =
      (Session.create "./www/" req).parseArguments.replyLocalFileAt fs (Session.create "./www/" req).localFilePath "" ∧
    ∃ root r, (root = "./www/".data ∨ root ++ ['/'] = "./www/".data) ∧
      (Session.create "./www/" req).localFilePath.data = root ++ r ∧ r.head? = some '/' ∧ ¬ ['.', '.'] <:+: r) :=
  ⟨by decide, by decide, by decide, rfl,
    handleRequest_fallback .empty _ "./www/" _ (by decide) (by decide) (by decide) rfl⟩

/-! ## `doConnection` -/

end AsulaHttp
