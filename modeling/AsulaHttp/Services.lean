import AsulaHttp.Registrar

/-!
# The service layer: `Server::hook` by method name, `Route`, `Prometheus::registerService`

* `stringToVerb` : `beast::http::string_to_verb`, the verb whose name is the text (`stringToVerb_name`,
  `name_stringToVerb`). `Server.hook` reads the upper-cased method through it: a method in any case registers under
  the verb it names (`hook_name`), and one that names no verb reaches `add` as `unknown` and is refused
  (`hook_unknown`);
* `Route.create` : the method upper-cased, the url given a leading `/`;
* `fixUrl` : `registerService`'s rewriting of a route's url, which it writes back into the route. It is idempotent
  exactly for a prefix that is empty or starts with `/` (`fixUrl_fixUrl_iff`), and so exactly then does a second
  registration of the routes the first wrote back keep every url (`registerRoutes_twice_urls_iff`).
-/

namespace AsulaHttp

set_option autoImplicit false

/-- `boost::starts_with(s, p)`. -/
def startsWith (s p : String) : Bool := p.data.isPrefixOf s.data

theorem startsWith_iff {s p : String} : startsWith s p = true ↔ p.data <+: s.data := List.isPrefixOf_iff_prefix

theorem startsWith_append (a b : String) : startsWith (a ++ b) a = true :=
  startsWith_iff.2 (by simp)

/-- `boost::to_upper_copy`, character by character. -/
def toUpper (s : String) : String := ⟨s.data.map Char.toUpper⟩

/-- `beast::http::to_string(verb)`. -/
def Verb.name : Verb → String
  | .unknown => "<unknown>" | .delete => "DELETE" | .get => "GET" | .head => "HEAD" | .post => "POST"
  | .put => "PUT" | .connect => "CONNECT" | .options => "OPTIONS" | .trace => "TRACE" | .copy => "COPY"
  | .lock => "LOCK" | .mkcol => "MKCOL" | .move => "MOVE" | .propfind => "PROPFIND" | .proppatch => "PROPPATCH"
  | .search => "SEARCH" | .unlock => "UNLOCK" | .bind => "BIND" | .rebind => "REBIND" | .unbind => "UNBIND"
  | .acl => "ACL" | .report => "REPORT" | .mkactivity => "MKACTIVITY" | .checkout => "CHECKOUT"
  | .merge => "MERGE" | .msearch => "M-SEARCH" | .notify => "NOTIFY" | .subscribe => "SUBSCRIBE"
  | .unsubscribe => "UNSUBSCRIBE" | .patch => "PATCH" | .purge => "PURGE" | .mkcalendar => "MKCALENDAR"
  | .link => "LINK" | .unlink => "UNLINK"

/-- The verbs `string_to_verb` recognises: all but `unknown`. -/
def knownVerbs : List Verb :=
  [.delete, .get, .head, .post, .put, .connect, .options, .trace, .copy, .lock, .mkcol, .move, .propfind,
    .proppatch, .search, .unlock, .bind, .rebind, .unbind, .acl, .report, .mkactivity, .checkout, .merge, .msearch,
    .notify, .subscribe, .unsubscribe, .patch, .purge, .mkcalendar, .link, .unlink]

/-- `beast::http::string_to_verb`: the verb whose name is exactly the text, `unknown` for any other text. -/
def stringToVerb (s : String) : Verb := (knownVerbs.find? (·.name = s)).getD .unknown

theorem stringToVerb_name {v : Verb} (hv : v ≠ .unknown) : stringToVerb v.name = v := by
  cases v <;> first | exact absurd rfl hv | rfl

theorem name_stringToVerb {s : String} (h : stringToVerb s ≠ .unknown) : (stringToVerb s).name = s := by
  unfold stringToVerb at h ⊢
  cases hf : knownVerbs.find? (·.name = s) with
  | none => simp [hf] at h
  | some v => simpa using List.find?_some hf

/-! ## `Server::hook` and `Route` -/

/-- `Route`: the method, the url and the handler, `none` for `nullptr`. -/
structure Route (φ : Type) where
  method : String
  url : String
  handler : Option φ

namespace Route

variable {φ : Type}

/-- `Route(method, url, handler)`: the method upper-cased, a `/` put in front of a url without one. -/
def create (method url : String) (handler : Option φ) : Route φ :=
  ⟨toUpper method, if startsWith url "/" then url else "/" ++ url, handler⟩

/-- `Route::isValid`. -/
def isValid (r : Route φ) : Bool := !r.method.isEmpty && !r.url.isEmpty && r.handler.isSome

end Route

namespace Server

variable {φ : Type}

/-- `Server::hook(method, target, func)`: the method upper-cased and read by `string_to_verb`, then the verb
overload, whose asserts do nothing in a release build, hands it to `HandlerRegistrar::add`. -/
def hook (reg : HandlerRegistrar φ) (method target : String) (func : Option φ) : HandlerRegistrar φ × Bool :=
  reg.add (stringToVerb (toUpper method)) target func

/-- `Server::hook(const Route&)`. -/
def hookRoute (reg : HandlerRegistrar φ) (r : Route φ) : HandlerRegistrar φ × Bool := hook reg r.method r.url r.handler

/-- A method name that upper-cases to no verb's name registers nothing. -/
theorem hook_unknown (reg : HandlerRegistrar φ) (method target : String) (func : Option φ)
    (h : ∀ v : Verb, v ≠ .unknown → toUpper method ≠ v.name) : hook reg method target func = (reg, false) := by
  have hu : stringToVerb (toUpper method) = .unknown :=
    Classical.byContradiction fun hne => h _ hne (name_stringToVerb hne).symm
  simp [hook, HandlerRegistrar.add, hu]

/-- A method name in any case registers under the verb it names. -/
theorem hook_name (reg : HandlerRegistrar φ) (method target : String) (func : Option φ) {v : Verb}
    (hv : v ≠ .unknown) (h : toUpper method = v.name) : hook reg method target func = reg.add v target func := by
  rw [hook, h, stringToVerb_name hv]

end Server

/-! ## `Prometheus::registerService` -/

/-- The url `registerService` hooks a route under, and writes back into the route: a `/` in front when it has none,
then the prefix in front unless it already starts with `/atom/`, `/coredb/` or the prefix. -/
def fixUrl (pre url : String) : String :=
  let url := if startsWith url "/" then url else "/" ++ url
  if !startsWith url "/atom/" && !startsWith url "/coredb/" && !startsWith url pre then pre ++ url else url

/-- The first step of `fixUrl`. -/
def slashed (url : String) : String := if startsWith url "/" then url else "/" ++ url

theorem fixUrl_eq (pre url : String) : fixUrl pre url =
    if !startsWith (slashed url) "/atom/" && !startsWith (slashed url) "/coredb/" && !startsWith (slashed url) pre
    then pre ++ slashed url else slashed url := rfl

theorem startsWith_slashed (url : String) : startsWith (slashed url) "/" = true := by
  unfold slashed; split <;> simp_all [startsWith_append]

theorem slashed_of_startsWith {url : String} (h : startsWith url "/" = true) : slashed url = url := by
  simp [slashed, h]

theorem fixUrl_of_startsWith {pre url : String} (h : startsWith url "/" = true)
    (hp : startsWith url "/atom/" = true ∨ startsWith url "/coredb/" = true ∨ startsWith url pre = true) :
    fixUrl pre url = url := by
  rw [fixUrl_eq, slashed_of_startsWith h]; rcases hp with hp | hp | hp <;> simp [hp]

theorem fixUrl_idem {pre : String} (hp : pre = "" ∨ startsWith pre "/" = true) (url : String) :
    fixUrl pre (fixUrl pre url) = fixUrl pre url := by
  have hs : startsWith (fixUrl pre url) "/" = true := by
    rw [fixUrl_eq]; split_ifs
    · rcases hp with rfl | hp
      · simpa using startsWith_slashed url
      · exact startsWith_iff.2 ((startsWith_iff.1 hp).trans (startsWith_iff.1 (startsWith_append pre _)))
    · exact startsWith_slashed url
  refine fixUrl_of_startsWith hs ?_
  rw [fixUrl_eq]; split_ifs with hc
  · exact .inr (.inr (startsWith_append pre _))
  · simp only [Bool.and_eq_true, Bool.not_eq_true', not_and, Bool.not_eq_false] at hc
    by_cases ha : startsWith (slashed url) "/atom/" = true
    · exact .inl ha
    by_cases hb : startsWith (slashed url) "/coredb/" = true
    · exact .inr (.inl hb)
    · simp only [Bool.not_eq_true] at ha hb; exact .inr (.inr (hc ⟨ha, hb⟩))

theorem fixUrl_fixUrl_x_ne {pre : String} (hp : ¬(pre = "" ∨ startsWith pre "/" = true)) :
    fixUrl pre (fixUrl pre "x") ≠ fixUrl pre "x" := by
  push_neg at hp
  have h1 : ¬(pre.data <+: ("/x" : String).data) := fun hx => hp.2 (startsWith_iff.2 (by
    rcases List.prefix_cons_iff.1 hx with hn | ⟨t, ht, -⟩
    · exact absurd (String.ext hn) hp.1
    · simp [ht]))
  have hfx : fixUrl pre "x" = pre ++ "/x" := by
    simp [fixUrl_eq, slashed, startsWith_iff, h1]
  have h2 : startsWith (pre ++ "/x") "/" = false := by
    cases hd : pre.data with
    | nil => exact absurd (String.ext hd) hp.1
    | cons c cs =>
      have : c ≠ '/' := fun hc => hp.2 (startsWith_iff.2 (by simp [hd, hc]))
      simp [startsWith, hd, List.isPrefixOf, Ne.symm this]
  have hsl : slashed (pre ++ "/x") = "/" ++ (pre ++ "/x") := by simp [slashed, h2]
  intro he
  have hlen := congrArg String.length he
  have h1 : ("/" : String).length = 1 := rfl
  rw [hfx, fixUrl_eq, hsl] at hlen
  split_ifs at hlen <;> simp only [String.length_append] at hlen <;> omega

/-- `fixUrl` is idempotent exactly for a prefix that is empty or starts with `/`. -/
theorem fixUrl_fixUrl_iff (pre : String) :
    (∀ url, fixUrl pre (fixUrl pre url) = fixUrl pre url) ↔ pre = "" ∨ startsWith pre "/" = true :=
  ⟨fun h => by_contra fun hp => fixUrl_fixUrl_x_ne hp (h "x"), fun hp url => fixUrl_idem hp url⟩

/-- The loop of `registerService` over `si->routes()` once `init` has succeeded: each route's url is rewritten by
`fixUrl` and written back into the route, then a route with a handler is hooked under its method and the new url.
The flag `hook` returns only reaches the log, and the handler is hooked inside a lambda that only logs. -/
def registerRoutes {φ : Type} (pre : String) :
    HandlerRegistrar φ → List (Route φ) → HandlerRegistrar φ × List (Route φ)
  | reg, [] => (reg, [])
  | reg, r :: rs =>
    let r := { r with url := fixUrl pre r.url }
    let reg := if r.handler.isNone then reg else (Server.hook reg r.method r.url r.handler).1
    let rest := registerRoutes pre reg rs
    (rest.1, r :: rest.2)

theorem registerRoutes_snd {φ : Type} (pre : String) :
    ∀ (reg : HandlerRegistrar φ) (rs : List (Route φ)),
      (registerRoutes pre reg rs).2 = rs.map fun r => { r with url := fixUrl pre r.url }
  | _, [] => rfl
  | reg, r :: rs => by simp [registerRoutes, registerRoutes_snd pre _ rs]

/-- `registerService` run a second time over the routes the first run wrote back leaves every url as the first run
wrote it, for every list of routes, exactly when the prefix is empty or starts with `/`; with any other prefix a
second registration prefixes the urls again. -/
theorem registerRoutes_twice_urls_iff {φ : Type} (pre : String) (reg : HandlerRegistrar φ) :
    (∀ rs : List (Route φ), (registerRoutes pre (registerRoutes pre reg rs).1 (registerRoutes pre reg rs).2).2.map
        Route.url = (registerRoutes pre reg rs).2.map Route.url) ↔ pre = "" ∨ startsWith pre "/" = true := by
  simp only [registerRoutes_snd, List.map_map, Function.comp_def]
  constructor
  · intro h
    by_contra hp
    exact fixUrl_fixUrl_x_ne hp (by simpa using h [⟨"GET", "x", none⟩])
  · exact fun hp rs => List.map_congr_left fun r _ => fixUrl_idem hp r.url

end AsulaHttp
