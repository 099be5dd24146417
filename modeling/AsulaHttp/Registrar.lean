import AsulaHttp.StdSet

/-!
# `HandlerRegistrar`: templates and `add`

* `HookFunctor` : a registered template, its url lower-cased; `tokens` is `splitUrl url`;
* `opEq`, `opLt` : `HookFunctor::operator==` (same url, or token-wise identical-or-both-fuzzy) and
  `operator<` (not `==`, and the token vectors in lexicographic order);
* `add` : `HandlerRegistrar::add`, an `emplace` into `hooks_[verb]`; `registerAll` runs a list of calls;
* `equivalent_of_not_opLt` : `!(a < b) && !(b < a)` makes two templates equivalent, so a refused `add`
  had an equivalent template (`add_false`);
* `sorted_registerAll`, `registerAll_tokens_ascending` : after any calls every `hooks_[verb]` lists its token
  vectors in strictly increasing order; the comparator's `==` escape never lets `emplace` break that order;
* `opLt_irrefl`, `not_opLt_iff_equivalent`, `Equivalent.trans` : `operator<` is irreflexive and its
  incomparability is the transitive `Equivalent`, but `operator<` itself is not transitive
  (`opLt_not_transitive`).

The comparator is not a strict weak ordering: `<` never holds between equivalent templates, but a
template may sort between two equivalent ones, and then `emplace` does not see the first of them
(`add_admits_equivalent`).
-/

namespace AsulaHttp

/-- `boost::beast::http::verb`. -/
inductive Verb where
  | unknown | delete | get | head | post | put | connect | options | trace
  | copy | lock | mkcol | move | propfind | proppatch | search | unlock | bind | rebind | unbind | acl
  | report | mkactivity | checkout | merge | msearch | notify | subscribe | unsubscribe | patch | purge
  | mkcalendar | link | unlink
  deriving DecidableEq, Repr

/-- `HandlerRegistrar::HookFunctor`: the url as stored (lower-cased) and the handler, `none` for `nullptr`. -/
structure HookFunctor (φ : Type) where
  url : String
  func : Option φ
  deriving DecidableEq

/-- The position-by-position loop of `operator==`, its size test included. -/
def tokensEquiv : List String → List String → Bool
  | [], [] => true
  | t :: ts, u :: us => (t == u || isFuzzy t && isFuzzy u) && tokensEquiv ts us
  | _, _ => false

theorem tokensEquiv_refl : ∀ ts : List String, tokensEquiv ts ts = true
  | [] => rfl
  | _ :: ts => by simp [tokensEquiv, tokensEquiv_refl ts]

theorem tokensEquiv_comm : ∀ ts us : List String, tokensEquiv ts us = tokensEquiv us ts
  | [], [] | [], _ :: _ | _ :: _, [] => rfl
  | t :: ts, u :: us => by
    have : (t == u) = (u == t) := by by_cases e : t = u <;> simp [e, Ne.symm]
    simp [tokensEquiv, tokensEquiv_comm ts us, this, Bool.and_comm]

theorem tokensEquiv_trans : ∀ ts us vs : List String,
    tokensEquiv ts us = true → tokensEquiv us vs = true → tokensEquiv ts vs = true
  | [], [], [], _, _ => rfl
  | t :: ts, u :: us, v :: vs, h₁, h₂ => by
    simp only [tokensEquiv, Bool.and_eq_true, Bool.or_eq_true, beq_iff_eq] at h₁ h₂ ⊢
    refine ⟨?_, tokensEquiv_trans ts us vs h₁.2 h₂.2⟩
    rcases h₁.1 with rfl | ⟨ht, hu⟩ <;> rcases h₂.1 with rfl | ⟨hu', hv⟩
    · exact .inl rfl
    · exact .inr ⟨hu', hv⟩
    · exact .inr ⟨ht, hu⟩
    · exact .inr ⟨ht, hv⟩
  | [], _ :: _, _, h, _ | _ :: _, [], _, h, _ | [], [], _ :: _, _, h | _ :: _, _ :: _, [], _, h => by
    simp [tokensEquiv] at h

namespace HookFunctor

variable {φ : Type}

/-- `tokens`, filled in by the constructor. -/
def tokens (f : HookFunctor φ) : List String := splitUrl f.url

/-- `HookFunctor::operator==`. The `this == &other` test is left out: the set never compares a node
with itself. -/
def opEq (a b : HookFunctor φ) : Bool := a.url == b.url || tokensEquiv a.tokens b.tokens

/-- `HookFunctor::operator<`. -/
def opLt (a b : HookFunctor φ) : Bool := !opEq a b && tokensLt a.tokens b.tokens

/-- Two templates are equivalent: same token count, each pair identical or both fuzzy. -/
def Equivalent (a b : HookFunctor φ) : Prop := tokensEquiv a.tokens b.tokens = true

instance (a b : HookFunctor φ) : Decidable (Equivalent a b) := inferInstanceAs (Decidable (_ = true))

theorem equivalent_of_opEq {a b : HookFunctor φ} (h : opEq a b = true) : Equivalent a b := by
  unfold opEq at h
  rcases Bool.or_eq_true_iff.mp h with h | h
  · simp only [tokens, Equivalent, beq_iff_eq.mp h, tokensEquiv_refl]
  · exact h

theorem tokensLt_of_opLt {a b : HookFunctor φ} (h : opLt a b = true) : tokensLt a.tokens b.tokens = true := by
  simp_all [opLt]

theorem opLt_irrefl (a : HookFunctor φ) : opLt a a = false := by simp [opLt, opEq]

theorem Equivalent.trans {a b c : HookFunctor φ} (hab : Equivalent a b) (hbc : Equivalent b c) : Equivalent a c :=
  tokensEquiv_trans _ _ _ hab hbc

/-- Neither below the other under `operator<` means equivalent. -/
theorem equivalent_of_not_opLt {a b : HookFunctor φ} (hab : opLt a b = false) (hba : opLt b a = false) :
    Equivalent a b := by
  cases hq : opEq a b
  · cases hq' : opEq b a
    · simp only [opLt, hq, hq', Bool.not_false, Bool.true_and] at hab hba
      simp [Equivalent, tokensLt_strictTotal.eq_of_not_lt hab hba, tokensEquiv_refl]
    · have := equivalent_of_opEq hq'
      simpa [Equivalent, tokensEquiv_comm] using this
  · exact equivalent_of_opEq hq

/-- The equivalence `operator<` induces, `!(a < b) && !(b < a)`, is `Equivalent`. -/
theorem not_opLt_iff_equivalent {a b : HookFunctor φ} : opLt a b = false ∧ opLt b a = false ↔ Equivalent a b := by
  refine ⟨fun h => equivalent_of_not_opLt h.1 h.2, fun h => ?_⟩
  have hba : Equivalent b a := by simpa [Equivalent, tokensEquiv_comm] using h
  simp [opLt, opEq, show tokensEquiv a.tokens b.tokens = true from h, show tokensEquiv b.tokens a.tokens = true from hba]

end HookFunctor

/-- `HandlerRegistrar::hooks_`: one `std::set` per verb, an absent verb read as the empty set. -/
structure HandlerRegistrar (φ : Type) where
  hooks : Verb → RbTree (HookFunctor φ)

namespace HandlerRegistrar

variable {φ : Type}

/-- A registrar with no routes. -/
def empty : HandlerRegistrar φ := ⟨fun _ => .nil⟩

/-- The template `add` builds for `target`: `HookFunctor{ boost::to_lower_copy(target), func }`, whose
constructor lower-cases the url once more. -/
def hookOf (target : String) (func : Option φ) : HookFunctor φ := ⟨toLower (toLower target), func⟩

/-- `HandlerRegistrar::add`: the registrar after the call and the returned flag. -/
def add (reg : HandlerRegistrar φ) (verb : Verb) (target : String) (func : Option φ) :
    HandlerRegistrar φ × Bool :=
  if verb = .unknown ∨ target.data = [] ∨ func.isNone then (reg, false)
  else
    let r := (reg.hooks verb).emplace HookFunctor.opLt (hookOf target func)
    (⟨Function.update reg.hooks verb r.1⟩, r.2)

/-- A sequence of `add` calls from the empty registrar. -/
def registerAll (calls : List (Verb × String × Option φ)) : HandlerRegistrar φ :=
  calls.foldl (fun reg c => (reg.add c.1 c.2.1 c.2.2).1) empty

/-- A refused `add` changes nothing and, for valid arguments, met an equivalent template. -/
theorem add_false {reg : HandlerRegistrar φ} {verb : Verb} {target : String} {func : Option φ}
    (h : (reg.add verb target func).2 = false) :
    (reg.add verb target func).1 = reg ∧
      (verb ≠ .unknown → target.data ≠ [] → func.isSome →
        ∃ g ∈ (reg.hooks verb).toList, (hookOf target func).Equivalent g) := by
  unfold add at h ⊢
  by_cases hv : verb = .unknown ∨ target.data = [] ∨ func.isNone = true
  · rw [if_pos hv] at h ⊢
    exact ⟨rfl, fun h₁ h₂ h₃ => by simp_all⟩
  · rw [if_neg hv] at h ⊢
    obtain ⟨he, j, hj, h₁, h₂⟩ := RbTree.mem_of_emplace_false HookFunctor.opLt h
    refine ⟨?_, fun _ _ _ => ⟨j, hj, HookFunctor.equivalent_of_not_opLt h₁ h₂⟩⟩
    simp only [he, Function.update_eq_self]

/-- The order the set keeps: token vectors strictly increasing. -/
def TokensAscend (l : List (HookFunctor φ)) : Prop :=
  l.Pairwise (fun a b => tokensLt a.tokens b.tokens = true)

/-- Every verb's set lists its token vectors in strictly increasing order. -/
def Sorted (reg : HandlerRegistrar φ) : Prop := ∀ v, TokensAscend (reg.hooks v).toList

theorem sorted_empty : Sorted (empty : HandlerRegistrar φ) := fun _ => List.Pairwise.nil

theorem sorted_add {reg : HandlerRegistrar φ} (h : Sorted reg) (verb : Verb) (target : String)
    (func : Option φ) : Sorted (reg.add verb target func).1 := by
  unfold add
  split
  · exact h
  · intro v
    by_cases hv : v = verb
    · subst hv
      simpa using RbTree.pairwise_emplace HookFunctor.opLt (fun a b => HookFunctor.tokensLt_of_opLt)
        (fun a b c => tokensLt_strictTotal.trans a.tokens b.tokens c.tokens) (h v)
    · simpa [Function.update_noteq hv] using h v

theorem sorted_registerAll (calls : List (Verb × String × Option φ)) : Sorted (registerAll calls) := by
  unfold registerAll
  induction calls using List.reverseRecOn with
  | nil => exact sorted_empty
  | append_singleton calls c ih => simpa using sorted_add ih c.1 c.2.1 c.2.2

/-- No two templates of a set share a token vector. -/
theorem tokens_nodup {l : List (HookFunctor φ)} (h : TokensAscend l) : (l.map HookFunctor.tokens).Nodup := by
  refine List.pairwise_map.mpr (h.imp ?_)
  intro a b hab e
  rw [e, tokensLt_strictTotal.irrefl] at hab
  cases hab

end HandlerRegistrar

open HandlerRegistrar in
/-- Three registrations under `GET`: `/user/[name]` is accepted next to the equivalent `/user/<id>`. -/
theorem add_admits_equivalent :
    let reg : HandlerRegistrar Unit := registerAll [(.get, "/user/<id>", some ()), (.get, "/user/<id>/posts", some ())]
    (reg.add .get "/user/[name]" (some ())).2 = true ∧
      (hookOf "/user/[name]" (some ())).Equivalent (hookOf "/user/<id>" (some ())) ∧
      (((reg.add .get "/user/[name]" (some ())).1.hooks .get).toList.map HookFunctor.url) =
        ["/user/<id>", "/user/<id>/posts", "/user/[name]"] := by
  decide

open HandlerRegistrar in
/-- After any `add` calls every `hooks_[verb]` visits its templates in strictly increasing lexicographic order of
their token vectors, so no two of them have the same token vector. -/
theorem registerAll_tokens_ascending {φ : Type} (calls : List (Verb × String × Option φ)) (verb : Verb) :
    ((registerAll calls).hooks verb).toList.Pairwise (fun a b => tokensLt a.tokens b.tokens = true) ∧
      (((registerAll calls).hooks verb).toList.map HookFunctor.tokens).Nodup :=
  ⟨sorted_registerAll calls verb, tokens_nodup (sorted_registerAll calls verb)⟩

open HandlerRegistrar in
/-- `a//b/` has the tokens of `/a/b` and is refused. -/
example : ((registerAll [(.get, "/a/b", some ())] : HandlerRegistrar Unit).add .get "a//b/" (some ())).2 = false := by
  decide

/-! ## `operator<` is not a strict weak ordering -/

open HandlerRegistrar in
/-- `/user/<id>` < `/user/<id>/posts` < `/user/[name]`, while `/user/<id>` and `/user/[name]` are equivalent:
neither is below the other, and `/user/[name]` is not below `/user/<id>/posts` either. -/
theorem opLt_not_transitive :
    let a : HookFunctor Unit := hookOf "/user/<id>" (some ())
    let b : HookFunctor Unit := hookOf "/user/<id>/posts" (some ())
    let c : HookFunctor Unit := hookOf "/user/[name]" (some ())
    a.opLt b = true ∧ b.opLt c = true ∧ a.opLt c = false ∧ c.opLt a = false ∧ c.opLt b = false := by
  decide

end AsulaHttp
