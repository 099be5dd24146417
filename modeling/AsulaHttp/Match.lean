import AsulaHttp.Registrar

/-!
# `HandlerRegistrar::match`: weights and the best template

* `weigh` : the inner loop over one template's tokens (`+100` equal, `+10` and a binding for fuzzy, `break`
  otherwise, the weight so far kept); `weightOf` gives a template without tokens the weight `1`;
* `matchLoop` : the loop over the set keeping the first template of greatest weight (strict `>`), and
  `matchList` / `match` with the guard against marker characters in the path;
* `specWeight`, `specBindings`, `maxWeight` : the same quantities read off the longest matching prefix;
  `weigh_eq` identifies the two;
* `matchLoop_spec` : the loop returns the first eligible template of maximal weight, or what it started
  with when no template beats the initial weight;
* `matchList_ok_eq_false`, `matchList_of_ok`, together `matchList_spec` : `match` fails exactly when every
  eligible template weighs `0`, and otherwise returns the first template of maximal weight with exactly its
  own bindings.
-/

namespace AsulaHttp

/-- `HandlerRegistrar::MatchedResult`. -/
structure MatchedResult (φ : Type) where
  ok : Bool
  func : HookFunctor φ
  args : List (String × String)
  deriving DecidableEq

/-- `MatchedResult()`: no route, a default `HookFunctor`, no arguments. -/
def MatchedResult.notFound {φ : Type} : MatchedResult φ := ⟨false, ⟨"", none⟩, []⟩

namespace HandlerRegistrar

variable {φ : Type}

/-- The loop over one template's tokens in `match`: `+100` for an equal token, `+10` and a binding for a
fuzzy one, and `break` at any other token, keeping the weight accumulated so far. -/
def weigh : List String → List String → Nat → List (String × String) → Nat × List (String × String)
  | ft :: fts, st :: sts, w, args =>
    if ft = st then weigh fts sts (w + 100) args
    else if isFuzzy ft then weigh fts sts (w + 10) (mapSet args (fuzzyName ft) st)
    else (w, args)
  | _, _, w, args => (w, args)

/-- One template's weight and bindings against the path tokens; `1` for a template without tokens. -/
def weightOf (fts toks : List String) : Nat × List (String × String) :=
  if fts = [] then (1, []) else weigh fts toks 0 []

/-- The loop of `match` over the set: templates longer than the path are skipped, and a template
replaces the current result only when its weight is strictly greater. -/
def matchLoop (toks : List String) : List (HookFunctor φ) → Nat → MatchedResult φ → MatchedResult φ
  | [], _, r => r
  | f :: fs, w, r =>
    if toks.length < f.tokens.length then matchLoop toks fs w r
    else if w < (weightOf f.tokens toks).1 then
      matchLoop toks fs (weightOf f.tokens toks).1 ⟨true, f, (weightOf f.tokens toks).2⟩
    else matchLoop toks fs w r

/-- `HandlerRegistrar::match` over the set in iteration order. -/
def matchList (schema : String) (funcs : List (HookFunctor φ)) : MatchedResult φ :=
  if hasFuzzyMarks schema then .notFound else matchLoop (splitUrl schema) funcs 0 .notFound

/-- `HandlerRegistrar::match`. -/
def «match» (schema : String) (funcs : RbTree (HookFunctor φ)) : MatchedResult φ :=
  matchList schema funcs.toList

/-! ## Weights read off the matching prefix -/

/-- The longest prefix of positions where the template token equals the path token or is fuzzy. -/
def matchedPrefix (fts sts : List String) : List (String × String) :=
  (fts.zip sts).takeWhile (fun q => q.1 == q.2 || isFuzzy q.1)

/-- `100` per equal and `10` per fuzzy position of the matching prefix. -/
def prefixWeight (fts sts : List String) : Nat :=
  ((matchedPrefix fts sts).map (fun q => if q.1 = q.2 then 100 else 10)).sum

/-- A template's weight: `1` without tokens, otherwise its prefix weight. -/
def specWeight (fts sts : List String) : Nat := if fts = [] then 1 else prefixWeight fts sts

/-- The fuzzy bindings of the matching prefix in path order: the name without brackets, the path token. -/
def specBindings (fts sts : List String) : List (String × String) :=
  ((matchedPrefix fts sts).filter (fun q => q.1 != q.2)).map (fun q => (fuzzyName q.1, q.2))

/-- A template no longer than the path. -/
def eligible (toks : List String) (f : HookFunctor φ) : Bool := f.tokens.length ≤ toks.length

/-- The greatest weight of an eligible template, `0` when there is none. -/
def maxWeight (toks : List String) (S : List (HookFunctor φ)) : Nat :=
  (S.filter (eligible toks)).foldr (fun f m => max (specWeight f.tokens toks) m) 0

/-- The first eligible template of weight `m`. -/
def firstOfWeight (toks : List String) (S : List (HookFunctor φ)) (m : Nat) : Option (HookFunctor φ) :=
  S.find? (fun f => eligible toks f && specWeight f.tokens toks == m)

/-- The result `match` records for template `f`. -/
def resultOf (toks : List String) (f : HookFunctor φ) : MatchedResult φ := ⟨true, f, (weightOf f.tokens toks).2⟩

/-- Binding a list of pairs in order into a `std::map`. -/
def bindAll (m : List (String × String)) (bs : List (String × String)) : List (String × String) :=
  bs.foldl (fun m q => mapSet m q.1 q.2) m

theorem weigh_eq (fts sts : List String) (w : Nat) (args : List (String × String)) :
    weigh fts sts w args = (w + prefixWeight fts sts, bindAll args (specBindings fts sts)) := by
  induction fts, sts, w, args using weigh.induct with
  | case1 fts st sts w args ih =>
    rw [weigh, if_pos rfl, ih]
    simp [prefixWeight, specBindings, matchedPrefix, List.takeWhile_cons]
    omega
  | case2 ft fts st sts w args heq hfz ih =>
    rw [weigh, if_neg heq, if_pos hfz, ih]
    simp [prefixWeight, specBindings, matchedPrefix, heq, hfz, List.takeWhile_cons, bindAll]
    omega
  | case3 ft fts st sts w args heq hfz =>
    rw [weigh, if_neg heq, if_neg hfz]
    simp [prefixWeight, specBindings, matchedPrefix, heq, hfz, List.takeWhile_cons, bindAll]
  | case4 fts sts w args h =>
    have hz : fts.zip sts = [] := by
      cases fts <;> cases sts <;> first | rfl | exact (h _ _ _ _ rfl rfl).elim
    rw [weigh.eq_2 _ _ _ _ h]
    simp [prefixWeight, specBindings, matchedPrefix, hz, bindAll]

theorem weightOf_eq (fts toks : List String) :
    weightOf fts toks = (specWeight fts toks, bindAll [] (specBindings fts toks)) := by
  unfold weightOf specWeight
  split
  · subst fts; rfl
  · simp [weigh_eq]

theorem lookup_bindAll (m bs : List (String × String)) (k : String) :
    (bindAll m bs).lookup k = (bs.reverse.lookup k).or (m.lookup k) := by
  induction bs generalizing m with
  | nil => simp [bindAll]
  | cons b bs ih =>
    obtain ⟨k₀, v₀⟩ := b
    simp only [bindAll, List.foldl_cons] at ih ⊢
    rw [ih, lookup_mapSet, List.reverse_cons, List.lookup_append, Option.or_assoc]
    by_cases h : k = k₀ <;> simp [lookup_cons_ite, h]

theorem keysSorted_bindAll {m : List (String × String)} (h : KeysSorted m) (bs : List (String × String)) :
    KeysSorted (bindAll m bs) := by
  induction bs generalizing m with
  | nil => exact h
  | cons b bs ih => exact ih (keysSorted_mapSet h b.1 b.2)

/-- The bindings `match` returns form a `std::map`: their keys are sorted. -/
theorem keysSorted_matchList (p : String) (S : List (HookFunctor φ)) : KeysSorted (matchList p S).args := by
  have hres : ∀ toks (f : HookFunctor φ), KeysSorted (resultOf toks f).args := fun toks f => by
    simp only [resultOf, weightOf]
    split
    · exact keysSorted_nil
    · rw [weigh_eq]; exact keysSorted_bindAll keysSorted_nil _
  have hloop : ∀ toks (fs : List (HookFunctor φ)) w (r : MatchedResult φ), KeysSorted r.args →
      KeysSorted (matchLoop toks fs w r).args := by
    intro toks fs
    induction fs with
    | nil => exact fun _ _ h => h
    | cons f fs ih =>
      intro w r h
      simp only [matchLoop]
      split
      · exact ih w r h
      · split
        · exact ih _ _ (hres toks f)
        · exact ih w r h
  unfold matchList
  split
  · exact keysSorted_nil
  · exact hloop _ S 0 _ keysSorted_nil

/-! ## The loop keeps the first template of greatest weight -/

theorem maxWeight_cons (toks : List String) (f : HookFunctor φ) (fs : List (HookFunctor φ)) :
    maxWeight toks (f :: fs) = if eligible toks f then max (specWeight f.tokens toks) (maxWeight toks fs)
      else maxWeight toks fs := by
  unfold maxWeight
  by_cases h : eligible toks f <;> simp [List.filter_cons, h]

theorem specWeight_le_maxWeight {toks : List String} {S : List (HookFunctor φ)} {f : HookFunctor φ}
    (hf : f ∈ S) (he : eligible toks f = true) : specWeight f.tokens toks ≤ maxWeight toks S := by
  induction S with
  | nil => cases hf
  | cons g S ih =>
    rw [maxWeight_cons]
    rcases List.mem_cons.mp hf with rfl | hf
    · rw [if_pos he]; exact le_max_left _ _
    · have := ih hf
      split <;> omega

theorem maxWeight_eq_zero {toks : List String} {S : List (HookFunctor φ)} :
    maxWeight toks S = 0 ↔ ∀ f ∈ S, eligible toks f = true → specWeight f.tokens toks = 0 := by
  induction S with
  | nil => simp [maxWeight]
  | cons g S ih =>
    rw [maxWeight_cons]
    by_cases hg : eligible toks g <;> simp [hg, ih]

theorem matchLoop_cons (toks : List String) (f : HookFunctor φ) (fs : List (HookFunctor φ)) (w : Nat)
    (r : MatchedResult φ) :
    matchLoop toks (f :: fs) w r =
      if eligible toks f ∧ w < specWeight f.tokens toks then matchLoop toks fs (specWeight f.tokens toks) (resultOf toks f)
      else matchLoop toks fs w r := by
  simp only [matchLoop, weightOf_eq, eligible, resultOf, decide_eq_true_eq]
  by_cases h : toks.length < f.tokens.length
  · simp [h, Nat.not_le.mpr h]
  · simp [h, Nat.not_lt.mp h]

theorem firstOfWeight_cons (toks : List String) (f : HookFunctor φ) (fs : List (HookFunctor φ)) (m : Nat) :
    firstOfWeight toks (f :: fs) m =
      if eligible toks f ∧ specWeight f.tokens toks = m then some f else firstOfWeight toks fs m := by
  unfold firstOfWeight
  by_cases h : eligible toks f ∧ specWeight f.tokens toks = m
  · simp [List.find?_cons, h]
  · rw [if_neg h, List.find?_cons_of_neg]
    simpa using h

/-- The argmax loop: with a start weight `w` below the maximum it returns the first eligible template of
maximal weight, and otherwise the result it started with. -/
theorem matchLoop_spec (toks : List String) (S : List (HookFunctor φ)) (w : Nat) (r : MatchedResult φ) :
    (maxWeight toks S ≤ w → matchLoop toks S w r = r) ∧
    (w < maxWeight toks S → ∃ f, firstOfWeight toks S (maxWeight toks S) = some f ∧
      matchLoop toks S w r = resultOf toks f) := by
  induction S generalizing w r with
  | nil => simp [maxWeight, matchLoop]
  | cons f fs ih =>
    rw [matchLoop_cons, maxWeight_cons]
    by_cases he : eligible toks f
    · simp only [he, true_and, if_true]
      by_cases hw : w < specWeight f.tokens toks
      · rw [if_pos hw]
        refine ⟨fun h => absurd (lt_of_lt_of_le hw (le_trans (le_max_left _ _) h)) (lt_irrefl w), fun _ => ?_⟩
        by_cases hm : specWeight f.tokens toks < maxWeight toks fs
        · obtain ⟨g, hg, hl⟩ := (ih _ _).2 hm
          refine ⟨g, ?_, hl⟩
          rw [max_eq_right hm.le, firstOfWeight_cons, if_neg (by omega), hg]
        · rw [(ih _ _).1 (by omega), max_eq_left (by omega), firstOfWeight_cons, if_pos ⟨he, rfl⟩]
          exact ⟨f, rfl, rfl⟩
      · rw [if_neg hw]
        refine ⟨fun h => (ih w r).1 (le_trans (le_max_right _ _) h), fun h => ?_⟩
        have hm : w < maxWeight toks fs := by omega
        obtain ⟨g, hg, hl⟩ := (ih w r).2 hm
        refine ⟨g, ?_, hl⟩
        rw [max_eq_right (by omega), firstOfWeight_cons, if_neg (by omega), hg]
    · simp only [he, false_and, if_false, Bool.false_eq_true]
      refine ⟨(ih w r).1, fun h => ?_⟩
      obtain ⟨g, hg, hl⟩ := (ih w r).2 h
      exact ⟨g, by rw [firstOfWeight_cons, if_neg (by simp [he]), hg], hl⟩

/-- `match` succeeds only on a path without `<`, `>`, `[`, `]`. -/
theorem hasFuzzyMarks_of_ok {S : List (HookFunctor φ)} {p : String} (hok : (matchList p S).ok = true) :
    hasFuzzyMarks p = false := by
  cases hp : hasFuzzyMarks p
  · rfl
  · simp [matchList, hp, MatchedResult.notFound] at hok

/-- `match` fails exactly when every template no longer than the path weighs `0`. -/
theorem matchList_ok_eq_false (S : List (HookFunctor φ)) (p : String) (hp : hasFuzzyMarks p = false) :
    (matchList p S).ok = false ↔ ∀ f ∈ S, eligible (splitUrl p) f = true → specWeight f.tokens (splitUrl p) = 0 := by
  simp only [matchList, hp, Bool.false_eq_true, if_false, ← maxWeight_eq_zero]
  rcases Nat.eq_zero_or_pos (maxWeight (splitUrl p) S) with h | h
  · simp [(matchLoop_spec _ S 0 _).1 h.le, h, MatchedResult.notFound]
  · obtain ⟨f, -, hl⟩ := (matchLoop_spec _ S 0 .notFound).2 h
    simp only [hl, resultOf, Bool.true_eq_false, false_iff]
    omega

/-- A successful `match` returns the first template of maximal weight, whose own fuzzy bindings, the last of
each name winning, are all its arguments. -/
theorem matchList_of_ok (S : List (HookFunctor φ)) (p : String) (hp : hasFuzzyMarks p = false)
    (hok : (matchList p S).ok = true) :
    firstOfWeight (splitUrl p) S (maxWeight (splitUrl p) S) = some (matchList p S).func ∧
      ∀ k, (matchList p S).args.lookup k = (specBindings (matchList p S).func.tokens (splitUrl p)).reverse.lookup k := by
  simp only [matchList, hp, Bool.false_eq_true, if_false] at hok ⊢
  rcases Nat.eq_zero_or_pos (maxWeight (splitUrl p) S) with h | h
  · simp [(matchLoop_spec _ S 0 _).1 h.le, MatchedResult.notFound] at hok
  · obtain ⟨f, hf, hl⟩ := (matchLoop_spec _ S 0 .notFound).2 h
    rw [hl]
    exact ⟨hf, fun k => by simp [resultOf, weightOf_eq, lookup_bindAll]⟩

/-- `match` fails exactly when every template no longer than the path weighs `0`; otherwise it returns
the first template of maximal weight, whose own fuzzy bindings, the last of each name winning, are all
its arguments. -/
theorem matchList_spec (S : List (HookFunctor φ)) (p : String) (hp : hasFuzzyMarks p = false) :
    ((matchList p S).ok = false ↔
      ∀ f ∈ S, eligible (splitUrl p) f = true → specWeight f.tokens (splitUrl p) = 0) ∧
    ((matchList p S).ok = true →
      firstOfWeight (splitUrl p) S (maxWeight (splitUrl p) S) = some (matchList p S).func ∧
      ∀ k, (matchList p S).args.lookup k = (specBindings (matchList p S).func.tokens (splitUrl p)).reverse.lookup k) :=
  ⟨matchList_ok_eq_false S p hp, matchList_of_ok S p hp⟩

/-- `/user/42` against `/user/<id>` and `/user/list`: the fuzzy template matches and binds `id` to `42`. -/
theorem matchList_spec_user :
    let S : List (HookFunctor Unit) := [⟨"/user/<id>", some ()⟩, ⟨"/user/list", some ()⟩]
    hasFuzzyMarks "/user/42" = false ∧ (matchList "/user/42" S).ok = true ∧
    (matchList "/user/42" S).func.url = "/user/<id>" ∧ (matchList "/user/42" S).args = [("id", "42")] ∧
    (((matchList "/user/42" S).ok = false ↔
      ∀ f ∈ S, eligible (splitUrl "/user/42") f = true → specWeight f.tokens (splitUrl "/user/42") = 0) ∧
    ((matchList "/user/42" S).ok = true →
      firstOfWeight (splitUrl "/user/42") S (maxWeight (splitUrl "/user/42") S) = some (matchList "/user/42" S).func ∧
      ∀ k, (matchList "/user/42" S).args.lookup k =
        (specBindings (matchList "/user/42" S).func.tokens (splitUrl "/user/42")).reverse.lookup k)) :=
  ⟨by decide, by decide, by decide, by decide, matchList_spec _ "/user/42" (by decide)⟩

end HandlerRegistrar

end AsulaHttp
