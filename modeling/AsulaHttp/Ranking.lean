import AsulaHttp.Match

/-!
# What the weights rank

From `matchList_ok_eq_false` and `matchList_of_ok`:

* `matchList_ok_head` : a returned template is no longer than the path and its first token agrees with the
  path; its later tokens need not (`match_partial_literal`: `/a/b` serves `/a/c`);
* `match_exact_route` : in any registry built by `add`, a template whose tokens are exactly the path's wins
  with no arguments, because its weight `100 * n` is reached by no other template;
* `prefixWeight_of_prefixMatches` : a template matching a prefix of the path weighs `100` per literal and `10`
  per fuzzy token, so it loses to one with more literals only while it has fewer than ten more fuzzy
  tokens per literal (`matchList_ne_of_more_literals`, `match_ten_fuzzy`), and of two full matches the
  one with more literals wins (`matchList_ne_of_literal_first`), while equal literal counts fall to set
  order (`match_tie_set_order`).
-/

namespace AsulaHttp

namespace HandlerRegistrar

variable {φ : Type}

theorem prefixWeight_cons (ft st : String) (fts sts : List String) :
    prefixWeight (ft :: fts) (st :: sts) =
      if ft = st then 100 + prefixWeight fts sts else if isFuzzy ft then 10 + prefixWeight fts sts else 0 := by
  by_cases h : ft = st
  · simp [prefixWeight, matchedPrefix, h]
  · by_cases hf : isFuzzy ft <;> simp [prefixWeight, matchedPrefix, h, hf]

theorem matchedPrefix_cons (ft st : String) (fts sts : List String) :
    matchedPrefix (ft :: fts) (st :: sts) = if ft = st ∨ isFuzzy ft then (ft, st) :: matchedPrefix fts sts else [] := by
  by_cases h : ft = st <;> simp [matchedPrefix, List.takeWhile_cons, h]

@[simp] theorem prefixWeight_nil_left (sts : List String) : prefixWeight [] sts = 0 := rfl

@[simp] theorem prefixWeight_nil_right (fts : List String) : prefixWeight fts [] = 0 := by
  simp [prefixWeight, matchedPrefix]

theorem firstOfWeight_spec {toks : List String} {S : List (HookFunctor φ)} {m : Nat} {f : HookFunctor φ}
    (h : firstOfWeight toks S m = some f) : f ∈ S ∧ eligible toks f = true ∧ specWeight f.tokens toks = m := by
  have := List.find?_some h
  simp only [Bool.and_eq_true, beq_iff_eq] at this
  exact ⟨List.mem_of_find?_eq_some h, this⟩

/-- A returned template weighs the most, so a template lighter than some eligible one is never returned. -/
theorem matchList_ne_of_lighter {S : List (HookFunctor φ)} {p : String} {A B : HookFunctor φ} (hA : A ∈ S)
    (he : eligible (splitUrl p) A = true) (hw : specWeight B.tokens (splitUrl p) < specWeight A.tokens (splitUrl p))
    (hok : (matchList p S).ok = true) : (matchList p S).func ≠ B := by
  obtain ⟨hf, -⟩ := matchList_of_ok S p (hasFuzzyMarks_of_ok hok) hok
  obtain ⟨-, -, hm⟩ := firstOfWeight_spec hf
  have : specWeight A.tokens (splitUrl p) ≤ maxWeight (splitUrl p) S := specWeight_le_maxWeight hA he
  rintro rfl
  omega

/-! ## A returned template agrees with the path on its first token -/

/-- `/a/b`'s literal `b` disagrees with `/a/c`, and `match` still returns `/a/b` for `/a/c`. -/
theorem match_partial_literal :
    let r := «match» "/a/c" ((registerAll [(.get, "/a/b", some ())] : HandlerRegistrar Unit).hooks .get)
    r.ok = true ∧ r.func.tokens = ["a", "b"] ∧ splitUrl "/a/c" = ["a", "c"] := by
  decide

/-- A template `match` returns is no longer than the path, and it has no token or its first token is fuzzy
or equal to the first path token. -/
theorem matchList_ok_head (S : List (HookFunctor φ)) (p : String) (hp : hasFuzzyMarks p = false)
    (hok : (matchList p S).ok = true) :
    (matchList p S).func.tokens.length ≤ (splitUrl p).length ∧
      ∀ t ∈ (matchList p S).func.tokens.head?, isFuzzy t = true ∨ (splitUrl p).head? = some t := by
  obtain ⟨hf, -⟩ := matchList_of_ok S p hp hok
  obtain ⟨-, he, hm⟩ := firstOfWeight_spec hf
  have hpos : 0 < maxWeight (splitUrl p) S := by
    refine Nat.pos_of_ne_zero fun h => ?_
    have := (matchList_ok_eq_false S p hp).mpr (maxWeight_eq_zero.mp h)
    simp [hok] at this
  refine ⟨by simpa [eligible] using he, fun t ht => ?_⟩
  obtain ⟨ts, hts⟩ : ∃ ts, (matchList p S).func.tokens = t :: ts := by
    cases h : (matchList p S).func.tokens <;> simp_all
  cases hs : splitUrl p with
  | nil => simp [eligible, hts, hs] at he
  | cons s ss =>
    rw [← hm, specWeight, hts, hs, if_neg (List.cons_ne_nil _ _), prefixWeight_cons] at hpos
    by_cases h₁ : t = s
    · exact Or.inr (by simp [h₁])
    · by_cases h₂ : isFuzzy t
      · exact Or.inl h₂
      · simp [h₁, h₂] at hpos

theorem matchList_ok_head_partial :
    let S : List (HookFunctor Unit) := [⟨"/a/b", some ()⟩]
    hasFuzzyMarks "/a/c" = false ∧ (matchList "/a/c" S).ok = true ∧
      ((matchList "/a/c" S).func.tokens.length ≤ (splitUrl "/a/c").length ∧
        ∀ t ∈ (matchList "/a/c" S).func.tokens.head?, isFuzzy t = true ∨ (splitUrl "/a/c").head? = some t) :=
  ⟨by decide, by decide, matchList_ok_head _ "/a/c" (by decide) (by decide)⟩

/-! ## The exact template wins -/

/-- The weight of a template equal to the path: `100` per token, `1` for the empty path. -/
def topWeight (toks : List String) : Nat := if toks = [] then 1 else 100 * toks.length

theorem prefixWeight_le : ∀ fts sts : List String, prefixWeight fts sts ≤ 100 * fts.length
  | [], _ => by simp
  | _ :: _, [] => by simp
  | ft :: fts, st :: sts => by
    have := prefixWeight_le fts sts
    rw [prefixWeight_cons]
    split_ifs <;> simp <;> omega

/-- Full weight forces every token to equal the path token at its position. -/
theorem eq_take_of_prefixWeight : ∀ fts sts : List String, prefixWeight fts sts = 100 * fts.length →
    fts.length ≤ sts.length → fts = sts.take fts.length
  | [], _, _, _ => rfl
  | _ :: _, [], _, hl => by simp at hl
  | ft :: fts, st :: sts, hw, hl => by
    have := prefixWeight_le fts sts
    rw [prefixWeight_cons] at hw
    simp only [List.length_cons] at hw hl
    split_ifs at hw with h₁ h₂
    · subst h₁
      have h' : prefixWeight fts sts = 100 * fts.length := by omega
      simpa using eq_take_of_prefixWeight fts sts h' (by omega)
    · omega
    · omega

theorem prefixWeight_self : ∀ ts : List String, prefixWeight ts ts = 100 * ts.length
  | [] => rfl
  | t :: ts => by rw [prefixWeight_cons, if_pos rfl, prefixWeight_self ts]; simp; omega

theorem specBindings_self : ∀ ts : List String, specBindings ts ts = []
  | [] => rfl
  | t :: ts => by
    have ih := specBindings_self ts
    unfold specBindings at ih ⊢
    rw [matchedPrefix_cons, if_pos (Or.inl rfl)]
    simpa using ih

theorem specWeight_self (ts : List String) : specWeight ts ts = topWeight ts := by
  unfold specWeight topWeight
  split_ifs
  · rfl
  · exact prefixWeight_self ts

theorem topWeight_pos (toks : List String) : 0 < topWeight toks := by
  unfold topWeight
  split_ifs with h
  · decide
  · exact Nat.mul_pos (by decide) (List.length_pos.mpr h)

theorem specWeight_le_top {fts toks : List String} (h : fts.length ≤ toks.length) :
    specWeight fts toks ≤ topWeight toks := by
  have := prefixWeight_le fts toks
  have hpos := topWeight_pos toks
  unfold specWeight
  split_ifs with h₁
  · exact hpos
  · have ht : toks ≠ [] := fun e => h₁ (List.length_eq_zero.mp (by simpa [e] using h))
    unfold topWeight
    rw [if_neg ht]
    have := Nat.mul_le_mul_left 100 h
    omega

theorem eq_of_specWeight_top {fts toks : List String} (h : fts.length ≤ toks.length)
    (hw : specWeight fts toks = topWeight toks) : fts = toks := by
  have := prefixWeight_le fts toks
  unfold specWeight topWeight at hw
  by_cases h₁ : fts = []
  · subst h₁
    cases toks with
    | nil => rfl
    | cons t ts => simp at hw; omega
  · rw [if_neg h₁] at hw
    have ht : toks ≠ [] := by
      rintro rfl
      exact h₁ (List.length_eq_zero.mp (by simpa using h))
    rw [if_neg ht] at hw
    have hl : fts.length = toks.length := by omega
    rw [eq_take_of_prefixWeight fts toks (by omega) h, hl, List.take_length]

theorem maxWeight_le {toks : List String} {S : List (HookFunctor φ)} {m : Nat}
    (h : ∀ f ∈ S, eligible toks f = true → specWeight f.tokens toks ≤ m) : maxWeight toks S ≤ m := by
  induction S with
  | nil => simp [maxWeight]
  | cons g S ih =>
    rw [maxWeight_cons]
    have := ih (fun f hf => h f (List.mem_cons_of_mem _ hf))
    split
    · exact max_le (h g (List.mem_cons_self _ _) ‹_›) this
    · exact this

/-- In a registry built by `add`, a template whose tokens are the path's is returned, with no arguments,
whatever else is registered. -/
theorem match_exact_route (calls : List (Verb × String × Option φ)) (verb : Verb) (p : String)
    (hp : hasFuzzyMarks p = false) (T : HookFunctor φ) (hT : T ∈ ((registerAll calls).hooks verb).toList)
    (htok : T.tokens = splitUrl p) :
    «match» p ((registerAll calls).hooks verb) = ⟨true, T, []⟩ := by
  have hnd := tokens_nodup (sorted_registerAll calls verb)
  have hwT : specWeight T.tokens (splitUrl p) = topWeight (splitUrl p) := by rw [htok, specWeight_self]
  have heT : eligible (splitUrl p) T = true := by simp [eligible, htok]
  have hmax : maxWeight (splitUrl p) ((registerAll calls).hooks verb).toList = topWeight (splitUrl p) :=
    le_antisymm (maxWeight_le fun f _ he => specWeight_le_top (by simpa [eligible] using he))
      (hwT ▸ specWeight_le_maxWeight hT heT)
  obtain ⟨g, hg, hl⟩ := (matchLoop_spec (splitUrl p) ((registerAll calls).hooks verb).toList 0 .notFound).2
    (hmax ▸ topWeight_pos _)
  obtain ⟨hgS, hge, hgw⟩ := firstOfWeight_spec hg
  have hgT : g = T := List.inj_on_of_nodup_map hnd hgS hT
    (by rw [htok]; exact eq_of_specWeight_top (by simpa [eligible] using hge) (hgw.trans hmax))
  subst hgT
  simp [«match», matchList, hp, hl, resultOf, weightOf_eq, htok, specBindings_self, bindAll]

/-- `/user/list` registered next to `/user/<id>`. -/
theorem match_exact_route_list :
    let calls : List (Verb × String × Option Unit) := [(.get, "/user/<id>", some ()), (.get, "/user/list", some ())]
    let T : HookFunctor Unit := ⟨"/user/list", some ()⟩
    hasFuzzyMarks "/user/list" = false ∧ T ∈ ((registerAll calls).hooks .get).toList ∧ T.tokens = splitUrl "/user/list" ∧
      «match» "/user/list" ((registerAll calls).hooks .get) = ⟨true, T, []⟩ :=
  ⟨by decide, by decide, by decide, match_exact_route _ .get "/user/list" (by decide) _ (by decide) (by decide)⟩

/-! ## Literal tokens against fuzzy ones -/

/-- Every token of `fts` equals the path token at its position or is fuzzy; `fts` is no longer than the path. -/
def PrefixMatches (fts sts : List String) : Prop :=
  List.Forall₂ (fun ft st => ft = st ∨ isFuzzy ft = true) fts (sts.take fts.length)

/-- Every token of `fts` equals the path token at its position or is fuzzy, and `fts` is as long as the path. -/
def FullyMatches (fts sts : List String) : Prop :=
  List.Forall₂ (fun ft st => ft = st ∨ isFuzzy ft = true) fts sts

instance (fts sts : List String) : Decidable (PrefixMatches fts sts) :=
  inferInstanceAs (Decidable (List.Forall₂ _ _ _))

instance (fts sts : List String) : Decidable (FullyMatches fts sts) :=
  inferInstanceAs (Decidable (List.Forall₂ _ _ _))

/-- The literal (not fuzzy) tokens of a template. -/
def literalCount (ts : List String) : Nat := ts.countP (fun t => !isFuzzy t)

/-- The fuzzy tokens of a template. -/
def fuzzyCount (ts : List String) : Nat := ts.countP isFuzzy

theorem literalCount_add_fuzzyCount (ts : List String) : literalCount ts + fuzzyCount ts = ts.length := by
  induction ts with
  | nil => rfl
  | cons t ts ih =>
    simp only [literalCount, fuzzyCount, List.countP_cons, List.length_cons] at ih ⊢
    cases isFuzzy t <;> simp <;> omega

theorem literalCount_append (a b : List String) : literalCount (a ++ b) = literalCount a + literalCount b :=
  List.countP_append _ _ _

theorem literalCount_cons (t : String) (ts : List String) :
    literalCount (t :: ts) = literalCount ts + if isFuzzy t then 0 else 1 := by
  cases h : isFuzzy t <;> simp [literalCount, List.countP_cons, h]

theorem prefixMatches_of_fullyMatches {fts sts : List String} (h : FullyMatches fts sts) : PrefixMatches fts sts := by
  unfold PrefixMatches; rwa [h.length_eq, List.take_length]

theorem length_le_of_prefixMatches {fts sts : List String} (h : PrefixMatches fts sts) : fts.length ≤ sts.length := by
  have := h.length_eq
  rw [List.length_take] at this
  omega

/-- Against a path without fuzzy tokens, a prefix-matching template weighs `100` per literal and `10` per
fuzzy token. -/
theorem prefixWeight_of_prefixMatches {sts : List String} (hs : ∀ st ∈ sts, isFuzzy st = false) :
    ∀ {fts : List String}, PrefixMatches fts sts →
      prefixWeight fts sts = 100 * literalCount fts + 10 * fuzzyCount fts := by
  induction sts with
  | nil => rintro (_ | _) h <;> [rfl; cases h]
  | cons st sts ih =>
    intro fts h
    cases fts with
    | nil => rfl
    | cons ft fts =>
      obtain ⟨hr, hrest⟩ := List.forall₂_cons.mp h
      have hw := ih (fun s hs' => hs s (List.mem_cons_of_mem _ hs')) hrest
      rw [prefixWeight_cons, hw]
      simp only [literalCount, fuzzyCount, List.countP_cons] at hw ⊢
      by_cases h₁ : ft = st
      · subst h₁; simp [hs ft (List.mem_cons_self _ _)]; omega
      · simp [h₁, hr.resolve_left h₁]; omega

/-- With more literal tokens, and fewer than ten extra fuzzy tokens per literal of difference, a
prefix-matching template outweighs another. -/
theorem specWeight_lt_of_literals {fa fb toks : List String} (hs : ∀ st ∈ toks, isFuzzy st = false)
    (hA : PrefixMatches fa toks) (hB : PrefixMatches fb toks) (hlit : literalCount fb < literalCount fa)
    (hfz : fuzzyCount fb < fuzzyCount fa + 10 * (literalCount fa - literalCount fb)) :
    specWeight fb toks < specWeight fa toks := by
  have hfa : fa ≠ [] := by rintro rfl; simp [literalCount] at hlit
  unfold specWeight
  rw [if_neg hfa, prefixWeight_of_prefixMatches hs hA]
  split_ifs with hfb
  · omega
  · rw [prefixWeight_of_prefixMatches hs hB]; omega

/-- Literal counts stop ordering the weights once a template has ten more fuzzy tokens than another
has literals: `/x` has one literal, the eleven-segment fuzzy template none, and the latter is returned. -/
theorem match_ten_fuzzy :
    let reg : HandlerRegistrar Unit :=
      registerAll [(.get, "/x", some ()), (.get, "/<a>/<b>/<c>/<d>/<e>/<f>/<g>/<h>/<i>/<j>/<k>", some ())]
    let r := «match» "/x/1/2/3/4/5/6/7/8/9/10" (reg.hooks .get)
    r.ok = true ∧ r.func.url = "/<a>/<b>/<c>/<d>/<e>/<f>/<g>/<h>/<i>/<j>/<k>" := by
  decide

/-- A template with more literal tokens than another prefix-matching template, and fewer than ten extra
fuzzy tokens on the other side per literal of difference, keeps the other from being returned. -/
theorem matchList_ne_of_more_literals (S : List (HookFunctor φ)) (p : String) (A B : HookFunctor φ) (hA : A ∈ S)
    (hpA : PrefixMatches A.tokens (splitUrl p)) (hpB : PrefixMatches B.tokens (splitUrl p))
    (hlit : literalCount B.tokens < literalCount A.tokens)
    (hfz : fuzzyCount B.tokens < fuzzyCount A.tokens + 10 * (literalCount A.tokens - literalCount B.tokens)) :
    ¬((matchList p S).ok = true ∧ (matchList p S).func = B) := by
  rintro ⟨hok, hB⟩
  exact matchList_ne_of_lighter hA (by simpa [eligible] using length_le_of_prefixMatches hpA)
    (specWeight_lt_of_literals (fun _ => isFuzzy_of_mem_splitUrl (hasFuzzyMarks_of_ok hok)) hpA hpB hlit hfz) hok hB

/-- `/user/list` against `/user/<id>` on the path `/user/list`. -/
theorem matchList_ne_of_more_literals_user :
    let A : HookFunctor Unit := ⟨"/user/list", some ()⟩
    let B : HookFunctor Unit := ⟨"/user/<id>", some ()⟩
    A ∈ [B, A] ∧ PrefixMatches A.tokens (splitUrl "/user/list") ∧ PrefixMatches B.tokens (splitUrl "/user/list") ∧
      literalCount B.tokens < literalCount A.tokens ∧
      fuzzyCount B.tokens < fuzzyCount A.tokens + 10 * (literalCount A.tokens - literalCount B.tokens) ∧
      ¬((matchList "/user/list" [B, A]).ok = true ∧ (matchList "/user/list" [B, A]).func = B) :=
  ⟨by decide, by decide, by decide, by decide, by decide,
    matchList_ne_of_more_literals _ "/user/list" ⟨"/user/list", some ()⟩ _ (by decide) (by decide) (by decide)
      (by decide) (by decide)⟩

/-- Two full matches of `/a/b` that first differ at a literal of the first against a fuzzy token of the
second: with one literal each, the tie falls to set order, where `/<x>/b` sorts first. -/
theorem match_tie_set_order :
    let reg : HandlerRegistrar Unit := registerAll [(.get, "/a/<y>", some ()), (.get, "/<x>/b", some ())]
    let r := «match» "/a/b" (reg.hooks .get)
    (hookOf "/a/<y>" (some ())).tokens = ["a", "<y>"] ∧ (hookOf "/<x>/b" (some ())).tokens = ["<x>", "b"] ∧
      splitUrl "/a/b" = ["a", "b"] ∧ r.ok = true ∧ r.func.url = "/<x>/b" := by
  decide

/-- Two full matches first differing where `A` has the path segment and `B` a fuzzy token: when `A` has at
least as many literal tokens as `B` after that position, `B` is not returned. -/
theorem matchList_ne_of_literal_first (S : List (HookFunctor φ)) (p : String) (A B : HookFunctor φ) (hA : A ∈ S)
    (hfA : FullyMatches A.tokens (splitUrl p)) (hfB : FullyMatches B.tokens (splitUrl p))
    (pre ra rb : List String) (a b : String) (hAt : A.tokens = pre ++ a :: ra) (hBt : B.tokens = pre ++ b :: rb)
    (ha : (splitUrl p)[pre.length]? = some a) (hb : isFuzzy b = true)
    (hlit : literalCount rb ≤ literalCount ra) :
    ¬((matchList p S).ok = true ∧ (matchList p S).func = B) := by
  rintro ⟨hok, hB⟩
  have hs : ∀ st ∈ splitUrl p, isFuzzy st = false := fun _ => isFuzzy_of_mem_splitUrl (hasFuzzyMarks_of_ok hok)
  have haf : isFuzzy a = false := hs a (List.getElem?_mem ha)
  have hla := literalCount_add_fuzzyCount A.tokens
  have hlb := literalCount_add_fuzzyCount B.tokens
  have hn := hfA.length_eq.trans hfB.length_eq.symm
  have hcount : literalCount B.tokens < literalCount A.tokens := by
    rw [hAt, hBt, literalCount_append, literalCount_append, literalCount_cons, literalCount_cons, haf, hb]
    simp only [if_true, if_false, Bool.false_eq_true]
    omega
  exact matchList_ne_of_lighter hA (by simp [eligible, hfA.length_eq])
    (specWeight_lt_of_literals hs (prefixMatches_of_fullyMatches hfA) (prefixMatches_of_fullyMatches hfB)
      hcount (by omega)) hok hB

/-- `/user/list` against `/user/<id>` on `/user/list`: they first differ after `user`. -/
theorem matchList_ne_of_literal_first_user :
    let A : HookFunctor Unit := ⟨"/user/list", some ()⟩
    let B : HookFunctor Unit := ⟨"/user/<id>", some ()⟩
    A ∈ [B, A] ∧ FullyMatches A.tokens (splitUrl "/user/list") ∧ FullyMatches B.tokens (splitUrl "/user/list") ∧
      A.tokens = ["user"] ++ "list" :: [] ∧ B.tokens = ["user"] ++ "<id>" :: [] ∧
      (splitUrl "/user/list")[["user"].length]? = some "list" ∧ isFuzzy "<id>" = true ∧
      literalCount [] ≤ literalCount [] ∧
      ¬((matchList "/user/list" [B, A]).ok = true ∧ (matchList "/user/list" [B, A]).func = B) :=
  ⟨by decide, by decide, by decide, by decide, by decide, by decide, by decide, le_rfl,
    matchList_ne_of_literal_first _ "/user/list" ⟨"/user/list", some ()⟩ _ (by decide) (by decide) (by decide)
      ["user"] [] [] "list" "<id>" (by decide) (by decide) (by decide) (by decide) le_rfl⟩

end HandlerRegistrar

end AsulaHttp
