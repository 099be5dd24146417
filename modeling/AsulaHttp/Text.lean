import Mathlib

/-!
# Strings of `HttpServer.hpp`: URL tokens, `decodeUri`, `catPath`, lexicographic order

A `std::string` is a `String` whose characters stand for its bytes.

* `toLower` : `boost::to_lower_copy` in the C locale (ASCII letters only);
* `splitAny` : `boost::split` with `is_any_of`, of which `splitSlash` is the `/` case;
* `splitUrl` : the path before the first `?`, lower-cased, cut at `/`, empty pieces dropped;
  `chars_of_mem_splitUrl` says every character of a token is a lower-cased character of the url;
* `isFuzzy`, `hasFuzzyMarks` : a `<name>`/`[name]` token, and `match`'s guard against marker characters;
  `isFuzzy_of_mem_splitUrl` : a marker-free url has no fuzzy token;
* `decodeUri` : the `%`/`+` loop, which drops the `lexical_cast` result so that every escape is `'\0'`;
  `hasDotDot_decodeUri` : decoding creates no `..`; `percentDecode` decodes `%HH` to its byte; `decodeUri` agrees
  with it on targets without `%` (`decodeUri_eq_of_no_escape`) and not on `/a%41` (`decodeUri_drops_escapes`);
* `catPath` : document root and path, one trailing `/` of the root dropped;
* `lexLt` : `std::lexicographical_compare`; `StrictTotal.lexLt` lifts a strict total order to lists;
* `mapSet` : `m[k] = v` on a `std::map`, read back by `lookup_mapSet`; it keeps the keys sorted
  (`keysSorted_mapSet`), so replaying a map's pairs from the last finds the same values
  (`lookup_reverse_of_keysSorted`).
-/

namespace AsulaHttp

/-- `boost::to_lower_copy`. -/
def toLower (s : String) : String := ⟨s.data.map Char.toLower⟩

@[simp] theorem toLower_data (s : String) : (toLower s).data = s.data.map Char.toLower := rfl

theorem toNat_ofNat_le {n : Nat} (h : n ≤ 122) : (Char.ofNat n).toNat = n := by
  simp only [Char.ofNat, Char.ofNatAux, Nat.isValidChar]
  split
  · simp [Char.toNat, UInt32.toNat]
  · omega

/-- Lower-casing fixes the characters that are not letters, so it cannot produce one of them. -/
theorem toLower_eq_iff {c d : Char} (h₁ : ¬ (65 ≤ d.toNat ∧ d.toNat ≤ 90))
    (h₂ : ¬ (97 ≤ d.toNat ∧ d.toNat ≤ 122)) : c.toLower = d ↔ c = d := by
  simp only [Char.toLower]
  split
  · constructor
    · rintro rfl
      rw [toNat_ofNat_le (by omega)] at h₂
      omega
    · rintro rfl; contradiction
  · exact Iff.rfl

/-! ## `splitUrl` -/

/-- `boost::split(tokens, s, boost::is_any_of("/"))`: the pieces between separators, empty ones kept. -/
def splitSlash : List Char → List (List Char)
  | [] => [[]]
  | c :: cs =>
    if c = '/' then [] :: splitSlash cs
    else match splitSlash cs with
      | p :: ps => (c :: p) :: ps
      | [] => [[c]]

theorem chars_of_mem_splitSlash {cs p : List Char} {c : Char} (hp : p ∈ splitSlash cs) (hc : c ∈ p) :
    c ∈ cs := by
  induction cs generalizing p with
  | nil => simp_all [splitSlash]
  | cons d ds ih =>
    unfold splitSlash at hp
    split at hp
    · rcases List.mem_cons.mp hp with rfl | hp
      · simp at hc
      · exact List.mem_cons_of_mem _ (ih hp hc)
    · split at hp <;> rename_i h
      · rcases List.mem_cons.mp hp with rfl | hp
        · rcases List.mem_cons.mp hc with rfl | hc
          · exact List.mem_cons_self _ _
          · exact List.mem_cons_of_mem _ (ih (h ▸ List.mem_cons_self _ _) hc)
        · exact List.mem_cons_of_mem _ (ih (h ▸ List.mem_cons_of_mem _ hp) hc)
      · simp_all

/-- `boost::split(tokens, s, boost::is_any_of(seps))` for the separator characters `isSep`. -/
def splitAny (isSep : Char → Bool) : List Char → List (List Char)
  | [] => [[]]
  | c :: cs =>
    if isSep c then [] :: splitAny isSep cs
    else match splitAny isSep cs with
      | p :: ps => (c :: p) :: ps
      | [] => [[c]]

theorem splitSlash_eq_splitAny : ∀ cs : List Char, splitSlash cs = splitAny (· == '/') cs
  | [] => rfl
  | c :: cs => by
    by_cases h : c = '/' <;> simp [splitSlash, splitAny, h, splitSlash_eq_splitAny cs]

/-- A piece without separators, then a separator: the piece is the first token. -/
theorem splitAny_append_sep {isSep : Char → Bool} {c : Char} (hc : isSep c = true) (rest : List Char) :
    ∀ {a : List Char}, (∀ x ∈ a, isSep x = false) → splitAny isSep (a ++ c :: rest) = a :: splitAny isSep rest
  | [], _ => by simp [splitAny, hc]
  | x :: a, h => by
    simp only [List.mem_cons, forall_eq_or_imp] at h
    simp [splitAny, h.1, splitAny_append_sep hc rest h.2]

/-- `HandlerRegistrar::splitUrl`. -/
def splitUrl (url : String) : List String :=
  ((splitSlash ((url.data.takeWhile (· ≠ '?')).map Char.toLower)).filter (· ≠ [])).map String.mk

theorem chars_of_mem_splitUrl {url t : String} {c : Char} (ht : t ∈ splitUrl url) (hc : c ∈ t.data) :
    ∃ d ∈ url.data, d.toLower = c := by
  obtain ⟨p, hp, rfl⟩ := List.mem_map.mp ht
  have := chars_of_mem_splitSlash (List.mem_filter.mp hp).1 hc
  obtain ⟨d, hd, rfl⟩ := List.mem_map.mp this
  exact ⟨d, (List.takeWhile_sublist _).subset hd, rfl⟩

/-! ## Fuzzy tokens -/

/-- `HandlerRegistrar::isFuzzy`. -/
def isFuzzy (t : String) : Bool :=
  t.data.head? == some '<' && t.data.getLast? == some '>' ||
    t.data.head? == some '[' && t.data.getLast? == some ']'

/-- The variable name of a fuzzy token, `ft.substr(1, ft.size() - 2)`. -/
def fuzzyName (t : String) : String := ⟨(t.data.drop 1).take (t.data.length - 2)⟩

/-- A marker character of a fuzzy token. -/
def isMark (c : Char) : Bool := c == '<' || c == '>' || c == '[' || c == ']'

/-- The guard of `HandlerRegistrar::match`: `boost::contains` of `<`, `>`, `[` or `]`. -/
def hasFuzzyMarks (s : String) : Bool := s.data.any isMark

theorem isFuzzy_of_mem_splitUrl {url t : String} (hu : hasFuzzyMarks url = false)
    (ht : t ∈ splitUrl url) : isFuzzy t = false := by
  have hmark : ∀ c ∈ t.data, c ≠ '<' ∧ c ≠ '[' := by
    intro c hc
    obtain ⟨d, hd, rfl⟩ := chars_of_mem_splitUrl ht hc
    have := List.any_eq_false.mp hu d hd
    simp only [isMark, Bool.or_eq_true, beq_iff_eq, not_or] at this
    refine ⟨fun h => this.1.1.1 ?_, fun h => this.1.2 ?_⟩
    · exact (toLower_eq_iff (by decide) (by decide)).mp h
    · exact (toLower_eq_iff (by decide) (by decide)).mp h
  unfold isFuzzy
  cases h : t.data with
  | nil => rfl
  | cons c cs =>
    have := hmark c (h ▸ List.mem_cons_self _ _)
    simp [this.1, this.2]

/-! ## `decodeUri` -/

/-- The loop of `decodeUri` before lower-casing. A `%` skips the two characters after it and appends
`ch`, which is never assigned, since the `lexical_cast` result is discarded: every escape decodes to
`'\0'`. -/
def decodeChars : List Char → List Char
  | '%' :: _ :: _ :: rest => '\x00' :: decodeChars rest
  | '%' :: _ => ['\x00']
  | '+' :: rest => ' ' :: decodeChars rest
  | c :: rest => c :: decodeChars rest
  | [] => []

/-- `decodeUri`. -/
def decodeUri (url : String) : String := toLower ⟨decodeChars url.data⟩

/-- `url.find("..") != npos`. -/
def hasDotDot : List Char → Bool
  | '.' :: '.' :: _ => true
  | _ :: cs => hasDotDot cs
  | [] => false

theorem hasDotDot_cons (c : Char) (cs : List Char) :
    hasDotDot (c :: cs) = (c == '.' && cs.head? == some '.' || hasDotDot cs) := by
  match c, cs with
  | '.', '.' :: _ => simp [hasDotDot]
  | c, [] => simp [hasDotDot]
  | c, d :: ds =>
    by_cases hc : c = '.' <;> by_cases hd : d = '.' <;> simp_all [hasDotDot]

theorem hasDotDot_iff (s : List Char) : hasDotDot s = true ↔ ['.', '.'] <:+: s := by
  induction s with
  | nil => simp [hasDotDot]
  | cons c cs ih =>
    rw [hasDotDot_cons, List.infix_cons_iff, ← ih]
    cases cs <;> simp [List.cons_prefix_cons, @eq_comm _ '.']

theorem hasDotDot_map_toLower (s : List Char) : hasDotDot (s.map Char.toLower) = hasDotDot s := by
  have hdot : ∀ c : Char, c.toLower = '.' ↔ c = '.' := fun c => toLower_eq_iff (by decide) (by decide)
  induction s with
  | nil => rfl
  | cons c cs ih =>
    rw [List.map_cons, hasDotDot_cons, hasDotDot_cons, ih, Bool.eq_iff_iff]
    cases cs <;> simp [hdot]

theorem head_decodeChars {s : List Char} (h : (decodeChars s).head? = some '.') : s.head? = some '.' := by
  induction s using decodeChars.induct <;> simp_all [decodeChars]

theorem hasDotDot_decodeChars {s : List Char} (h : hasDotDot s = false) : hasDotDot (decodeChars s) = false := by
  induction s using decodeChars.induct with
  | case1 a b rest ih => simp_all [decodeChars, hasDotDot_cons]
  | case2 rest h₁ => simp [decodeChars, hasDotDot]
  | case3 rest ih => simp_all [decodeChars, hasDotDot_cons]
  | case4 c rest h₁ h₂ h₃ ih =>
    rw [hasDotDot_cons, Bool.or_eq_false_iff] at h
    rw [decodeChars.eq_4 c rest h₁ h₂ h₃, hasDotDot_cons, ih h.2, Bool.or_false]
    cases hc : (decodeChars rest).head? with
    | none => simp
    | some d =>
      by_cases hd : d = '.'
      · subst hd; simp_all [head_decodeChars hc]
      · simp [hd]
  | case5 => rfl

/-- Decoding never creates a `..`. -/
theorem hasDotDot_decodeUri {url : String} (h : hasDotDot url.data = false) :
    hasDotDot (decodeUri url).data = false := by
  simpa [decodeUri, hasDotDot_map_toLower] using hasDotDot_decodeChars h

theorem head_decodeUri {url : String} {cs : List Char} (h : url.data = '/' :: cs) :
    ∃ ds, (decodeUri url).data = '/' :: ds := by
  simp [decodeUri, h, decodeChars, Char.toLower]

/-! ## Percent-decoding -/

/-- The value of a hexadecimal digit. -/
def hexValue (c : Char) : Option Nat :=
  if '0' ≤ c ∧ c ≤ '9' then some (c.toNat - '0'.toNat)
  else if 'a' ≤ c ∧ c ≤ 'f' then some (c.toNat - 'a'.toNat + 10)
  else if 'A' ≤ c ∧ c ≤ 'F' then some (c.toNat - 'A'.toNat + 10)
  else none

/-- Percent-decoding: `%HH` is the byte `0xHH`, `+` a space, every other character itself; `none` when a `%` is not
followed by two hexadecimal digits. -/
def percentDecode : List Char → Option (List Char)
  | '%' :: h :: l :: rest => do
    let a ← hexValue h
    let b ← hexValue l
    let d ← percentDecode rest
    pure (Char.ofNat (16 * a + b) :: d)
  | '%' :: _ => none
  | '+' :: rest => (percentDecode rest).map (' ' :: ·)
  | c :: rest => (percentDecode rest).map (c :: ·)
  | [] => some []

/-- With no `%` in the input, `decodeUri`'s loop is percent-decoding. -/
theorem percentDecode_of_no_escape : ∀ {s : List Char}, '%' ∉ s → percentDecode s = some (decodeChars s)
  | [], _ => rfl
  | c :: rest, h => by
    simp only [List.mem_cons, not_or] at h
    have ih := percentDecode_of_no_escape h.2
    have hc : c ≠ '%' := Ne.symm h.1
    by_cases hp : c = '+'
    · subst hp; simp [decodeChars, percentDecode, ih]
    · simp [decodeChars, percentDecode, hc, hp, ih]

theorem decodeUri_eq_of_no_escape {url : String} (h : '%' ∉ url.data) :
    (percentDecode url.data).map (fun d => toLower ⟨d⟩) = some (decodeUri url) := by
  rw [percentDecode_of_no_escape h]
  rfl

theorem decodeUri_eq_of_no_escape_plus :
    '%' ∉ "/Docs/A+B".data ∧
      (percentDecode "/Docs/A+B".data).map (fun d => toLower ⟨d⟩) = some (decodeUri "/Docs/A+B") :=
  ⟨by decide, decodeUri_eq_of_no_escape (by decide)⟩

/-- `/a%41` percent-decodes to `/aA`, lower-cased `/aa`; `decodeUri` gives `/a` and a `'\0'`, since it discards
the result of `lexical_cast`. -/
theorem decodeUri_drops_escapes :
    (percentDecode "/a%41".data).map (fun d => (toLower ⟨d⟩).data) = some ['/', 'a', 'a'] ∧
      (decodeUri "/a%41").data = ['/', 'a', '\x00'] := by
  decide

/-! ## `catPath` -/

/-- `catPath`. -/
def catPath (base path : String) : String :=
  if base.data = [] then path
  else if base.data.getLast? = some '/' then ⟨base.data.dropLast ++ path.data⟩
  else ⟨base.data ++ path.data⟩

/-- The result is the root with at most one trailing `/` removed, then the path. -/
theorem catPath_eq (base path : String) :
    ∃ root, (root = base.data ∨ root ++ ['/'] = base.data) ∧ (catPath base path).data = root ++ path.data := by
  unfold catPath
  split
  · exact ⟨[], Or.inl (by simp_all), rfl⟩
  · split <;> rename_i h
    · exact ⟨base.data.dropLast, Or.inr (List.dropLast_append_getLast? '/' h), rfl⟩
    · exact ⟨base.data, Or.inl rfl, rfl⟩

/-! ## Lexicographic order -/

/-- `std::lexicographical_compare` under a strict order `lt`. -/
def lexLt {α : Type} (lt : α → α → Bool) : List α → List α → Bool
  | [], [] => false
  | [], _ :: _ => true
  | _ :: _, [] => false
  | a :: as, b :: bs => lt a b || !lt b a && lexLt lt as bs

/-- A strict total order given as a boolean test. -/
structure StrictTotal {α : Type} (lt : α → α → Bool) : Prop where
  irrefl : ∀ a, lt a a = false
  trans : ∀ a b c, lt a b → lt b c → lt a c
  total : ∀ a b, a ≠ b → lt a b ∨ lt b a

section Lex
variable {α : Type} {lt : α → α → Bool}

theorem StrictTotal.lt_or_eq (h : StrictTotal lt) {a b : α} (hba : lt b a = false) :
    lt a b = true ∨ a = b := by
  by_cases hab : a = b
  · exact Or.inr hab
  · rcases h.total a b hab with h' | h' <;> simp_all

theorem StrictTotal.eq_of_not_lt (h : StrictTotal lt) {a b : α} (h₁ : lt a b = false) (h₂ : lt b a = false) :
    a = b :=
  (h.lt_or_eq h₂).resolve_left (by simp [h₁])

theorem StrictTotal.lt_of_lt_of_not_lt (h : StrictTotal lt) {a b c : α} (hab : lt a b) (hcb : lt c b = false) :
    lt a c := by
  rcases h.lt_or_eq hcb with h' | rfl
  · exact h.trans _ _ _ hab h'
  · exact hab

theorem StrictTotal.lt_of_not_lt_of_lt (h : StrictTotal lt) {a b c : α} (hba : lt b a = false) (hbc : lt b c) :
    lt a c := by
  rcases h.lt_or_eq hba with h' | rfl
  · exact h.trans _ _ _ h' hbc
  · exact hbc

theorem StrictTotal.lexLt (h : StrictTotal lt) : StrictTotal (lexLt lt) where
  irrefl a := by
    induction a with
    | nil => rfl
    | cons x xs ih => simp [AsulaHttp.lexLt, h.irrefl, ih]
  trans a := by
    induction a with
    | nil => intro b c; cases b <;> cases c <;> simp [AsulaHttp.lexLt]
    | cons x xs ih =>
      intro b c hab hbc
      cases b with
      | nil => simp [AsulaHttp.lexLt] at hab
      | cons y ys =>
        cases c with
        | nil => simp [AsulaHttp.lexLt] at hbc
        | cons z zs =>
          simp only [AsulaHttp.lexLt, Bool.or_eq_true, Bool.and_eq_true, Bool.not_eq_true'] at hab hbc ⊢
          rcases hab with hxy | ⟨hyx, hxs⟩
          · rcases hbc with hyz | ⟨hzy, -⟩
            · exact Or.inl (h.trans _ _ _ hxy hyz)
            · exact Or.inl (h.lt_of_lt_of_not_lt hxy hzy)
          · rcases hbc with hyz | ⟨hzy, hys⟩
            · exact Or.inl (h.lt_of_not_lt_of_lt hyx hyz)
            · rcases h.lt_or_eq hyx with hxy | rfl
              · exact Or.inl (h.lt_of_lt_of_not_lt hxy hzy)
              · exact Or.inr ⟨hzy, ih _ _ hxs hys⟩
  total a := by
    induction a with
    | nil => intro b hb; cases b <;> simp_all [AsulaHttp.lexLt]
    | cons x xs ih =>
      intro b hb
      cases b with
      | nil => simp [AsulaHttp.lexLt]
      | cons y ys =>
        simp only [AsulaHttp.lexLt, Bool.or_eq_true, Bool.and_eq_true, Bool.not_eq_true']
        by_cases hxy : x = y
        · subst hxy
          have : xs ≠ ys := fun e => hb (e ▸ rfl)
          simpa [h.irrefl] using ih ys this
        · rcases h.total x y hxy with h' | h' <;> simp [h']

end Lex

/-- `std::string::operator<`: byte-wise lexicographic order. -/
def strLt (a b : String) : Bool := lexLt (fun x y => decide (x < y)) a.data b.data

theorem strLt_strictTotal : StrictTotal strLt := by
  have hc : StrictTotal (fun x y : Char => decide (x < y)) :=
    ⟨fun a => by simp, fun a b c h₁ h₂ => by simpa using Char.lt_trans (by simpa using h₁) (by simpa using h₂),
      fun a b h => by rcases lt_or_gt_of_ne h with h' | h' <;> simp [h']⟩
  have hl := hc.lexLt
  exact ⟨fun a => hl.irrefl a.data, fun a b c => hl.trans a.data b.data c.data,
    fun a b h => hl.total a.data b.data (fun e => h (String.ext e))⟩

/-! ## `std::map<std::string, std::string>` -/

/-- `m[k] = v` on a `std::map<std::string, std::string>`, kept as its pairs in key order. -/
def mapSet : List (String × String) → String → String → List (String × String)
  | [], k, v => [(k, v)]
  | (k', v') :: m, k, v =>
    if k = k' then (k, v) :: m
    else if strLt k k' then (k, v) :: (k', v') :: m
    else (k', v') :: mapSet m k v

theorem lookup_cons_ite {a b k : String} {es : List (String × String)} :
    ((a, b) :: es).lookup k = if k = a then some b else es.lookup k := by
  by_cases h : k = a
  · subst h; simp
  · simp [List.lookup_cons, beq_eq_false_iff_ne.mpr h, h]

theorem lookup_mapSet (m : List (String × String)) (k v k' : String) :
    (mapSet m k v).lookup k' = if k' = k then some v else m.lookup k' := by
  induction m with
  | nil => simp [mapSet, lookup_cons_ite]
  | cons q m ih =>
    obtain ⟨k₀, v₀⟩ := q
    unfold mapSet
    by_cases h₁ : k = k₀
    · subst h₁; by_cases h : k' = k <;> simp [lookup_cons_ite, h]
    · by_cases h₂ : strLt k k₀ <;> by_cases h : k' = k <;> by_cases h' : k' = k₀ <;>
        simp_all [lookup_cons_ite]

/-! ### A `std::map` stays sorted -/

/-- A `std::map<std::string, std::string>` as a list: keys strictly ascending in `std::string` order. -/
def KeysSorted (m : List (String × String)) : Prop := (m.map Prod.fst).Pairwise (fun a b => strLt a b = true)

theorem keysSorted_nil : KeysSorted [] := List.Pairwise.nil

theorem mem_keys_mapSet {m : List (String × String)} {k v x : String} (hx : x ∈ (mapSet m k v).map Prod.fst) :
    x = k ∨ x ∈ m.map Prod.fst := by
  induction m with
  | nil => simp_all [mapSet]
  | cons q m ih =>
    obtain ⟨k', v'⟩ := q
    unfold mapSet at hx
    split at hx
    · simp_all
    · split at hx
      · simp_all
      · simp only [List.map_cons, List.mem_cons] at hx ⊢
        rcases hx with rfl | hx
        · exact .inr (.inl rfl)
        · rcases ih hx with h | h
          · exact .inl h
          · exact .inr (.inr h)

theorem keysSorted_mapSet {m : List (String × String)} (h : KeysSorted m) (k v : String) :
    KeysSorted (mapSet m k v) := by
  induction m with
  | nil => simp [KeysSorted, mapSet]
  | cons q m ih =>
    obtain ⟨k', v'⟩ := q
    simp only [KeysSorted, List.map_cons, List.pairwise_cons] at h
    unfold mapSet
    split
    · subst_vars; simpa [KeysSorted] using h
    · split <;> rename_i hne hlt
      · simp only [KeysSorted, List.map_cons, List.pairwise_cons, List.mem_cons, forall_eq_or_imp]
        exact ⟨⟨hlt, fun x hx => strLt_strictTotal.trans _ _ _ hlt (h.1 x hx)⟩, h⟩
      · have hk : strLt k' k = true := (strLt_strictTotal.total k k' hne).resolve_left hlt
        simp only [KeysSorted, List.map_cons, List.pairwise_cons]
        refine ⟨fun x hx => ?_, ih h.2⟩
        rcases mem_keys_mapSet hx with rfl | hx
        · exact hk
        · exact h.1 x hx

/-- In a sorted map no key repeats, so replaying its pairs from the last one finds the same values. -/
theorem lookup_reverse_of_keysSorted {m : List (String × String)} (h : KeysSorted m) (k : String) :
    m.reverse.lookup k = m.lookup k := by
  induction m with
  | nil => rfl
  | cons q m ih =>
    obtain ⟨a, b⟩ := q
    simp only [KeysSorted, List.map_cons, List.pairwise_cons] at h
    rw [List.reverse_cons, List.lookup_append, ih h.2, lookup_cons_ite]
    by_cases hk : k = a
    · subst hk
      have hnone : m.lookup k = none := List.lookup_eq_none_iff.mpr fun p hp => bne_iff_ne.mpr fun e => by
        simpa [e, strLt_strictTotal.irrefl] using h.1 p.1 (List.mem_map_of_mem _ hp)
      simp [hnone]
    · simp [lookup_cons_ite, hk]

/-- `std::vector<std::string>::operator<`. -/
def tokensLt : List String → List String → Bool := lexLt strLt

theorem tokensLt_strictTotal : StrictTotal tokensLt := strLt_strictTotal.lexLt

end AsulaHttp
