import Mathlib

/-!
# `AbstractManager<T>`: a list of elements indexed by id and by code

`T` has an `id()`, a `code()` or both; `Keys` says which, and so which overload of `add` and `rmv` compiles. The
state is `ptrs_` with the maps `idToPtrs_` and `codeToPtrs_`.

* `Consistent` : `ptrs_` has no duplicates, and each map the overloads use sends exactly the keys of the listed
  elements to them. It holds from a new manager on over every run whose `add`s pass their `assert`s and whose
  `rmv`s remove a listed element or one whose keys are free (`consistent_run`); then `get` finds an element exactly
  when `list()` holds it (`getId_iff_mem_list`, `getCode_iff_mem_list`).
* `rmv` erases the entries of its argument's keys without asking whose entries they are. Removing an element a
  second time, after another with the same keys was added, takes that other element out of both maps while
  `list()` keeps it (`rmv_stale_erases_entries`).
-/

namespace AsulaHttp

set_option autoImplicit false

/-- Which of `has_id<T>` and `has_code<T>` hold; a `T` with neither has no `add` or `rmv`. -/
inductive Keys where
  | idAndCode
  | idOnly
  | codeOnly
  deriving DecidableEq, Repr

/-- `has_id<T>::value`. -/
def Keys.hasId : Keys → Bool
  | .codeOnly => false
  | _ => true

/-- `has_code<T>::value`. -/
def Keys.hasCode : Keys → Bool
  | .idOnly => false
  | _ => true

theorem Keys.hasId_or_hasCode : ∀ k : Keys, k.hasId = true ∨ k.hasCode = true
  | .idAndCode | .idOnly => .inl rfl
  | .codeOnly => .inr rfl

/-- An element behind a `shared_ptr<T>`: `ptr` is the pointer, `id` and `code` what `t->id()` and `t->code()`
return. A pointer stands for one object, so two elements are the same `shared_ptr` exactly when they are equal. -/
structure Elem where
  ptr : Nat
  id : Int
  code : String
  deriving DecidableEq, Repr

/-- `AbstractManager<T>`'s members; an `unordered_map` is a function into `Option`. -/
structure AbstractManager where
  idToPtrs : Int → Option Elem
  codeToPtrs : String → Option Elem
  ptrs : List Elem

namespace AbstractManager

/-- A new manager. -/
def empty : AbstractManager := ⟨fun _ => none, fun _ => none, []⟩

/-- `add`, the overload `k` selects; `none` is a null pointer. The `assert`s are `addAsserts`. -/
def add (k : Keys) (m : AbstractManager) : Option Elem → AbstractManager
  | none => m
  | some t =>
    { idToPtrs := if k.hasId then Function.update m.idToPtrs t.id (some t) else m.idToPtrs
      codeToPtrs := if k.hasCode then Function.update m.codeToPtrs t.code (some t) else m.codeToPtrs
      ptrs := m.ptrs ++ [t] }

/-- The `assert`s of `add`: the keys the overload uses are absent. -/
def addAsserts (k : Keys) (m : AbstractManager) (t : Elem) : Bool :=
  (!k.hasId || (m.idToPtrs t.id).isNone) && (!k.hasCode || (m.codeToPtrs t.code).isNone)

/-- `rmv`, the overload `k` selects: `ptrs_.remove(t)` drops every copy of `t`, and the entries of `t`'s keys are
erased. -/
def rmv (k : Keys) (m : AbstractManager) : Option Elem → AbstractManager
  | none => m
  | some t =>
    { idToPtrs := if k.hasId then Function.update m.idToPtrs t.id none else m.idToPtrs
      codeToPtrs := if k.hasCode then Function.update m.codeToPtrs t.code none else m.codeToPtrs
      ptrs := m.ptrs.filter (· != t) }

/-- `clear`. -/
def clear (_ : AbstractManager) : AbstractManager := empty

/-- `get(int id)`: `GET_PTR(idToPtrs_, id)`. -/
def getId (m : AbstractManager) (id : Int) : Option Elem := m.idToPtrs id

/-- `get(const std::string& code)`: `GET_PTR(codeToPtrs_, code)`. -/
def getCode (m : AbstractManager) (code : String) : Option Elem := m.codeToPtrs code

/-- `list()`. -/
def list (m : AbstractManager) : List Elem := m.ptrs

/-- A call on the manager. -/
inductive Call where
  | add (t : Option Elem)
  | rmv (t : Option Elem)
  | clear
  deriving DecidableEq, Repr

/-- One call. -/
def call (k : Keys) (m : AbstractManager) : Call → AbstractManager
  | .add t => m.add k t
  | .rmv t => m.rmv k t
  | .clear => m.clear

/-- The manager after the calls `cs`, one after another. -/
def run (k : Keys) (m : AbstractManager) (cs : List Call) : AbstractManager := cs.foldl (call k) m

/-- Every `add` of `cs` passes its `assert`s when it runs. -/
def asserted (k : Keys) : AbstractManager → List Call → Bool
  | _, [] => true
  | m, c :: cs => (match c with | .add (some t) => m.addAsserts k t | _ => true) && asserted k (m.call k c) cs

/-- What a call needs for the maps to stay right: an `add` passes its `assert`s, and an `rmv` removes a listed
element or one whose keys are free. -/
def Safe (k : Keys) (m : AbstractManager) : Call → Prop
  | .add (some t) => m.addAsserts k t = true
  | .rmv (some t) => t ∈ m.ptrs ∨ m.addAsserts k t = true
  | _ => True

/-- Every call of `cs` is `Safe` when it runs. -/
def SafeRun (k : Keys) : AbstractManager → List Call → Prop
  | _, [] => True
  | m, c :: cs => Safe k m c ∧ SafeRun k (m.call k c) cs

/-! ## One map against the list -/

/-- `idx` sends exactly the `key` of each element of `ptrs` to that element. -/
def Indexes {κ : Type} (idx : κ → Option Elem) (key : Elem → κ) (ptrs : List Elem) : Prop :=
  ∀ i e, idx i = some e ↔ e ∈ ptrs ∧ key e = i

section Indexes

variable {κ : Type} {idx : κ → Option Elem} {key : Elem → κ} {ptrs : List Elem} {t : Elem}

theorem Indexes.nil : Indexes (fun _ : κ => none) key [] := by simp [Indexes]

theorem Indexes.not_mem (h : Indexes idx key ptrs) (ht : idx (key t) = none) : t ∉ ptrs :=
  fun hm => by simp [(h _ t).mpr ⟨hm, rfl⟩] at ht

theorem Indexes.push [DecidableEq κ] (h : Indexes idx key ptrs) (ht : idx (key t) = none) :
    Indexes (Function.update idx (key t) (some t)) key (ptrs ++ [t]) := by
  have hfree : ∀ e ∈ ptrs, key e ≠ key t := fun e he hk => by simp [← hk, (h _ e).mpr ⟨he, rfl⟩] at ht
  intro i e
  rw [List.mem_append, List.mem_singleton]
  by_cases hi : i = key t
  · subst hi
    rw [Function.update_same, Option.some.injEq]
    exact ⟨by rintro rfl; exact ⟨.inr rfl, rfl⟩, by rintro ⟨he | rfl, hk⟩; exacts [absurd hk (hfree e he), rfl]⟩
  · rw [Function.update_noteq hi, h]
    exact ⟨fun ⟨he, hk⟩ => ⟨.inl he, hk⟩, by rintro ⟨he | rfl, hk⟩; exacts [⟨he, hk⟩, absurd hk.symm hi]⟩

theorem Indexes.remove [DecidableEq κ] (h : Indexes idx key ptrs) (ht : t ∈ ptrs ∨ idx (key t) = none) :
    Indexes (Function.update idx (key t) none) key (ptrs.filter (· != t)) := by
  have hown : ∀ e ∈ ptrs, key e = key t → e = t := fun e he hk => by
    have he' := (h _ e).mpr ⟨he, hk⟩
    rcases ht with ht | ht
    · exact Option.some.inj (he'.symm.trans ((h _ t).mpr ⟨ht, rfl⟩))
    · simp [ht] at he'
  intro i e
  simp only [List.mem_filter, bne_iff_ne, ne_eq]
  by_cases hi : i = key t
  · subst hi
    rw [Function.update_same]
    exact ⟨fun hn => (nomatch hn), fun ⟨⟨he, hne⟩, hk⟩ => absurd (hown e he hk) hne⟩
  · rw [Function.update_noteq hi, h]
    exact ⟨fun ⟨he, hk⟩ => ⟨⟨he, fun het => hi (het ▸ hk.symm)⟩, hk⟩, fun ⟨⟨he, _⟩, hk⟩ => ⟨he, hk⟩⟩

end Indexes

/-! ## The manager's invariant over whole runs -/

/-- The agreement `AbstractManager` keeps: no element twice, and each map the overloads use indexes the list. -/
structure Consistent (k : Keys) (m : AbstractManager) : Prop where
  nodup : m.ptrs.Nodup
  ids : k.hasId = true → Indexes m.idToPtrs Elem.id m.ptrs
  codes : k.hasCode = true → Indexes m.codeToPtrs Elem.code m.ptrs

section Step

variable {k : Keys} {m : AbstractManager}

theorem consistent_empty : Consistent k empty :=
  ⟨List.nodup_nil, fun _ => Indexes.nil, fun _ => Indexes.nil⟩

theorem addAsserts_iff {t : Elem} : m.addAsserts k t = true ↔
    (k.hasId = true → m.idToPtrs t.id = none) ∧ (k.hasCode = true → m.codeToPtrs t.code = none) := by
  cases k <;> simp [addAsserts, Keys.hasId, Keys.hasCode, Option.isNone_iff_eq_none]

theorem Consistent.add (h : Consistent k m) {t : Elem} (ha : m.addAsserts k t = true) :
    Consistent k (m.add k (some t)) := by
  obtain ⟨hid, hcode⟩ := addAsserts_iff.mp ha
  refine ⟨?_, fun hk => ?_, fun hk => ?_⟩
  · have ht : t ∉ m.ptrs := by
      rcases k.hasId_or_hasCode with hk | hk
      · exact (h.ids hk).not_mem (hid hk)
      · exact (h.codes hk).not_mem (hcode hk)
    exact List.nodup_append.mpr ⟨h.nodup, List.nodup_singleton t, List.disjoint_singleton.mpr ht⟩
  · simpa [AbstractManager.add, hk] using (h.ids hk).push (hid hk)
  · simpa [AbstractManager.add, hk] using (h.codes hk).push (hcode hk)

theorem Consistent.rmv (h : Consistent k m) {t : Elem} (hr : t ∈ m.ptrs ∨ m.addAsserts k t = true) :
    Consistent k (m.rmv k (some t)) := by
  refine ⟨h.nodup.filter _, fun hk => ?_, fun hk => ?_⟩
  · simpa [AbstractManager.rmv, hk] using (h.ids hk).remove (hr.imp_right fun ha => (addAsserts_iff.mp ha).1 hk)
  · simpa [AbstractManager.rmv, hk] using (h.codes hk).remove (hr.imp_right fun ha => (addAsserts_iff.mp ha).2 hk)

theorem Consistent.call (h : Consistent k m) : ∀ {c : Call}, Safe k m c → Consistent k (m.call k c)
  | .add none, _ => h
  | .add (some _), hs => h.add hs
  | .rmv none, _ => h
  | .rmv (some _), hs => h.rmv hs
  | .clear, _ => consistent_empty

/-- A run of safe calls keeps the manager consistent. -/
theorem consistent_run : ∀ {m : AbstractManager} (cs : List Call), Consistent k m → SafeRun k m cs →
    Consistent k (run k m cs)
  | _, [], h, _ => h
  | _, _ :: cs, h, ⟨hc, hcs⟩ => consistent_run cs (h.call hc) hcs

end Step

/-- After safe calls from a new manager, `get(id)` finds an element exactly when `list()` holds it. -/
theorem getId_iff_mem_list {k : Keys} (hk : k.hasId = true) {cs : List Call} (hcs : SafeRun k empty cs)
    (i : Int) (e : Elem) :
    (run k empty cs).getId i = some e ↔ e ∈ (run k empty cs).list ∧ e.id = i :=
  (consistent_run cs consistent_empty hcs).ids hk i e

theorem getId_iff_mem_list_rmv :
    SafeRun .idAndCode empty [.add (some ⟨1, 7, "a"⟩), .add (some ⟨2, 8, "b"⟩), .rmv (some ⟨1, 7, "a"⟩)] ∧
      ((run .idAndCode empty [.add (some ⟨1, 7, "a"⟩), .add (some ⟨2, 8, "b"⟩), .rmv (some ⟨1, 7, "a"⟩)]).getId 8 =
          some ⟨2, 8, "b"⟩ ↔
        ⟨2, 8, "b"⟩ ∈ (run .idAndCode empty
          [.add (some ⟨1, 7, "a"⟩), .add (some ⟨2, 8, "b"⟩), .rmv (some ⟨1, 7, "a"⟩)]).list ∧
          (⟨2, 8, "b"⟩ : Elem).id = 8) :=
  ⟨⟨rfl, rfl, .inl (by decide), trivial⟩, @getId_iff_mem_list .idAndCode rfl
    [.add (some ⟨1, 7, "a"⟩), .add (some ⟨2, 8, "b"⟩), .rmv (some ⟨1, 7, "a"⟩)] ⟨rfl, rfl, .inl (by decide), trivial⟩ 8 _⟩

/-- After safe calls from a new manager, `get(code)` finds an element exactly when `list()` holds it. -/
theorem getCode_iff_mem_list {k : Keys} (hk : k.hasCode = true) {cs : List Call} (hcs : SafeRun k empty cs)
    (c : String) (e : Elem) :
    (run k empty cs).getCode c = some e ↔ e ∈ (run k empty cs).list ∧ e.code = c :=
  (consistent_run cs consistent_empty hcs).codes hk c e

theorem getCode_iff_mem_list_rmv :
    SafeRun .codeOnly empty [.add (some ⟨1, 7, "a"⟩), .add (some ⟨2, 8, "b"⟩), .rmv (some ⟨1, 7, "a"⟩)] ∧
      ((run .codeOnly empty [.add (some ⟨1, 7, "a"⟩), .add (some ⟨2, 8, "b"⟩), .rmv (some ⟨1, 7, "a"⟩)]).getCode "b" =
          some ⟨2, 8, "b"⟩ ↔
        ⟨2, 8, "b"⟩ ∈ (run .codeOnly empty
          [.add (some ⟨1, 7, "a"⟩), .add (some ⟨2, 8, "b"⟩), .rmv (some ⟨1, 7, "a"⟩)]).list ∧
          (⟨2, 8, "b"⟩ : Elem).code = "b") :=
  ⟨⟨rfl, rfl, .inl (by decide), trivial⟩, @getCode_iff_mem_list .codeOnly rfl
    [.add (some ⟨1, 7, "a"⟩), .add (some ⟨2, 8, "b"⟩), .rmv (some ⟨1, 7, "a"⟩)] ⟨rfl, rfl, .inl (by decide), trivial⟩ "b" _⟩

/-! ## Removing an element that is no longer listed -/

/-- `a` is added and removed, and `a'`, with the same id and code, takes its place. Every `add` passes its
`assert`s, yet a second `rmv(a)` leaves `a'` listed while `get(7)` and `get("a")` find nothing. -/
theorem rmv_stale_erases_entries :
    let a : Elem := ⟨1, 7, "a"⟩
    let a' : Elem := ⟨2, 7, "a"⟩
    let cs := [Call.add (some a), Call.rmv (some a), Call.add (some a'), Call.rmv (some a)]
    asserted .idAndCode empty cs = true ∧ (run .idAndCode empty cs).list = [a'] ∧
      (run .idAndCode empty cs).getId 7 = none ∧ (run .idAndCode empty cs).getCode "a" = none := by
  decide

end AbstractManager

end AsulaHttp
