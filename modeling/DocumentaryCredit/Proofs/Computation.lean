/-
Computations that may fail, and computations that compile formats on the way: what a computation that succeeds says
of its steps. The formats compiled so far only grow (`FormatCache.Extends`), and a computation that has succeeded
once gives the same answer with any formats that extend those it left (`Compiling.Settles`). Formats come into a cache
in one way only (`FormatCache.Reachable`), so that each is the one of its specification, and a computation that does
not fail on what its specifications compile to gives its answer whatever was compiled before (`Compiling.Yields`). More
than that, no computation that gets its formats by compiling them answers differently for what was compiled before
(`Compiling.Steady`).
-/
import DocumentaryCredit.Format.Cache
import DocumentaryCredit.Proofs.TextMap
import Mathlib.Data.List.Forall2

namespace DocumentaryCredit

/-! ## Failure -/

theorem Except.bind_eq_ok_iff {ε α β : Type} {x : Except ε α} {f : α → Except ε β} {b : β} :
    (x >>= f) = .ok b ↔ ∃ a, x = .ok a ∧ f a = .ok b := by
  cases x <;> simp [bind, Except.bind]

theorem Except.bind_eq_error_iff {ε α β : Type} {x : Except ε α} {f : α → Except ε β} {e : ε} :
    (x >>= f) = .error e ↔ x = .error e ∨ ∃ a, x = .ok a ∧ f a = .error e := by
  cases x <;> simp [bind, Except.bind]

theorem Except.map_eq_ok_iff {ε α β : Type} {x : Except ε α} {f : α → β} {b : β} :
    x.map f = .ok b ↔ ∃ a, x = .ok a ∧ f a = b := by
  cases x <;> simp [Except.map]

theorem Except.map_eq_error_iff {ε α β : Type} {x : Except ε α} {f : α → β} {e : ε} :
    x.map f = .error e ↔ x = .error e := by
  cases x <;> simp [Except.map]

theorem Except.toOption_eq_some_iff {ε α : Type} {x : Except ε α} {a : α} : x.toOption = some a ↔ x = .ok a := by
  cases x <;> simp [Except.toOption]

theorem Except.exists_of_isOk {ε α : Type} {x : Except ε α} (h : x.isOk = true) : ∃ a, x = .ok a := by
  cases x with
  | ok a => exact ⟨a, rfl⟩
  | error e => cases h

/-- What is made of each element of a list. -/
theorem Except.mapM_eq_ok_iff {ε α β : Type} {f : α → Except ε β} : ∀ {l : List α} {bs : List β},
    l.mapM f = .ok bs ↔ List.Forall₂ (fun a b => f a = .ok b) l bs
  | [], bs => by
    rw [List.mapM_nil, List.forall₂_nil_left_iff]
    exact ⟨fun h => (Except.ok.inj h).symm, fun h => h ▸ rfl⟩
  | a :: l, bs => by
    simp only [List.mapM_cons, Except.bind_eq_ok_iff, Except.mapM_eq_ok_iff, List.forall₂_cons_left_iff]
    constructor
    · rintro ⟨b, hb, rest, hrest, h⟩
      exact ⟨b, rest, hb, hrest, (Except.ok.inj h).symm⟩
    · rintro ⟨b, rest, hb, hrest, rfl⟩
      exact ⟨b, hb, rest, hrest, rfl⟩

theorem exists_of_mem_of_forall₂ {α β : Type} {R : α → β → Prop} {l : List α} {bs : List β} (h : List.Forall₂ R l bs)
    {b : β} (hb : b ∈ bs) : ∃ a ∈ l, R a b := by
  induction h with
  | nil => cases hb
  | cons hab _ ih =>
    rcases List.mem_cons.1 hb with rfl | hb
    · exact ⟨_, by simp, hab⟩
    · obtain ⟨a, ha, hab⟩ := ih hb
      exact ⟨a, List.mem_cons_of_mem _ ha, hab⟩

/-! ## Formats compiled so far -/

/-- The later formats are the earlier ones and perhaps more. -/
def FormatCache.Extends (later earlier : FormatCache) : Prop :=
  ∀ spec format, earlier.lookup spec = some format → later.lookup spec = some format

theorem FormatCache.Extends.refl (cache : FormatCache) : cache.Extends cache := fun _ _ h => h

theorem FormatCache.Extends.trans {a b c : FormatCache} (hba : b.Extends a) (hcb : c.Extends b) : c.Extends a :=
  fun spec format h => hcb spec format (hba spec format h)

/-- A format that is kept is new or was there before, and nothing else changes. -/
theorem Cache.keep_snd {α : Type} (cache : Cache α) (key : String) (value : α) :
    (cache.keep key value).2.lookup key = some (cache.keep key value).1 ∧
      ∀ other found, cache.lookup other = some found → (cache.keep key value).2.lookup other = some found := by
  unfold keep
  split
  · next kept h => exact ⟨h, fun _ _ h => h⟩
  · next h =>
    simp only [lookup, TextMap.get?_insert] at h ⊢
    refine ⟨if_pos trivial, fun other found hfound => ?_⟩
    rw [if_neg, hfound]
    rintro rfl
    rw [h] at hfound
    cases hfound

/-- What is kept afterwards was kept before, or is the value that was to be kept. -/
theorem Cache.lookup_of_lookup_keep {α : Type} {cache : Cache α} {key other : String} {value found : α}
    (h : (cache.keep key value).2.lookup other = some found) :
    cache.lookup other = some found ∨ other = key ∧ found = value := by
  unfold keep at h
  split at h
  · exact .inl h
  · simp only [lookup, TextMap.get?_insert] at h ⊢
    split at h
    · next heq => exact .inr ⟨heq, (Option.some.inj h).symm⟩
    · exact .inl h

/-- The caches of formats that come about: at first nothing is compiled, and then what specifications compile to is
kept, in whatever order and by whomever. -/
inductive FormatCache.Reachable : FormatCache → Prop where
  | empty : Reachable {}
  | keep {cache : FormatCache} {spec : String} {format : Format} (h : cache.Reachable)
      (hmade : Format.compile spec = .ok format) : Reachable (Cache.keep cache spec format).2

/-- What is kept for a specification is what it compiles to. -/
theorem FormatCache.Reachable.compile_eq {cache : FormatCache} (h : cache.Reachable) {spec : String} {format : Format}
    (hfound : cache.lookup spec = some format) : Format.compile spec = .ok format := by
  induction h generalizing spec format with
  | empty => cases hfound
  | keep _ hmade ih =>
    obtain hfound | ⟨rfl, rfl⟩ := Cache.lookup_of_lookup_keep hfound
    · exact ih hfound
    · exact hmade

/-- A format that is asked for is what its specification compiles to, whether it was kept or not. -/
theorem FormatCache.Reachable.getOrCompile {cache : FormatCache} (h : cache.Reachable) (spec : String) :
    (cache.getOrCompile spec).1 = Format.compile spec ∧ (cache.getOrCompile spec).2.Reachable := by
  unfold FormatCache.getOrCompile Cache.obtain
  cases hkept : cache.lookup spec with
  | some kept => exact ⟨(h.compile_eq hkept).symm, h⟩
  | none =>
    cases hmade : Format.compile spec with
    | error e => exact ⟨rfl, h⟩
    | ok made =>
      have hfst : (Cache.keep cache spec made).1 = made := by simp [Cache.keep, hkept]
      exact ⟨congrArg Except.ok hfst, h.keep hmade⟩

namespace Compiling

variable {ε α β : Type}

theorem bind_apply (x : Compiling ε α) (f : α → Compiling ε β) (cache : FormatCache) :
    (x >>= f) cache = match x cache with
      | (.ok a, mid) => f a mid
      | (.error e, mid) => (.error e, mid) := by
  change (match x cache with | (r, mid) => ExceptT.bindCont f r mid) = _
  rcases x cache with ⟨_ | a, mid⟩ <;> rfl

theorem bind_eq_ok_iff {x : Compiling ε α} {f : α → Compiling ε β} {cache cache' : FormatCache} {b : β} :
    (x >>= f) cache = (.ok b, cache') ↔ ∃ a mid, x cache = (.ok a, mid) ∧ f a mid = (.ok b, cache') := by
  rw [bind_apply]
  rcases x cache with ⟨e | a, mid⟩
  · constructor
    · intro h
      cases h
    · rintro ⟨_, _, h, -⟩
      cases h
  · constructor
    · exact fun h => ⟨a, mid, rfl, h⟩
    · rintro ⟨_, _, h, h'⟩
      cases h
      exact h'

theorem pure_eq_ok_iff {a b : α} {cache cache' : FormatCache} :
    (pure a : Compiling ε α) cache = (.ok b, cache') ↔ a = b ∧ cache = cache' := by
  constructor
  · intro h
    cases h
    exact ⟨rfl, rfl⟩
  · rintro ⟨rfl, rfl⟩
    rfl

/-- Once the computation has succeeded, formats that extend the ones it leaves give the same answer. -/
def Settles (x : Compiling ε α) : Prop :=
  ∀ cache cache' a, x cache = (.ok a, cache') →
    cache'.Extends cache ∧ ∀ later : FormatCache, later.Extends cache' → x later = (.ok a, later)

theorem Settles.pure (a : α) : Settles (Pure.pure a : Compiling ε α) := by
  intro cache cache' b h
  obtain ⟨rfl, rfl⟩ := pure_eq_ok_iff.1 h
  exact ⟨.refl _, fun later _ => rfl⟩

theorem Settles.bind {x : Compiling ε α} {f : α → Compiling ε β} (hx : Settles x) (hf : ∀ a, Settles (f a)) :
    Settles (x >>= f) := by
  intro cache cache' b h
  obtain ⟨a, mid, ha, hb⟩ := bind_eq_ok_iff.1 h
  obtain ⟨hmid, hagain⟩ := hx _ _ _ ha
  obtain ⟨hend, hagain'⟩ := hf a _ _ _ hb
  exact ⟨hmid.trans hend, fun later hlater =>
    bind_eq_ok_iff.2 ⟨a, later, hagain later (hend.trans hlater), hagain' later hlater⟩⟩

theorem Settles.mapM {f : α → Compiling ε β} (hf : ∀ a, Settles (f a)) : ∀ l : List α, Settles (l.mapM f)
  | [] => .pure []
  | a :: l => by
    rw [List.mapM_cons]
    exact (hf a).bind fun b => (Settles.mapM hf l).bind fun bs => .pure _

/-- A format that has been compiled is kept. -/
theorem settles_compiling (onError : FormatError → ε) (spec : String) : Settles (compiling onError spec) := by
  have hkept : ∀ (cache : FormatCache) format, cache.lookup spec = some format →
      compiling onError spec cache = (.ok format, cache) := by
    intro cache format h
    simp [compiling, FormatCache.getOrCompile, Cache.obtain, h]
  intro cache cache' format h
  suffices hend : cache'.lookup spec = some format ∧ cache'.Extends cache from
    ⟨hend.2, fun later hlater => hkept later format (hlater spec format hend.1)⟩
  cases hfound : cache.lookup spec with
  | some found =>
    rw [hkept cache found hfound] at h
    cases h
    exact ⟨hfound, .refl _⟩
  | none =>
    have hkeep : ∀ made, (Cache.keep cache spec made).2.lookup spec = some (Cache.keep cache spec made).1 ∧
        FormatCache.Extends (Cache.keep cache spec made).2 cache := fun made => Cache.keep_snd cache spec made
    unfold compiling FormatCache.getOrCompile Cache.obtain at h
    rw [hfound] at h
    cases hmade : Format.compile spec with
    | error e =>
      simp only [hmade] at h
      cases h
    | ok made =>
      simp only [hmade] at h
      cases h
      exact hkeep made

/-- Whatever was compiled before, the computation succeeds, with an answer that has a property. -/
def Yields (x : Compiling ε α) (P : α → Prop) : Prop :=
  ∀ cache : FormatCache, cache.Reachable → ∃ a cache', x cache = (.ok a, cache') ∧ cache'.Reachable ∧ P a

theorem Yields.imp {P Q : α → Prop} {x : Compiling ε α} (hx : Yields x P) (h : ∀ a, P a → Q a) : Yields x Q :=
  fun cache hcache =>
    have ⟨a, cache', ha, hcache', hP⟩ := hx cache hcache
    ⟨a, cache', ha, hcache', h a hP⟩

theorem Yields.pure {P : α → Prop} {a : α} (h : P a) : Yields (Pure.pure a : Compiling ε α) P :=
  fun cache hcache => ⟨a, cache, rfl, hcache, h⟩

theorem Yields.bind {P : α → Prop} {Q : β → Prop} {x : Compiling ε α} {f : α → Compiling ε β} (hx : Yields x P)
    (hf : ∀ a, P a → Yields (f a) Q) : Yields (x >>= f) Q := by
  intro cache hcache
  obtain ⟨a, mid, ha, hmid, hP⟩ := hx cache hcache
  obtain ⟨b, cache', hb, hcache', hQ⟩ := hf a hP mid hmid
  exact ⟨b, cache', bind_eq_ok_iff.2 ⟨a, mid, ha, hb⟩, hcache', hQ⟩

theorem Yields.mapM {R : α → β → Prop} {f : α → Compiling ε β} : ∀ {l : List α},
    (∀ a ∈ l, Yields (f a) (R a)) → Yields (l.mapM f) (List.Forall₂ R l)
  | [], _ => .pure .nil
  | a :: l, hf => by
    rw [List.mapM_cons]
    exact (hf a (by simp)).bind fun b hb =>
      (Yields.mapM fun c hc => hf c (List.mem_cons_of_mem _ hc)).bind fun bs hbs => .pure (.cons hb hbs)

/-- A step compiles what it is given, whether that was compiled before or not. -/
theorem compiling_of_reachable (onError : FormatError → ε) (spec : String) {cache : FormatCache}
    (hcache : cache.Reachable) : (compiling onError spec cache).1 = (Format.compile spec).mapError onError ∧
      (compiling onError spec cache).2.Reachable := by
  obtain ⟨hfst, hsnd⟩ := hcache.getOrCompile spec
  unfold compiling
  rw [← hfst]
  rcases hresult : cache.getOrCompile spec with ⟨_ | found, after⟩ <;> rw [hresult] at hsnd <;> exact ⟨rfl, hsnd⟩

theorem yields_compiling {onError : FormatError → ε} {spec : String} {format : Format}
    (h : Format.compile spec = .ok format) : Yields (compiling onError spec) (· = format) := by
  intro cache hcache
  obtain ⟨hfst, hreachable⟩ := compiling_of_reachable onError spec hcache
  rw [h] at hfst
  exact ⟨format, _, Prod.ext hfst rfl, hreachable, rfl⟩

/-- What a list of computations makes of each element. -/
theorem forall₂_of_mapM {f : α → Compiling ε β} : ∀ {l : List α} {bs : List β} {cache cache' : FormatCache},
    (l.mapM f) cache = (.ok bs, cache') → List.Forall₂ (fun a b => ∃ before after, f a before = (.ok b, after)) l bs
  | [], bs, cache, cache', h => by
    rw [List.mapM_nil] at h
    obtain ⟨rfl, -⟩ := pure_eq_ok_iff.1 h
    exact .nil
  | a :: l, bs, cache, cache', h => by
    rw [List.mapM_cons] at h
    obtain ⟨b, mid, hb, h⟩ := bind_eq_ok_iff.1 h
    obtain ⟨bs', mid', hbs, h⟩ := bind_eq_ok_iff.1 h
    obtain ⟨rfl, -⟩ := pure_eq_ok_iff.1 h
    exact .cons ⟨cache, mid, hb⟩ (forall₂_of_mapM hbs)

/-! ## Computations that do not see what was compiled before -/

/-- The answer is the same whatever was compiled before, and what is compiled comes into the cache as it should. -/
def Steady (x : Compiling ε α) : Prop :=
  ∀ cache : FormatCache, cache.Reachable → (x cache).1 = (x {}).1 ∧ (x cache).2.Reachable

theorem Steady.answer_eq {x : Compiling ε α} (hx : Steady x) {cache cache' : FormatCache} {r : Except ε α}
    (hcache : cache.Reachable) (h : x cache = (r, cache')) : (x {}).1 = r ∧ cache'.Reachable := by
  obtain ⟨hanswer, hreachable⟩ := hx cache hcache
  rw [h] at hanswer hreachable
  exact ⟨hanswer.symm, hreachable⟩

theorem Steady.pure (a : α) : Steady (Pure.pure a : Compiling ε α) := fun _ hcache => ⟨rfl, hcache⟩

theorem Steady.throw (e : ε) : Steady (MonadExcept.throw e : Compiling ε α) := fun _ hcache => ⟨rfl, hcache⟩

theorem Steady.bind {x : Compiling ε α} {f : α → Compiling ε β} (hx : Steady x) (hf : ∀ a, Steady (f a)) :
    Steady (x >>= f) := by
  intro cache hcache
  obtain ⟨hanswer, hmid⟩ := hx cache hcache
  obtain ⟨-, hmid₀⟩ := hx {} .empty
  rw [bind_apply, bind_apply]
  rcases hrun : x cache with ⟨r, mid⟩
  rcases hrun₀ : x {} with ⟨r₀, mid₀⟩
  rw [hrun] at hmid
  rw [hrun₀] at hmid₀
  rw [hrun, hrun₀] at hanswer
  obtain rfl : r = r₀ := hanswer
  cases r with
  | error e => exact ⟨rfl, hmid⟩
  | ok a => exact ⟨((hf a mid hmid).1.trans (hf a mid₀ hmid₀).1.symm), (hf a mid hmid).2⟩

theorem Steady.mapM {f : α → Compiling ε β} (hf : ∀ a, Steady (f a)) : ∀ l : List α, Steady (l.mapM f)
  | [] => .pure []
  | a :: l => by
    rw [List.mapM_cons]
    exact (hf a).bind fun b => (Steady.mapM hf l).bind fun bs => .pure _

theorem steady_compiling (onError : FormatError → ε) (spec : String) : Steady (compiling onError spec) := by
  intro cache hcache
  obtain ⟨hanswer, hreachable⟩ := compiling_of_reachable onError spec hcache
  exact ⟨hanswer.trans (compiling_of_reachable onError spec .empty).1.symm, hreachable⟩

/-- The outcome of a computation, which does not fail when the computation does. -/
def outcome {ε' : Type} (x : Compiling ε α) : Compiling ε' (Except ε α) := fun cache => (.ok (x cache).1, (x cache).2)

theorem Steady.outcome {ε' : Type} {x : Compiling ε α} (hx : Steady x) :
    Steady (Compiling.outcome x : Compiling ε' (Except ε α)) :=
  fun cache hcache => ⟨congrArg Except.ok (hx cache hcache).1, (hx cache hcache).2⟩

/-- A format that has been compiled on the way is what its specification compiles to. -/
theorem compile_eq_of_compiling {onError : FormatError → ε} {spec : String} {format : Format}
    (h : (compiling onError spec {}).1 = .ok format) : Format.compile spec = .ok format := by
  rw [(compiling_of_reachable onError spec .empty).1] at h
  cases hmade : Format.compile spec <;> rw [hmade] at h <;> cases h
  rfl

/-! ## Loops -/

/-- The loop that does a step for each element. -/
abbrev forEach (step : α → Compiling ε β) (l : List α) : Compiling ε PUnit :=
  forIn l PUnit.unit fun a _ => do
    let _ ← step a
    pure (.yield PUnit.unit)

theorem forEach_cons (step : α → Compiling ε β) (a : α) (l : List α) :
    forEach step (a :: l) = step a >>= fun _ => forEach step l := by
  unfold forEach
  rw [List.forIn_cons, bind_assoc]
  simp only [pure_bind]

theorem Steady.forEach {step : α → Compiling ε β} (hstep : ∀ a, Steady (step a)) : ∀ l : List α,
    Steady (forEach step l)
  | [] => .pure _
  | a :: l => by
    rw [forEach_cons]
    exact (hstep a).bind fun _ => Steady.forEach hstep l

/-- A loop that does not fail does each of its steps. -/
theorem exists_of_forEach {step : α → Compiling ε β} (hstep : ∀ a, Steady (step a)) : ∀ {l : List α}
    {cache cache' : FormatCache} {u : PUnit}, cache.Reachable → forEach step l cache = (.ok u, cache') →
      ∀ a ∈ l, ∃ b, (step a {}).1 = .ok b
  | [], _, _, _, _, _, _, ha => absurd ha (by simp)
  | first :: l, cache, cache', u, hcache, h, a, ha => by
    rw [forEach_cons] at h
    obtain ⟨b, mid, hfirst, hrest⟩ := bind_eq_ok_iff.1 h
    obtain ⟨hb, hmid⟩ := (hstep first).answer_eq hcache hfirst
    rcases List.mem_cons.1 ha with rfl | ha
    · exact ⟨b, hb⟩
    · exact exists_of_forEach hstep hmid hrest a ha

/-- A loop whose steps do not fail does not fail. -/
theorem exists_forEach {step : α → Compiling ε β} (hstep : ∀ a, Steady (step a)) : ∀ {l : List α}
    {cache : FormatCache}, cache.Reachable → (∀ a ∈ l, ∃ b, (step a {}).1 = .ok b) →
      ∃ cache', forEach step l cache = (.ok ⟨⟩, cache')
  | [], cache, _, _ => ⟨cache, rfl⟩
  | first :: l, cache, hcache, h => by
    obtain ⟨b, hb⟩ := h first (by simp)
    obtain ⟨hanswer, hmid⟩ := hstep first cache hcache
    obtain ⟨cache', hrest⟩ := exists_forEach hstep (l := l) hmid fun a ha => h a (List.mem_cons_of_mem _ ha)
    refine ⟨cache', ?_⟩
    rw [forEach_cons]
    exact bind_eq_ok_iff.2 ⟨b, _, Prod.ext (hanswer.trans hb) rfl, hrest⟩

end Compiling

end DocumentaryCredit
