/-
Formats that several callers share. A caller looks whether a format is kept, compiles it if there is none, and then
keeps what it has compiled unless another caller was faster; between these steps the others may do any number of
theirs. Main statement: in whatever order the steps come, a call is answered with what its specification compiles to,
all calls for one specification are given one object, and what is kept stays (`SharedCache.coherent`). The cache ends as
it would have if the calls had come one after another.
-/
import DocumentaryCredit.Proofs.Computation
import Mathlib.Data.List.Dedup

namespace DocumentaryCredit

/-- A format as an object. Each call that compiles makes an object of its own, which has the number of the call. -/
structure SharedFormat where
  maker : Nat
  format : Format

/-- How far a call has come. -/
inductive Progress where
  | asked
  /-- Nothing was kept when the call looked. -/
  | missed
  | compiled (object : SharedFormat)
  | answered (answer : Except FormatError SharedFormat)

/-- The steps that a call has before it. -/
def Progress.remaining : Progress → Nat
  | asked => 3
  | missed => 2
  | compiled _ => 1
  | answered _ => 0

/-- A call for the format of a specification. A caller that asks again makes another call. -/
structure Call where
  spec : String
  progress : Progress := .asked

/-! ## The steps of a call -/

namespace Call

/-- The format of a specification as an object of call number `i`. -/
def compileAs (i : Nat) (spec : String) : Except FormatError SharedFormat :=
  (Format.compile spec).map (SharedFormat.mk i)

/-- The next step of call number `i`, with the cache after it. -/
def next (c : Call) (i : Nat) (cache : Cache SharedFormat) : Progress × Cache SharedFormat :=
  match c.progress with
  | .asked =>
    match cache.lookup c.spec with
    | some found => (.answered (.ok found), cache)
    | none => (.missed, cache)
  | .missed =>
    match compileAs i c.spec with
    | .ok object => (.compiled object, cache)
    | .error e => (.answered (.error e), cache)
  | .compiled object =>
    let (kept, cache) := cache.keep c.spec object
    (.answered (.ok kept), cache)
  | .answered answer => (.answered answer, cache)

/-- What a call has found out is true. -/
def Sound (c : Call) (i : Nat) (cache : Cache SharedFormat) : Prop :=
  match c.progress with
  | .asked | .missed => True
  | .compiled object => compileAs i c.spec = .ok object
  | .answered (.ok object) => cache.lookup c.spec = some object
  | .answered (.error e) => Format.compile c.spec = .error e

variable {cache : Cache SharedFormat} {c : Call} {i : Nat} {spec : String} {object : SharedFormat}

theorem compileAs_eq_ok_iff :
    compileAs i spec = .ok object ↔ object.maker = i ∧ Format.compile spec = .ok object.format := by
  obtain ⟨maker, format⟩ := object
  simp only [compileAs, Except.map_eq_ok_iff, SharedFormat.mk.injEq]
  constructor
  · rintro ⟨_, h, rfl, rfl⟩
    exact ⟨rfl, h⟩
  · rintro ⟨rfl, h⟩
    exact ⟨_, h, rfl, rfl⟩

theorem compileAs_eq_error_iff {e : FormatError} : compileAs i spec = .error e ↔ Format.compile spec = .error e := by
  unfold compileAs
  cases Format.compile spec <;> simp [Except.map]

theorem remaining_next : (c.next i cache).1.remaining ≤ c.progress.remaining - 1 := by
  unfold next
  split
  · next h => split <;> simp [Progress.remaining, h]
  · next h => split <;> simp [Progress.remaining, h]
  · simp [Progress.remaining]
  · simp [Progress.remaining]

theorem lookup_next (h : cache.lookup spec = some object) : (c.next i cache).2.lookup spec = some object := by
  unfold next
  split
  · split <;> exact h
  · split <;> exact h
  · exact (Cache.keep_snd _ _ _).2 spec object h
  · exact h

/-- Only a call that has compiled a format puts something into the cache. -/
theorem lookup_of_lookup_next (h : (c.next i cache).2.lookup spec = some object) :
    cache.lookup spec = some object ∨ c.spec = spec ∧ c.progress = .compiled object := by
  unfold next at h
  split at h
  · split at h <;> exact .inl h
  · split at h <;> exact .inl h
  · next made hmade =>
    obtain hold | ⟨rfl, rfl⟩ := Cache.lookup_of_lookup_keep h
    · exact .inl hold
    · exact .inr ⟨rfl, hmade⟩
  · exact .inl h

theorem Sound.mono {later : Cache SharedFormat} (h : c.Sound i cache)
    (hlater : ∀ spec object, cache.lookup spec = some object → later.lookup spec = some object) :
    c.Sound i later := by
  unfold Sound at *
  split
  · trivial
  · trivial
  · next hprogress => simpa only [hprogress] using h
  · next hprogress =>
    simp only [hprogress] at h
    exact hlater _ _ h
  · next hprogress => simpa only [hprogress] using h

theorem Sound.next (h : c.Sound i cache) : (⟨c.spec, (c.next i cache).1⟩ : Call).Sound i (c.next i cache).2 := by
  unfold Call.next
  split
  · cases hfound : cache.lookup c.spec with
    | none => trivial
    | some found => exact hfound
  · cases hmade : compileAs i c.spec with
    | error e => exact compileAs_eq_error_iff.1 hmade
    | ok made => exact hmade
  · exact (Cache.keep_snd _ _ _).1
  · next answer hprogress => cases answer <;> simpa only [Sound, hprogress] using h

/-- Three steps in a row are what asking the cache is. -/
theorem exists_next_eq_obtain (spec : String) (i : Nat) (cache : Cache SharedFormat) : ∃ first cache₁ second cache₂,
    (⟨spec, .asked⟩ : Call).next i cache = (first, cache₁) ∧ (⟨spec, first⟩ : Call).next i cache₁ = (second, cache₂) ∧
      (⟨spec, second⟩ : Call).next i cache₂ =
        (.answered (cache.obtain (compileAs i) spec).1, (cache.obtain (compileAs i) spec).2) := by
  cases hfound : cache.lookup spec with
  | some found =>
    refine ⟨.answered (.ok found), cache, .answered (.ok found), cache, ?_, rfl, ?_⟩
    all_goals simp [Call.next, Cache.obtain, hfound]
  | none =>
    cases hmade : compileAs i spec with
    | error e =>
      refine ⟨.missed, cache, .answered (.error e), cache, ?_, ?_, ?_⟩
      all_goals simp [Call.next, Cache.obtain, hfound, hmade]
    | ok object =>
      refine ⟨.missed, cache, .compiled object, cache, ?_, ?_, ?_⟩
      all_goals simp [Call.next, Cache.obtain, hfound, hmade]

end Call

/-! ## Many calls -/

/-- A cache that several callers have, and the calls that have been made to it, in their order. -/
structure SharedCache where
  cache : Cache SharedFormat := {}
  calls : List Call := []

namespace SharedCache

/-- What may happen: a new call is made, or a call takes its next step. -/
inductive Move where
  | call (spec : String)
  | go (i : Nat)
deriving DecidableEq

def step (s : SharedCache) : Move → SharedCache
  | .call spec => { s with calls := s.calls ++ [{ spec }] }
  | .go i =>
    match s.calls[i]? with
    | none => s
    | some c =>
      let (progress, cache) := c.next i s.cache
      ⟨cache, s.calls.set i ⟨c.spec, progress⟩⟩

def run (s : SharedCache) (moves : List Move) : SharedCache := moves.foldl step s

/-- What some moves lead to, at first with nothing kept and no calls. -/
def after (moves : List Move) : SharedCache := run {} moves

/-- The specification whose format a move brings to be kept. -/
def brings? (s : SharedCache) : Move → Option String
  | .call _ => none
  | .go i =>
    match s.calls[i]? with
    | some ⟨spec, .compiled _⟩ => some spec
    | _ => none

/-- The specifications whose formats are brought to be kept, in the order in which that happens. -/
def brought (s : SharedCache) : List Move → List String
  | [] => []
  | move :: moves => (s.brings? move).toList ++ brought (s.step move) moves

/-- What the calls have found out is true, and what is kept was compiled. -/
structure Sound (s : SharedCache) : Prop where
  calls : ∀ i (c : Call), s.calls[i]? = some c → c.Sound i s.cache
  kept : ∀ spec object, s.cache.lookup spec = some object → Format.compile spec = .ok object.format

theorem after_append (moves more : List Move) : after (moves ++ more) = (after moves).run more :=
  List.foldl_append

section Step

variable {s : SharedCache} {m : Move} {i : Nat} {c : Call} {spec : String} {object : SharedFormat}

theorem step_go (h : s.calls[i]? = some c) :
    s.step (.go i) = ⟨(c.next i s.cache).2, s.calls.set i ⟨c.spec, (c.next i s.cache).1⟩⟩ := by
  simp [step, h]

theorem step_go_of_none (h : s.calls[i]? = none) : s.step (.go i) = s := by
  simp [step, h]

/-- A call changes by its own steps only. -/
theorem calls_step (h : s.calls[i]? = some c) :
    (s.step m).calls[i]? = some (if m = .go i then ⟨c.spec, (c.next i s.cache).1⟩ else c) := by
  have hi : i < s.calls.length := (List.getElem?_eq_some_iff.1 h).1
  cases m with
  | call _ => simpa [step, List.getElem?_append_left hi] using h
  | go j =>
    by_cases hj : j = i
    · subst hj
      simp [step_go h, hi]
    · cases hother : s.calls[j]? with
      | none => simp [step_go_of_none hother, hj, h]
      | some other => simp [step_go hother, List.getElem?_set_ne hj, hj, h]

/-- A call that was not there before a move has not taken a step. -/
theorem progress_of_calls_step (h : (s.step m).calls[i]? = some c) (hnew : s.calls[i]? = none) :
    c.progress = .asked := by
  have hi : s.calls.length ≤ i := List.getElem?_eq_none_iff.1 hnew
  cases m with
  | call spec =>
    simp only [step, List.getElem?_append_right hi, List.getElem?_singleton] at h
    split at h
    · cases h
      rfl
    · cases h
  | go j =>
    have hlength : (s.step (.go j)).calls.length = s.calls.length := by
      cases hj : s.calls[j]? <;> simp [step, hj]
    have hlt := (List.getElem?_eq_some_iff.1 h).1
    omega

theorem lookup_step (h : s.cache.lookup spec = some object) : (s.step m).cache.lookup spec = some object := by
  cases m with
  | call _ => exact h
  | go i =>
    cases hi : s.calls[i]? with
    | none => rwa [step_go_of_none hi]
    | some c =>
      rw [step_go hi]
      exact c.lookup_next h

theorem brings?_eq_some_iff :
    s.brings? m = some spec ↔ ∃ i object, m = .go i ∧ s.calls[i]? = some ⟨spec, .compiled object⟩ := by
  cases m with
  | call _ => simp [brings?]
  | go i =>
    simp only [brings?]
    split
    · next h => simp [h]
    · next h =>
      simp only [reduceCtorEq, false_iff, not_exists, not_and]
      rintro i object hi
      cases hi
      exact h spec object

/-- What is kept after a move was kept before it, or is what the move brings. -/
theorem lookup_of_lookup_step (h : (s.step m).cache.lookup spec = some object) :
    s.cache.lookup spec = some object ∨ ∃ i, m = .go i ∧ s.calls[i]? = some ⟨spec, .compiled object⟩ := by
  cases m with
  | call _ => exact .inl h
  | go i =>
    cases hi : s.calls[i]? with
    | none =>
      rw [step_go_of_none hi] at h
      exact .inl h
    | some c =>
      rw [step_go hi] at h
      obtain ⟨spec', progress⟩ := c
      rcases Call.lookup_of_lookup_next h with hold | ⟨rfl, rfl⟩
      · exact .inl hold
      · exact .inr ⟨i, rfl, hi⟩

theorem isSome_lookup_step : ((s.step m).cache.lookup spec).isSome = true ↔
    (s.cache.lookup spec).isSome = true ∨ s.brings? m = some spec := by
  simp only [Option.isSome_iff_exists, brings?_eq_some_iff]
  constructor
  · rintro ⟨object, h⟩
    rcases lookup_of_lookup_step h with hold | ⟨i, hm, hi⟩
    · exact .inl ⟨object, hold⟩
    · exact .inr ⟨i, object, hm, hi⟩
  · rintro (⟨object, h⟩ | ⟨i, object, rfl, hi⟩)
    · exact ⟨object, lookup_step h⟩
    · rw [step_go hi]
      exact ⟨_, (Cache.keep_snd _ _ _).1⟩

theorem Sound.step (h : s.Sound) (m : Move) : (s.step m).Sound where
  calls i c hi := by
    cases hold : s.calls[i]? with
    | none => simp [Call.Sound, progress_of_calls_step hi hold]
    | some old =>
      have hsound := h.calls i old hold
      rw [calls_step hold, Option.some.injEq] at hi
      subst hi
      -- the call that has moved, and the others, for which the cache has only grown
      split
      · next hm =>
        subst hm
        rw [step_go hold]
        exact hsound.next
      · exact hsound.mono fun _ _ => lookup_step
  kept spec object hobject := by
    rcases lookup_of_lookup_step hobject with hold | ⟨i, -, hi⟩
    · exact h.kept spec object hold
    · have hmade := h.calls i _ hi
      exact (Call.compileAs_eq_ok_iff.1 hmade).2

/-- What is brought to be kept has been compiled. -/
theorem Sound.exists_compile (h : s.Sound) (hm : s.brings? m = some spec) :
    ∃ format, Format.compile spec = .ok format := by
  obtain ⟨i, object, -, hi⟩ := brings?_eq_some_iff.1 hm
  have hmade := h.calls i _ hi
  exact ⟨object.format, (Call.compileAs_eq_ok_iff.1 hmade).2⟩

end Step

/-! ## Any number of moves -/

section Run

variable {s : SharedCache} {moves : List Move} {i : Nat} {c : Call} {spec : String} {object : SharedFormat}

theorem Sound.run (h : s.Sound) (moves : List Move) : (s.run moves).Sound := by
  induction moves generalizing s with
  | nil => exact h
  | cons m moves ih => exact ih (h.step m)

theorem sound_empty : Sound {} where
  calls i c h := by simp at h
  kept spec object h := by cases h

theorem sound_after (moves : List Move) : (after moves).Sound := sound_empty.run moves

theorem lookup_run (h : s.cache.lookup spec = some object) : (s.run moves).cache.lookup spec = some object := by
  induction moves generalizing s with
  | nil => exact h
  | cons m moves ih => exact ih (lookup_step h)

/-- A call comes nearer to its answer by each step of its own. -/
theorem exists_calls_run (h : s.calls[i]? = some c) : ∃ progress, (s.run moves).calls[i]? = some ⟨c.spec, progress⟩ ∧
    progress.remaining ≤ c.progress.remaining - moves.count (.go i) := by
  induction moves generalizing s c with
  | nil => exact ⟨c.progress, h, by simp⟩
  | cons m moves ih =>
    have hnext := calls_step (m := m) h
    obtain ⟨progress, hprogress, hle⟩ := ih hnext
    have hremaining : (c.next i s.cache).1.remaining ≤ c.progress.remaining - 1 := c.remaining_next
    -- only a step of its own takes the call on
    by_cases hm : m = .go i
    · subst hm
      rw [if_pos rfl] at hprogress hle
      refine ⟨progress, hprogress, ?_⟩
      replace hle : progress.remaining ≤ (c.next i s.cache).1.remaining - moves.count (.go i) := hle
      rw [List.count_cons_self]
      omega
    · rw [if_neg hm] at hprogress hle
      refine ⟨progress, hprogress, ?_⟩
      rw [List.count_cons_of_ne hm]
      exact hle

theorem calls_run_of_answered {answer : Except FormatError SharedFormat}
    (h : s.calls[i]? = some ⟨spec, .answered answer⟩) : (s.run moves).calls[i]? = some ⟨spec, .answered answer⟩ := by
  induction moves generalizing s with
  | nil => exact h
  | cons m moves ih =>
    refine ih ((calls_step h).trans ?_)
    by_cases hm : m = .go i <;> simp [hm, Call.next]

theorem isSome_lookup_run : ((s.run moves).cache.lookup spec).isSome = true ↔
    (s.cache.lookup spec).isSome = true ∨ spec ∈ s.brought moves := by
  induction moves generalizing s with
  | nil => simp [run, brought]
  | cons m moves ih =>
    have hstep : ((s.run (m :: moves)).cache.lookup spec).isSome = true ↔
        ((s.step m).cache.lookup spec).isSome = true ∨ spec ∈ (s.step m).brought moves := ih
    rw [hstep, isSome_lookup_step, brought, List.mem_append, Option.mem_toList, or_assoc]

theorem Sound.exists_compile_of_mem (h : s.Sound) (hspec : spec ∈ s.brought moves) :
    ∃ format, Format.compile spec = .ok format := by
  induction moves generalizing s with
  | nil => simp [brought] at hspec
  | cons m moves ih =>
    rw [brought, List.mem_append, Option.mem_toList] at hspec
    rcases hspec with hm | hlater
    · exact h.exists_compile hm
    · exact ih (h.step m) hlater

theorem run_go {cache cache' : Cache SharedFormat} {calls : List Call} {progress progress' : Progress}
    (hi : i < calls.length) (h : (⟨spec, progress⟩ : Call).next i cache = (progress', cache')) :
    run ⟨cache, calls.set i ⟨spec, progress⟩⟩ (.go i :: moves) =
      run ⟨cache', calls.set i ⟨spec, progress'⟩⟩ moves := by
  simp [run, step, hi, h]

/-- A call that nothing comes between does what asking the cache does. -/
theorem obtain_eq (h : s.calls[i]? = some ⟨spec, .asked⟩) : ∃ answer,
    (s.run [.go i, .go i, .go i]).calls[i]? = some ⟨spec, .answered answer⟩ ∧
      s.cache.obtain (Call.compileAs i) spec = (answer, (s.run [.go i, .go i, .go i]).cache) := by
  obtain ⟨hi, hcall⟩ := List.getElem?_eq_some_iff.1 h
  obtain ⟨first, cache₁, second, cache₂, h₁, h₂, h₃⟩ := Call.exists_next_eq_obtain spec i s.cache
  have hs : s = ⟨s.cache, s.calls.set i ⟨spec, .asked⟩⟩ := by rw [← hcall, List.set_getElem_self]
  have hrun : s.run [.go i, .go i, .go i] = ⟨(s.cache.obtain (Call.compileAs i) spec).2,
      s.calls.set i ⟨spec, .answered (s.cache.obtain (Call.compileAs i) spec).1⟩⟩ := by
    calc s.run [.go i, .go i, .go i]
      _ = run ⟨s.cache, s.calls.set i ⟨spec, .asked⟩⟩ [.go i, .go i, .go i] := by rw [← hs]
      _ = run ⟨cache₁, s.calls.set i ⟨spec, first⟩⟩ [.go i, .go i] := run_go hi h₁
      _ = run ⟨cache₂, s.calls.set i ⟨spec, second⟩⟩ [.go i] := run_go hi h₂
      _ = _ := run_go hi h₃
  exact ⟨_, by rw [hrun, List.getElem?_set_self hi], by rw [hrun]⟩

end Run

/-! ## One call after another -/

/-- The formats that are kept when calls come one after another. -/
def serially (cache : FormatCache) (specs : List String) : FormatCache :=
  specs.foldl (fun cache spec => (cache.getOrCompile spec).2) cache

theorem isSome_lookup_getOrCompile (cache : FormatCache) (spec other : String) :
    ((cache.getOrCompile spec).2.lookup other).isSome = true ↔
      (cache.lookup other).isSome = true ∨ other = spec ∧ ∃ format, Format.compile spec = .ok format := by
  unfold FormatCache.getOrCompile Cache.obtain
  cases hfound : cache.lookup spec with
  | some found =>
    refine ⟨.inl, fun h => h.elim id ?_⟩
    rintro ⟨rfl, -⟩
    simp [hfound]
  | none =>
    cases hmade : Format.compile spec with
    | error e => simp
    | ok made =>
      have hkept : (Cache.keep cache spec made).2.lookup other =
          if other = spec then some made else cache.lookup other := by
        simp only [Cache.keep, hfound]
        exact TextMap.get?_insert ..
      simp only [hkept]
      by_cases hother : other = spec <;> simp [hother]

theorem serially_reachable {cache : FormatCache} (h : cache.Reachable) (specs : List String) :
    (serially cache specs).Reachable := by
  induction specs generalizing cache with
  | nil => exact h
  | cons spec specs ih => exact ih (h.getOrCompile spec).2

theorem isSome_lookup_serially {specs : List String}
    (hspecs : ∀ spec ∈ specs, ∃ format, Format.compile spec = .ok format) (cache : FormatCache) (spec : String) :
    ((serially cache specs).lookup spec).isSome = true ↔ (cache.lookup spec).isSome = true ∨ spec ∈ specs := by
  induction specs generalizing cache with
  | nil => simp [serially]
  | cons first specs ih =>
    have hrest := ih (fun s hs => hspecs s (List.mem_cons_of_mem _ hs)) (cache.getOrCompile first).2
    have hfirst := hspecs first List.mem_cons_self
    have hcons : serially cache (first :: specs) = serially (cache.getOrCompile first).2 specs := rfl
    rw [hcons, hrest, isSome_lookup_getOrCompile, List.mem_cons, or_assoc, and_iff_left hfirst]

/-! ## All orders of steps -/

section

variable {moves : List Move} {i j : Nat} {c : Call} {spec : String} {a b : SharedFormat}

theorem isSome_lookup_after : ((after moves).cache.lookup spec).isSome = true ↔ spec ∈ brought {} moves := by
  have hstart : (({} : SharedCache).cache.lookup spec).isSome = false := rfl
  have hrun : ((after moves).cache.lookup spec).isSome = true ↔ _ := isSome_lookup_run (s := {})
  rw [hrun, hstart]
  simp

/-- What is kept does not depend on how the steps of the calls came between one another. -/
theorem lookup_serially (moves : List Move) (spec : String) :
    (serially {} (brought {} moves)).lookup spec = ((after moves).cache.lookup spec).map (·.format) := by
  have hmade : ∀ spec ∈ brought {} moves, ∃ format, Format.compile spec = .ok format := fun _ hspec =>
    sound_empty.exists_compile_of_mem hspec
  -- the same specifications are kept, and for each of them what it compiles to
  have hserial : ((serially {} (brought {} moves)).lookup spec).isSome = true ↔
      ((after moves).cache.lookup spec).isSome = true := by
    have hstart : (({} : FormatCache).lookup spec).isSome = false := rfl
    rw [isSome_lookup_serially hmade, isSome_lookup_after, hstart]
    simp
  cases hkept : (after moves).cache.lookup spec with
  | none =>
    rw [hkept] at hserial
    simpa using hserial
  | some object =>
    obtain ⟨format, hformat⟩ := Option.isSome_iff_exists.1 (hserial.2 (by simp [hkept]))
    have hcompiled := (serially_reachable .empty _).compile_eq hformat
    rw [(sound_after moves).kept spec object hkept] at hcompiled
    cases hcompiled
    exact hformat

theorem size_cache_after (moves : List Move) : (after moves).cache.size = (brought {} moves).dedup.length := by
  refine TextMap.size_eq_length (List.nodup_dedup _) fun spec => ?_
  rw [TextMap.mem_keys_iff, ← Option.isSome_iff_exists, List.mem_dedup, ← isSome_lookup_after]
  rfl

theorem answer_eq {answer : Except FormatError SharedFormat}
    (h : (after moves).calls[i]? = some ⟨spec, .answered answer⟩) : answer.map (·.format) = Format.compile spec := by
  have hsound := sound_after moves
  cases answer with
  | error e =>
    have hfailed : Format.compile spec = .error e := hsound.calls i _ h
    exact hfailed.symm
  | ok object => exact (hsound.kept spec object (hsound.calls i _ h)).symm

theorem lookup_of_answered {object : SharedFormat}
    (h : (after moves).calls[i]? = some ⟨spec, .answered (.ok object)⟩) :
    (after moves).cache.lookup spec = some object :=
  (sound_after moves).calls i _ h

/-- What all callers of a cache can rely on after any moves. -/
structure Coherent (moves : List Move) : Prop where
  /-- The answer to a call is what its specification compiles to. -/
  answers (i : Nat) (spec : String) (answer : Except FormatError SharedFormat)
    (h : (after moves).calls[i]? = some ⟨spec, .answered answer⟩) : answer.map (·.format) = Format.compile spec
  /-- A call is answered after three steps of its own, whatever comes between them, and that is the end of it. -/
  returns (i : Nat) (c : Call) (h : (after moves).calls[i]? = some c) (more : List Move)
    (hmore : 3 ≤ more.count (.go i)) : ∃ answer, (after (moves ++ more)).calls[i]? = some ⟨c.spec, .answered answer⟩
  final (i : Nat) (spec : String) (answer : Except FormatError SharedFormat)
    (h : (after moves).calls[i]? = some ⟨spec, .answered answer⟩) (more : List Move) :
    (after (moves ++ more)).calls[i]? = some ⟨spec, .answered answer⟩
  /-- Each call that compiles has an object of its own, but all that are answered are given the same one. -/
  own (i : Nat) (spec : String) (object : SharedFormat)
    (h : (after moves).calls[i]? = some ⟨spec, .compiled object⟩) : object.maker = i
  shared (i j : Nat) (spec : String) (a b : SharedFormat)
    (ha : (after moves).calls[i]? = some ⟨spec, .answered (.ok a)⟩)
    (hb : (after moves).calls[j]? = some ⟨spec, .answered (.ok b)⟩) : a = b
  stored (i : Nat) (spec : String) (object : SharedFormat)
    (h : (after moves).calls[i]? = some ⟨spec, .answered (.ok object)⟩) :
    (after moves).cache.lookup spec = some object
  lasting (spec : String) (object : SharedFormat) (h : (after moves).cache.lookup spec = some object)
    (more : List Move) : (after (moves ++ more)).cache.lookup spec = some object
  /-- What does not compile is not kept. -/
  compiled (spec : String) (object : SharedFormat) (h : (after moves).cache.lookup spec = some object) :
    Format.compile spec = .ok object.format
  size : (after moves).cache.size = (brought {} moves).dedup.length
  /-- The formats that are kept are those that calls one after another keep. -/
  serial (spec : String) :
    (serially {} (brought {} moves)).lookup spec = ((after moves).cache.lookup spec).map (·.format)
  alone (i : Nat) (spec : String) (h : (after moves).calls[i]? = some ⟨spec, .asked⟩) : ∃ answer,
    (after (moves ++ [.go i, .go i, .go i])).calls[i]? = some ⟨spec, .answered answer⟩ ∧
      (after moves).cache.obtain (Call.compileAs i) spec = (answer, (after (moves ++ [.go i, .go i, .go i])).cache)

/-- **Callers that share a cache agree**, however many there are and in whatever order their steps come. -/
theorem coherent (moves : List Move) : Coherent moves where
  answers i spec answer h := answer_eq h
  returns i c h more hmore := by
    obtain ⟨progress, hprogress, hle⟩ : ∃ progress, ((after moves).run more).calls[i]? = some ⟨c.spec, progress⟩ ∧
        progress.remaining ≤ c.progress.remaining - more.count (.go i) := exists_calls_run h
    have hthree : c.progress.remaining ≤ 3 := by cases c.progress <;> simp [Progress.remaining]
    have hnone : progress.remaining = 0 := by omega
    rw [after_append, hprogress]
    cases progress with
    | answered answer => exact ⟨answer, rfl⟩
    | asked | missed | compiled _ => cases hnone
  final i spec answer h more := by
    rw [after_append]
    exact calls_run_of_answered h
  own i spec object h := by
    have hcall := (sound_after moves).calls i _ h
    exact (Call.compileAs_eq_ok_iff.1 hcall).1
  shared i j spec a b ha hb := Option.some.inj ((lookup_of_answered ha).symm.trans (lookup_of_answered hb))
  stored i spec object h := lookup_of_answered h
  lasting spec object h more := by
    rw [after_append]
    exact lookup_run h
  compiled spec object h := (sound_after moves).kept spec object h
  size := size_cache_after moves
  serial := lookup_serially moves
  alone i spec h := by
    rw [after_append]
    exact obtain_eq h

/-- Two callers look before either has compiled; the second keeps its object first, and both are given that one. -/
theorem coherent_race : ∃ object : SharedFormat, object.maker = 1 ∧
    (after [.call "16x", .call "16x", .go 0, .go 1, .go 0, .go 1, .go 1, .go 0]).calls =
      [⟨"16x", .answered (.ok object)⟩, ⟨"16x", .answered (.ok object)⟩] ∧
    (after [.call "16x", .call "16x", .go 0, .go 1, .go 0, .go 1, .go 1, .go 0]).cache.size = 1 := by
  obtain ⟨format, hformat⟩ : ∃ format, Format.compile "16x" = .ok format := by
    have hok : (Format.compile "16x").toOption.isSome = true := by decide +kernel
    obtain ⟨format, h⟩ := Option.isSome_iff_exists.1 hok
    exact ⟨format, Except.toOption_eq_some_iff.1 h⟩
  have hmade (i : Nat) : Call.compileAs i "16x" = .ok ⟨i, format⟩ := Call.compileAs_eq_ok_iff.2 ⟨rfl, hformat⟩
  have hnone : (TextMap.empty : TextMap SharedFormat).get? "16x" = none := rfl
  refine ⟨⟨1, format⟩, rfl, ?_, ?_⟩
  · simp [after, run, step, Call.next, hmade, hnone, Cache.keep, Cache.lookup, TextMap.get?_insert]
  · rw [(coherent _).size]
    simp [brought, brings?, step, Call.next, hmade, hnone, Cache.keep, Cache.lookup]

end

end SharedCache

end DocumentaryCredit
