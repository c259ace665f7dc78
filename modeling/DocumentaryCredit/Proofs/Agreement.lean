/-
Two runs side by side. They agree when both fail, or both succeed with results that are related; why they fail does not
matter. Steps that agree make runs that agree (`Except.Agree.bind`), also where formats are compiled on the way, each
run with a cache of its own (`Compiling.Agree`).
-/
import DocumentaryCredit.Proofs.Computation

namespace DocumentaryCredit

variable {ε α α' β β' : Type}

/-! ## Computations that may fail -/

/-- Both fail, or both succeed with results that are related. -/
inductive Except.Agree (R : α → α' → Prop) : Except ε α → Except ε α' → Prop where
  | error {e e' : ε} : Agree R (.error e) (.error e')
  | ok {a : α} {a' : α'} (h : R a a') : Agree R (.ok a) (.ok a')

namespace Except.Agree

variable {R : α → α' → Prop} {S : β → β' → Prop} {x : Except ε α} {y : Except ε α'}

theorem bind (h : Except.Agree R x y) {f : α → Except ε β} {g : α' → Except ε β'}
    (hfg : ∀ a a', R a a' → Except.Agree S (f a) (g a')) : Except.Agree S (x >>= f) (y >>= g) := by
  cases h with
  | error => exact .error
  | ok h => exact hfg _ _ h

theorem bind_eq {x y : Except ε α} (h : Except.Agree Eq x y) {f : α → Except ε β} {g : α → Except ε β'}
    (hfg : ∀ a, Except.Agree S (f a) (g a)) : Except.Agree S (x >>= f) (y >>= g) :=
  h.bind fun a _ heq => heq ▸ hfg a

theorem map (h : Except.Agree R x y) {f : α → β} {g : α' → β'} (hfg : ∀ a a', R a a' → S (f a) (g a')) :
    Except.Agree S (x.map f) (y.map g) := by
  cases h with
  | error => exact .error
  | ok h => exact .ok (hfg _ _ h)

theorem imp {R' : α → α' → Prop} (h : Except.Agree R x y) (himp : ∀ a a', R a a' → R' a a') : Except.Agree R' x y := by
  cases h with
  | error => exact .error
  | ok h => exact .ok (himp _ _ h)

/-- A computation agrees with itself. -/
theorem refl {R : α → α → Prop} (hrefl : ∀ a, R a a) : ∀ x : Except ε α, Except.Agree R x x
  | .error _ => .error
  | .ok a => .ok (hrefl a)

/-- Runs agree if each that succeeds has a counterpart with a related result. -/
theorem of_forall (hxy : ∀ a, x = .ok a → ∃ a', y = .ok a' ∧ R a a') (hyx : ∀ a', y = .ok a' → ∃ a, x = .ok a) :
    Except.Agree R x y := by
  cases x with
  | ok a =>
    obtain ⟨a', rfl, h⟩ := hxy a rfl
    exact .ok h
  | error e =>
    cases y with
    | error e' => exact .error
    | ok a' =>
      obtain ⟨a, ha⟩ := hyx a' rfl
      cases ha

/-- Checks agree if both are passed or neither is. -/
theorem of_iff {x y : Except ε Unit} (h : x = .ok () ↔ y = .ok ()) : Except.Agree (fun _ _ => True) x y :=
  of_forall (fun _ hx => ⟨(), h.1 hx, trivial⟩) fun _ hy => ⟨(), h.2 hy⟩

theorem mapM {f : α → Except ε β} {g : α' → Except ε β'} : ∀ {l : List α} {l' : List α'},
    List.Forall₂ (fun a a' => Except.Agree S (f a) (g a')) l l' →
      Except.Agree (List.Forall₂ S) (l.mapM f) (l'.mapM g)
  | [], [], .nil => .ok .nil
  | a :: l, a' :: l', .cons h hs => by
    rw [List.mapM_cons, List.mapM_cons]
    exact h.bind fun b b' hb => (mapM hs).bind fun bs bs' hbs => .ok (.cons hb hbs)

theorem eq_ok_iff {x y : Except ε α} (h : Except.Agree Eq x y) {a : α} : x = .ok a ↔ y = .ok a := by
  cases h with
  | error => simp
  | ok h => rw [h]

theorem exists_iff (h : Except.Agree R x y) : (∃ a, x = .ok a) ↔ ∃ a', y = .ok a' := by
  cases h <;> simp

theorem exists_of_ok (h : Except.Agree R x y) {a : α} (hx : x = .ok a) : ∃ a', y = .ok a' ∧ R a a' := by
  subst hx
  cases h with
  | ok h => exact ⟨_, rfl, h⟩

theorem rel_of_ok (h : Except.Agree R x y) {a : α} {a' : α'} (hx : x = .ok a) (hy : y = .ok a') : R a a' := by
  subst hx hy
  cases h with
  | ok h => exact h

end Except.Agree

/-! ## Computations that compile formats -/

namespace Compiling

/-- Whatever was compiled before, in each of them, both fail or both succeed with results that are related. -/
def Agree (R : α → α' → Prop) (x : Compiling ε α) (y : Compiling ε α') : Prop :=
  ∀ cache cache' : FormatCache, cache.Reachable → cache'.Reachable →
    Except.Agree R (x cache).1 (y cache').1 ∧ (x cache).2.Reachable ∧ (y cache').2.Reachable

namespace Agree

variable {R : α → α' → Prop} {S : β → β' → Prop}

theorem pure {a : α} {a' : α'} (h : R a a') : Agree R (Pure.pure a : Compiling ε α) (Pure.pure a') :=
  fun _ _ hcache hcache' => ⟨.ok h, hcache, hcache'⟩

theorem bind {x : Compiling ε α} {y : Compiling ε α'} (h : Agree R x y) {f : α → Compiling ε β}
    {g : α' → Compiling ε β'} (hfg : ∀ a a', R a a' → Agree S (f a) (g a')) : Agree S (x >>= f) (y >>= g) := by
  intro cache cache' hcache hcache'
  obtain ⟨hagree, hmid, hmid'⟩ := h cache cache' hcache hcache'
  rw [bind_apply, bind_apply]
  rcases hx : x cache with ⟨r, mid⟩
  rcases hy : y cache' with ⟨r', mid'⟩
  rw [hx] at hagree hmid
  rw [hy] at hagree hmid'
  replace hagree : Except.Agree R r r' := hagree
  cases hagree with
  | error => exact ⟨.error, hmid, hmid'⟩
  | ok hr => exact hfg _ _ hr mid mid' hmid hmid'

theorem imp {R' : α → α' → Prop} {x : Compiling ε α} {y : Compiling ε α'} (h : Agree R x y)
    (himp : ∀ a a', R a a' → R' a a') : Agree R' x y := fun cache cache' hcache hcache' =>
  have ⟨hagree, hends⟩ := h cache cache' hcache hcache'
  ⟨hagree.imp himp, hends⟩

theorem exists_of_ok {x : Compiling ε α} {y : Compiling ε α'} (h : Agree R x y) {cache cache' after : FormatCache}
    (hcache : cache.Reachable) (hcache' : cache'.Reachable) {a : α} (hx : x cache = (.ok a, after)) :
    ∃ a' after', y cache' = (.ok a', after') ∧ R a a' := by
  obtain ⟨hagree, -⟩ := h cache cache' hcache hcache'
  rw [hx] at hagree
  rcases hy : y cache' with ⟨r', after'⟩
  rw [hy] at hagree
  obtain ⟨a', rfl, ha⟩ := hagree.exists_of_ok rfl
  exact ⟨a', after', rfl, ha⟩

/-- Computations that do not see what was compiled before agree if they do so at first. -/
theorem of_steady {x : Compiling ε α} {y : Compiling ε α'} (hx : Steady x) (hy : Steady y)
    (h : Except.Agree R (x {}).1 (y {}).1) : Agree R x y := by
  intro cache cache' hcache hcache'
  obtain ⟨hanswer, hmid⟩ := hx cache hcache
  obtain ⟨hanswer', hmid'⟩ := hy cache' hcache'
  rw [hanswer, hanswer']
  exact ⟨h, hmid, hmid'⟩

theorem forEach {γ γ' : Type} {step : α → Compiling ε γ} {step' : α' → Compiling ε γ'} : ∀ {l : List α} {l' : List α'},
    List.Forall₂ (fun a a' => Agree (fun _ _ => R a a') (step a) (step' a')) l l' →
      Agree (fun _ _ => List.Forall₂ R l l') (Compiling.forEach step l) (Compiling.forEach step' l')
  | [], [], .nil => .pure .nil
  | a :: l, a' :: l', .cons h hs => by
    rw [forEach_cons, forEach_cons]
    exact h.bind fun _ _ ha => (forEach hs).imp fun _ _ hl => .cons ha hl

end Agree

end Compiling

end DocumentaryCredit
