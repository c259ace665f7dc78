/-
What it means for a value to have a format, said without any search. A decomposition gives each component its
place in the value, or none where its optional group is absent: read from left to right, the components with
their separators use up the whole value, and the components of a group are all there or all absent.

A value can have several decompositions. They are ordered by preference: at the first component where two of
them part, a component that is there goes before one that is absent, and a longer segment before a shorter one.
-/
import DocumentaryCredit.Format.Match
import Mathlib.Data.List.Chain
import Mathlib.Data.List.Lex

namespace DocumentaryCredit

/-- A separator takes the characters of a value from one place up to another. At the start of a value a line
break takes nothing. -/
inductive Separator.Takes (value : List Char) : Separator → Nat → Nat → Prop where
  | none (p : Nat) : Takes value .none p p
  | slash {p : Nat} (h : value[p]? = some '/') : Takes value .slash p (p + 1)
  | opening : Takes value .newline 0 0
  | newline {p : Nat} (hp : p ≠ 0) (h : value[p]? = some '\n') : Takes value .newline p (p + 1)

/-- A place right after a line break that holds `:` or `-`, with which no line of text starts. -/
def IsBadStart (value : List Char) (i : Nat) : Prop :=
  0 < i ∧ value[i - 1]? = some '\n' ∧ (value[i]? = some ':' ∨ value[i]? = some '-')

namespace Component

/-- Every character from `start` up to `stop` is one that the component admits. -/
def Admits (c : Component) (value : List Char) (start stop : Nat) : Prop :=
  start ≤ stop ∧ ∀ i, start ≤ i → i < stop → ∃ ch, value[i]? = some ch ∧ c.charset.admits ch = true

/-- Text right after a line break does not start with `:` or `-`. -/
def OpensWell (c : Component) (value : List Char) (start stop : Nat) : Prop :=
  c.charset.isText = true → start < stop → ¬ IsBadStart value start

/-- A well-formed run of admitted characters, whose number lies between two bounds. -/
structure IsRun (c : Component) (value : List Char) (least greatest start stop : Nat) : Prop where
  admits : c.Admits value start stop
  least : start + least ≤ stop
  greatest : stop ≤ start + greatest
  wellFormed : c.charset.admitsRun (Span.slice ⟨start, stop⟩ value) = true
  opens : c.OpensWell value start stop

/-- The longest run of admitted characters that is not wider than the component; it is not empty. -/
structure IsLine (c : Component) (value : List Char) (start stop : Nat) : Prop where
  admits : c.Admits value start stop
  nonempty : start < stop
  width : stop ≤ start + c.maxLength
  longest : stop = start + c.maxLength ∨ ∀ ch, value[stop]? = some ch → c.charset.admits ch = false
  opens : c.OpensWell value start stop

/-- A number of lines with a line break between each two. -/
inductive AreLines (c : Component) (value : List Char) : Nat → Nat → Nat → Prop where
  | one {start stop : Nat} (h : c.IsLine value start stop) : AreLines c value 1 start stop
  | more {n start mid stop : Nat} (h : c.IsLine value start mid) (hbreak : value[mid]? = some '\n')
      (rest : AreLines c value n (mid + 1) stop) : AreLines c value (n + 1) start stop

/-- The characters from `start` up to `stop` are a segment of the component. -/
def IsSegment (c : Component) (value : List Char) (start stop : Nat) : Prop :=
  match c.extent with
  | .fixed => c.IsRun value c.maxLength c.maxLength start stop
  | .variable => c.IsRun value c.minLength c.maxLength start stop
  | .repeated => ∃ lines, 1 ≤ lines ∧ lines ≤ c.lineLimit ∧ c.AreLines value lines start stop

end Component

/-- The components use up the characters of a value from one place up to another. A component that is absent
takes nothing, not even its separator. -/
inductive Walk (value : List Char) : Nat → List Component → List (Option Span) → Nat → Prop where
  | done (p : Nat) : Walk value p [] [] p
  | absent {p q : Nat} {c : Component} {rest : List Component} {spans : List (Option Span)}
      (hopt : c.isOptional = true) (h : Walk value p rest spans q) : Walk value p (c :: rest) (none :: spans) q
  | present {p start stop q : Nat} {c : Component} {rest : List Component} {spans : List (Option Span)}
      (hsep : c.separator.Takes value p start) (hseg : c.IsSegment value start stop)
      (h : Walk value stop rest spans q) : Walk value p (c :: rest) (some ⟨start, stop⟩ :: spans) q

/-- Two neighbours of one group are both there or both absent. -/
def SameFate (a b : Component × Option Span) : Prop :=
  a.1.isOptional = true → a.1.group = b.1.group → a.2.isSome = b.2.isSome

/-- Every group is there as a whole or absent as a whole. -/
def WholeGroups (components : List Component) (spans : List (Option Span)) : Prop :=
  (components.zip spans).IsChain SameFate

/-- The places of the components of a format in a value. -/
structure Format.Decomposition (format : Format) (value : List Char) (spans : List (Option Span)) : Prop where
  walk : Walk value 0 format.components spans value.length
  wholeGroups : WholeGroups format.components spans

/-- The place of a component that is tried before another one. -/
inductive Span.TriedBefore : Option Span → Option Span → Prop where
  | present (s : Span) : TriedBefore (some s) none
  | longer {s t : Span} (h : t.stop - t.start < s.stop - s.start) : TriedBefore (some s) (some t)

/-- A decomposition that goes before another one: the first component where they part decides. -/
def Preferred : List (Option Span) → List (Option Span) → Prop := List.Lex Span.TriedBefore

/-- The first of all decompositions of a value. -/
structure Format.FirstDecomposition (format : Format) (value : List Char) (spans : List (Option Span)) : Prop where
  decomposition : format.Decomposition value spans
  first : ∀ other, format.Decomposition value other → other = spans ∨ Preferred spans other

/-- Two components that are always there and stand side by side cut a value in two. -/
theorem Walk.exists_cut {value : List Char} {c d : Component} {spans : List (Option Span)} {q : Nat}
    (hc : c.group = none ∧ c.separator = .none) (hd : d.group = none ∧ d.separator = .none)
    (h : Walk value 0 [c, d] spans q) :
    ∃ cut, spans = [some ⟨0, cut⟩, some ⟨cut, q⟩] ∧ c.IsSegment value 0 cut ∧ d.IsSegment value cut q := by
  cases h with
  | absent hopt _ => simp [Component.isOptional, hc.1] at hopt
  | present hsep hseg h =>
  cases h with
  | absent hopt _ => simp [Component.isOptional, hd.1] at hopt
  | present hsep' hseg' h =>
  cases h with
  | done =>
  rw [hc.2] at hsep
  rw [hd.2] at hsep'
  cases hsep
  cases hsep'
  exact ⟨_, rfl, hseg, hseg'⟩

/-! ## Line breaks -/

theorem Charset.not_admits_lineBreak (set : Charset) : set.admits '\n' = false := by
  cases set <;> decide

/-- Only the sets of running text admit the characters that no line starts with. -/
theorem Charset.isText_of_admits {set : Charset} {ch : Char} (hch : ch = ':' ∨ ch = '-')
    (h : set.admits ch = true) : set.isText = true := by
  rcases hch with rfl | rfl <;> cases set <;> first | rfl | (revert h; decide)

theorem Separator.Takes.not_isBadStart {value : List Char} {s : Separator} {p start : Nat}
    (h : s.Takes value p start) : ∀ i, p ≤ i → i < start → ¬ IsBadStart value i := by
  rintro i hi hlt ⟨-, -, hch⟩
  cases h with
  | none | opening => omega
  | slash h | newline _ h =>
    obtain rfl : i = p := by omega
    simp [h] at hch

/-- A run of admitted characters has no bad start: inside it no line break stands before a character, and where
it starts after one it opens well. -/
theorem Component.Admits.not_isBadStart {c : Component} {value : List Char} {start stop i : Nat}
    (h : c.Admits value start stop) (hopen : c.OpensWell value start stop) (hi : start ≤ i) (hlt : i < stop) :
    ¬ IsBadStart value i := by
  rintro ⟨hpos, hbreak, hch⟩
  obtain ⟨ch, hget, hadm⟩ := h.2 i hi hlt
  by_cases hstart : i = start
  · subst hstart
    have hbad : ch = ':' ∨ ch = '-' := by simpa [hget] using hch
    exact hopen (Charset.isText_of_admits hbad hadm) hlt ⟨hpos, hbreak, hch⟩
  · obtain ⟨before, hbefore, hadm'⟩ := h.2 (i - 1) (by omega) (by omega)
    rw [hbreak, Option.some.injEq] at hbefore
    subst hbefore
    rw [Charset.not_admits_lineBreak] at hadm'
    cases hadm'

theorem Component.Admits.admits_of_mem_slice {c : Component} {value : List Char} {start stop : Nat}
    (h : c.Admits value start stop) : ∀ ch ∈ Span.slice ⟨start, stop⟩ value, c.charset.admits ch = true := by
  intro ch hmem
  obtain ⟨i, hi⟩ := List.mem_iff_getElem?.1 hmem
  rw [Span.slice, List.getElem?_take] at hi
  split at hi
  · next hlt =>
    have hlt : i < stop - start := hlt
    obtain ⟨ch', hget, hadm⟩ := h.2 (start + i) (by omega) (by omega)
    rw [List.getElem?_drop, hget, Option.some.injEq] at hi
    exact hi ▸ hadm
  · cases hi

theorem Component.AreLines.not_isBadStart {c : Component} {value : List Char} {n start stop : Nat}
    (h : c.AreLines value n start stop) : ∀ i, start ≤ i → i < stop → ¬ IsBadStart value i := by
  induction h with
  | one h => exact fun i hi hlt => h.admits.not_isBadStart h.opens hi hlt
  | @more n start mid stop h hbreak _ ih =>
    intro i hi hlt
    rcases Nat.lt_trichotomy i mid with hmid | rfl | hmid
    · exact h.admits.not_isBadStart h.opens hi hmid
    · rintro ⟨-, -, hch⟩
      simp [hbreak] at hch
    · exact ih i (by omega) hlt

theorem Component.IsSegment.not_isBadStart {c : Component} {value : List Char} {start stop : Nat}
    (h : c.IsSegment value start stop) : ∀ i, start ≤ i → i < stop → ¬ IsBadStart value i := by
  unfold IsSegment at h
  split at h
  · exact fun i hi hlt => h.admits.not_isBadStart h.opens hi hlt
  · exact fun i hi hlt => h.admits.not_isBadStart h.opens hi hlt
  · obtain ⟨_, _, _, h⟩ := h
    exact h.not_isBadStart

/-- **No line of a value starts with `:` or `-`**, its first line apart: not where a walk through the components
has passed. -/
theorem Walk.not_isBadStart {value : List Char} {p q : Nat} {components : List Component}
    {spans : List (Option Span)} (h : Walk value p components spans q) :
    ∀ i, p ≤ i → i < q → ¬ IsBadStart value i := by
  induction h with
  | done p => intro i hi hlt; omega
  | absent _ _ ih => exact ih
  | @present p start stop q c rest spans hsep hseg _ ih =>
    intro i hi hlt
    by_cases hstart : i < start
    · exact hsep.not_isBadStart i hi hstart
    by_cases hstop : i < stop
    · exact hseg.not_isBadStart i (by omega) hstop
    · exact ih i (by omega) hlt

end DocumentaryCredit
