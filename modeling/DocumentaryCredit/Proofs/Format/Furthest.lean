/-
What the mismatch of a value says: of all failures that a search through every branch meets, it is the furthest.

`Records` lists these failures, without any order and without anything that is kept between two visits of a place:
those of a component that gives up, those behind each of its segments, and those behind its group where that is left
out. Each part of the search keeps the furthest of the failures that it is answerable for (`Outcome.Blames`), and it
never fails without one.
-/
import DocumentaryCredit.Proofs.Format.BlockText
import Mathlib.Data.Prod.Lex

namespace DocumentaryCredit

/-! ## Places of a value -/

theorem Separator.Takes.le_length {value : List Char} {s : Separator} {p start : Nat} (h : s.Takes value p start)
    (hp : p ≤ value.length) : start ≤ value.length := by
  cases h with
  | none | opening => exact hp
  | slash hget | newline _ hget => exact (List.getElem?_eq_some_iff.1 hget).1

theorem Component.Admits.le_length {c : Component} {value : List Char} {start stop : Nat}
    (h : c.Admits value start stop) (hstart : start ≤ value.length) : stop ≤ value.length := by
  rcases Nat.lt_or_ge start stop with hlt | hge
  · obtain ⟨ch, hget, -⟩ := h.2 (stop - 1) (by omega) (by omega)
    have := (List.getElem?_eq_some_iff.1 hget).1
    omega
  · omega

theorem Component.IsSegment.le_length {c : Component} {value : List Char} {start stop : Nat}
    (h : c.IsSegment value start stop) (hstart : start ≤ value.length) : stop ≤ value.length := by
  rcases Nat.lt_or_ge start stop with hlt | hge
  · obtain ⟨ch, hget, -⟩ | ⟨-, -, -, ch, hget, -⟩ := h.getElem? (i := stop - 1) (by omega) (by omega)
    all_goals
      have := (List.getElem?_eq_some_iff.1 hget).1
      omega
  · omega

/-! ## A component that gives up -/

/-- A component that is tried at `p` gives up at a place for want of something. A line that starts badly is a failure
also where the lines before it are a segment. -/
inductive Component.GivesUp (c : Component) (value : List Char) (p : Nat) : Nat → Lack → Prop where
  | slash (hsep : c.separator = .slash) (h : value[p]? ≠ some '/') : GivesUp c value p p .slash
  | lineBreak (hsep : c.separator = .newline) (hp : p ≠ 0) (h : value[p]? ≠ some '\n') :
      GivesUp c value p p .lineBreak
  | lineStart {start : Nat} {ch : Char} (hsep : c.separator.Takes value p start) (htext : c.charset.isText = true)
      (hbad : IsBadStart value start) (hget : value[start]? = some ch) : GivesUp c value p start (.lineStart ch)
  | noSegment {start : Nat} (hsep : c.separator.Takes value p start)
      (hgood : c.charset.isText = true → ¬ IsBadStart value start) (h : ∀ stop, ¬ c.IsSegment value start stop) :
      GivesUp c value p (start + c.runLength value start) (c.lackAfter (c.runLength value start))
  | nextLine {n start mid : Nat} {ch : Char} (hsep : c.separator.Takes value p start) (hextent : c.extent = .repeated)
      (hlines : c.AreLines value n start mid) (hmore : n < c.lineLimit) (htext : c.charset.isText = true)
      (hbad : IsBadStart value (mid + 1)) (hget : value[mid + 1]? = some ch) :
      GivesUp c value p (mid + 1) (.lineStart ch)

namespace Component

variable {c : Component} {value : List Char} {p start stop place : Nat} {lack : Lack} {ch : Char}

theorem badLineStart?_eq_some_iff : c.badLineStart? value start = some ch ↔
    c.charset.isText = true ∧ IsBadStart value start ∧ value[start]? = some ch := by
  unfold badLineStart? IsBadStart
  cases htext : c.charset.isText with
  | false => simp
  | true =>
    by_cases hstart : start = 0
    · simp [hstart]
    by_cases hbreak : value[start - 1]? = some '\n'
    · cases value[start]? with
      | none => simp
      | some first =>
        simp only [hbreak, Option.filter, Option.some.injEq]
        by_cases hfirst : first = ch
        · subst hfirst
          simp [hstart, Nat.pos_of_ne_zero hstart, or_iff_not_imp_left]
        · simp [hstart, hfirst]
    · simp [hbreak]

theorem start?_eq_error_iff : c.start? value p = .error lack ↔
    (c.separator = .slash ∧ value[p]? ≠ some '/' ∧ lack = .slash) ∨
      (c.separator = .newline ∧ p ≠ 0 ∧ value[p]? ≠ some '\n' ∧ lack = .lineBreak) := by
  unfold start?
  cases c.separator with
  | none => simp
  | slash =>
    by_cases hslash : value[p]? = some '/'
    · simp [hslash]
    · simp [hslash, eq_comm]
  | newline =>
    by_cases hp : p = 0
    · simp [hp]
    by_cases hbreak : value[p]? = some '\n'
    · simp [hp, hbreak]
    · simp [hp, hbreak, eq_comm]

/-- The failure among lines: there is no first one, or the next one starts badly. -/
theorem lineEnds_failure_iff {limit : Nat} : ∀ {first : Bool} {start : Nat}, c.badLineStart? value start = none →
    ((c.lineEnds value first start limit).failure = some (place, lack) ↔
      (first = true ∧ 0 < limit ∧ c.runLength value start = 0 ∧ place = start ∧ lack = c.lackAfter 0) ∨
        ∃ n mid ch, c.AreLines value n start mid ∧ n < limit ∧ c.badLineStart? value (mid + 1) = some ch ∧
          place = mid + 1 ∧ lack = .lineStart ch) := by
  induction limit with
  | zero => intro first start _; simp [lineEnds]
  | succ limit ih =>
    intro first start hstart
    have hone : ∀ {mid}, c.IsLine value start mid → 0 < c.runLength value start ∧ mid = start + c.runLength value start :=
      (isLine_iff hstart).1
    simp only [lineEnds]
    split
    · next hzero =>
      have hnone : ∀ n mid, ¬ c.AreLines value n start mid := by
        intro n mid hlines
        cases hlines with
        | one h | more h => have := (hone h).1; omega
      cases first <;> simp [hzero, hnone, eq_comm]
    next hpos =>
    have hpos' : 0 < c.runLength value start := Nat.pos_of_ne_zero hpos
    have hline : c.IsLine value start (start + c.runLength value start) := (isLine_iff hstart).2 ⟨hpos', rfl⟩
    split
    · next hlast =>
      -- There is no next line: too many have been read, or no line break follows.
      simp only [hpos, false_and, and_false, false_or, reduceCtorEq, false_iff]
      rintro ⟨n, mid, ch, hlines, hn, hbad, -⟩
      have hlimit : limit ≠ 0 := by have := hlines.pos; omega
      have hnext : value[start + c.runLength value start]? = some '\n' := by
        cases hlines with
        | one h => simpa [← (hone h).2] using (badLineStart?_eq_some_iff.1 hbad).2.1.2.1
        | more h hbreak _ => exact (hone h).2 ▸ hbreak
      simp [hlimit, hnext] at hlast
    next hlast =>
    obtain ⟨hlimit, hbreak⟩ : limit ≠ 0 ∧ value[start + c.runLength value start]? = some '\n' := by simpa using hlast
    split
    · next bad hbad =>
      simp only [hpos, false_and, and_false, false_or, Option.some.injEq, Prod.mk.injEq]
      constructor
      · rintro ⟨rfl, rfl⟩
        exact ⟨1, _, bad, .one hline, by omega, hbad, rfl, rfl⟩
      · rintro ⟨n, mid, ch, hlines, -, hbad', rfl, rfl⟩
        cases hlines with
        | one h =>
          rw [(hone h).2, hbad, Option.some.injEq] at hbad'
          exact ⟨by rw [(hone h).2], by rw [hbad']⟩
        | more h _ rest =>
          have hgood := rest.badLineStart?_eq_none
          simp [(hone h).2, hbad] at hgood
    · next hgood =>
      simp only [ih hgood, hpos, Bool.false_eq_true, false_and, and_false, false_or]
      constructor
      · rintro ⟨n, mid, ch, hlines, hn, h⟩
        exact ⟨n + 1, mid, ch, .more hline hbreak hlines, by omega, h⟩
      · rintro ⟨n, mid, ch, hlines, hn, hbad, h⟩
        cases hlines with
        | one hfirst => simp [(hone hfirst).2, hgood] at hbad
        | more hfirst _ rest => exact ⟨_, mid, ch, (hone hfirst).2 ▸ rest, by omega, hbad, h⟩

/-- A component that is not of lines fails by itself where it has no segment. -/
theorem ends_failure_eq_of_run (hextent : c.extent ≠ .repeated) (hgood : c.badLineStart? value start = none) :
    (c.ends value start).failure = if (c.ends value start).stops = [] then
      some (start + c.runLength value start, c.lackAfter (c.runLength value start)) else none := by
  unfold ends
  rw [hgood]
  dsimp only
  split
  · split <;> simp
  · simp only [List.isEmpty_iff]
  · next h => exact absurd h hextent

/-- Lines are no segment where the first of them would be empty. -/
theorem forall_not_isSegment_lines_iff (hextent : c.extent = .repeated) (hlimit : 0 < c.lineLimit)
    (hgood : c.badLineStart? value start = none) :
    (∀ stop, ¬ c.IsSegment value start stop) ↔ c.runLength value start = 0 := by
  simp only [IsSegment, hextent]
  constructor
  · intro h
    by_contra hpos
    have hline := (isLine_iff hgood).2 ⟨Nat.pos_of_ne_zero hpos, rfl⟩
    exact h _ ⟨1, Nat.le_refl 1, hlimit, .one hline⟩
  · rintro hzero stop ⟨n, -, -, hlines⟩
    cases hlines with
    | one h | more h =>
      have := ((isLine_iff hgood).1 h).1
      omega

/-- A component fails by itself where it has no segment, and where the line behind some lines of it starts badly. -/
theorem ends_failure_iff (hlimit : 0 < c.lineLimit) (hgood : c.badLineStart? value start = none) :
    (c.ends value start).failure = some (place, lack) ↔
      ((∀ stop, ¬ c.IsSegment value start stop) ∧ place = start + c.runLength value start ∧
        lack = c.lackAfter (c.runLength value start)) ∨
      (c.extent = .repeated ∧ ∃ n mid ch, c.AreLines value n start mid ∧ n < c.lineLimit ∧
        c.badLineStart? value (mid + 1) = some ch ∧ place = mid + 1 ∧ lack = .lineStart ch) := by
  by_cases hextent : c.extent = .repeated
  · have hends : c.ends value start = c.lineEnds value true start c.lineLimit := by simp only [ends, hgood, hextent]
    rw [hends, lineEnds_failure_iff hgood, forall_not_isSegment_lines_iff hextent hlimit hgood]
    simp only [hlimit, hextent, true_and]
    refine or_congr_left (and_congr_right fun hzero => ?_)
    rw [hzero, Nat.add_zero]
  · have hstops : (c.ends value start).stops = [] ↔ ∀ stop, ¬ c.IsSegment value start stop := by
      simp [List.eq_nil_iff_forall_not_mem, mem_ends_iff, hgood]
    rw [ends_failure_eq_of_run hextent hgood, hstops.symm]
    split
    · next hnil => simp [hnil, hextent, eq_comm]
    · next hne => simp [hne, hextent]

theorem ends_failure_ne_none (hlimit : 0 < c.lineLimit) (hstops : (c.ends value start).stops = []) :
    (c.ends value start).failure ≠ none := by
  cases hcase : c.badLineStart? value start with
  | some ch => simp [ends, hcase]
  | none =>
    have hnone : ∀ stop, ¬ c.IsSegment value start stop := by
      intro stop hseg
      have hmem := mem_ends_iff.2 ⟨hcase, hseg⟩
      simp [hstops] at hmem
    rw [(ends_failure_iff hlimit hcase).2 (.inl ⟨hnone, rfl, rfl⟩)]
    exact Option.some_ne_none _

/-- Behind its separator, a component gives up where its ends fail. -/
theorem givesUp_iff_of_ok (hlimit : 0 < c.lineLimit) (h : c.start? value p = .ok start) :
    c.GivesUp value p place lack ↔ (c.ends value start).failure = some (place, lack) := by
  have hsep := start?_eq_ok_iff.1 h
  have hpassed : ∀ {lack}, c.start? value p ≠ .error lack := by simp [h]
  have hbadEnds : ∀ {ch}, c.badLineStart? value start = some ch →
      (c.ends value start).failure = some (start, .lineStart ch) := by
    intro ch hbad
    simp only [ends, hbad]
  constructor
  · intro hup
    cases hup with
    | slash hsep hslash => exact absurd (start?_eq_error_iff.2 (.inl ⟨hsep, hslash, rfl⟩)) hpassed
    | lineBreak hsep hp hbreak => exact absurd (start?_eq_error_iff.2 (.inr ⟨hsep, hp, hbreak, rfl⟩)) hpassed
    | lineStart hsep' htext hbad hget =>
      obtain rfl := hsep.start_eq hsep'
      exact hbadEnds (badLineStart?_eq_some_iff.2 ⟨htext, hbad, hget⟩)
    | noSegment hsep' hgood hnone =>
      obtain rfl := hsep.start_eq hsep'
      exact (ends_failure_iff hlimit (badLineStart?_eq_none_iff.2 hgood)).2 (.inl ⟨hnone, rfl, rfl⟩)
    | nextLine hsep' hextent hlines hmore htext hbad hget =>
      obtain rfl := hsep.start_eq hsep'
      have hnext := badLineStart?_eq_some_iff.2 ⟨htext, hbad, hget⟩
      exact (ends_failure_iff hlimit hlines.badLineStart?_eq_none).2
        (.inr ⟨hextent, _, _, _, hlines, hmore, hnext, rfl, rfl⟩)
  · intro hfailure
    cases hcase : c.badLineStart? value start with
    | some ch =>
      rw [hbadEnds hcase, Option.some.injEq, Prod.mk.injEq] at hfailure
      obtain ⟨rfl, rfl⟩ := hfailure
      obtain ⟨htext, hbad, hget⟩ := badLineStart?_eq_some_iff.1 hcase
      exact .lineStart hsep htext hbad hget
    | none =>
      obtain ⟨hnone, rfl, rfl⟩ | ⟨hextent, n, mid, ch, hlines, hmore, hnext, rfl, rfl⟩ :=
        (ends_failure_iff hlimit hcase).1 hfailure
      · exact .noSegment hsep (badLineStart?_eq_none_iff.1 hcase) hnone
      · obtain ⟨htext, hbad, hget⟩ := badLineStart?_eq_some_iff.1 hnext
        exact .nextLine hsep hextent hlines hmore htext hbad hget

/-- Where its separator is not passed, a component gives up at once. -/
theorem givesUp_iff_of_error {lack' : Lack} (h : c.start? value p = .error lack') :
    c.GivesUp value p place lack ↔ place = p ∧ lack = lack' := by
  have hnot : ∀ {start}, ¬ c.separator.Takes value p start := by
    intro start hsep
    rw [start?_eq_ok_iff.2 hsep] at h
    cases h
  have herror := start?_eq_error_iff.1 h
  constructor
  · intro hup
    cases hup with
    | slash hsep _ | lineBreak hsep _ _ => exact ⟨rfl, by simp_all⟩
    | lineStart hsep | noSegment hsep | nextLine hsep => exact absurd hsep hnot
  · rintro ⟨rfl, rfl⟩
    rcases herror with ⟨hsep, hslash, rfl⟩ | ⟨hsep, hp, hbreak, rfl⟩
    · exact .slash hsep hslash
    · exact .lineBreak hsep hp hbreak

theorem GivesUp.place_le (h : c.GivesUp value p place lack) (hp : p ≤ value.length) : place ≤ value.length := by
  cases h with
  | slash | lineBreak => exact hp
  | lineStart _ _ _ hget => exact Nat.le_of_lt (List.getElem?_eq_some_iff.1 hget).1
  | @noSegment start hsep _ _ =>
    have hadmits := (le_runLength_iff.1 (Nat.le_refl (c.runLength value start))).2
    exact hadmits.le_length (hsep.le_length hp)
  | nextLine _ _ _ _ _ _ hget => exact Nat.le_of_lt (List.getElem?_eq_some_iff.1 hget).1

/-- A component says what it asked for. -/
theorem GivesUp.lack_ne_match (h : c.GivesUp value p place lack) : lack ≠ .match := by
  cases h with
  | noSegment =>
    unfold lackAfter
    repeat' split
    all_goals exact Lack.noConfusion
  | _ => exact Lack.noConfusion

end Component

/-! ## The failures of an exhaustive search -/

/-- The failures that a search meets from `p` on when it goes through every branch: `components` are still to come,
with their indices, and `before` is the group of the component in front of them. A group is left out only as a whole,
and after the last component, of index `last`, nothing may be left. -/
inductive Records (value : List Char) (last : Nat) :
    Option Nat → List (Component × Nat) → Nat → Failure → Prop where
  | trailing {before : Option Nat} {p : Nat} (h : p ≠ value.length) :
      Records value last before [] p ⟨last, p, .endOfValue⟩
  | here {before : Option Nat} {c : Component} {index p place : Nat} {lack : Lack} {rest : List (Component × Nat)}
      (h : c.GivesUp value p place lack) : Records value last before ((c, index) :: rest) p ⟨index, place, lack⟩
  | behind {before : Option Nat} {c : Component} {index p start stop : Nat} {rest : List (Component × Nat)}
      {f : Failure} (hsep : c.separator.Takes value p start) (hseg : c.IsSegment value start stop)
      (h : Records value last c.group rest stop f) : Records value last before ((c, index) :: rest) p f
  | without {before : Option Nat} {c : Component} {index p g : Nat} {rest : List (Component × Nat)} {f : Failure}
      (hgroup : c.group = some g) (hfirst : before ≠ some g)
      (h : Records value last (some g) (rest.dropWhile (·.1.group == some g)) p f) :
      Records value last before ((c, index) :: rest) p f

/-- The failures of an exhaustive search of a value. -/
def Format.Records (format : Format) (value : List Char) : Failure → Prop :=
  DocumentaryCredit.Records value (format.components.length - 1) none format.components.zipIdx 0

namespace Records

variable {value : List Char} {last : Nat} {before : Option Nat} {components : List (Component × Nat)} {p : Nat}
  {f : Failure}

theorem position_le (h : Records value last before components p f) (hp : p ≤ value.length) :
    f.position ≤ value.length := by
  induction h with
  | trailing => exact hp
  | here h => exact h.place_le hp
  | behind hsep hseg _ ih => exact ih (hseg.le_length (hsep.le_length hp))
  | without _ _ _ ih => exact ih hp

theorem lack_ne_match (h : Records value last before components p f) : f.lack ≠ .match := by
  induction h with
  | trailing => exact Lack.noConfusion
  | here h => exact h.lack_ne_match
  | behind _ _ _ ih => exact ih
  | without _ _ _ ih => exact ih

theorem component_mem (h : Records value last before components p f) :
    f.component = last ∨ f.component ∈ components.map (·.2) := by
  induction h with
  | trailing => exact .inl rfl
  | here => exact .inr (by simp)
  | behind _ _ _ ih => exact ih.imp id (List.mem_cons_of_mem _)
  | without _ _ _ ih =>
    refine ih.imp id fun hmem => List.mem_cons_of_mem _ ?_
    exact (List.dropWhile_sublist _).map _ |>.subset hmem

theorem cons_iff {c : Component} {index : Nat} {rest : List (Component × Nat)} :
    Records value last before ((c, index) :: rest) p f ↔
      (∃ place lack, c.GivesUp value p place lack ∧ f = ⟨index, place, lack⟩) ∨
        (∃ start stop, c.separator.Takes value p start ∧ c.IsSegment value start stop ∧
          Records value last c.group rest stop f) ∨
        ∃ g, c.group = some g ∧ before ≠ some g ∧
          Records value last (some g) (rest.dropWhile (·.1.group == some g)) p f := by
  constructor
  · intro h
    cases h with
    | here h => exact .inl ⟨_, _, h, rfl⟩
    | behind hsep hseg h => exact .inr (.inl ⟨_, _, hsep, hseg, h⟩)
    | without hgroup hfirst h => exact .inr (.inr ⟨_, hgroup, hfirst, h⟩)
  · rintro (⟨place, lack, h, rfl⟩ | ⟨start, stop, hsep, hseg, h⟩ | ⟨g, hgroup, hfirst, h⟩)
    · exact .here h
    · exact .behind hsep hseg h
    · exact .without hgroup hfirst h

/-- Inside its group a component is not left out, and outside groups it never is. -/
theorem cons_iff_of_group_eq {c : Component} {index : Nat} {rest : List (Component × Nat)} (hgroup : c.group = before) :
    Records value last before ((c, index) :: rest) p f ↔
      (∃ place lack, c.GivesUp value p place lack ∧ f = ⟨index, place, lack⟩) ∨
        ∃ start stop, c.separator.Takes value p start ∧ c.IsSegment value start stop ∧
          Records value last before rest stop f := by
  subst hgroup
  rw [cons_iff]
  have hnot : ¬ ∃ g, c.group = some g ∧ c.group ≠ some g ∧
      Records value last (some g) (rest.dropWhile (·.1.group == some g)) p f := by
    rintro ⟨g, hg, hne, -⟩
    exact hne hg
  simp only [hnot, or_false]

/-- A component outside groups does not ask what stands in front of it. -/
theorem cons_iff_of_alone {c : Component} {index : Nat} {rest : List (Component × Nat)} (hgroup : c.group = none) :
    Records value last before ((c, index) :: rest) p f ↔ Records value last none ((c, index) :: rest) p f := by
  rw [cons_iff, cons_iff]
  simp [hgroup]

/-- A group that starts is there or left out as a whole. -/
theorem group_iff {g : Nat} {row rest : List (Component × Nat)} (hne : row ≠ [])
    (hgroup : ∀ x ∈ row, x.1.group = some g) (hnext : ∀ x ∈ rest.head?, x.1.group ≠ some g) (hfirst : before ≠ some g) :
    Records value last before (row ++ rest) p f ↔
      Records value last (some g) (row ++ rest) p f ∨ Records value last (some g) rest p f := by
  obtain _ | ⟨⟨c, index⟩, row⟩ := row
  · exact absurd rfl hne
  have hc : c.group = some g := hgroup (c, index) (by simp)
  have hafter : (row ++ rest).dropWhile (·.1.group == some g) = rest := by
    rw [List.dropWhile_append_of_pos fun x hx => by simp [hgroup x (List.mem_cons_of_mem _ hx)]]
    cases rest with
    | nil => rfl
    | cons x rest => simp [hnext x (by simp)]
  rw [List.cons_append, cons_iff, cons_iff]
  simp [hc, hafter, hfirst, or_assoc]

end Records

theorem Format.Records.component_lt {format : Format} {value : List Char} {f : Failure}
    (h : format.Records value f) (hne : format.components ≠ []) : f.component < format.components.length := by
  have hpos := List.length_pos_iff.2 hne
  rcases DocumentaryCredit.Records.component_mem h with hlast | hmem
  · omega
  · obtain ⟨⟨c, index⟩, hx, rfl⟩ := List.mem_map.1 hmem
    have := (List.mem_zipIdx hx).2.1
    simpa using this

/-! ## The furthest failure -/

/-- Where a failure lies: by its position first, and then by its component. -/
def Failure.place (f : Failure) : Nat ×ₗ Nat := toLex (f.position, f.component)

theorem Failure.before_iff {f g : Failure} : f.before g = true ↔ f.place < g.place := by
  simp [before, place, Prod.Lex.toLex_lt_toLex]

/-- Of the failures in `S` the one that is kept lies furthest; where none is kept there are none. -/
def Furthest (kept : Option Failure) (S : Failure → Prop) : Prop :=
  match kept with
  | none => ∀ f, ¬ S f
  | some best => S best ∧ ∀ f, S f → f.place ≤ best.place

namespace Furthest

variable {a b : Option Failure} {S T : Failure → Prop}

theorem congr (h : Furthest a S) (heq : ∀ f, S f ↔ T f) : Furthest a T := by
  have : S = T := funext fun f => propext (heq f)
  exact this ▸ h

/-- The further of two failures is the furthest of what either was kept of. -/
theorem further (ha : Furthest a S) (hb : Furthest b T) : Furthest (Failure.further a b) fun f => S f ∨ T f := by
  cases a with
  | none => exact hb.congr fun f => by simp [show ¬ S f from ha f]
  | some f =>
    cases b with
    | none => exact ha.congr fun g => by simp [show ¬ T g from hb g]
    | some g =>
      unfold Failure.further
      dsimp only
      split
      · next hbefore =>
        refine ⟨.inr hb.1, fun h hh => hh.elim (fun hS => ?_) (hb.2 h)⟩
        exact (ha.2 h hS).trans (Failure.before_iff.1 hbefore).le
      · next hbefore =>
        refine ⟨.inl ha.1, fun h hh => hh.elim (ha.2 h) fun hT => ?_⟩
        exact (hb.2 h hT).trans (not_lt.1 fun hlt => hbefore (Failure.before_iff.2 hlt))

end Furthest

theorem Failure.further_ne_none {a b : Option Failure} (h : a ≠ none ∨ b ≠ none) : further a b ≠ none := by
  cases a with
  | none => simpa [further] using h
  | some f =>
    cases b with
    | none => simp [further]
    | some g =>
      unfold further
      dsimp only
      split <;> simp

/-! ## What the parts of the search are answerable for -/

/-- An outcome that is no match names a failure, the furthest in `S`. -/
def Outcome.Blames (o : Outcome) (S : Failure → Prop) : Prop :=
  match o with
  | .found _ => True
  | .failed kept => kept ≠ none ∧ Furthest kept S

namespace Outcome

variable {S T : Failure → Prop}

theorem Blames.congr {o : Outcome} (h : o.Blames S) (heq : ∀ f, S f ↔ T f) : o.Blames T := by
  have : S = T := funext fun f => propext (heq f)
  exact this ▸ h

theorem Blames.prepend {o : Outcome} (h : o.Blames S) (front : List (Option Span)) : (o.prepend front).Blames S := by
  cases o with
  | found => trivial
  | failed => exact h

theorem Blames.orElse {o : Outcome} {second : Unit → Outcome} (h : o.Blames S) (h' : (second ()).Blames T) :
    (o.orElse second).Blames fun f => S f ∨ T f := by
  unfold Outcome.orElse
  cases o with
  | found => trivial
  | failed kept =>
    dsimp only
    cases hsecond : second () with
    | found => trivial
    | failed kept' =>
      rw [hsecond] at h'
      exact ⟨Failure.further_ne_none (.inl h.1), h.2.further h'.2⟩

/-- Places that all lead to failures, after the failures met before. -/
theorem blames_firstOf {next : Nat → Outcome} {span : Nat → Span} {S : Nat → Failure → Prop}
    (hnext : ∀ stop, (next stop).Blames (S stop)) : ∀ (stops : List Nat) (met : Option Failure) (M : Failure → Prop),
      Furthest met M → (met ≠ none ∨ stops ≠ []) →
        (firstOf next span met stops).Blames fun f => M f ∨ ∃ stop ∈ stops, S stop f
  | [], met, M, hmet, hsome => ⟨by simpa using hsome, hmet.congr (by simp)⟩
  | stop :: stops, met, M, hmet, _ => by
    have hstop := hnext stop
    unfold firstOf
    cases hcase : next stop with
    | found => trivial
    | failed kept =>
      rw [hcase] at hstop
      have hmore := hmet.further hstop.2
      have hsome := Failure.further_ne_none (.inr hstop.1) (a := met)
      exact (blames_firstOf hnext stops _ _ hmore (.inl hsome)).congr fun f => by simp [or_assoc]

end Outcome

section
variable {value : List Char} {S : Nat → Failure → Prop}

/-- A component is answerable for its own failures and for those behind its segments. -/
theorem matchComponent_blames {next : Nat → Outcome} {c : Component} (hc : c.TakesSome)
    (hnext : ∀ q, (next q).Blames (S q)) (index p : Nat) :
    (Format.matchComponent value c index next p).Blames fun f =>
      (∃ place lack, c.GivesUp value p place lack ∧ f = ⟨index, place, lack⟩) ∨
        ∃ start stop, c.separator.Takes value p start ∧ c.IsSegment value start stop ∧ S stop f := by
  unfold Format.matchComponent
  cases hcase : c.start? value p with
  | error lack =>
    refine ⟨Option.some_ne_none _, .inl ⟨p, lack, (Component.givesUp_iff_of_error hcase).2 ⟨rfl, rfl⟩, rfl⟩, ?_⟩
    rintro f (⟨place, lack', hup, rfl⟩ | ⟨start, stop, hsep, -⟩)
    · obtain ⟨rfl, rfl⟩ := (Component.givesUp_iff_of_error hcase).1 hup
      exact le_rfl
    · rw [Component.start?_eq_ok_iff.2 hsep] at hcase
      cases hcase
  | ok start =>
    dsimp only
    have hups : ∀ {place lack}, c.GivesUp value p place lack ↔ (c.ends value start).failure = some (place, lack) :=
      Component.givesUp_iff_of_ok hc.lineLimit hcase
    have hmet : Furthest ((c.ends value start).failure.map fun x => ⟨index, x.1, x.2⟩)
        fun f => ∃ place lack, c.GivesUp value p place lack ∧ f = ⟨index, place, lack⟩ := by
      simp only [hups]
      cases (c.ends value start).failure with
      | none => simp [Furthest]
      | some x => exact ⟨⟨x.1, x.2, rfl, rfl⟩, by rintro f ⟨_, _, hx, rfl⟩; cases hx; exact le_rfl⟩
    have hsome : (c.ends value start).failure.map (fun x => (⟨index, x.1, x.2⟩ : Failure)) ≠ none ∨
        (c.ends value start).stops ≠ [] := by
      by_cases hstops : (c.ends value start).stops = []
      · exact .inl (by simpa using Component.ends_failure_ne_none hc.lineLimit hstops)
      · exact .inr hstops
    refine (Outcome.blames_firstOf hnext _ _ _ hmet hsome).congr fun f => or_congr_right ?_
    have hsep := Component.start?_eq_ok_iff.1 hcase
    constructor
    · rintro ⟨stop, hstop, h⟩
      exact ⟨start, stop, hsep, (Component.mem_ends_iff.1 hstop).2, h⟩
    · rintro ⟨start', stop, hsep', hseg, h⟩
      obtain rfl := hsep.start_eq hsep'
      have hgood := hseg.not_isBadStart start (Nat.le_refl _) (hseg.start_lt hc)
      exact ⟨stop, Component.mem_ends_iff.2 ⟨Component.badLineStart?_eq_none_iff.2 fun _ => hgood, hseg⟩, h⟩

theorem matchComponents_blames {last : Nat} {before : Option Nat} {next : Tabulated Outcome}
    {rest : List (Component × Nat)} (hnext : ∀ q, (next.get q).Blames (Records value last before rest q)) :
    ∀ (row : List (Component × Nat)), (∀ x ∈ row, x.1.TakesSome) → (∀ x ∈ row, x.1.group = before) → ∀ p,
      ((Format.matchComponents value next row).get p).Blames (Records value last before (row ++ rest) p)
  | [], _, _, p => hnext p
  | (c, index) :: row, htakes, hgroup, p => by
    have ih := matchComponents_blames hnext row (fun x hx => htakes x (List.mem_cons_of_mem _ hx))
      fun x hx => hgroup x (List.mem_cons_of_mem _ hx)
    simp only [Format.matchComponents, Tabulated.get_tabulate]
    refine (matchComponent_blames (htakes (c, index) (by simp)) ih index p).congr fun f => ?_
    exact (Records.cons_iff_of_group_eq (hgroup (c, index) (by simp))).symm

/-- What blocks hold is what they cut. -/
theorem Cuts.map_components {components : List Component} {blocks : List Format.Block} (h : Cuts components blocks) :
    (blocks.flatMap (·.components)).map (·.1) = components := by
  induction h with
  | nil => rfl
  | alone _ _ ih => simp [ih]
  | group _ _ _ _ ih => simp [ih]

/-- Blocks are answerable for the failures of their components. -/
theorem matchBlocks_blames {components : List Component} {blocks : List Format.Block} (h : Cuts components blocks)
    (htakes : ∀ c ∈ components, c.TakesSome) (last : Nat) : ∀ (before : Option Nat) (p : Nat),
      (∀ c ∈ components.head?, c.group ≠ none → before ≠ c.group) →
      ((Format.matchBlocks value last blocks).get p).Blames
        (Records value last before (blocks.flatMap (·.components)) p) := by
  induction h with
  | nil =>
    intro before p _
    simp only [Format.matchBlocks, Tabulated.get_tabulate, List.flatMap_nil]
    split
    · trivial
    · next hend =>
      refine ⟨Option.some_ne_none _, .trailing hend, ?_⟩
      intro f hf
      cases hf
      exact le_rfl
  | @alone c i rest blocks hgroup h ih =>
    intro before p _
    have hrest := ih (fun d hd => htakes d (List.mem_cons_of_mem _ hd)) none
    have hc : ∀ x ∈ [(c, i)], x.1.TakesSome := by simpa using htakes c (by simp)
    have halone := matchComponents_blames (fun q => hrest q fun d _ hd => hd.symm) [(c, i)] hc (by simpa using hgroup) p
    simp only [Format.matchBlocks, List.flatMap_cons, Bool.false_eq_true, if_false]
    exact halone.congr fun f => (Records.cons_iff_of_alone hgroup).symm
  | @group g row rest blocks hne hgroup hnext h ih =>
    intro before p hfirst
    have hrest := fun q => ih (fun d hd => htakes d (List.mem_append_right _ hd)) (some g) q
      fun d hd _ => (hnext d hd).symm
    have hrow : ∀ x ∈ row, x.1.TakesSome := fun x hx => htakes x.1 (List.mem_append_left _ (List.mem_map_of_mem hx))
    have hpresent := matchComponents_blames hrest row hrow hgroup p
    simp only [Format.matchBlocks, List.flatMap_cons, if_true, Tabulated.get_tabulate]
    refine (hpresent.orElse ((hrest p).prepend _)).congr fun f => (Records.group_iff hne hgroup ?_ ?_).symm
    · intro x hx
      refine hnext x.1 ?_
      rw [← h.map_components, List.head?_map]
      exact Option.mem_map_of_mem _ hx
    · obtain _ | ⟨x, row⟩ := row
      · exact absurd rfl hne
      have hx : x.1.group = some g := hgroup x (by simp)
      have := hfirst x.1 (by simp) (by simp [hx])
      rwa [hx] at this

end

/-! ## Whole formats -/

theorem Format.addToBlocks_components (c : Component) (index : Nat) (blocks : List Block) :
    (addToBlocks c index blocks).flatMap (·.components) = (c, index) :: blocks.flatMap (·.components) := by
  cases blocks with
  | nil => rfl
  | cons block blocks =>
    unfold addToBlocks
    dsimp only
    split
    all_goals
      split
      all_goals simp

/-- The blocks of a format hold its components in their order, with their indices. -/
theorem Format.blocks_components (components : List Component) :
    (blocks components).flatMap (·.components) = components.zipIdx := by
  unfold blocks
  induction components.zipIdx with
  | nil => rfl
  | cons x row ih => rw [List.foldr_cons, addToBlocks_components, ih]

/-- A mismatch names the furthest failure of an exhaustive search, and the component that failed there. -/
structure Format.Explains (format : Format) (value : List Char) (cause : Mismatch) : Prop where
  component_lt : cause.component < format.components.length
  expected : (format.components[cause.component]?).map Component.toText = some cause.expected
  position_le : cause.position ≤ value.length
  lack_ne : cause.lack ≠ .match
  recorded : format.Records value ⟨cause.component, cause.position, cause.lack⟩
  furthest : ∀ f, format.Records value f → f.place ≤ toLex (cause.position, cause.component)

/-- **A mismatch is the furthest failure**: for every value that a compiled format rejects it is one that an exhaustive
search meets, none lies further on, and it names its component. -/
theorem Format.explains_of_matchSpans {spec value : String} {format : Format} {cause : Mismatch}
    (hspec : compile spec = .ok format) (h : format.matchSpans value = .error cause) :
    format.Explains value.toList cause := by
  have hne := components_ne_nil_of_compile hspec
  have hempty : format.components.isEmpty = false := by simpa using hne
  have hblames : ((matchBlocks value.toList (format.components.length - 1) (blocks format.components)).get 0).Blames
      (format.Records value.toList) := by
    unfold Format.Records
    rw [← blocks_components]
    exact matchBlocks_blames (cuts_blocks format.components) (takesSome_of_compile hspec) _ none 0
      fun c _ hgroup => hgroup.symm
  simp only [matchSpans, hempty, Bool.false_eq_true, if_false] at h
  split at h
  · cases h
  next kept hkept =>
  rw [hkept] at hblames
  obtain ⟨hsome, hfurthest⟩ := hblames
  cases kept with
  | none => exact absurd rfl hsome
  | some best =>
  cases h
  obtain ⟨hrecorded, hbest⟩ := hfurthest
  have hlt : best.component < format.components.length := hrecorded.component_lt hne
  have hget : format.components[best.component]? = some format.components[best.component] :=
    List.getElem?_eq_getElem hlt
  exact ⟨hlt, by simp [hget], hrecorded.position_le (Nat.zero_le _), hrecorded.lack_ne_match, hrecorded, hbest⟩

/-- A date that is cut short: the group of the account is left out, and the date lacks its last two digits. -/
theorem Format.explains_of_matchSpans_date : ∃ format, compile "[/2!a]6!n[/3x]" = .ok format ∧
    format.matchSpans "/AB2602" = .error ⟨1, "6!n", 7, .exactly 6 .numeric 4⟩ ∧
      format.Explains "/AB2602".toList ⟨1, "6!n", 7, .exactly 6 .numeric 4⟩ := by
  have hspec : compile "[/2!a]6!n[/3x]" = .ok ⟨"[/2!a]6!n[/3x]", [
      ⟨.fixed, .alpha, 2, 2, none, .slash, some 0⟩,
      ⟨.fixed, .numeric, 6, 6, none, .none, none⟩,
      ⟨.variable, .freeText, 1, 3, none, .slash, some 1⟩]⟩ := by decide +kernel
  exact ⟨_, hspec, rfl, explains_of_matchSpans hspec rfl⟩

end DocumentaryCredit
