/-
The places where the search lets a component end are the ends of its segments, the longest segment first
(`Component.mem_ends_iff`, `Component.ends_descending`).
-/
import DocumentaryCredit.Proofs.Format.Decomposition

namespace DocumentaryCredit

theorem le_length_takeWhile_iff {α : Type} {p : α → Bool} : ∀ {l : List α} {n : Nat},
    n ≤ (l.takeWhile p).length ↔ ∀ i < n, ∃ a, l[i]? = some a ∧ p a = true
  | [], n => by
    cases n with
    | zero => simp
    | succ n => exact ⟨fun h => by simp at h, fun h => by simpa using h 0 (by omega)⟩
  | a :: l, 0 => by simp
  | a :: l, n + 1 => by
    by_cases ha : p a = true
    · simp only [List.takeWhile_cons, ha, if_true, List.length_cons, Nat.add_le_add_iff_right,
        le_length_takeWhile_iff (l := l)]
      refine ⟨fun h i hi => ?_, fun h i hi => by simpa using h (i + 1) (by omega)⟩
      cases i with
      | zero => exact ⟨a, by simp, ha⟩
      | succ i => simpa using h i (by omega)
    · refine ⟨fun h => by simp [ha] at h, fun h => ?_⟩
      obtain ⟨b, hb, hpb⟩ := h 0 (by omega)
      simp only [List.getElem?_cons_zero, Option.some.injEq] at hb
      exact absurd (hb ▸ hpb) ha

namespace Component

variable {c : Component} {value : List Char} {p start stop : Nat}

theorem start?_eq_ok_iff : c.start? value p = .ok start ↔ c.separator.Takes value p start := by
  unfold start?
  generalize c.separator = s
  constructor
  · intro h
    cases s with
    | none => cases h; exact .none p
    | slash =>
      simp only at h
      split at h
      · next hc => cases h; exact .slash hc
      · cases h
    | newline =>
      simp only at h
      split at h
      · next hp => subst hp; cases h; exact .opening
      split at h
      · next hp hc => cases h; exact .newline hp hc
      · cases h
  · intro h
    cases h with
    | none | opening => rfl
    | slash hc => simp [hc]
    | newline hp hc => simp [hp, hc]

theorem badLineStart?_eq_none_iff :
    c.badLineStart? value start = none ↔ (c.charset.isText = true → ¬ IsBadStart value start) := by
  unfold badLineStart? IsBadStart
  cases htext : c.charset.isText with
  | false => simp
  | true =>
    by_cases hstart : start = 0
    · simp [hstart]
    by_cases hbreak : value[start - 1]? = some '\n'
    · cases value[start]? with
      | none => simp
      | some first => simp [hstart, hbreak, Nat.pos_of_ne_zero hstart, Option.filter]
    · simp [hbreak]

theorem le_runLength_iff {n : Nat} :
    n ≤ c.runLength value start ↔ n ≤ c.maxLength ∧ c.Admits value start (start + n) := by
  unfold runLength Admits
  rw [le_length_takeWhile_iff]
  constructor
  · intro h
    refine ⟨?_, by omega, fun i hi hlt => ?_⟩
    · rcases n with _ | n
      · omega
      · obtain ⟨_, hget, _⟩ := h n (by omega)
        rw [List.getElem?_take] at hget
        split at hget
        · omega
        · cases hget
    · obtain ⟨ch, hget, hadm⟩ := h (i - start) (by omega)
      rw [List.getElem?_take] at hget
      split at hget
      · rw [List.getElem?_drop, show start + (i - start) = i by omega] at hget
        exact ⟨ch, hget, hadm⟩
      · cases hget
  · rintro ⟨hmax, -, h⟩ i hi
    obtain ⟨ch, hget, hadm⟩ := h (start + i) (by omega) (by omega)
    exact ⟨ch, by rw [List.getElem?_take, if_pos (by omega), List.getElem?_drop, hget], hadm⟩

/-- A line is the whole run of admitted characters from its start, as far as the width goes. -/
theorem isLine_iff (hstart : c.badLineStart? value start = none) :
    c.IsLine value start stop ↔ 0 < c.runLength value start ∧ stop = start + c.runLength value start := by
  have hrun := le_runLength_iff.1 (Nat.le_refl (c.runLength value start))
  constructor
  · intro h
    obtain ⟨n, rfl⟩ := Nat.exists_eq_add_of_le h.admits.1
    have hpos := h.nonempty
    have hle : n ≤ c.runLength value start := le_runLength_iff.2 ⟨by have := h.width; omega, h.admits⟩
    refine ⟨by omega, ?_⟩
    rcases h.longest with hwide | hend
    · have := hrun.1; omega
    · by_contra hne
      obtain ⟨ch, hget, hadm⟩ := hrun.2.2 (start + n) (by omega) (by omega)
      rw [hend ch hget] at hadm
      cases hadm
  · rintro ⟨hpos, rfl⟩
    refine ⟨hrun.2, by omega, by have := hrun.1; omega, ?_, fun ht _ => badLineStart?_eq_none_iff.1 hstart ht⟩
    by_cases hwide : c.runLength value start = c.maxLength
    · exact .inl (by omega)
    · refine .inr fun ch hget => ?_
      by_contra hadm
      have hmore : c.runLength value start + 1 ≤ c.runLength value start := by
        refine le_runLength_iff.2 ⟨by have := hrun.1; omega, by omega, fun i hi hlt => ?_⟩
        by_cases hlast : i = start + c.runLength value start
        · exact ⟨ch, hlast ▸ hget, by simpa using hadm⟩
        · exact hrun.2.2 i hi (by omega)
      omega

theorem AreLines.start_lt {n : Nat} (h : c.AreLines value n start stop) : start < stop := by
  induction h with
  | one h => exact h.nonempty
  | more h _ _ ih => have := h.nonempty; omega

theorem AreLines.pos {n : Nat} (h : c.AreLines value n start stop) : 1 ≤ n := by
  cases h <;> omega

theorem AreLines.badLineStart?_eq_none {n : Nat} (h : c.AreLines value n start stop) :
    c.badLineStart? value start = none :=
  badLineStart?_eq_none_iff.2 fun _ => h.not_isBadStart _ (Nat.le_refl _) h.start_lt

/-- The first line is the whole run, so that more lines go on from its end. -/
theorem exists_areLines_iff {limit : Nat} (hstart : c.badLineStart? value start = none) :
    (∃ n, n ≤ limit + 1 ∧ c.AreLines value n start stop) ↔
      0 < c.runLength value start ∧ (stop = start + c.runLength value start ∨
        (value[start + c.runLength value start]? = some '\n' ∧
          ∃ n, n ≤ limit ∧ c.AreLines value n (start + c.runLength value start + 1) stop)) := by
  constructor
  · rintro ⟨n, hn, h⟩
    cases h with
    | one h => exact ⟨((isLine_iff hstart).1 h).1, .inl ((isLine_iff hstart).1 h).2⟩
    | more h hbreak rest =>
      obtain ⟨hpos, rfl⟩ := (isLine_iff hstart).1 h
      exact ⟨hpos, .inr ⟨hbreak, _, by omega, rest⟩⟩
  · rintro ⟨hpos, rfl | ⟨hbreak, n, hn, rest⟩⟩
    · exact ⟨1, by omega, .one ((isLine_iff hstart).2 ⟨hpos, rfl⟩)⟩
    · exact ⟨n + 1, by omega, .more ((isLine_iff hstart).2 ⟨hpos, rfl⟩) hbreak rest⟩

/-- The ends of lines are the ends of one line, of two lines and so on. -/
theorem mem_lineEnds_iff {limit : Nat} : ∀ {first : Bool} {start : Nat}, c.badLineStart? value start = none →
    (stop ∈ (c.lineEnds value first start limit).stops ↔ ∃ n, n ≤ limit ∧ c.AreLines value n start stop) := by
  induction limit with
  | zero =>
    intro first start hstart
    refine ⟨fun h => by simp [lineEnds] at h, ?_⟩
    rintro ⟨n, hn, h⟩
    have := h.pos
    omega
  | succ limit ih =>
    intro first start hstart
    rw [exists_areLines_iff hstart]
    simp only [lineEnds]
    split
    · next hzero => simp [hzero]
    next hpos =>
    split
    · next hlast =>
      have hnone : ¬ (value[start + c.runLength value start]? = some '\n' ∧
          ∃ n, n ≤ limit ∧ c.AreLines value n (start + c.runLength value start + 1) stop) := by
        rintro ⟨hbreak, n, hn, rest⟩
        have := rest.pos
        simp [hbreak, show limit ≠ 0 by omega] at hlast
      simp [hnone, Nat.pos_of_ne_zero hpos]
    next hlast =>
    obtain ⟨-, hbreak⟩ : limit ≠ 0 ∧ value[start + c.runLength value start]? = some '\n' := by simpa using hlast
    split
    · next bad hbad =>
      have hnone : ¬ ∃ n, n ≤ limit ∧ c.AreLines value n (start + c.runLength value start + 1) stop := by
        rintro ⟨n, -, rest⟩
        rw [rest.badLineStart?_eq_none] at hbad
        cases hbad
      simp [hnone, Nat.pos_of_ne_zero hpos]
    · next hgood =>
      simp [ih hgood, hbreak, Nat.pos_of_ne_zero hpos, or_comm]

theorem lineEnds_descending {limit : Nat} : ∀ {first : Bool} {start : Nat}, c.badLineStart? value start = none →
    (c.lineEnds value first start limit).stops.Pairwise (· > ·) := by
  induction limit with
  | zero => intro first start _; exact .nil
  | succ limit ih =>
    intro first start hstart
    simp only [lineEnds]
    split
    · exact .nil
    split
    · exact List.pairwise_singleton _ _
    split
    · exact List.pairwise_singleton _ _
    · next hgood =>
      refine List.pairwise_append.2 ⟨ih hgood, List.pairwise_singleton _ _, fun stop hstop last hlast => ?_⟩
      obtain ⟨n, -, rest⟩ := (mem_lineEnds_iff hgood).1 hstop
      have := rest.start_lt
      obtain rfl := List.mem_singleton.1 hlast
      omega

theorem IsSegment.start_le (h : c.IsSegment value start stop) : start ≤ stop := by
  unfold IsSegment at h
  split at h
  · exact h.admits.1
  · exact h.admits.1
  · obtain ⟨_, _, _, h⟩ := h
    exact Nat.le_of_lt h.start_lt

/-- Runs from a good start are well-formed front parts of the longest one. -/
theorem isRun_iff {least : Nat} (hstart : c.badLineStart? value start = none) :
    c.IsRun value least c.maxLength start stop ↔ ∃ n, least ≤ n ∧ n ≤ c.runLength value start ∧ stop = start + n ∧
      c.admitsRun value start stop = true := by
  rw [admitsRun_eq]
  constructor
  · intro h
    obtain ⟨n, rfl⟩ := Nat.exists_eq_add_of_le h.admits.1
    have hleast := h.least
    have hgreatest := h.greatest
    exact ⟨n, by omega, le_runLength_iff.2 ⟨by omega, h.admits⟩, rfl, h.wellFormed⟩
  · rintro ⟨n, hleast, hn, rfl, hwf⟩
    obtain ⟨hmax, hadm⟩ := le_runLength_iff.1 hn
    exact ⟨hadm, by omega, by omega, hwf, fun ht _ => badLineStart?_eq_none_iff.1 hstart ht⟩

/-- **The ends of a component are the ends of its segments**, where the place at which it starts is a good one. -/
theorem mem_ends_iff : stop ∈ (c.ends value start).stops ↔
    c.badLineStart? value start = none ∧ c.IsSegment value start stop := by
  unfold ends
  split
  · next bad hbad => simp [hbad]
  next hgood =>
  simp only [hgood, true_and]
  unfold IsSegment
  cases c.extent with
  | fixed =>
    simp only [isRun_iff hgood]
    constructor
    · intro h
      split at h
      · next hfull =>
        simp only [ge_iff_le, Bool.and_eq_true, decide_eq_true_eq] at hfull
        obtain rfl := List.mem_singleton.1 h
        exact ⟨_, Nat.le_refl _, hfull.1, rfl, hfull.2⟩
      · cases h
    · rintro ⟨n, hleast, hn, rfl, hwf⟩
      obtain rfl : n = c.maxLength := Nat.le_antisymm (le_runLength_iff.1 hn).1 hleast
      simp [hn, hwf]
  | «variable» =>
    simp only [isRun_iff hgood, List.mem_filter, List.mem_map, List.mem_reverse, List.mem_range'_1]
    constructor
    · rintro ⟨⟨n, hn, rfl⟩, hwf⟩
      exact ⟨n, hn.1, by omega, rfl, hwf⟩
    · rintro ⟨n, hleast, hn, rfl, hwf⟩
      exact ⟨⟨n, by omega, rfl⟩, hwf⟩
  | repeated =>
    simp only [mem_lineEnds_iff hgood]
    constructor
    · rintro ⟨n, hn, h⟩
      exact ⟨n, h.pos, hn, h⟩
    · rintro ⟨n, -, hn, h⟩
      exact ⟨n, hn, h⟩

/-- The longest segment is tried first. -/
theorem ends_descending : (c.ends value start).stops.Pairwise (· > ·) := by
  unfold ends
  split
  · exact .nil
  next hgood =>
  dsimp only
  split
  · split
    · exact List.pairwise_singleton _ _
    · exact .nil
  · refine List.Pairwise.filter _ (List.pairwise_map.2 (List.pairwise_reverse.2 ?_))
    exact (List.pairwise_lt_range' 1).imp fun h => by omega
  · exact lineEnds_descending hgood

end Component

end DocumentaryCredit
