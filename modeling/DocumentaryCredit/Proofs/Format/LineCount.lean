/-
How many lines a value has. Line breaks come into a value with the separators of components and between the lines of
repeated ones, and nowhere else: no set of characters admits one. Main statement: a value that is matched has no more
lines than its format allows.

Lines are counted along a walk through the components: each part of the walk says how far the place behind it is below
the place before it (`lineAt`).
-/
import DocumentaryCredit.Proofs.Format.BlockText

namespace DocumentaryCredit

/-- The line on which a place of a value lies, the first one being line 0. -/
def lineAt (value : List Char) (place : Nat) : Nat := (value.take place).count '\n'

/-- The line breaks that a component can bring into a value: the one before it, and those between its lines. -/
def Component.lineBreaks (c : Component) : Nat := (if c.separator = .newline then 1 else 0) + (c.lines.getD 0 - 1)

theorem Format.maxLines_eq (format : Format) :
    format.maxLines = 1 + (format.components.map Component.lineBreaks).sum := by
  have hfold : ∀ (components : List Component) (lines : Nat),
      components.foldl (fun lines c => lines + (if c.separator = .newline then 1 else 0) + (c.lines.getD 0 - 1)) lines =
        lines + (components.map Component.lineBreaks).sum := by
    intro components
    induction components with
    | nil => simp
    | cons c rest ih =>
      intro lines
      rw [List.foldl_cons, ih, List.map_cons, List.sum_cons, Component.lineBreaks]
      omega
  exact hfold format.components 1

section Lines

variable {value : List Char} {place start stop : Nat}

/-- The next place is on the same line, unless there is a line break between them. -/
theorem lineAt_succ {c : Char} (h : value[place]? = some c) :
    lineAt value (place + 1) = lineAt value place + if c = '\n' then 1 else 0 := by
  rw [lineAt, List.take_add_one, h, Option.toList_some, List.count_append, List.count_singleton]
  simp [lineAt]

theorem lineAt_length (value : List Char) : lineAt value value.length = value.count '\n' := by
  rw [lineAt, List.take_length]

/-! ## Parts of a walk -/

theorem Separator.Takes.lineAt_le {s : Separator} (h : s.Takes value place start) :
    lineAt value start ≤ lineAt value place + if s = .newline then 1 else 0 := by
  cases h with
  | none | opening => exact Nat.le_add_right _ _
  | slash h => rw [lineAt_succ h, if_neg (by decide)]; exact Nat.le_add_right _ _
  | newline _ h => rw [lineAt_succ h, if_pos rfl, if_pos rfl]

namespace Component

variable {c : Component}

/-- A run of admitted characters stays on its line. -/
theorem Admits.lineAt_eq (h : c.Admits value start stop) : lineAt value stop = lineAt value start := by
  obtain ⟨hle, hadm⟩ := h
  induction stop, hle using Nat.le_induction with
  | base => rfl
  | succ stop hle ih =>
    obtain ⟨ch, hget, hch⟩ := hadm stop hle (Nat.lt_succ_self stop)
    have hbreak : ch ≠ '\n' := by
      rintro rfl
      rw [Charset.not_admits_lineBreak] at hch
      cases hch
    rw [lineAt_succ hget, if_neg hbreak]
    exact ih fun i hi hlt => hadm i hi (Nat.lt_succ_of_lt hlt)

/-- Between some lines there is one line break fewer. -/
theorem AreLines.lineAt_eq {n : Nat} (h : c.AreLines value n start stop) :
    lineAt value stop + 1 = lineAt value start + n := by
  induction h with
  | one h => rw [h.admits.lineAt_eq]
  | @more n start mid stop h hbreak _ ih =>
    rw [ih, lineAt_succ hbreak, if_pos rfl, h.admits.lineAt_eq]
    omega

/-- A segment has the line breaks between its lines, and only where lines are repeated. -/
theorem IsSegment.lineAt_le (h : c.IsSegment value start stop) :
    lineAt value stop ≤ lineAt value start + (c.lines.getD 0 - 1) := by
  unfold IsSegment at h
  split at h
  · rw [h.admits.lineAt_eq]
    exact Nat.le_add_right _ _
  · rw [h.admits.lineAt_eq]
    exact Nat.le_add_right _ _
  · obtain ⟨n, -, hlimit, h⟩ := h
    have hlines := h.lineAt_eq
    have hone : c.lineLimit - 1 = c.lines.getD 0 - 1 := by
      unfold lineLimit
      cases c.lines <;> rfl
    omega

end Component

/-- A walk goes down no more lines than its components can break. -/
theorem Walk.lineAt_le {components : List Component} {spans : List (Option Span)} {p q : Nat}
    (h : Walk value p components spans q) :
    lineAt value q ≤ lineAt value p + (components.map Component.lineBreaks).sum := by
  induction h with
  | done => exact Nat.le_add_right _ _
  | absent _ _ ih =>
    rw [List.map_cons, List.sum_cons]
    omega
  | present hsep hseg _ ih =>
    have hbefore := hsep.lineAt_le
    have hinside := hseg.lineAt_le
    rw [List.map_cons, List.sum_cons, Component.lineBreaks]
    omega

end Lines

/-! ## Values -/

/-- **A matched value has no more lines than its format allows**: one more than its line breaks, which are line feeds
only. -/
theorem Format.count_lineBreak_of_matchSpans {format : Format} {value : String} {spans : List (Option Span)}
    (h : format.matchSpans value = .ok spans) :
    value.toList.count '\n' + 1 ≤ format.maxLines ∧ '\r' ∉ value.toList := by
  constructor
  · have hlines := (decomposition_of_matchSpans h).walk.lineAt_le
    rw [lineAt_length, lineAt, List.take_zero, List.count_nil] at hlines
    rw [maxLines_eq]
    omega
  · intro hreturn
    have hnot : ¬ ('\r' = '\n' ∨ IsPrinted '\r') := by decide
    exact hnot (isPrinted_of_matchSpans h _ hreturn)

/-- An account, the two lines of a name and a code behind them, which are all the lines that there can be. -/
theorem Format.count_lineBreak_of_matchSpans_account : ∃ format : Format,
    compile "[/34x]\\n2*35x\\n4!n" = .ok format ∧
      format.matchSpans "/12\nACME\nLONDON\n2024" = .ok [some ⟨1, 3⟩, some ⟨4, 15⟩, some ⟨16, 20⟩] ∧
      "/12\nACME\nLONDON\n2024".toList.count '\n' + 1 ≤ format.maxLines ∧ format.maxLines = 4 := by
  have hspec : compile "[/34x]\\n2*35x\\n4!n" = .ok ⟨"[/34x]\\n2*35x\\n4!n", [
      ⟨.variable, .freeText, 1, 34, none, .slash, some 0⟩,
      ⟨.repeated, .freeText, 1, 35, some 2, .newline, none⟩,
      ⟨.fixed, .numeric, 4, 4, none, .newline, none⟩]⟩ := by decide +kernel
  exact ⟨_, hspec, rfl, (count_lineBreak_of_matchSpans rfl).1, rfl⟩

end DocumentaryCredit
