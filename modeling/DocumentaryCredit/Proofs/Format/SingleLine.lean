/-
Two notations for a run of characters: `1*35x`, lines of which there is only one, and `35x`. A line is read as far as
it goes and is not cut short for what follows it, while a run may stop earlier. So the decompositions of a format with
the line are those of the format with the run in which the run cannot go on, and the two notations mean the same where
no component behind them starts with a character that the line would take.
-/
import DocumentaryCredit.Proofs.Format.Search

namespace DocumentaryCredit

namespace Component

/-- The component `1*35x`. -/
def oneLine (set : Charset) (width : Nat) (separator : Separator) (group : Option Nat) : Component :=
  ⟨.repeated, set, 1, width, some 1, separator, group⟩

/-- The component `35x`. -/
def upTo (set : Charset) (width : Nat) (separator : Separator) (group : Option Nat) : Component :=
  ⟨.variable, set, 1, width, none, separator, group⟩

end Component

/-- The span cannot go on: it is as wide as it may be, or no admitted character follows. -/
def Span.IsFull (set : Charset) (width : Nat) (value : List Char) (s : Span) : Prop :=
  s.stop = s.start + width ∨ ∀ ch, value[s.stop]? = some ch → set.admits ch = false

section
variable {set : Charset} {width : Nat} {separator : Separator} {group : Option Nat} {value : List Char}

/-- One line is a run that cannot go on. -/
theorem Component.isSegment_oneLine_iff (hset : set.constrainsRuns = false) {start stop : Nat} :
    (oneLine set width separator group).IsSegment value start stop ↔
      (upTo set width separator group).IsSegment value start stop ∧ Span.IsFull set width value ⟨start, stop⟩ := by
  constructor
  · rintro ⟨n, hn, hlimit, hlines⟩
    cases hlines with
    | one h =>
      exact ⟨⟨h.admits, h.nonempty, h.width, Charset.admitsRun_of_not_constrainsRuns hset _, h.opens⟩, h.longest⟩
    | more _ _ rest =>
      have := rest.pos
      simp only [oneLine, lineLimit, Option.getD_some] at hlimit
      omega
  · rintro ⟨h, hfull⟩
    exact ⟨1, Nat.le_refl 1, Nat.le_refl 1, .one ⟨h.admits, h.least, h.greatest, hfull, h.opens⟩⟩

/-! ## One component for another -/

/-- A walk stays one when a component gives way to one that takes the same segment, or is absent like it. -/
theorem Walk.replace {c : Component} {front behind : List Component} {p q : Nat} {spans : List (Option Span)}
    (h : Walk value p (front ++ c :: behind) spans q) (d : Component) (hopt : d.isOptional = c.isOptional)
    (hsep : d.separator = c.separator) (hseg : ∀ s, spans[front.length]? = some (some s) →
      c.IsSegment value s.start s.stop → d.IsSegment value s.start s.stop) :
    Walk value p (front ++ d :: behind) spans q := by
  induction front generalizing p spans with
  | nil =>
    cases h with
    | absent habsent h => exact .absent (hopt.trans habsent) h
    | present htakes hc h => exact .present (hsep ▸ htakes) (hseg _ rfl hc) h
  | cons e front ih =>
    cases h with
    | absent habsent h => exact .absent habsent (ih h (by simpa using hseg))
    | present htakes he h => exact .present htakes he (ih h (by simpa using hseg))

/-- A component that is there has its segment there, and the components behind it go on at its end. -/
theorem Walk.isSegment_of_getElem? {c : Component} {front behind : List Component} {p q : Nat}
    {spans : List (Option Span)} {s : Span} (h : Walk value p (front ++ c :: behind) spans q)
    (hs : spans[front.length]? = some (some s)) :
    c.IsSegment value s.start s.stop ∧ ∃ rest, Walk value s.stop behind rest q := by
  induction front generalizing p spans with
  | nil =>
    cases h with
    | absent => simp at hs
    | present htakes hc h =>
      obtain rfl := by simpa using hs
      exact ⟨hc, _, h⟩
  | cons e front ih =>
    cases h with
    | absent _ h => exact ih h (by simpa using hs)
    | present _ _ h => exact ih h (by simpa using hs)

/-- Whether groups are whole depends on the groups of the components only. -/
theorem wholeGroups_congr {xs ys : List Component} (h : xs.map (·.group) = ys.map (·.group))
    (spans : List (Option Span)) : WholeGroups xs spans ↔ WholeGroups ys spans := by
  have hgroups : ∀ cs : List Component, WholeGroups cs spans ↔ ((cs.map (·.group)).zip spans).IsChain
      fun a b => a.1.isSome = true → a.1 = b.1 → a.2.isSome = b.2.isSome := by
    intro cs
    rw [List.zip_map_left, List.isChain_map]
    rfl
  rw [hgroups, hgroups, h]

/-- Behind a place of the value no component starts with a character of the set. -/
theorem Walk.not_admits {behind : List Component} {p q : Nat} {rest : List (Option Span)}
    (h : Walk value p behind rest q) (hq : q = value.length) (hp : 0 < p)
    (hbehind : ∀ d ∈ behind, d.separator = .newline ∨ d.separator = .slash ∧ set.admits '/' = false) :
    ∀ ch, value[p]? = some ch → set.admits ch = false := by
  induction h with
  | done p => simp [hq]
  | absent _ _ ih => exact ih hq hp fun d hd => hbehind d (List.mem_cons_of_mem _ hd)
  | @present p start stop q d behind rest htakes _ _ _ =>
    intro ch hch
    rcases hbehind d (by simp) with hsep | ⟨hsep, hslash⟩
    · rw [hsep] at htakes
      cases htakes with
      | opening => omega
      | newline _ hbreak =>
        obtain rfl : '\n' = ch := by simpa [hbreak] using hch
        exact Charset.not_admits_lineBreak set
    · rw [hsep] at htakes
      cases htakes with
      | slash hget =>
        obtain rfl : '/' = ch := by simpa [hget] using hch
        exact hslash

/-! ## The two notations -/

variable {lines run : Format} {front behind : List Component}

/-- The decompositions of the format with the line are those of the format with the run in which it cannot go on. -/
theorem Format.decomposition_oneLine_iff (hset : set.constrainsRuns = false)
    (hlines : lines.components = front ++ .oneLine set width separator group :: behind)
    (hrun : run.components = front ++ .upTo set width separator group :: behind) {spans : List (Option Span)} :
    lines.Decomposition value spans ↔
      run.Decomposition value spans ∧ ∀ s, spans[front.length]? = some (some s) → s.IsFull set width value := by
  have hwhole : WholeGroups lines.components spans ↔ WholeGroups run.components spans :=
    wholeGroups_congr (by simp [hlines, hrun, Component.oneLine, Component.upTo]) spans
  constructor
  · intro h
    have hwalk := hlines ▸ h.walk
    have hsegment := fun s hs => (Component.isSegment_oneLine_iff hset).1 (hwalk.isSegment_of_getElem? (s := s) hs).1
    have hwalk' : Walk value 0 run.components spans value.length := by
      rw [hrun]
      exact hwalk.replace (.upTo set width separator group) rfl rfl fun s hs _ => (hsegment s hs).1
    exact ⟨⟨hwalk', hwhole.1 h.wholeGroups⟩, fun s hs => (hsegment s hs).2⟩
  · intro ⟨h, hfull⟩
    have hwalk := hrun ▸ h.walk
    have hwalk' : Walk value 0 lines.components spans value.length := by
      rw [hlines]
      exact hwalk.replace (.oneLine set width separator group) rfl rfl
        fun s hs hc => (Component.isSegment_oneLine_iff hset).2 ⟨hc, hfull s hs⟩
    exact ⟨hwalk', hwhole.2 h.wholeGroups⟩

/-- **One line is not a run.** What a format with `1*35x` accepts is what it accepts with `35x` by a decomposition that
reads that component as far as it goes. It accepts no more, and it accepts as much where every component behind it
starts with a line break, or with a slash that the line does not admit. -/
theorem Format.exists_matchSpans_oneLine_iff (hset : set.constrainsRuns = false)
    (hlines : lines.components = front ++ .oneLine set width separator group :: behind)
    (hrun : run.components = front ++ .upTo set width separator group :: behind) (value : String) :
    ((∃ spans, lines.matchSpans value = .ok spans) ↔ ∃ spans, run.Decomposition value.toList spans ∧
        ∀ s, spans[front.length]? = some (some s) → s.IsFull set width value.toList) ∧
      ((∃ spans, lines.matchSpans value = .ok spans) → ∃ spans, run.matchSpans value = .ok spans) ∧
      ((∀ d ∈ behind, d.separator = .newline ∨ d.separator = .slash ∧ set.admits '/' = false) →
        ((∃ spans, lines.matchSpans value = .ok spans) ↔ ∃ spans, run.matchSpans value = .ok spans)) := by
  have hsame : ∀ spans, lines.Decomposition value.toList spans ↔ _ :=
    fun spans => decomposition_oneLine_iff hset hlines hrun
  rw [exists_matchSpans_iff (by simp [hlines]) value, exists_matchSpans_iff (by simp [hrun]) value]
  refine ⟨exists_congr hsame, fun ⟨spans, h⟩ => ⟨spans, ((hsame spans).1 h).1⟩, fun hbehind => ?_⟩
  refine exists_congr fun spans => (hsame spans).trans (and_iff_left_of_imp fun h s hs => .inr ?_)
  obtain ⟨hseg, rest, hrest⟩ := (hrun ▸ h.walk).isSegment_of_getElem? hs
  have hleast : s.start + 1 ≤ s.stop := hseg.least
  exact hrest.not_admits rfl (by omega) hbehind

/-- A line of up to three digits before two more. Five digits fill it. -/
theorem Format.exists_matchSpans_oneLine_full : ∃ lines run, compile "1*3n2!n" = .ok lines ∧ compile "3n2!n" = .ok run ∧
    run.matchSpans "12345" = .ok [some ⟨0, 3⟩, some ⟨3, 5⟩] ∧ ∃ spans, lines.matchSpans "12345" = .ok spans := by
  have hlines : compile "1*3n2!n" = .ok ⟨"1*3n2!n",
      [] ++ .oneLine .numeric 3 .none none :: [⟨.fixed, .numeric, 2, 2, none, .none, none⟩]⟩ := by decide +kernel
  have hrun : compile "3n2!n" = .ok ⟨"3n2!n",
      [] ++ .upTo .numeric 3 .none none :: [⟨.fixed, .numeric, 2, 2, none, .none, none⟩]⟩ := by decide +kernel
  have hmatch : Format.matchSpans ⟨"3n2!n",
      [] ++ .upTo .numeric 3 .none none :: [⟨.fixed, .numeric, 2, 2, none, .none, none⟩]⟩ "12345" =
        .ok [some ⟨0, 3⟩, some ⟨3, 5⟩] := rfl
  have hset : Charset.constrainsRuns .numeric = false := rfl
  refine ⟨_, _, hlines, hrun, hmatch, ?_⟩
  refine (exists_matchSpans_oneLine_iff hset (by rfl) (by rfl) "12345").1.2
    ⟨_, decomposition_of_matchSpans hmatch, ?_⟩
  intro s hs
  obtain rfl : Span.mk 0 3 = s := by simpa using hs
  exact .inl rfl

/-- The line takes all four digits, and the run leaves two of them to the component behind it. -/
theorem Format.matchSpans_oneLine_ne : ∃ lines run, compile "1*4n2!n" = .ok lines ∧ compile "4n2!n" = .ok run ∧
    lines.components = [.oneLine .numeric 4 .none none, ⟨.fixed, .numeric, 2, 2, none, .none, none⟩] ∧
    run.components = [.upTo .numeric 4 .none none, ⟨.fixed, .numeric, 2, 2, none, .none, none⟩] ∧
    lines.matchSpans "1234" = .error ⟨1, "2!n", 4, .exactly 2 .numeric 0⟩ ∧
    run.matchSpans "1234" = .ok [some ⟨0, 2⟩, some ⟨2, 4⟩] :=
  ⟨⟨"1*4n2!n", [.oneLine .numeric 4 .none none, ⟨.fixed, .numeric, 2, 2, none, .none, none⟩]⟩,
    ⟨"4n2!n", [.upTo .numeric 4 .none none, ⟨.fixed, .numeric, 2, 2, none, .none, none⟩]⟩,
    by decide +kernel, by decide +kernel, rfl, rfl, rfl, rfl⟩

end

end DocumentaryCredit
