/-
The search for a match finds the first decomposition of a value, and fails only where there is none.

Each part of the search is described by what it answers (`Outcome.Answers`): of the rows of spans that may stand
from a position on, the one that is preferred to all others. What follows a component is answered by the table
behind it, and the blocks that the search goes through cut the components into their groups (`Cuts`), so that no
part has to know what was tried before it.
-/
import DocumentaryCredit.Format.Specification
import DocumentaryCredit.Proofs.Format.Ends

namespace DocumentaryCredit

/-! ## Walks -/

theorem Separator.Takes.le {value : List Char} {s : Separator} {p start : Nat} (h : s.Takes value p start) :
    p ≤ start := by
  cases h <;> omega

/-- A separator takes the same characters wherever it is tried at one place. -/
theorem Separator.Takes.start_eq {value : List Char} {s : Separator} {p start start' : Nat}
    (h : s.Takes value p start) (h' : s.Takes value p start') : start = start' := by
  cases h with
  | none => cases h'; rfl
  | slash => cases h'; rfl
  | opening =>
    cases h' with
    | opening => rfl
    | newline hp => exact absurd rfl hp
  | newline hp =>
    cases h' with
    | opening => exact absurd rfl hp
    | newline => rfl

namespace Walk

variable {value : List Char} {p q r : Nat} {xs ys : List Component} {spans here rest : List (Option Span)}

theorem length_eq (h : Walk value p xs spans q) : spans.length = xs.length := by
  induction h with
  | done => rfl
  | absent _ _ ih => simp [ih]
  | present _ _ _ ih => simp [ih]

theorem le (h : Walk value p xs spans q) : p ≤ q := by
  induction h with
  | done => exact Nat.le_refl _
  | absent _ _ ih => exact ih
  | present hsep hseg _ ih =>
    have := hsep.le
    have := hseg.start_le
    omega

theorem append (h : Walk value p xs here q) (h' : Walk value q ys rest r) :
    Walk value p (xs ++ ys) (here ++ rest) r := by
  induction h with
  | done => exact h'
  | absent hopt _ ih => exact .absent hopt (ih h')
  | present hsep hseg _ ih => exact .present hsep hseg (ih h')

theorem of_append : ∀ {xs : List Component} {p : Nat} {spans : List (Option Span)},
    Walk value p (xs ++ ys) spans r →
      ∃ q here rest, spans = here ++ rest ∧ Walk value p xs here q ∧ Walk value q ys rest r
  | [], p, spans, h => ⟨p, [], spans, rfl, .done p, h⟩
  | c :: xs, p, _, h => by
    cases h with
    | absent hopt h =>
      obtain ⟨q, here, rest, rfl, hhere, hrest⟩ := of_append h
      exact ⟨q, none :: here, rest, rfl, .absent hopt hhere, hrest⟩
    | present hsep hseg h =>
      obtain ⟨q, here, rest, rfl, hhere, hrest⟩ := of_append h
      exact ⟨q, _ :: here, rest, rfl, .present hsep hseg hhere, hrest⟩

/-- Components that are all absent take nothing. -/
theorem of_absent (h : Walk value p xs spans q) (hnone : ∀ s ∈ spans, s = none) :
    p = q ∧ spans = List.replicate xs.length none := by
  induction h with
  | done => exact ⟨rfl, rfl⟩
  | absent _ _ ih =>
    obtain ⟨hp, hspans⟩ := ih fun s hs => hnone s (List.mem_cons_of_mem _ hs)
    exact ⟨hp, by rw [List.length_cons, List.replicate_succ, ← hspans]⟩
  | present => cases hnone _ (List.mem_cons_self ..)

theorem absent_all (h : ∀ c ∈ xs, c.isOptional = true) :
    Walk value p xs (List.replicate xs.length none) p := by
  induction xs with
  | nil => exact .done p
  | cons c xs ih => exact .absent (h c (List.mem_cons_self ..)) (ih fun d hd => h d (List.mem_cons_of_mem _ hd))

end Walk

/-! ## Groups -/

/-- Groups are judged apart where the one part ends with a group and the other does not go on with it. -/
theorem wholeGroups_append {xs ys : List Component} {here rest : List (Option Span)}
    (hlen : here.length = xs.length)
    (hnext : ∀ c ∈ xs, ∀ d ∈ ys.head?, c.isOptional = true → c.group ≠ d.group) :
    WholeGroups (xs ++ ys) (here ++ rest) ↔ WholeGroups xs here ∧ WholeGroups ys rest := by
  unfold WholeGroups
  rw [List.zip_append hlen.symm, List.isChain_append]
  refine ⟨fun h => ⟨h.1, h.2.1⟩, fun h => ⟨h.1, h.2, ?_⟩⟩
  rintro ⟨c, s⟩ hlast ⟨d, t⟩ hhead hopt hgroup
  have hc : c ∈ xs := (List.of_mem_zip (List.mem_of_getLast? hlast)).1
  have hd : d ∈ ys.head? := by
    cases ys with
    | nil => simp at hhead
    | cons y ys =>
      cases rest with
      | nil => simp at hhead
      | cons t' rest => simpa using (by simpa using hhead : y = d ∧ t' = t).1
  exact absurd hgroup (hnext c hc d hd hopt)

/-- The components of one group are all there or all absent. -/
theorem wholeGroups_oneGroup {g : Nat} : ∀ {xs : List Component} {spans : List (Option Span)},
    spans.length = xs.length → (∀ c ∈ xs, c.group = some g) →
      (WholeGroups xs spans ↔ (∀ s ∈ spans, s.isSome = true) ∨ ∀ s ∈ spans, s = none)
  | [], [], _, _ => by simp [WholeGroups]
  | [_], [s], _, _ => by cases s <;> simp [WholeGroups]
  | c :: d :: xs, s :: t :: spans, hlen, hgroup => by
    have hc : c.group = some g := hgroup c (by simp)
    have hd : d.group = some g := hgroup d (by simp)
    have hrest : (t :: spans).length = (d :: xs).length := by simpa using hlen
    have ih := wholeGroups_oneGroup hrest fun e he => hgroup e (List.mem_cons_of_mem _ he)
    have hfate : SameFate (c, s) (d, t) ↔ s.isSome = t.isSome := by
      simp [SameFate, Component.isOptional, hc, hd]
    unfold WholeGroups at ih ⊢
    rw [List.zip_cons_cons, List.zip_cons_cons, List.isChain_cons_cons, hfate, ← List.zip_cons_cons, ih]
    cases s <;> cases t <;> simp

/-- Blocks cut a row of components into its groups and the components outside groups. -/
inductive Cuts : List Component → List Format.Block → Prop where
  | nil : Cuts [] []
  | alone {c : Component} {i : Nat} {rest : List Component} {blocks : List Format.Block} (hgroup : c.group = none)
      (h : Cuts rest blocks) : Cuts (c :: rest) (⟨false, [(c, i)]⟩ :: blocks)
  | group {g : Nat} {row : List (Component × Nat)} {rest : List Component} {blocks : List Format.Block}
      (hne : row ≠ []) (hgroup : ∀ x ∈ row, x.1.group = some g) (hnext : ∀ c ∈ rest.head?, c.group ≠ some g)
      (h : Cuts rest blocks) : Cuts (row.map (·.1) ++ rest) (⟨true, row⟩ :: blocks)

theorem Cuts.addToBlocks {c : Component} {i : Nat} {rest : List Component} {blocks : List Format.Block}
    (h : Cuts rest blocks) : Cuts (c :: rest) (Format.addToBlocks c i blocks) := by
  -- A component starts a block of its own unless it belongs to the group of the next one.
  have hown : (∀ d ∈ rest.head?, c.isOptional = true → d.group ≠ c.group) →
      Cuts (c :: rest) (⟨c.isOptional, [(c, i)]⟩ :: blocks) := by
    intro hnext
    cases hgroup : c.group with
    | none =>
      rw [show c.isOptional = false by simp [Component.isOptional, hgroup]]
      exact .alone hgroup h
    | some g =>
      have hopt : c.isOptional = true := by simp [Component.isOptional, hgroup]
      rw [hopt]
      have hrow : ∀ x ∈ [(c, i)], x.1.group = some g := by simpa using hgroup
      exact .group (List.cons_ne_nil _ _) hrow (fun d hd => hgroup ▸ hnext d hd hopt) h
  unfold Format.addToBlocks
  cases h with
  | nil => exact hown (by simp)
  | @alone d j rest blocks hgroup h =>
    by_cases hsame : (c.isOptional && d.group == c.group) = true
    · obtain ⟨hopt, heq⟩ := Bool.and_eq_true_iff.1 hsame
      have hnone : c.group = none := by rw [← eq_of_beq heq, hgroup]
      simp [Component.isOptional, hnone] at hopt
    · simp only [hsame, if_false, Bool.false_eq_true]
      refine hown fun e he hopt heq => hsame ?_
      simp only [List.head?_cons, Option.mem_some_iff] at he
      simp [he, hopt, heq]
  | @group g row rest blocks hne hgroup hnext h =>
    obtain _ | ⟨⟨d, j⟩, row⟩ := row
    · exact absurd rfl hne
    have hd : d.group = some g := hgroup (d, j) (by simp)
    by_cases hsame : (c.isOptional && d.group == c.group) = true
    · simp only [hsame, if_true]
      have hc : c.group = some g := by simp_all
      have hrow : ∀ x ∈ (c, i) :: (d, j) :: row, x.1.group = some g := List.forall_mem_cons.2 ⟨hc, hgroup⟩
      exact .group (List.cons_ne_nil _ _) hrow hnext h
    · simp only [hsame, if_false, Bool.false_eq_true]
      refine hown fun e he hopt heq => hsame ?_
      simp only [List.map_cons, List.cons_append, List.head?_cons, Option.mem_some_iff] at he
      simp [he, hopt, heq]

theorem cuts_blocks (components : List Component) : Cuts components (Format.blocks components) := by
  have hall : ∀ row : List (Component × Nat), Cuts (row.map (·.1))
      (row.foldr (fun x rest => Format.addToBlocks x.1 x.2 rest) []) := by
    intro row
    induction row with
    | nil => exact .nil
    | cons x row ih => exact ih.addToBlocks
  have hblocks : Cuts (components.zipIdx.map (·.1)) (Format.blocks components) := hall components.zipIdx
  rwa [List.zipIdx_map_fst] at hblocks

/-! ## What the parts of the search answer -/

/-- The outcome is the row of spans in `D` that is preferred to all others there, or `D` is empty. -/
def Outcome.Answers (o : Outcome) (D : List (Option Span) → Prop) : Prop :=
  match o with
  | .found spans => D spans ∧ ∀ other, D other → other = spans ∨ Preferred spans other
  | .failed _ => ∀ spans, ¬ D spans

namespace Outcome

variable {D E : List (Option Span) → Prop}

theorem Answers.congr {o : Outcome} (h : o.Answers D) (heq : ∀ spans, D spans ↔ E spans) : o.Answers E := by
  cases o with
  | found spans => exact ⟨(heq _).1 h.1, fun other ho => h.2 other ((heq _).2 ho)⟩
  | failed => exact fun spans hs => h spans ((heq _).2 hs)

theorem Answers.prepend {o : Outcome} (h : o.Answers D) (front : List (Option Span)) :
    (o.prepend front).Answers fun spans => ∃ rest, spans = front ++ rest ∧ D rest := by
  cases o with
  | found spans =>
    refine ⟨⟨spans, rfl, h.1⟩, ?_⟩
    rintro _ ⟨rest, rfl, hrest⟩
    rcases h.2 rest hrest with rfl | hlt
    · exact .inl rfl
    · exact .inr (List.Lex.append_left _ hlt front)
  | failed =>
    rintro _ ⟨rest, -, hrest⟩
    exact h rest hrest

/-- What is tried first is preferred to what is tried after it. -/
theorem Answers.orElse {o : Outcome} {second : Unit → Outcome} (h : o.Answers D) (h' : (second ()).Answers E)
    (hbefore : ∀ s t, D s → E t → Preferred s t) : (o.orElse second).Answers fun spans => D spans ∨ E spans := by
  unfold Outcome.orElse
  cases o with
  | found spans =>
    refine ⟨.inl h.1, ?_⟩
    rintro other (ho | ho)
    · exact h.2 other ho
    · exact .inr (hbefore _ _ h.1 ho)
  | failed met =>
    simp only
    cases hsecond : second () with
    | found spans =>
      rw [hsecond] at h'
      refine ⟨.inr h'.1, ?_⟩
      rintro other (ho | ho)
      · exact absurd ho (h other)
      · exact h'.2 other ho
    | failed =>
      rw [hsecond] at h'
      rintro spans (ho | ho)
      · exact h spans ho
      · exact h' spans ho

/-- Of several ends the longest goes first, and behind each end what is preferred there. -/
theorem answers_firstOf {next : Nat → Outcome} {start : Nat} {D : Nat → List (Option Span) → Prop}
    (hnext : ∀ stop, (next stop).Answers (D stop)) : ∀ (stops : List Nat) (met : Option Failure),
      stops.Pairwise (· > ·) → (∀ stop ∈ stops, start ≤ stop) →
      (firstOf next (Span.mk start) met stops).Answers
        fun spans => ∃ stop ∈ stops, ∃ rest, spans = some ⟨start, stop⟩ :: rest ∧ D stop rest
  | [], met, _, _ => by
    rintro spans ⟨stop, hstop, -⟩
    cases hstop
  | stop :: stops, met, hdesc, hstart => by
    have hstop := hnext stop
    have hrest := (List.pairwise_cons.1 hdesc).1
    unfold firstOf
    cases hcase : next stop with
    | found spans =>
      rw [hcase] at hstop
      refine ⟨⟨stop, List.mem_cons_self .., spans, rfl, hstop.1⟩, ?_⟩
      rintro _ ⟨stop', hmem, rest, rfl, hD⟩
      rcases List.mem_cons.1 hmem with rfl | hmem
      · rcases hstop.2 rest hD with rfl | hlt
        · exact .inl rfl
        · exact .inr (.cons hlt)
      · have hlt := hrest stop' hmem
        have hle := hstart stop' (List.mem_cons_of_mem _ hmem)
        exact .inr (.rel (.longer (show stop' - start < stop - start by omega)))
    | failed failure =>
      rw [hcase] at hstop
      refine (answers_firstOf hnext stops _ (List.pairwise_cons.1 hdesc).2
        fun s hs => hstart s (List.mem_cons_of_mem _ hs)).congr fun spans => ?_
      constructor
      · rintro ⟨stop', hmem, h⟩
        exact ⟨stop', List.mem_cons_of_mem _ hmem, h⟩
      · rintro ⟨stop', hmem, rest, rfl, hD⟩
        rcases List.mem_cons.1 hmem with rfl | hmem
        · exact absurd hD (hstop rest)
        · exact ⟨stop', hmem, rest, rfl, hD⟩

end Outcome

section
variable {value : List Char} {D : Nat → List (Option Span) → Prop}

/-- The components are there one after another, and `D` says what follows them. -/
def PresentThen (value : List Char) (D : Nat → List (Option Span) → Prop) (p : Nat) (components : List Component)
    (spans : List (Option Span)) : Prop :=
  ∃ q here rest, spans = here ++ rest ∧ Walk value p components here q ∧ (∀ s ∈ here, s.isSome = true) ∧ D q rest

/-- A component with what follows it; nothing that follows may start badly, for an empty segment before it would
not show that. -/
theorem matchComponent_answers {next : Nat → Outcome} (hnext : ∀ q, (next q).Answers (D q))
    (hgood : ∀ q spans, D q spans → ¬ IsBadStart value q) (c : Component) (index p : Nat) :
    (Format.matchComponent value c index next p).Answers fun spans => ∃ start stop rest,
      c.separator.Takes value p start ∧ c.IsSegment value start stop ∧
        spans = some ⟨start, stop⟩ :: rest ∧ D stop rest := by
  unfold Format.matchComponent
  cases hcase : c.start? value p with
  | error lack =>
    rintro spans ⟨start, stop, rest, hsep, -⟩
    rw [Component.start?_eq_ok_iff.2 hsep] at hcase
    cases hcase
  | ok start =>
    simp only
    refine (Outcome.answers_firstOf hnext _ _ Component.ends_descending
      fun stop hstop => (Component.mem_ends_iff.1 hstop).2.start_le).congr fun spans => ?_
    constructor
    · rintro ⟨stop, hstop, rest, rfl, hD⟩
      exact ⟨start, stop, rest, Component.start?_eq_ok_iff.1 hcase, (Component.mem_ends_iff.1 hstop).2, rfl, hD⟩
    · rintro ⟨start', stop, rest, hsep, hseg, rfl, hD⟩
      obtain rfl := (Component.start?_eq_ok_iff.1 hcase).start_eq hsep
      refine ⟨stop, Component.mem_ends_iff.2 ⟨Component.badLineStart?_eq_none_iff.2 fun _ => ?_, hseg⟩, rest, rfl, hD⟩
      rcases Nat.lt_or_ge start stop with hlt | hge
      · exact hseg.not_isBadStart start (Nat.le_refl _) hlt
      · obtain rfl : start = stop := Nat.le_antisymm hseg.start_le hge
        exact hgood _ _ hD

theorem PresentThen.not_isBadStart (hgood : ∀ q spans, D q spans → ¬ IsBadStart value q) {p : Nat}
    {components : List Component} {spans : List (Option Span)} (h : PresentThen value D p components spans) :
    ¬ IsBadStart value p := by
  obtain ⟨q, here, rest, -, hwalk, -, hD⟩ := h
  rcases Nat.lt_or_ge p q with hlt | hge
  · exact hwalk.not_isBadStart p (Nat.le_refl _) hlt
  · obtain rfl : p = q := Nat.le_antisymm hwalk.le hge
    exact hgood _ _ hD

theorem matchComponents_answers {next : Tabulated Outcome} (hnext : ∀ q, (next.get q).Answers (D q))
    (hgood : ∀ q spans, D q spans → ¬ IsBadStart value q) : ∀ (row : List (Component × Nat)) (p : Nat),
      ((Format.matchComponents value next row).get p).Answers (PresentThen value D p (row.map (·.1)))
  | [], p => by
    refine (hnext p).congr fun spans => ⟨fun h => ⟨p, [], spans, rfl, .done p, by simp, h⟩, ?_⟩
    rintro ⟨q, here, rest, rfl, hwalk, -, hD⟩
    cases hwalk
    exact hD
  | (c, index) :: row, p => by
    have ih := matchComponents_answers hnext hgood row
    simp only [Format.matchComponents, Tabulated.get_tabulate]
    refine (matchComponent_answers ih (fun q spans h => h.not_isBadStart hgood) c index p).congr fun spans => ?_
    constructor
    · rintro ⟨start, stop, _, hsep, hseg, rfl, q, here, rest, rfl, hwalk, hsome, hD⟩
      refine ⟨q, some ⟨start, stop⟩ :: here, rest, rfl, .present hsep hseg hwalk, ?_, hD⟩
      simpa using hsome
    · rintro ⟨q, _, rest, rfl, hwalk, hsome, hD⟩
      cases hwalk with
      | absent => simp at hsome
      | @present _ start stop _ _ _ here hsep hseg hwalk =>
        exact ⟨start, stop, here ++ rest, hsep, hseg, rfl, q, here, rest, rfl, hwalk,
          fun s hs => hsome s (List.mem_cons_of_mem _ hs), hD⟩

end

/-! ## Whole formats -/

section
variable {value : List Char} {xs ys : List Component} {p : Nat} {spans : List (Option Span)}

/-- The components use up the value from `p` to its end, with whole groups. -/
def Completes (value : List Char) (components : List Component) (p : Nat) (spans : List (Option Span)) : Prop :=
  Walk value p components spans value.length ∧ WholeGroups components spans

theorem Completes.not_isBadStart (h : Completes value xs p spans) : ¬ IsBadStart value p := by
  rcases Nat.lt_or_ge p value.length with hlt | hge
  · exact h.1.not_isBadStart p (Nat.le_refl _) hlt
  · rintro ⟨-, -, hch⟩
    simp [List.getElem?_eq_none hge] at hch

theorem completes_append_iff (hnext : ∀ c ∈ xs, ∀ d ∈ ys.head?, c.isOptional = true → c.group ≠ d.group) :
    Completes value (xs ++ ys) p spans ↔ ∃ q here rest, spans = here ++ rest ∧ Walk value p xs here q ∧
      WholeGroups xs here ∧ Completes value ys q rest := by
  constructor
  · rintro ⟨hwalk, hwhole⟩
    obtain ⟨q, here, rest, rfl, hhere, hrest⟩ := hwalk.of_append
    obtain ⟨hwhole, hwhole'⟩ := (wholeGroups_append hhere.length_eq hnext).1 hwhole
    exact ⟨q, here, rest, rfl, hhere, hwhole, hrest, hwhole'⟩
  · rintro ⟨q, here, rest, rfl, hhere, hwhole, hrest, hwhole'⟩
    exact ⟨hhere.append hrest, (wholeGroups_append hhere.length_eq hnext).2 ⟨hwhole, hwhole'⟩⟩

/-- A component outside groups is there. -/
theorem completes_alone {c : Component} (hgroup : c.group = none) :
    Completes value (c :: ys) p spans ↔ PresentThen value (Completes value ys) p [c] spans := by
  have hopt : c.isOptional = false := by simp [Component.isOptional, hgroup]
  rw [show c :: ys = [c] ++ ys from rfl, completes_append_iff (by simp [hopt])]
  constructor
  · rintro ⟨q, here, rest, rfl, hwalk, -, hrest⟩
    refine ⟨q, here, rest, rfl, hwalk, ?_, hrest⟩
    cases hwalk with
    | absent habs => simp [hopt] at habs
    | present _ _ hwalk => cases hwalk; simp
  · rintro ⟨q, here, rest, rfl, hwalk, -, hrest⟩
    refine ⟨q, here, rest, rfl, hwalk, ?_, hrest⟩
    cases hwalk with
    | absent habs => simp [hopt] at habs
    | present _ _ hwalk => cases hwalk; simp [WholeGroups]

/-- A group is there or absent. -/
theorem completes_group {g : Nat} (hgroup : ∀ c ∈ xs, c.group = some g) (hnext : ∀ d ∈ ys.head?, d.group ≠ some g) :
    Completes value (xs ++ ys) p spans ↔ PresentThen value (Completes value ys) p xs spans ∨
      ∃ rest, spans = List.replicate xs.length none ++ rest ∧ Completes value ys p rest := by
  have hopt : ∀ c ∈ xs, c.isOptional = true := fun c hc => by simp [Component.isOptional, hgroup c hc]
  rw [completes_append_iff fun c hc d hd _ => by rw [hgroup c hc]; exact (hnext d hd).symm]
  constructor
  · rintro ⟨q, here, rest, rfl, hwalk, hwhole, hrest⟩
    rcases (wholeGroups_oneGroup hwalk.length_eq hgroup).1 hwhole with hsome | hnone
    · exact .inl ⟨q, here, rest, rfl, hwalk, hsome, hrest⟩
    · obtain ⟨rfl, rfl⟩ := hwalk.of_absent hnone
      exact .inr ⟨rest, rfl, hrest⟩
  · rintro (⟨q, here, rest, rfl, hwalk, hsome, hrest⟩ | ⟨rest, rfl, hrest⟩)
    · exact ⟨q, here, rest, rfl, hwalk, (wholeGroups_oneGroup hwalk.length_eq hgroup).2 (.inl hsome), hrest⟩
    · have habsent : Walk value p xs (List.replicate xs.length none) p := Walk.absent_all hopt
      refine ⟨p, _, rest, rfl, habsent, (wholeGroups_oneGroup habsent.length_eq hgroup).2 (.inr ?_), hrest⟩
      exact fun s hs => List.eq_of_mem_replicate hs

end

/-- Blocks answer what completes a value from any place on. -/
theorem matchBlocks_answers {value : List Char} {components : List Component} {blocks : List Format.Block}
    (h : Cuts components blocks) (last : Nat) : ∀ p,
      ((Format.matchBlocks value last blocks).get p).Answers (Completes value components p) := by
  induction h with
  | nil =>
    intro p
    simp only [Format.matchBlocks, Tabulated.get_tabulate]
    split
    · next hend =>
      subst hend
      refine ⟨⟨.done _, .nil⟩, ?_⟩
      rintro other ⟨hwalk, -⟩
      cases hwalk
      exact .inl rfl
    · next hend =>
      rintro spans ⟨hwalk, -⟩
      cases hwalk
      exact hend rfl
  | @alone c i rest blocks hgroup _ ih =>
    intro p
    simp only [Format.matchBlocks, Bool.false_eq_true, if_false]
    exact (matchComponents_answers ih (fun q spans h => h.not_isBadStart) [(c, i)] p).congr
      fun spans => (completes_alone hgroup).symm
  | @group g row rest blocks hne hgroup hnext _ ih =>
    intro p
    simp only [Format.matchBlocks, if_true, Tabulated.get_tabulate]
    have hpresent := matchComponents_answers ih (fun q spans h => h.not_isBadStart) row p
    refine (hpresent.orElse ((ih p).prepend _) ?_).congr fun spans => ?_
    · rintro _ _ ⟨q, here, tail, rfl, hwalk, hsome, -⟩ ⟨tail', rfl, -⟩
      obtain _ | ⟨x, row⟩ := row
      · exact absurd rfl hne
      obtain _ | ⟨s, here⟩ := here
      · cases hwalk
      · obtain ⟨s, rfl⟩ := Option.isSome_iff_exists.1 (hsome s (List.mem_cons_self ..))
        exact .rel (.present s)
    · rw [completes_group (g := g) (by simpa using fun c i hc => hgroup (c, i) hc) hnext, List.length_map]

instance : Std.Asymm Span.TriedBefore where
  asymm := by
    intro a b h h'
    cases h with
    | present => cases h'
    | longer h => cases h' with
      | longer h' => omega

/-- There is at most one first decomposition. -/
theorem Format.FirstDecomposition.unique {format : Format} {value : List Char} {spans spans' : List (Option Span)}
    (h : format.FirstDecomposition value spans) (h' : format.FirstDecomposition value spans') : spans = spans' := by
  rcases h.first spans' h'.decomposition with heq | hlt
  · exact heq.symm
  · rcases h'.first spans h.decomposition with heq | hlt'
    · exact heq
    · exact absurd hlt' (Std.Asymm.asymm (r := List.Lex Span.TriedBefore) _ _ hlt)

/-- The search of a format that has components finds the first decomposition of a value, if there is any. -/
theorem Format.matchSpans_spec {format : Format} (hne : format.components ≠ []) (value : String) :
    (∃ spans, format.matchSpans value = .ok spans ∧ format.FirstDecomposition value.toList spans) ∨
      (∃ cause, format.matchSpans value = .error cause) ∧ ∀ spans, ¬ format.Decomposition value.toList spans := by
  have hempty : format.components.isEmpty = false := by simpa using hne
  have hanswers : ((matchBlocks value.toList (format.components.length - 1) (blocks format.components)).get 0).Answers
      (Completes value.toList format.components 0) :=
    matchBlocks_answers (cuts_blocks format.components) (format.components.length - 1) 0
  simp only [matchSpans, hempty, Bool.false_eq_true, if_false]
  cases hcase : (matchBlocks value.toList (format.components.length - 1) (blocks format.components)).get 0 with
  | found spans =>
    rw [hcase] at hanswers
    refine .inl ⟨spans, rfl, ⟨hanswers.1.1, hanswers.1.2⟩, fun other ho => ?_⟩
    exact hanswers.2 other ⟨ho.walk, ho.wholeGroups⟩
  | failed furthest =>
    rw [hcase] at hanswers
    exact .inr ⟨⟨_, rfl⟩, fun spans h => hanswers spans ⟨h.walk, h.wholeGroups⟩⟩

/-- What the search finds is a decomposition. -/
theorem Format.decomposition_of_matchSpans {format : Format} {value : String} {spans : List (Option Span)}
    (h : format.matchSpans value = .ok spans) : format.Decomposition value.toList spans := by
  have hne : format.components ≠ [] := by
    intro hempty
    simp [matchSpans, hempty] at h
  rcases matchSpans_spec hne value with ⟨spans', hok, hfirst⟩ | ⟨⟨cause, herr⟩, -⟩
  · rw [h] at hok
    cases hok
    exact hfirst.decomposition
  · rw [h] at herr
    cases herr

theorem Format.exists_matchSpans_iff {format : Format} (hne : format.components ≠ []) (value : String) :
    (∃ spans, format.matchSpans value = .ok spans) ↔ ∃ spans, format.Decomposition value.toList spans := by
  constructor
  · rintro ⟨spans, h⟩
    exact ⟨spans, decomposition_of_matchSpans h⟩
  · rintro ⟨spans, hdec⟩
    rcases matchSpans_spec hne value with ⟨spans', hok, -⟩ | ⟨-, hnone⟩
    · exact ⟨spans', hok⟩
    · exact absurd hdec (hnone spans)

/-- What the search finds is the first of the decompositions. -/
theorem Format.firstDecomposition_of_matchSpans {format : Format} (hne : format.components ≠ []) {value : String}
    {spans : List (Option Span)} (h : format.matchSpans value = .ok spans) :
    format.FirstDecomposition value.toList spans := by
  rcases matchSpans_spec hne value with ⟨spans', hok, hfirst⟩ | ⟨⟨cause, herr⟩, -⟩
  · rw [h] at hok
    cases hok
    exact hfirst
  · rw [h] at herr
    cases herr

/-- **The search is the specification.** A format with components matches a value exactly when the value has a
decomposition, and the spans are then those of the first decomposition in the order of preference: neither a place
that is known to fail nor a branch that was given up leaves a trace in them. -/
theorem Format.matchSpans_eq_ok_iff {format : Format} (hne : format.components ≠ []) (value : String) :
    ((∃ spans, format.matchSpans value = .ok spans) ↔ ∃ spans, format.Decomposition value.toList spans) ∧
      ∀ spans, format.matchSpans value = .ok spans ↔ format.FirstDecomposition value.toList spans := by
  refine ⟨exists_matchSpans_iff hne value, fun spans => ⟨firstDecomposition_of_matchSpans hne, fun hfirst => ?_⟩⟩
  rcases matchSpans_spec hne value with ⟨spans', hok, hfirst'⟩ | ⟨-, hnone⟩
  · rw [hfirst.unique hfirst']
    exact hok
  · exact absurd hfirst.decomposition (hnone spans)

/-- An account line, lines that give one of theirs back to the component behind them, and that component. -/
theorem Format.matchSpans_account : ∃ format, compile "[/34x]\\n4*35x\\n14x" = .ok format ∧
    format.components ≠ [] ∧
      format.FirstDecomposition "/12\nAB\nS\nTT".toList [some ⟨1, 3⟩, some ⟨4, 8⟩, some ⟨9, 11⟩] :=
  ⟨⟨"[/34x]\\n4*35x\\n14x", [
      ⟨.variable, .freeText, 1, 34, none, .slash, some 0⟩,
      ⟨.repeated, .freeText, 1, 35, some 4, .newline, none⟩,
      ⟨.variable, .freeText, 1, 14, none, .newline, none⟩]⟩,
    by decide +kernel, by simp, ((matchSpans_eq_ok_iff (by simp) "/12\nAB\nS\nTT").2 _).1 rfl⟩

end DocumentaryCredit
