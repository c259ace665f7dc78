/-
The written form of a format: its components one after another, each as it is shown to a reader, and every group in
brackets. Main statement: what is compiled can be written down and compiled again, and the components are the same. So
two specifications mean the same exactly when their written forms are the same text, however they were spelled.

Both readings go item by item. The one of the specification says how the groups of the components it is about to read
are numbered (`Draft.Leaves`), and the one of the written form needs no more of components than that they are numbered
so and that each can be spelled.
-/
import DocumentaryCredit.Format.Match
import DocumentaryCredit.Proofs.Format.Compiled

namespace DocumentaryCredit

namespace Component

/-- A component without its separator and group. -/
def shape (c : Component) : Format.Shape := ⟨c.extent, c.charset, c.minLength, c.maxLength, c.lines⟩

/-- A specification can ask for the component. -/
def HasSpelling (c : Component) : Prop := ∃ text, c.shape.Spelled text

end Component

namespace Format

/-- The brackets between two components, or at an end, where there is no group. -/
def brackets (before after : Option Nat) : List Char :=
  if before = after then [] else (if before.isSome then [']'] else []) ++ if after.isSome then ['['] else []

/-- The text of components behind one of the group `current`. -/
def writtenFrom (current : Option Nat) : List Component → List Char
  | [] => brackets current none
  | c :: rest => brackets current c.group ++ (c.toText.toList ++ writtenFrom c.group rest)

/-- The components one after another, with `[` before the first and `]` behind the last component of each group. -/
def writtenForm (components : List Component) : String := String.ofList (writtenFrom none components)

/-- Components behind one of the group `current`, whose new groups take the numbers from `next` on. Numbers have sixteen
bits. -/
inductive GroupsFrom : Option Nat → Nat → List Component → Prop where
  | nil {current : Option Nat} {next : Nat} : GroupsFrom current next []
  | single {current : Option Nat} {next : Nat} {c : Component} {rest : List Component} (hgroup : c.group = none)
      (hrest : GroupsFrom none next rest) : GroupsFrom current next (c :: rest)
  | first {current : Option Nat} {next : Nat} {c : Component} {rest : List Component} (hgroup : c.group = some next)
      (hnew : current ≠ some next) (hrest : GroupsFrom (some next) ((next + 1) % (Text.maxNat16 + 1)) rest) :
      GroupsFrom current next (c :: rest)
  | more {n next : Nat} {c : Component} {rest : List Component} (hgroup : c.group = some n)
      (hrest : GroupsFrom (some n) next rest) : GroupsFrom (some n) next (c :: rest)

variable {spec : String} {format : Format} {components rest : List Component} {c : Component} {d : Draft}
  {current : Option Nat} {next position n : Nat} {cs text : List Char}

/-- A group that is closed may as well stand before components that do not go on with it. -/
theorem GroupsFrom.behind (h : GroupsFrom none next rest) (hnew : n ≠ next) : GroupsFrom (some n) next rest := by
  cases h with
  | nil => exact .nil
  | single hgroup hrest => exact .single hgroup hrest
  | first hgroup _ hrest => exact .first hgroup (by simpa using hnew) hrest

/-! ## Patterns -/

/-- A number is written with its digits. -/
theorem isNumber_toString (hpos : 0 < n) (hle : n ≤ Text.maxNat16) : IsNumber (toString n).toList n where
  isDigit c hc := by
    rw [Nat.toString_eq_repr, Nat.toList_repr] at hc
    exact Text.isDigit_of_mem_toDigits hc
  value := by rw [Nat.toString_eq_repr, Nat.toList_repr, Text.digitsValue_toDigits]
  pos := hpos
  le := hle

theorem code_of_ofCode? {letter : Char} {set : Charset} (h : Charset.ofCode? letter = some set) :
    set.code.toList = [letter] := by
  unfold Charset.ofCode? at h
  split at h <;> cases h <;> rfl

/-- **A pattern is a spelling**: whatever the spelling that a component was read from, its pattern is one of the same
shape. -/
theorem spelled_pattern (h : c.shape.Spelled text) : c.shape.Spelled c.pattern.toList := by
  obtain ⟨extent, charset, minLength, maxLength, lines, separator, group⟩ := c
  unfold Component.shape at h ⊢
  cases h with
  | fixed hn hset =>
    have hpattern := Shape.Spelled.fixed (isNumber_toString hn.pos hn.le) hset
    simpa [Component.pattern, (charset_of_ofCode? hset).1, code_of_ofCode? hset] using hpattern
  | upTo hn hset =>
    have hpattern := Shape.Spelled.upTo (isNumber_toString hn.pos hn.le) hset
    simpa [Component.pattern, (charset_of_ofCode? hset).1, code_of_ofCode? hset] using hpattern
  | linesBefore hlines hwidth hset hdecimal | linesBehind hlines hwidth hset hdecimal =>
    have hpattern := Shape.Spelled.linesBefore (isNumber_toString hlines.pos hlines.le)
      (isNumber_toString hwidth.pos hwidth.le) hset hdecimal
    simpa [Component.pattern, Component.lineLimit, (charset_of_ofCode? hset).1, code_of_ofCode? hset] using hpattern
  | longDate => exact .longDate
  | shortDate => exact .shortDate

/-- A pattern ends in a letter, so that a number may follow it. -/
theorem apart_pattern (h : c.shape.Spelled text) (cs : List Char) : Apart c.pattern.toList cs := by
  obtain ⟨extent, charset, minLength, maxLength, lines, separator, group⟩ := c
  unfold Component.shape at h
  cases h with
  | fixed hn hset | upTo hn hset | linesBefore _ hn hset | linesBehind _ hn hset =>
    have hdate := (charset_of_ofCode? hset).1
    have hcode := code_of_ofCode? hset
    have hdigit := (charset_of_ofCode? hset).2.1
    intro d hd
    simp only [Component.pattern, hdate, if_false, String.toList_append, hcode, List.getLast?_concat] at hd
    cases hd
    simp [hdigit]
  | longDate =>
    have hpattern : Apart "YYYYMMDD".toList cs := .of_not_digit "YYYYMMD".toList (by decide)
    exact hpattern
  | shortDate =>
    have hpattern : Apart "YYMMDD".toList cs := .of_not_digit "YYMMD".toList (by decide)
    exact hpattern

/-! ## What a specification reads as -/

/-- The components that a draft leaves to be read: they are numbered from its next number on, and an open group that is
still empty gets the first of them. -/
def Draft.Leaves (d : Draft) (rest : List Component) : Prop :=
  match d.group with
  | none => GroupsFrom none d.nextGroup rest
  | some group =>
    if d.components.length = group.first then
      ∃ c more, rest = c :: more ∧ c.group = some group.number ∧ GroupsFrom (some group.number) d.nextGroup more
    else GroupsFrom (some group.number) d.nextGroup rest

/-- The number after that of the open group comes next. -/
def Draft.Counts (d : Draft) : Prop := ∀ group ∈ d.group, d.nextGroup = (group.number + 1) % (Text.maxNat16 + 1)

/-- What a draft leaves to be read after an item, it left before the item, with the component of the item in front. -/
theorem Draft.Leaves.of_add {d' : Draft} {item : Item} (hvalid : d.Valid) (hcounts : d.Counts)
    (hadd : d.add position item = .ok d') (h : d'.Leaves rest) :
    ∃ before, d'.components = d.components ++ before ∧ d.Leaves (before ++ rest) := by
  cases item with
  | openGroup =>
    obtain ⟨hgroup, rfl⟩ := openGroup_eq_ok_iff.1 hadd
    simp only [Leaves, if_true] at h
    obtain ⟨c, more, rfl, hc, hmore⟩ := h
    refine ⟨[], by simp, ?_⟩
    simp only [Leaves, hgroup]
    exact .first hc (Option.some_ne_none _).symm hmore
  | closeGroup =>
    obtain ⟨group, hgroup, hfilled, -, rfl⟩ := closeGroup_eq_ok_iff.1 hadd
    refine ⟨[], by simp, ?_⟩
    simp only [Leaves, hgroup, List.nil_append, if_neg hfilled] at h ⊢
    refine h.behind ?_
    have := hcounts group hgroup
    simp only [Text.maxNat16] at this
    omega
  | separator s =>
    obtain ⟨-, -, rfl⟩ := addSeparator_eq_ok_iff.1 hadd
    exact ⟨[], by simp, h⟩
  | component shape =>
    cases hadd
    refine ⟨[_], rfl, ?_⟩
    simp only [Leaves, addComponent] at h ⊢
    cases hgroup : d.group with
    | none =>
      simp only [hgroup] at h
      exact .single (by simp) h
    | some group =>
      have hfirst : d.components.length + 1 ≠ group.first := by
        have := hvalid.group group hgroup
        omega
      simp only [hgroup, List.length_append, List.length_singleton, if_neg hfirst] at h
      simp only
      split
      · exact ⟨_, rest, rfl, by simp, h⟩
      · exact .more (by simp) h

theorem Draft.Counts.add {d' : Draft} {item : Item} (hcounts : d.Counts) (hadd : d.add position item = .ok d') :
    d'.Counts := by
  cases item with
  | openGroup =>
    obtain ⟨-, rfl⟩ := openGroup_eq_ok_iff.1 hadd
    rintro group ⟨⟩
    rfl
  | closeGroup =>
    obtain ⟨-, -, -, -, rfl⟩ := closeGroup_eq_ok_iff.1 hadd
    exact nofun
  | separator s =>
    obtain ⟨-, -, rfl⟩ := addSeparator_eq_ok_iff.1 hadd
    exact hcounts
  | component shape =>
    cases hadd
    exact hcounts

/-- What is read behind a draft is what it leaves to be read. -/
theorem exists_leaves_of_readItems {cs : List Char} {d : Draft} {position : Nat} (hvalid : d.Valid) (hcounts : d.Counts)
    (h : readItems d position cs = .ok components) : ∃ rest, components = d.components ++ rest ∧ d.Leaves rest := by
  cases hcs : cs with
  | nil =>
    rw [hcs, readItems] at h
    obtain ⟨rfl, -, hgroup⟩ := Draft.finish_eq_ok_iff.1 h
    exact ⟨[], by simp, by simp [Draft.Leaves, hgroup, GroupsFrom.nil]⟩
  | cons c more =>
    rw [hcs] at h
    obtain ⟨item, text, d', cs', hitem, hadd, hshorter, h⟩ := exists_item_of_readItems h
    obtain ⟨rest, rfl, hrest⟩ := exists_leaves_of_readItems (hvalid.add hitem.ne_none hadd) (hcounts.add hadd) h
    obtain ⟨before, hbefore, hleaves⟩ := hrest.of_add hvalid hcounts hadd
    exact ⟨before ++ rest, by rw [hbefore, List.append_assoc], hleaves⟩
termination_by cs.length
decreasing_by simp only [hcs, List.length_cons]; omega

/-! ## What can be written down -/

/-- The components can be written down: they do not begin with a line break, their groups are numbered in order, and
each of them can be spelled. -/
structure Writable (components : List Component) : Prop where
  opens : OpensInLine components
  groups : GroupsFrom none 0 components
  spelled : ∀ c ∈ components, c.HasSpelling

theorem writable_of_compile (h : compile spec = .ok format) : Writable format.components := by
  have hvalid : Draft.Valid {} := ⟨nofun, nofun, nofun⟩
  have hread := (readItems_of_compile h).2
  have hstep : ∀ {d d' : Draft} {item text position},
      (d.Valid ∧ ∀ c ∈ d.components, c.HasSpelling) → Item.Spelled item text →
      d.add position item = .ok d' → d'.Valid ∧ ∀ c ∈ d'.components, c.HasSpelling := by
    intro d d' item text position hd hitem hadd
    refine ⟨hd.1.add hitem.ne_none hadd, fun c hc => ?_⟩
    obtain hsame | ⟨shape, separator, group, rfl, hmore⟩ := Draft.components_add hadd
    · exact hd.2 c (hsame ▸ hc)
    · simp only [hmore, List.mem_append, List.mem_singleton] at hc
      obtain hc | rfl := hc
      · exact hd.2 c hc
      · cases hitem with
        | component hshape => exact ⟨text, hshape⟩
  obtain ⟨d, ⟨hd, hspelled⟩, hfinish⟩ := exists_finish_of_readItems hstep ⟨hvalid, by simp⟩ hread
  obtain ⟨rest, heq, hleaves⟩ := exists_leaves_of_readItems hvalid nofun hread
  have hcomponents := (Draft.finish_eq_ok_iff.1 hfinish).1
  rw [List.nil_append] at heq
  exact ⟨hcomponents ▸ hd.opens, heq ▸ hleaves, hcomponents ▸ hspelled⟩

/-! ## Reading the written form -/

/-- The draft stands behind a component of the group `current`, which is open if there is one. -/
structure Draft.Behind (d : Draft) (current : Option Nat) (next : Nat) : Prop where
  pending : d.pending = none
  group : d.group.map (·.number) = current
  filled : ∀ group ∈ d.group, group.first < d.components.length
  next : d.nextGroup = next

/-- No component starts with a star, which would make the number before it one of lines. -/
theorem head?_toText_ne_star (h : c.shape.Spelled text) : (c.toText.toList ++ cs).head? ≠ some '*' := by
  have hpattern : (c.pattern.toList ++ cs).head? ≠ some '*' :=
    (Item.Spelled.component (spelled_pattern h)).head?_ne_star
  unfold Component.toText
  cases c.separator with
  | none => simpa [Separator.toText] using hpattern
  | slash | newline => simp [Separator.toText]

theorem head?_writtenFrom_ne_star (hspelled : ∀ c ∈ components, c.HasSpelling) :
    (writtenFrom current components).head? ≠ some '*' := by
  have hbrackets : ∀ {after : Option Nat} {cs : List Char}, cs.head? ≠ some '*' →
      (brackets current after ++ cs).head? ≠ some '*' := by
    intro after cs hcs
    unfold brackets
    split
    · exact hcs
    · cases current <;> cases after <;> simp [hcs]
  cases components with
  | nil =>
    rw [writtenFrom, ← List.append_nil (brackets _ _)]
    exact hbrackets (by simp)
  | cons c rest =>
    obtain ⟨text, htext⟩ := hspelled c (by simp)
    exact hbrackets (head?_toText_ne_star htext)

/-- A separator waits for its component. -/
theorem readItems_separator (position : Nat) (s : Separator) (hpending : d.pending = none)
    (hopens : s = .newline → d.components ≠ []) (cs : List Char) :
    ∃ d' position', readItems d position (s.toText.toList ++ cs) = readItems d' position' cs ∧ d'.waiting = s ∧
      d'.components = d.components ∧ d'.group = d.group ∧ d'.nextGroup = d.nextGroup := by
  cases s with
  | none => exact ⟨d, position, rfl, Draft.waiting_of_none hpending, rfl, rfl, rfl⟩
  | slash =>
    have hadd : d.add position (.separator .slash) = .ok { d with pending := some (.slash, position) } :=
      Draft.addSeparator_eq_ok_iff.2 ⟨hpending, hopens, rfl⟩
    have hread : readItems d position (['/'] ++ cs) = _ := readItems_of_add (by simp) rfl hadd
    exact ⟨{ d with pending := some (.slash, position) }, _, hread, rfl, rfl, rfl, rfl⟩
  | newline =>
    have hadd : d.add position (.separator .newline) = .ok { d with pending := some (.newline, position) } :=
      Draft.addSeparator_eq_ok_iff.2 ⟨hpending, hopens, rfl⟩
    have hread : readItems d position (['\\', 'n'] ++ cs) = _ := readItems_of_add (by simp) rfl hadd
    exact ⟨{ d with pending := some (.newline, position) }, _, hread, rfl, rfl, rfl, rfl⟩

/-- A component is read off its text and added to the others, in the group that is open. -/
theorem readItems_toText (position : Nat) (h : c.shape.Spelled text) (hpending : d.pending = none)
    (hgroup : d.group.map (·.number) = c.group) (hopens : c.separator = .newline → d.components ≠ [])
    (hcs : cs.head? ≠ some '*') :
    ∃ d' position', readItems d position (c.toText.toList ++ cs) = readItems d' position' cs ∧
      d'.components = d.components ++ [c] ∧ d'.pending = none ∧ d'.group = d.group ∧ d'.nextGroup = d.nextGroup := by
  have hitem : Item.Spelled (.component c.shape) c.pattern.toList := .component (spelled_pattern h)
  obtain ⟨waiting, position', hseparator, hwaiting, hcomponents, hsame, hnext⟩ :=
    readItems_separator position c.separator hpending hopens (c.pattern.toList ++ cs)
  have hpattern : readItems waiting position' (c.pattern.toList ++ cs) = _ :=
    readItems_of_add hitem.ne_nil (scanItem_of_spelled hitem (apart_pattern h cs) hcs) rfl
  have hadded : (waiting.addComponent c.shape).components = d.components ++ [c] := by
    have hseparatorOf : (waiting.pending.map (·.1)).getD .none = c.separator := hwaiting
    simp only [Draft.addComponent, hcomponents, hsame, hgroup, hseparatorOf]
    rfl
  refine ⟨waiting.addComponent c.shape, position' + c.pattern.toList.length, ?_, hadded, rfl, hsame, hnext⟩
  rw [Component.toText, String.toList_append, List.append_assoc, hseparator, hpattern]

/-- The bracket behind a group closes it. -/
theorem readItems_closing (position : Nat) (h : d.Behind current next) (cs : List Char) :
    ∃ position', readItems d position (brackets current none ++ cs) =
      readItems { d with group := none } position' cs := by
  cases hgroup : d.group with
  | none =>
    have hcurrent : current = none := by rw [← h.group, hgroup]; rfl
    subst hcurrent
    refine ⟨position, ?_⟩
    rw [← hgroup]
    rfl
  | some group =>
    have hcurrent : current = some group.number := by rw [← h.group, hgroup]; rfl
    subst hcurrent
    have hadd : d.add position .closeGroup = .ok { d with group := none } :=
      Draft.closeGroup_eq_ok_iff.2 ⟨group, hgroup, (h.filled group hgroup).ne', h.pending, rfl⟩
    have hread : readItems d position ([']'] ++ cs) = _ := readItems_of_add (by simp) rfl hadd
    exact ⟨_, hread⟩

/-- The bracket before a group opens it. -/
theorem readItems_opening (hgroup : d.group = none) (cs : List Char) :
    readItems d position ('[' :: cs) = readItems { d with
      group := some ⟨d.nextGroup, position, d.components.length⟩
      nextGroup := (d.nextGroup + 1) % (Text.maxNat16 + 1) } (position + 1) cs := by
  have hadd : d.add position .openGroup = .ok { d with
      group := some ⟨d.nextGroup, position, d.components.length⟩
      nextGroup := (d.nextGroup + 1) % (Text.maxNat16 + 1) } := Draft.openGroup_eq_ok_iff.2 ⟨hgroup, rfl⟩
  exact readItems_of_add (List.cons_ne_nil '[' []) rfl hadd

theorem brackets_some (hnew : current ≠ some n) : brackets current (some n) = brackets current none ++ ['['] := by
  cases current <;> simp_all [brackets]

/-- Components are read off what is written of them, behind every draft that others have filled. -/
def ReadOff (current : Option Nat) (next : Nat) (components : List Component) : Prop :=
  ∀ (d : Draft) (position : Nat), d.Behind current next → OpensInLine (d.components ++ components) →
    readItems d position (writtenFrom current components) = .ok (d.components ++ components)

/-- Behind its brackets a component is read, and the others behind it. -/
theorem ReadOff.cons (hspelled : ∀ other ∈ c :: rest, other.HasSpelling) (hpending : d.pending = none)
    (hgroup : d.group.map (·.number) = c.group) (hroom : ∀ group ∈ d.group, group.first ≤ d.components.length)
    (hopens : OpensInLine (d.components ++ c :: rest)) (hrest : ReadOff c.group d.nextGroup rest) :
    readItems d position (c.toText.toList ++ writtenFrom c.group rest) = .ok (d.components ++ c :: rest) := by
  obtain ⟨text, htext⟩ := hspelled c (by simp)
  have hbreak : c.separator = .newline → d.components ≠ [] := by
    intro hnewline hnil
    rw [hnil] at hopens
    exact hopens c rfl hnewline
  have hstar : (writtenFrom c.group rest).head? ≠ some '*' :=
    head?_writtenFrom_ne_star fun c hc => hspelled c (List.mem_cons_of_mem _ hc)
  obtain ⟨d', position', hread, hcomponents, hpending', hgroup', hnext⟩ :=
    readItems_toText position htext hpending hgroup hbreak hstar
  have hbehind : d'.Behind c.group d.nextGroup := by
    refine ⟨hpending', by rw [hgroup', hgroup], fun group hmem => ?_, hnext⟩
    have := hroom group (hgroup' ▸ hmem)
    rw [hcomponents, List.length_append, List.length_singleton]
    omega
  rw [List.append_cons] at hopens ⊢
  rw [hread, hrest d' position' hbehind (hcomponents ▸ hopens), hcomponents]

/-- Components whose groups are numbered in order are read off what is written of them. -/
theorem readOff_of_groupsFrom (hgroups : GroupsFrom current next components)
    (hspelled : ∀ c ∈ components, c.HasSpelling) : ReadOff current next components := by
  induction hgroups with
  | nil =>
    intro d position hbehind _
    obtain ⟨position', hread⟩ := readItems_closing position hbehind []
    rw [List.append_nil] at hread ⊢
    rw [writtenFrom, hread, readItems]
    exact Draft.finish_eq_ok_iff.2 ⟨rfl, hbehind.pending, rfl⟩
  | @single current next c rest hgroup hrest ih =>
    intro d position hbehind hopens
    have hrest' := ih fun c hc => hspelled c (List.mem_cons_of_mem _ hc)
    obtain ⟨position', hread⟩ := readItems_closing position hbehind
      (c.toText.toList ++ writtenFrom c.group rest)
    rw [← hgroup] at hrest' hread
    rw [writtenFrom, hread]
    exact ReadOff.cons hspelled hbehind.pending hgroup.symm (by simp) hopens (hbehind.next ▸ hrest')
  | @first current next c rest hgroup hnew hrest ih =>
    intro d position hbehind hopens
    have hrest' := ih fun c hc => hspelled c (List.mem_cons_of_mem _ hc)
    obtain ⟨position', hread⟩ := readItems_closing position hbehind
      ('[' :: (c.toText.toList ++ writtenFrom c.group rest))
    rw [readItems_opening rfl] at hread
    have hbrackets : brackets current c.group ++ (c.toText.toList ++ writtenFrom c.group rest) =
        brackets current none ++ '[' :: (c.toText.toList ++ writtenFrom c.group rest) := by
      rw [hgroup, brackets_some hnew, List.append_assoc, List.singleton_append]
    rw [← hgroup] at hrest'
    rw [writtenFrom, hbrackets, hread]
    refine ReadOff.cons hspelled hbehind.pending ?_ ?_ hopens (hbehind.next ▸ hrest')
    · simp [hgroup, hbehind.next]
    · rintro group ⟨⟩
      exact le_rfl
  | @more n next c rest hgroup hrest ih =>
    intro d position hbehind hopens
    have hrest' := ih fun c hc => hspelled c (List.mem_cons_of_mem _ hc)
    have hbrackets : brackets (some n) c.group = [] := if_pos hgroup.symm
    have hroom : ∀ group ∈ d.group, group.first ≤ d.components.length := fun group hmem =>
      Nat.le_of_lt (hbehind.filled group hmem)
    rw [← hgroup] at hrest'
    rw [writtenFrom, hbrackets, List.nil_append]
    exact ReadOff.cons hspelled hbehind.pending (hbehind.group.trans hgroup.symm) hroom hopens (hbehind.next ▸ hrest')

/-! ## The written form -/

/-- What can be written down is compiled again. -/
theorem compile_writtenForm (h : Writable components) (hne : components ≠ []) :
    compile (writtenForm components) = .ok ⟨writtenForm components, components⟩ := by
  have hread : readItems {} 0 (writtenForm components).toList = .ok components := by
    rw [writtenForm, String.toList_ofList]
    exact readOff_of_groupsFrom h.groups h.spelled {} 0 ⟨rfl, rfl, nofun, rfl⟩ h.opens
  have hempty : ¬ (writtenForm components).isEmpty = true := by
    intro hempty
    rw [String.isEmpty_iff.1 hempty, String.toList_empty, readItems] at hread
    exact hne (Draft.finish_eq_ok_iff.1 hread).1.symm
  rw [compile, if_neg hempty, hread]
  rfl

/-- Matching asks only for the components of a format, when there are any. -/
theorem matchSpans_congr {other : Format} (h : other.components = format.components) (hne : format.components ≠ [])
    (value : String) : other.matchSpans value = format.matchSpans value := by
  have hempty : format.components.isEmpty = false := by simpa using hne
  simp only [matchSpans, h, hempty, Bool.false_eq_true, if_false]

/-- **The written form of a format is a normal form.** It is compiled again, to the same components, however the
specification was spelled; a value matches it as it matches the specification, with the same spans and the same
mismatch; and two specifications have the same components exactly when their written forms are the same text. -/
theorem compile_writtenForm_of_compile (h : compile spec = .ok format) :
    compile (writtenForm format.components) = .ok ⟨writtenForm format.components, format.components⟩ ∧
      (∀ value, matchSpans ⟨writtenForm format.components, format.components⟩ value = format.matchSpans value) ∧
      ∀ otherSpec other, compile otherSpec = .ok other →
        (writtenForm other.components = writtenForm format.components ↔ other.components = format.components) := by
  have hne := components_ne_nil_of_compile h
  have hagain := compile_writtenForm (writable_of_compile h) hne
  refine ⟨hagain, matchSpans_congr rfl hne, fun otherSpec other hother => ⟨fun heq => ?_, congrArg writtenForm⟩⟩
  have hotherAgain := compile_writtenForm (writable_of_compile hother) (components_ne_nil_of_compile hother)
  rw [heq, hagain, Except.ok.injEq, Format.mk.injEq] at hotherAgain
  exact hotherAgain.2.symm

/-- Zeros in front of a number, a line break as it is and the number of lines behind are other spellings. -/
theorem compile_writtenForm_of_compile_account : ∃ format,
    compile "[/034x]\n35x*4[3!a/02n]/YYMMDD" = .ok format ∧
      writtenForm format.components = "[/34x]\\n4*35x[3!a/2n]/YYMMDD" ∧
      compile "[/34x]\\n4*35x[3!a/2n]/YYMMDD" = .ok ⟨"[/34x]\\n4*35x[3!a/2n]/YYMMDD", format.components⟩ := by
  have hcompile : compile "[/034x]\n35x*4[3!a/02n]/YYMMDD" = .ok ⟨"[/034x]\n35x*4[3!a/02n]/YYMMDD", [
      ⟨.variable, .freeText, 1, 34, none, .slash, some 0⟩, ⟨.repeated, .freeText, 1, 35, some 4, .newline, none⟩,
      ⟨.fixed, .alpha, 3, 3, none, .none, some 1⟩, ⟨.variable, .numeric, 1, 2, none, .slash, some 1⟩,
      ⟨.fixed, .date, 6, 6, none, .slash, none⟩]⟩ := by decide +kernel
  have hwritten := (compile_writtenForm_of_compile hcompile).1
  refine ⟨_, hcompile, by decide +kernel, ?_⟩
  convert hwritten using 3 <;> decide +kernel

end Format

end DocumentaryCredit
