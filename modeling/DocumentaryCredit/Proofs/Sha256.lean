/-
The hash function in whole numbers. Words of 32 bits are their numbers, sums are taken modulo `2 ^ 32`, and a schedule is
not laid out but moved along: of its words only sixteen are kept, from which the next one comes. The kernel computes with
whole numbers but not with words, so that this is the form in which the hash of a file is evaluated.
-/
import DocumentaryCredit.Sha256
import DocumentaryCredit.Text.Ascii
import Mathlib

namespace DocumentaryCredit.Sha256

/-! ## Whole numbers -/

-- Functions stand here without their notation, which the kernel would have to unfold in every round.

/-- The number of words of 32 bits. -/
def wordCount : Nat := 4294967296

/-- A number of 32 bits turned to the right by `n` bits. -/
def rotateNumber (x n : Nat) : Nat :=
  Nat.lor (Nat.shiftRight x n) (Nat.mod (Nat.shiftLeft x (Nat.sub 32 n)) wordCount)

/-- The state of the hash in whole numbers. -/
structure Numbers where
  a : Nat
  b : Nat
  c : Nat
  d : Nat
  e : Nat
  f : Nat
  g : Nat
  h : Nat

namespace Numbers

/-- The numbers as a list. -/
def list (s : Numbers) : List Nat := [s.a, s.b, s.c, s.d, s.e, s.f, s.g, s.h]

/-- The sum of two states. -/
def add (s t : Numbers) : Numbers :=
  ⟨(s.a + t.a) % wordCount, (s.b + t.b) % wordCount, (s.c + t.c) % wordCount, (s.d + t.d) % wordCount,
    (s.e + t.e) % wordCount, (s.f + t.f) % wordCount, (s.g + t.g) % wordCount, (s.h + t.h) % wordCount⟩

/-- One round. -/
def round (s : Numbers) (constant word : Nat) : Numbers :=
  let sum₁ := Nat.xor (Nat.xor (rotateNumber s.e 6) (rotateNumber s.e 11)) (rotateNumber s.e 25)
  let choice := Nat.xor (Nat.land s.e s.f) (Nat.land (Nat.sub (Nat.sub wordCount 1) s.e) s.g)
  let first := Nat.add (Nat.add (Nat.add (Nat.add s.h sum₁) choice) constant) word
  let sum₀ := Nat.xor (Nat.xor (rotateNumber s.a 2) (rotateNumber s.a 13)) (rotateNumber s.a 22)
  let majority := Nat.xor (Nat.xor (Nat.land s.a s.b) (Nat.land s.a s.c)) (Nat.land s.b s.c)
  ⟨Nat.mod (Nat.add (Nat.add first sum₀) majority) wordCount, s.a, s.b, s.c, Nat.mod (Nat.add s.d first) wordCount,
    s.e, s.f, s.g⟩

end Numbers

/-- Sixteen neighbouring words of a schedule. -/
structure Window where
  w₀ : Nat
  w₁ : Nat
  w₂ : Nat
  w₃ : Nat
  w₄ : Nat
  w₅ : Nat
  w₆ : Nat
  w₇ : Nat
  w₈ : Nat
  w₉ : Nat
  w₁₀ : Nat
  w₁₁ : Nat
  w₁₂ : Nat
  w₁₃ : Nat
  w₁₄ : Nat
  w₁₅ : Nat

namespace Window

/-- The window of a block of sixteen words. -/
def of (block : List Nat) : Window :=
  let at_ (i : Nat) := block.getD i 0
  ⟨at_ 0, at_ 1, at_ 2, at_ 3, at_ 4, at_ 5, at_ 6, at_ 7, at_ 8, at_ 9, at_ 10, at_ 11, at_ 12, at_ 13, at_ 14, at_ 15⟩

/-- The word behind the window. -/
def next (w : Window) : Nat :=
  let small := Nat.xor (Nat.xor (rotateNumber w.w₁ 7) (rotateNumber w.w₁ 18)) (Nat.shiftRight w.w₁ 3)
  let large := Nat.xor (Nat.xor (rotateNumber w.w₁₄ 17) (rotateNumber w.w₁₄ 19)) (Nat.shiftRight w.w₁₄ 10)
  Nat.mod (Nat.add (Nat.add (Nat.add w.w₀ small) w.w₉) large) wordCount

/-- The window one word further. -/
def move (w : Window) : Window :=
  ⟨w.w₁, w.w₂, w.w₃, w.w₄, w.w₅, w.w₆, w.w₇, w.w₈, w.w₉, w.w₁₀, w.w₁₁, w.w₁₂, w.w₁₃, w.w₁₄, w.w₁₅, w.next⟩

end Window

namespace Numbers

/-- The rounds of some constants, with the words from the start of a window on. -/
def rounds : List Nat → Window → Numbers → Numbers
  | [], _, s => s
  | constant :: constants, w, s => rounds constants w.move (s.round constant w.w₀)

/-- Works a block into a state. -/
def compress (s : Numbers) (block : List Nat) : Numbers :=
  s.add (rounds (roundConstants.map (·.toNat)) (.of block) s)

end Numbers

/-- The blocks of sixteen of some numbers. -/
def numberBlocks (numbers : List Nat) : List (List Nat) :=
  (List.range (numbers.length / 16)).map fun i => (numbers.drop (16 * i)).take 16

/-- The numbers of the words of a string of bytes. -/
def numbersOf : List UInt8 → List Nat
  | a :: b :: c :: d :: rest =>
    ((a.toNat <<< 24) ||| (b.toNat <<< 16) ||| (c.toNat <<< 8) ||| d.toNat) :: numbersOf rest
  | _ => []

/-- The numbers of the words of a state. -/
def State.numbers (s : State) : Numbers :=
  ⟨s.a.toNat, s.b.toNat, s.c.toNat, s.d.toNat, s.e.toNat, s.f.toNat, s.g.toNat, s.h.toNat⟩

/-! ## Words and their numbers -/

theorem toNat_rotate (x n : UInt32) (hpos : 0 < n.toNat) (hlt : n.toNat < 32) :
    (rotate x n).toNat = rotateNumber x.toNat n.toNat := by
  have hback : (32 - n).toNat = 32 - n.toNat := by
    rw [UInt32.toNat_sub_of_le _ _ (UInt32.le_iff_toNat_le.2 hlt.le)]
    rfl
  rw [rotate, rotateNumber, UInt32.toNat_or, UInt32.toNat_shiftRight, UInt32.toNat_shiftLeft, hback,
    Nat.mod_eq_of_lt hlt, Nat.mod_eq_of_lt (show 32 - n.toNat < 32 by omega)]
  rfl

theorem numbers_round (s : State) (constant word : UInt32) :
    (round s constant word).numbers = s.numbers.round constant.toNat word.toNat := by
  simp only [round, Numbers.round, State.numbers, UInt32.toNat_add, UInt32.toNat_xor, UInt32.toNat_and, UInt32.toNat_not]
  rw [toNat_rotate _ 6 (by decide) (by decide), toNat_rotate _ 11 (by decide) (by decide),
    toNat_rotate _ 25 (by decide) (by decide), toNat_rotate _ 2 (by decide) (by decide),
    toNat_rotate _ 13 (by decide) (by decide), toNat_rotate _ 22 (by decide) (by decide)]
  simp [wordCount]
  exact ⟨rfl, rfl⟩

theorem numbers_add (s t : State) : (s.add t).numbers = s.numbers.add t.numbers := by
  simp only [State.add, State.numbers, Numbers.add, UInt32.toNat_add]
  rfl

/-- The next word of a schedule is a matter of four of the last sixteen. -/
theorem toNat_nextWord (recent : List UInt32) : (nextWord recent).toNat =
    ((recent.getD 15 0).toNat +
      (rotateNumber (recent.getD 14 0).toNat 7 ^^^ rotateNumber (recent.getD 14 0).toNat 18 ^^^
        ((recent.getD 14 0).toNat >>> 3)) + (recent.getD 6 0).toNat +
      (rotateNumber (recent.getD 1 0).toNat 17 ^^^ rotateNumber (recent.getD 1 0).toNat 19 ^^^
        ((recent.getD 1 0).toNat >>> 10))) % wordCount := by
  simp only [nextWord, UInt32.toNat_add, UInt32.toNat_xor, UInt32.toNat_shiftRight]
  rw [toNat_rotate _ 7 (by decide) (by decide), toNat_rotate _ 18 (by decide) (by decide),
    toNat_rotate _ 17 (by decide) (by decide), toNat_rotate _ 19 (by decide) (by decide)]
  simp [wordCount]

/-! ## Schedules -/

/-- Words of a schedule from the start of a window on. -/
def upcoming : Nat → List UInt32 → List UInt32
  | 0, _ => []
  | n + 1, words => words.getD 0 0 :: upcoming n (words.tail ++ [nextWord words.reverse])

theorem upcoming_eq_take : ∀ {n : Nat} {words : List UInt32}, n ≤ words.length → upcoming n words = words.take n
  | 0, _, _ => rfl
  | n + 1, word :: words, h => by
    have hn : n ≤ words.length := Nat.le_of_succ_le_succ h
    rw [upcoming, List.tail_cons, upcoming_eq_take (by simp; omega), List.take_append_of_le_length hn]
    rfl

/-- Words that are added to a schedule are those that come up. -/
theorem reverse_extend (n : Nat) {words : List UInt32} (h : words.length = 16) (older : List UInt32) :
    (extend n (words.reverse ++ older)).reverse = older.reverse ++ upcoming (n + 16) words := by
  induction n generalizing words older with
  | zero =>
    rw [Nat.zero_add, upcoming_eq_take h.ge, List.take_of_length_le h.le]
    simp [extend]
  | succ n ih =>
    obtain ⟨word, words, rfl⟩ := List.exists_cons_of_length_eq_add_one h
    -- The words behind the last sixteen do not count.
    have hnext : nextWord ((word :: words).reverse ++ older) = nextWord (word :: words).reverse := by
      have hat : ∀ i < 16, ((word :: words).reverse ++ older).getD i 0 = (word :: words).reverse.getD i 0 := fun i hi =>
        List.getD_append _ _ _ _ (by rw [List.length_reverse, h]; exact hi)
      simp only [nextWord, hat 14 (by decide), hat 1 (by decide), hat 15 (by decide), hat 6 (by decide)]
    have hmoved : extend (n + 1) ((word :: words).reverse ++ older) =
        extend n ((words ++ [nextWord (word :: words).reverse]).reverse ++ word :: older) := by
      rw [extend, hnext]
      simp
    have hupcoming : upcoming (n + 1 + 16) (word :: words) =
        word :: upcoming (n + 16) (words ++ [nextWord (word :: words).reverse]) := by
      rw [Nat.add_right_comm n 1 16, upcoming]
      rfl
    rw [hmoved, ih (by simpa using h), hupcoming, List.reverse_cons, List.append_assoc, List.singleton_append]

theorem schedule_eq {block : List UInt32} (h : block.length = 16) : schedule block = upcoming 64 block := by
  have hextend := reverse_extend 48 h []
  rwa [List.append_nil] at hextend

theorem getD_map_toNat (words : List UInt32) (i : Nat) : (words.map (·.toNat)).getD i 0 = (words.getD i 0).toNat := by
  rw [← UInt32.toNat_zero, List.getD_map]

theorem window_move {words : List UInt32} (h : words.length = 16) :
    Window.of ((words.tail ++ [nextWord words.reverse]).map (·.toNat)) = (Window.of (words.map (·.toNat))).move := by
  have hat : ∀ i < 15, (words.tail ++ [nextWord words.reverse]).getD i 0 = words.getD (i + 1) 0 := by
    intro i hi
    rw [List.getD_append _ _ _ _ (by rw [List.length_tail, h]; exact hi)]
    simp [List.getD_eq_getElem?_getD]
  have hlast : (words.tail ++ [nextWord words.reverse]).getD 15 0 = nextWord words.reverse := by
    rw [List.getD_append_right _ _ _ _ (by rw [List.length_tail, h])]
    simp [h]
  have hback : ∀ i < 16, words.reverse.getD i 0 = words.getD (15 - i) 0 := by
    intro i hi
    rw [List.getD_reverse _ (by rw [h]; exact hi), h]
  simp only [Window.of, Window.move, Window.next, getD_map_toNat, hlast, toNat_nextWord, hat 0 (by decide), hat 1 (by decide),
    hat 2 (by decide), hat 3 (by decide), hat 4 (by decide), hat 5 (by decide), hat 6 (by decide), hat 7 (by decide),
    hat 8 (by decide), hat 9 (by decide), hat 10 (by decide), hat 11 (by decide), hat 12 (by decide),
    hat 13 (by decide), hat 14 (by decide), hback 15 (by decide), hback 14 (by decide), hback 6 (by decide),
    hback 1 (by decide)]
  rfl

/-! ## Hashes -/

theorem numbers_foldl_round (constants : List UInt32) (s : State) {words : List UInt32} (h : words.length = 16) :
    ((constants.zip (upcoming constants.length words)).foldl (fun s (constant, word) => round s constant word)
      s).numbers = Numbers.rounds (constants.map (·.toNat)) (.of (words.map (·.toNat))) s.numbers := by
  induction constants generalizing s words with
  | nil => rfl
  | cons constant constants ih =>
    have hlength : (words.tail ++ [nextWord words.reverse]).length = 16 := by simp [h]
    rw [List.length_cons, upcoming, List.zip_cons_cons, List.foldl_cons, ih _ hlength, window_move h, numbers_round,
      List.map_cons, Numbers.rounds, ← getD_map_toNat]
    rfl

theorem numbers_compress (s : State) {block : List UInt32} (h : block.length = 16) :
    (compress s block).numbers = s.numbers.compress (block.map (·.toNat)) := by
  rw [compress, schedule_eq h, numbers_add, show upcoming 64 block = upcoming roundConstants.length block from rfl,
    numbers_foldl_round roundConstants s h]
  rfl

theorem numbers_foldl_compress : ∀ {blocks : List (List UInt32)} (s : State), (∀ block ∈ blocks, block.length = 16) →
    (blocks.foldl compress s).numbers = (blocks.map (·.map (·.toNat))).foldl Numbers.compress s.numbers
  | [], _, _ => rfl
  | block :: blocks, s, h => by
    obtain ⟨hblock, hblocks⟩ := List.forall_mem_cons.1 h
    rw [List.foldl_cons, numbers_foldl_compress _ hblocks, numbers_compress s hblock, List.map_cons, List.foldl_cons]

theorem length_of_mem_blocks {words block : List UInt32} (h : block ∈ blocks words) : block.length = 16 := by
  obtain ⟨i, hi, rfl⟩ := List.mem_map.1 h
  have hroom : 16 * i + 16 ≤ words.length := by
    have := List.mem_range.1 hi
    omega
  rw [List.length_take, List.length_drop]
  omega

theorem map_blocks (words : List UInt32) :
    (blocks words).map (·.map (·.toNat)) = numberBlocks (words.map (·.toNat)) := by
  simp [blocks, numberBlocks]

theorem map_toNat_wordsOf : ∀ bytes : List UInt8, (wordsOf bytes).map (·.toNat) = numbersOf bytes
  | [] | [_] | [_, _] | [_, _, _] => rfl
  | a :: b :: c :: d :: rest => by
    rw [wordsOf, List.map_cons, map_toNat_wordsOf rest, numbersOf]
    have hshift : ∀ (x : UInt8) (n : UInt32), n.toNat ≤ 24 → (x.toUInt32 <<< n).toNat = x.toNat <<< n.toNat := by
      intro x n hn
      have hx := x.toNat_lt
      have hpow : 2 ^ n.toNat ≤ 2 ^ 24 := Nat.pow_le_pow_right (by decide) hn
      have hlt : x.toNat <<< n.toNat < 2 ^ 32 := by
        rw [Nat.shiftLeft_eq]
        calc x.toNat * 2 ^ n.toNat ≤ 255 * 2 ^ 24 := Nat.mul_le_mul (by omega) hpow
          _ < 2 ^ 32 := by decide
      rw [UInt32.toNat_shiftLeft, Nat.mod_eq_of_lt (show n.toNat < 32 by omega), UInt8.toNat_toUInt32,
        Nat.mod_eq_of_lt hlt]
    rw [UInt32.toNat_or, UInt32.toNat_or, UInt32.toNat_or, hshift a 24 (by decide), hshift b 16 (by decide),
      hshift c 8 (by decide), UInt8.toNat_toUInt32]
    rfl

/-- **The hash in whole numbers.** -/
theorem hash_eq (message : List UInt8) : hash message =
    ((numberBlocks (numbersOf (pad message))).foldl Numbers.compress initial.numbers).list.flatMap (bigEndian 4) := by
  have hnumbers := numbers_foldl_compress initial fun block (h : block ∈ blocks (wordsOf (pad message))) =>
    length_of_mem_blocks h
  rw [map_blocks, map_toNat_wordsOf] at hnumbers
  rw [hash, ← hnumbers]
  simp [State.words, State.numbers, Numbers.list]

/-! ## Digits -/

theorem length_hash (message : List UInt8) : (hash message).length = 32 := by simp [hash, State.words, bigEndian]

/-- A hash is written in small letters. -/
theorem asciiLower_hexHash (message : List UInt8) : Text.asciiLower (hexHash message) = hexHash message := by
  have hdigit : ∀ n < 16, (Nat.digitChar n).toLower = Nat.digitChar n := by decide
  rw [hexHash, hex, Text.asciiLower, String.toList_ofList, List.map_flatMap]
  congr 1
  refine List.flatMap_congr fun b _ => ?_
  have hb := b.toNat_lt
  rw [List.map_cons, List.map_cons, hdigit _ (by omega), hdigit _ (by omega), List.map_nil]

end DocumentaryCredit.Sha256
