import JsxTemplate.Text.Basic

/-!
# Likeness

Two texts are alike as far as they share blocks of characters: the longest block
that stands in both, and then what is shared before it and after it. A misspelt
word is answered with the known words that it is most like.
-/

namespace JsxTemplate.Text

/-- The length of the longest common beginning of two texts. -/
def sharedStart : Text → Text → Nat
  | a :: s, b :: t => if a = b then sharedStart s t + 1 else 0
  | _, _ => 0

/-- A block of characters that stands in two texts, by where it begins. -/
structure Block where
  first : Nat
  second : Nat
  size : Nat
deriving DecidableEq, Repr

/-- The longer of two blocks, the first if they are equally long. -/
def Block.longer (a b : Block) : Block := if a.size < b.size then b else a

/-- The longest blocks from each pair of places in two texts. -/
def sharedBlocks (s t : Text) : List Block :=
  (List.range s.length).flatMap fun i =>
    (List.range t.length).map fun j => ⟨i, j, sharedStart (s.drop i) (t.drop j)⟩

/-- The longest block that stands in both texts, the first of those in `s` and
then in `t`. -/
def longestBlock (s t : Text) : Block := (sharedBlocks s t).foldl Block.longer ⟨0, 0, 0⟩

theorem mem_of_foldl_longer : ∀ (b : Block) (bs : List Block), bs.foldl Block.longer b ∈ b :: bs
  | b, [] => by simp
  | b, c :: bs => by
    have h := mem_of_foldl_longer (b.longer c) bs
    have hb : b.longer c = b ∨ b.longer c = c := by
      unfold Block.longer
      split
      · exact Or.inr rfl
      · exact Or.inl rfl
    simp only [List.foldl_cons, List.mem_cons] at h ⊢
    rcases h with h | h
    · rcases hb with hb | hb
      · exact Or.inl (h.trans hb)
      · exact Or.inr (Or.inl (h.trans hb))
    · exact Or.inr (Or.inr h)

/-- A block with characters in it begins within the first text. -/
theorem longestBlock_first_lt {s t : Text} (h : (longestBlock s t).size ≠ 0) :
    (longestBlock s t).first < s.length := by
  have hmem := mem_of_foldl_longer ⟨0, 0, 0⟩ (sharedBlocks s t)
  rw [← longestBlock, List.mem_cons] at hmem
  rcases hmem with hzero | hmem
  · rw [hzero] at h
    exact absurd rfl h
  · simp only [sharedBlocks, List.mem_flatMap, List.mem_map, List.mem_range] at hmem
    obtain ⟨i, hi, j, _, hb⟩ := hmem
    rw [← hb]
    exact hi

/-- The number of characters in all blocks that two texts share. -/
def shared (s t : Text) : Nat :=
  let b := longestBlock s t
  if _h : b.size = 0 then 0
  else
    shared (s.take b.first) (t.take b.second) + b.size +
      shared (s.drop (b.first + b.size)) (t.drop (b.second + b.size))
termination_by s.length
decreasing_by
  · have hfirst := longestBlock_first_lt _h
    simp only [List.length_take]
    omega
  · have hfirst := longestBlock_first_lt _h
    have hsize : (longestBlock s t).size ≠ 0 := _h
    simp only [List.length_drop]
    omega

/-- How alike a known word and a given one are, as a fraction. -/
structure Likeness where
  word : Text
  shared : Nat
  total : Nat
deriving DecidableEq, Repr

def likeness (given word : Text) : Likeness :=
  ⟨word, 2 * shared word given, word.length + given.length⟩

/-- Are three of five characters shared? -/
def Likeness.close (l : Likeness) : Bool := 3 * l.total ≤ 5 * l.shared

/-- The more alike, and of equally alike words the later one in the alphabet. -/
def Likeness.before (l m : Likeness) : Bool :=
  m.shared * l.total < l.shared * m.total ||
    (m.shared * l.total == l.shared * m.total && (compare m.word l.word).isLE)

/-- The known words that a given one is close to, at most three, in the order of
the alphabet. -/
def nearest (given : Text) (known : List Text) : List Text :=
  let close := (known.map (likeness given)).filter Likeness.close
  let best := ((close.mergeSort Likeness.before).take 3).map Likeness.word
  best.mergeSort fun a b => (compare a b).isLE

end JsxTemplate.Text
