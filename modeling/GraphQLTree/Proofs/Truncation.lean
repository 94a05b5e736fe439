import GraphQLTree.Text.Truncate
import Mathlib.Data.List.Basic

/-! # What truncation leaves

A text or a list that is longer than its limit is cut in the middle: a start of it, an ellipsis and an
end of it remain (`Text.IsCut`). From a limit of four on, what remains is no longer than the limit
(`Text.length_truncate_le`, `Text.length_truncateItems_le`), and less is left out of account: an end of
no items stands for all items, so below four the ellipsis only makes things longer. The last theorem
says for which limits which of this holds (`Text.truncation_limits`). -/

namespace GraphQLTree

/-! ### Slices -/

section

variable {α : Type} {bound : Int} {items : List α}

theorem upTo_of_nonneg (h : 0 ≤ bound) (items : List α) : upTo bound items = items.take bound.toNat := by
  unfold upTo position
  rw [if_pos h, ← List.take_take, List.take_length]

theorem startingAt_of_nonneg (h : 0 ≤ bound) (items : List α) :
    startingAt bound items = items.drop bound.toNat := by
  unfold startingAt position
  rw [if_pos h]
  rcases Nat.le_total bound.toNat items.length with hle | hle
  · rw [Nat.min_eq_left hle]
  · rw [Nat.min_eq_right hle, List.drop_length, List.drop_of_length_le hle]

theorem startingAt_of_neg (h : bound < 0) (items : List α) :
    startingAt bound items = items.drop (items.length - bound.natAbs) := by
  unfold startingAt position
  rw [if_neg (Int.not_le.mpr h)]

end

namespace Text

variable {α : Type} {limit : Int} {i j : Nat} {ellipsis items cut : List α} {s : List Char}

/-! ### Cuts -/

/-- A sequence is cut to a start that is not all of it, an ellipsis and an end that begins after the
start. -/
def IsCut (ellipsis items cut : List α) : Prop :=
  ∃ head gone tail, items = head ++ gone ++ tail ∧ head ≠ items ∧ cut = head ++ ellipsis ++ tail

theorem isCut_take_drop (hij : i ≤ j) (hi : i < items.length) (ellipsis : List α) :
    IsCut ellipsis items (items.take i ++ ellipsis ++ items.drop j) := by
  refine ⟨items.take i, (items.drop i).take (j - i), items.drop j, ?_, ?_, rfl⟩
  · have hdrop : items.drop j = (items.drop i).drop (j - i) := by
      rw [List.drop_drop, Nat.add_sub_cancel' hij]
    rw [hdrop, List.append_assoc, List.take_append_drop, List.take_append_drop]
  · intro h
    have hlength := congrArg List.length h
    rw [List.length_take] at hlength
    omega

/-- A cut has no more items than there were, and those of the ellipsis. -/
theorem IsCut.length_le (h : IsCut ellipsis items cut) :
    cut.length ≤ items.length + ellipsis.length := by
  obtain ⟨head, gone, tail, rfl, -, rfl⟩ := h
  simp only [List.length_append]
  omega

/-! ### Texts -/

theorem truncateChars_of_le (h : (s.length : Int) ≤ limit) : truncateChars limit s = s := by
  unfold truncateChars
  exact if_neg (Int.not_lt.mpr h)

theorem truncateChars_of_lt (h : 4 ≤ limit) (hlong : limit < s.length) :
    truncateChars limit s = s.take ((limit - 3) / 2).toNat ++ ['.', '.', '.'] ++
      s.drop (s.length - (limit - 3 - (limit - 3) / 2).toNat) := by
  have hhead : headSize limit = (limit - 3) / 2 := by
    unfold headSize
    rw [Int.fdiv_eq_ediv_of_nonneg _ (by omega)]
    omega
  have htail : tailSize limit = limit - 3 - (limit - 3) / 2 := by
    unfold tailSize
    rw [hhead]
    omega
  have hsize : (-(limit - 3 - (limit - 3) / 2)).natAbs = (limit - 3 - (limit - 3) / 2).toNat := by
    omega
  unfold truncateChars
  rw [if_pos hlong, hhead, htail, upTo_of_nonneg (by omega), startingAt_of_neg (by omega), hsize]

/-- Of a limit of three nothing is left for a start and an end, and an end of no characters is read as
all of them. -/
theorem truncateChars_three (hlong : (3 : Int) < s.length) :
    truncateChars 3 s = ['.', '.', '.'] ++ s := by
  unfold truncateChars
  rw [if_pos hlong]
  rfl

theorem length_truncateChars_le (h : 4 ≤ limit) (s : List Char) :
    ((truncateChars limit s).length : Int) ≤ limit := by
  by_cases hlong : limit < s.length
  · rw [truncateChars_of_lt h hlong]
    simp only [List.length_append, List.length_take, List.length_drop, List.length_cons,
      List.length_nil]
    omega
  · rw [truncateChars_of_le (Int.not_lt.mp hlong)]
    exact Int.not_lt.mp hlong

theorem isCut_truncateChars (h : 3 ≤ limit) (hlong : limit < s.length) :
    IsCut ['.', '.', '.'] s (truncateChars limit s) := by
  rcases Int.lt_or_eq_of_le h with hlt | rfl
  · rw [truncateChars_of_lt hlt hlong]
    exact isCut_take_drop (by omega) (by omega) _
  · rw [truncateChars_three hlong]
    exact isCut_take_drop (Nat.le_refl 0) (by omega) _

theorem toList_truncate (limit : Int) (s : String) :
    (truncate limit s).toList = truncateChars limit s.toList :=
  String.toList_ofList

theorem length_truncate (limit : Int) (s : String) :
    (truncate limit s).length = (truncateChars limit s.toList).length := by
  unfold truncate
  rw [String.length_ofList]

theorem truncate_of_length_le {s : String} (h : (s.length : Int) ≤ limit) : truncate limit s = s := by
  unfold truncate
  rw [truncateChars_of_le (by rwa [String.length_toList]), String.ofList_toList]

theorem length_truncate_le (h : 4 ≤ limit) (s : String) :
    ((truncate limit s).length : Int) ≤ limit := by
  rw [length_truncate]
  exact length_truncateChars_le h _

/-! ### Lists -/

theorem truncateItems_of_le (h : (items.length : Int) ≤ limit) (dots : α) :
    truncateItems dots limit items = items := by
  unfold truncateItems
  exact if_neg (Int.not_lt.mpr h)

theorem truncateItems_of_lt (h : 4 ≤ limit) (hlong : limit < items.length) (dots : α) :
    truncateItems dots limit items = items.take (limit / 2).toNat ++ [dots] ++
      items.drop (items.length - (limit / 2 - 1).toNat) := by
  have hhalf : limit.fdiv 2 = limit / 2 := Int.fdiv_eq_ediv_of_nonneg _ (by omega)
  have hsize : (-(limit / 2 - 1)).natAbs = (limit / 2 - 1).toNat := by omega
  unfold truncateItems
  rw [if_pos hlong]
  dsimp only
  rw [hhalf, upTo_of_nonneg (by omega), startingAt_of_neg (by omega), hsize]

/-- The end of a limit of one has one item less than none, which is read as all items but one. -/
theorem truncateItems_one (hlong : (1 : Int) < items.length) (dots : α) :
    truncateItems dots 1 items = dots :: items.drop 1 := by
  unfold truncateItems
  rw [if_pos hlong]
  have hend : startingAt 1 items = items.drop 1 := startingAt_of_nonneg (by decide) items
  exact congrArg (dots :: ·) hend

/-- The end of a limit of two or three has no items, which is read as all items. -/
theorem truncateItems_of_half_one (h : limit / 2 = 1) (hlong : limit < items.length) (dots : α) :
    truncateItems dots limit items = items.take 1 ++ [dots] ++ items := by
  have hhalf : limit.fdiv 2 = 1 := by
    rw [Int.fdiv_eq_ediv_of_nonneg _ (by omega)]
    exact h
  unfold truncateItems
  rw [if_pos hlong]
  dsimp only
  rw [hhalf, upTo_of_nonneg (by decide), startingAt_of_nonneg (by decide)]
  rfl

theorem length_truncateItems_le (h : 4 ≤ limit) (dots : α) (items : List α) :
    ((truncateItems dots limit items).length : Int) ≤ limit := by
  by_cases hlong : limit < items.length
  · rw [truncateItems_of_lt h hlong]
    simp only [List.length_append, List.length_take, List.length_drop, List.length_cons,
      List.length_nil]
    omega
  · rw [truncateItems_of_le (Int.not_lt.mp hlong)]
    exact Int.not_lt.mp hlong

/-- What is left of a list is the ellipsis and items of it. -/
theorem mem_truncateItems {dots x : α} (h : x ∈ truncateItems dots limit items) :
    x = dots ∨ x ∈ items := by
  unfold truncateItems at h
  split at h
  · simp only [upTo, startingAt, List.mem_append, List.mem_singleton] at h
    rcases h with (h | h) | h
    · exact .inr (List.mem_of_mem_take h)
    · exact .inl h
    · exact .inr (List.mem_of_mem_drop h)
  · exact .inr h

theorem truncateList_of_length_le {texts : List String} (h : (texts.length : Int) ≤ limit) :
    truncateList limit texts = texts :=
  truncateItems_of_le h _

/-! ### Limits -/

/-- A list that is longer than its limit is cut down to it from four on, and at no limit below. -/
theorem length_truncateItems_le_iff (h : 1 ≤ limit) (hlong : limit < items.length) (dots : α) :
    ((truncateItems dots limit items).length : Int) ≤ limit ↔ 4 ≤ limit := by
  refine ⟨fun hle => ?_, fun h => length_truncateItems_le h dots items⟩
  by_contra hsmall
  rcases show limit = 1 ∨ limit / 2 = 1 by omega with rfl | hhalf
  · rw [truncateItems_one hlong, List.length_cons, List.length_drop] at hle
    omega
  · rw [truncateItems_of_half_one hhalf hlong] at hle
    simp only [List.length_append, List.length_take, List.length_cons, List.length_nil] at hle
    omega

/-- At the limits two and three the end repeats the start. -/
theorem isCut_truncateItems_iff (h : 1 ≤ limit) (hlong : limit < items.length) (dots : α) :
    IsCut [dots] items (truncateItems dots limit items) ↔ limit = 1 ∨ 4 ≤ limit := by
  constructor
  · intro hcut
    by_contra hsmall
    have hle := hcut.length_le
    rw [truncateItems_of_half_one (by omega) hlong] at hle
    simp only [List.length_append, List.length_take, List.length_cons, List.length_nil] at hle
    omega
  · rintro (rfl | h)
    · rw [truncateItems_one hlong]
      exact isCut_take_drop (Nat.zero_le 1) (by omega) [dots]
    · rw [truncateItems_of_lt h hlong]
      exact isCut_take_drop (by omega) (by omega) _

theorem length_truncate_le_iff {s : String} (h : 3 ≤ limit) (hlong : limit < s.length) :
    ((truncate limit s).length : Int) ≤ limit ↔ 4 ≤ limit := by
  refine ⟨fun hle => ?_, fun h => length_truncate_le h s⟩
  by_contra hsmall
  obtain rfl : limit = 3 := by omega
  rw [← String.length_toList] at hlong
  rw [length_truncate, truncateChars_three hlong, List.length_append] at hle
  simp only [List.length_cons, List.length_nil] at hle
  omega

/-- **What truncation does at every limit.** What is within its limit is kept. Something longer is cut
down to the limit exactly if that is four or more. It becomes a start of it, the ellipsis and an end
that begins after the start, but for lists with a limit of two or three. -/
theorem truncation_limits (limit : Int) (items : List String) (s : String) :
    (((items.length : Int) ≤ limit → truncateList limit items = items) ∧
      (1 ≤ limit → limit < items.length →
        (((truncateList limit items).length : Int) ≤ limit ↔ 4 ≤ limit) ∧
        (IsCut ["..."] items (truncateList limit items) ↔ limit = 1 ∨ 4 ≤ limit))) ∧
    ((s.length : Int) ≤ limit → truncate limit s = s) ∧
      (3 ≤ limit → limit < s.length →
        (((truncate limit s).length : Int) ≤ limit ↔ 4 ≤ limit) ∧
        IsCut "...".toList s.toList (truncate limit s).toList) := by
  refine ⟨⟨truncateList_of_length_le, fun h hlong => ?_⟩,
    truncate_of_length_le, fun h hlong => ?_⟩
  · exact ⟨length_truncateItems_le_iff h hlong _, isCut_truncateItems_iff h hlong _⟩
  · refine ⟨length_truncate_le_iff h hlong, ?_⟩
    rw [toList_truncate]
    exact isCut_truncateChars h (by rwa [String.length_toList])

/-- Five items with a limit of four and of five, and six characters. -/
theorem truncation_limits_four :
    ((["a", "b", "c", "d", "e"].length : Int) ≤ 5 ∧
      truncateList 5 ["a", "b", "c", "d", "e"] = ["a", "b", "c", "d", "e"]) ∧
    ((1 : Int) ≤ 4 ∧ (4 : Int) < ["a", "b", "c", "d", "e"].length ∧
      ((truncateList 4 ["a", "b", "c", "d", "e"]).length : Int) ≤ 4 ∧
      IsCut ["..."] ["a", "b", "c", "d", "e"] (truncateList 4 ["a", "b", "c", "d", "e"])) ∧
    (("abcdef".length : Int) ≤ 6 ∧ truncate 6 "abcdef" = "abcdef") ∧
    ((3 : Int) ≤ 4 ∧ (4 : Int) < "abcdef".length ∧ ((truncate 4 "abcdef").length : Int) ≤ 4 ∧
      IsCut "...".toList "abcdef".toList (truncate 4 "abcdef").toList) := by
  have hitems : (4 : Int) < ["a", "b", "c", "d", "e"].length := by decide
  have hchars : (4 : Int) < "abcdef".length := by decide
  obtain ⟨⟨-, hlist⟩, -, htext⟩ := truncation_limits 4 ["a", "b", "c", "d", "e"] "abcdef"
  obtain ⟨hlength, hcut⟩ := hlist (by decide) hitems
  obtain ⟨hlength', hcut'⟩ := htext (by decide) hchars
  exact ⟨⟨by decide, (truncation_limits 5 _ "").1.1 (by decide)⟩,
    ⟨by decide, hitems, hlength.mpr (by decide), hcut.mpr (.inr (by decide))⟩,
    ⟨by decide, (truncation_limits 6 [] _).2.1 (by decide)⟩,
    ⟨by decide, hchars, hlength'.mpr (by decide), hcut'⟩⟩

/-- A limit of one leaves two items of two, and a limit of three makes a text longer. -/
theorem truncation_limits_exceeded :
    ((1 : Int) ≤ 1 ∧ truncateList 1 ["1", "2"] = ["...", "2"] ∧
      ¬ ((truncateList 1 ["1", "2"]).length : Int) ≤ 1) ∧
    ((3 : Int) ≤ 3 ∧ truncate 3 "abcd" = "...abcd" ∧ ¬ ((truncate 3 "abcd").length : Int) ≤ 3) := by
  decide

end Text
end GraphQLTree
