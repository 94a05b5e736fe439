import GraphQLTree.Proofs.RegularNames

/-! # Where the words of a name start

In a capitalised name a new word starts at a capital after a lower-case letter, and at the last capital
of a run of capitals and digits unless it stands at the start of the run (`Text.StartsWord`). The scan
for the words looks ahead to the last capital of a run and then counts down to it. At every character
its count is the one that it would find if it began anew there (`Text.breakFrom_cons`), so what it does
at a position depends on the run around that position only (`Text.breakWords_eq`). The underscored form
of a name is its lower case with an underscore before each of these positions
(`Text.toSnakeCase_eq_starts`). -/

namespace GraphQLTree.Text

variable {c d : Char} {s before : List Char}

/-! ### Starts of words -/

/-- A new word starts at a position: there is a capital, and before it a lower-case letter, or a
character of the run that goes on without another capital. -/
def StartsWord (s : List Char) (p : Nat) : Prop :=
  0 < p ∧ s[p]?.any Char.isUpper = true ∧
    (s[p - 1]?.any Char.isLower = true ∨ s[p - 1]?.any inRun = true ∧
      ∀ q < s.length, p < q → (∀ r ≤ q, p ≤ r → s[r]?.any inRun = true) →
        s[q]?.any Char.isUpper = false)

instance (s : List Char) (p : Nat) : Decidable (StartsWord s p) :=
  inferInstanceAs (Decidable (_ ∧ _))

/-- Whether a new word starts with `d`, after `c` and before `s`. -/
def startsBetween (c d : Char) (s : List Char) : Bool :=
  d.isUpper && (c.isLower || inRun c && (lastCapital? s).isNone)

theorem inRun_of_isUpper (h : d.isUpper = true) : inRun d = true := by
  unfold inRun
  rw [h, Bool.true_or]

theorem isLower_of_inRun (h : inRun c = true) : c.isLower = false := by
  by_contra hl
  rw [inRun_of_isLower (Bool.not_eq_false _ ▸ hl)] at h
  nomatch h

/-- There is no capital in the run at the start of a text. -/
theorem lastCapital?_eq_none_iff : lastCapital? s = none ↔
    ∀ q < s.length, (∀ r ≤ q, s[r]?.any inRun = true) → s[q]?.any Char.isUpper = false := by
  induction s with
  | nil => exact iff_of_true rfl fun q hq => absurd hq (Nat.not_lt_zero q)
  | cons c s ih =>
    unfold lastCapital?
    by_cases hc : inRun c = true
    · rw [if_pos hc]
      constructor
      · intro h q hq hrun
        cases hs : lastCapital? s with
        | some i =>
          rw [hs] at h
          exact absurd h (Option.some_ne_none (i + 1))
        | none =>
          rw [hs] at h
          cases q with
          | zero =>
            by_contra hup
            rw [if_pos (Bool.not_eq_false _ ▸ hup)] at h
            exact Option.some_ne_none 0 h
          | succ q =>
            exact ih.mp hs q (Nat.lt_of_succ_lt_succ hq) fun r hr => hrun (r + 1) (Nat.succ_le_succ hr)
      · intro h
        have hs : lastCapital? s = none := ih.mpr fun q hq hrun =>
          h (q + 1) (Nat.succ_lt_succ hq) fun r hr => by
            cases r with
            | zero => exact hc
            | succ r => exact hrun r (Nat.le_of_succ_le_succ hr)
        have hup : c.isUpper = false := h 0 (Nat.zero_lt_succ _) fun r hr => by
          rw [Nat.le_zero.mp hr]
          exact hc
        rw [hs, hup]
        rfl
    · rw [if_neg hc]
      exact iff_of_true rfl fun q _ hrun => absurd (hrun 0 (Nat.zero_le q)) hc

/-- Whether a word starts at a position is seen from the characters around it. -/
theorem startsWord_iff (before : List Char) (c d : Char) (s : List Char) :
    StartsWord (before ++ c :: d :: s) (before.length + 1) ↔ startsBetween c d s = true := by
  have hget (i : Nat) : (before ++ c :: d :: s)[before.length + i]? = (c :: d :: s)[i]? := by
    rw [List.getElem?_append_right (Nat.le_add_right ..), Nat.add_sub_cancel_left]
  have hfirst : (before ++ c :: d :: s)[before.length]? = some c := hget 0
  have hsecond : (before ++ c :: d :: s)[before.length + 1]? = some d := hget 1
  have hlater (i : Nat) : (before ++ c :: d :: s)[before.length + 1 + (i + 1)]? = s[i]? := by
    rw [Nat.add_assoc, hget, Nat.add_left_comm, Nat.add_comm 1 1]
    rfl
  have hlength : (before ++ c :: d :: s).length = before.length + 1 + (s.length + 1) := by
    rw [List.length_append, List.length_cons, List.length_cons]
    omega
  unfold StartsWord startsBetween
  rw [Nat.add_sub_cancel, hfirst, hsecond, hlength, Bool.and_eq_true, Bool.or_eq_true,
    Bool.and_eq_true, Option.isNone_iff_eq_none, lastCapital?_eq_none_iff]
  refine (and_iff_right (Nat.succ_pos _)).trans (and_congr_right fun hd => or_congr Iff.rfl
    (and_congr_right fun _ => ?_))
  constructor
  · intro h q hq hrun
    rw [← hlater]
    refine h _ (by omega) (by omega) fun r hr hpr => ?_
    obtain ⟨i, rfl⟩ := Nat.exists_eq_add_of_le hpr
    cases i with
    | zero =>
      rw [Nat.add_zero, hsecond]
      exact inRun_of_isUpper hd
    | succ i =>
      rw [hlater]
      exact hrun i (by omega)
  · intro h q hq hpq hrun
    obtain ⟨i, rfl⟩ : ∃ i, q = before.length + 1 + (i + 1) := ⟨q - before.length - 2, by omega⟩
    rw [hlater]
    refine h i (by omega) fun r hr => ?_
    rw [← hlater]
    exact hrun _ (by omega) (by omega)

theorem not_startsWord_zero (s : List Char) : ¬ StartsWord s 0 :=
  fun h => Nat.lt_irrefl 0 h.1

/-! ### The scan -/

/-- The count that is carried on is the one that would be found anew at the next character. -/
theorem breakFrom_cons (c d : Char) (s : List Char) :
    breakFrom (pieceLength? c (d :: s)) (d :: s) =
      (if startsBetween c d s then ['_', d] else [d]) ++ breakFrom (pieceLength? d s) s := by
  by_cases hl : c.isLower = true
  · have hpiece : pieceLength? c (d :: s) = if d.isUpper then some 0 else none := by
      unfold pieceLength?
      rw [if_pos hl]
      rfl
    cases hd : d.isUpper <;> simp [hpiece, startsBetween, hl, hd, breakFrom]
  · by_cases hc : inRun c = true
    · have hpiece : pieceLength? c (d :: s) = lastCapital? (d :: s) := by
        simp [pieceLength?, hl, hc]
      rw [hpiece]
      by_cases hd : inRun d = true
      · -- `d` stands in the run of `c`, whose last capital may come later, or be `d`
        have hnext : pieceLength? d s = lastCapital? s := by
          simp [pieceLength?, isLower_of_inRun hd, hd]
        rw [hnext]
        cases hs : lastCapital? s with
        | some i => simp [lastCapital?, hd, hs, startsBetween, hl, breakFrom]
        | none => cases hup : d.isUpper <;>
            simp [lastCapital?, hd, hs, hup, startsBetween, hl, hc, hnext, breakFrom]
      · have hup : d.isUpper = false := by
          by_contra hup
          exact hd (inRun_of_isUpper (Bool.not_eq_false _ ▸ hup))
        simp [lastCapital?, hd, startsBetween, hup, breakFrom]
    · have hpiece : pieceLength? c (d :: s) = none := by simp [pieceLength?, hl, hc]
      simp [hpiece, startsBetween, hl, hc, breakFrom]

/-- A text with an underscore before each position where a word starts, by its positions from `p` on
in the text `whole`. -/
def markStarts (whole : List Char) (p : Nat) (s : List Char) : List Char :=
  (s.zipIdx p).flatMap fun (c, q) => if StartsWord whole q then ['_', c] else [c]

theorem markStarts_cons (whole : List Char) (p : Nat) (c : Char) (s : List Char) :
    markStarts whole p (c :: s) =
      (if StartsWord whole p then ['_', c] else [c]) ++ markStarts whole (p + 1) s := by
  unfold markStarts
  rw [List.zipIdx_cons, List.flatMap_cons]

theorem breakFrom_eq_markStarts (before : List Char) (c : Char) (s : List Char) :
    breakFrom (pieceLength? c s) s =
      markStarts (before ++ c :: s) (before.length + 1) s := by
  induction s generalizing before c with
  | nil => cases pieceLength? c [] with
    | none => rfl
    | some k => cases k <;> rfl
  | cons d s ih =>
    have hrest := ih (before ++ [c]) d
    rw [List.append_assoc, List.singleton_append, List.length_append, List.length_singleton] at hrest
    rw [breakFrom_cons, markStarts_cons, hrest]
    by_cases h : startsBetween c d s = true
    · rw [if_pos h, if_pos ((startsWord_iff before c d s).mpr h)]
    · rw [if_neg h, if_neg (mt (startsWord_iff before c d s).mp h)]

/-- Underscores are put just where words start. -/
theorem breakWords_eq (s : List Char) : breakWords s = markStarts s 0 s := by
  cases s with
  | nil => rfl
  | cons c s =>
    rw [markStarts_cons, if_neg (not_startsWord_zero _)]
    exact congrArg (c :: ·) (breakFrom_eq_markStarts [] c s)

/-! ### Lower case -/

/-- In ASCII every character has one character for its lower case. -/
theorem lower_ascii (h : ∀ c ∈ s, c.toNat < 128) : lower s = s.map Char.toLower := by
  have hsigma : ∀ c ∈ s, c ≠ 'Σ' := by
    rintro c hc rfl
    exact absurd (h _ hc) (by decide)
  have hone : ∀ c ∈ s, lowerChar c = [c.toLower] := fun c hc => if_pos (h c hc)
  unfold lower
  rw [lowerAfter_of_ne hsigma, List.map_eq_flatMap]
  exact congrArg List.flatten (List.map_congr_left hone)

theorem mem_markStarts {whole : List Char} {p : Nat} (h : c ∈ markStarts whole p s) :
    c = '_' ∨ c ∈ s := by
  unfold markStarts at h
  obtain ⟨⟨d, q⟩, hd, hc⟩ := List.mem_flatMap.mp h
  have hmem : d ∈ s := List.fst_mem_of_mem_zipIdx hd
  dsimp only at hc
  split at hc
  · rcases List.mem_cons.mp hc with hc | hc
    · exact .inl hc
    · exact .inr (List.mem_singleton.mp hc ▸ hmem)
  · exact .inr (List.mem_singleton.mp hc ▸ hmem)

/-- **The underscored form of an ASCII name.** It is the lower case of the name, with one underscore
directly before each position where a word starts, and nothing else. -/
theorem toSnakeCase_eq_starts (name : String) (h : ∀ c ∈ name.toList, c.toNat < 128) :
    (toSnakeCase name).toList = name.toList.zipIdx.flatMap fun (c, p) =>
      if StartsWord name.toList p then ['_', c.toLower] else [c.toLower] := by
  have hascii : ∀ c ∈ breakWords name.toList, c.toNat < 128 := by
    intro c hc
    rw [breakWords_eq] at hc
    rcases mem_markStarts hc with rfl | hc
    · decide
    · exact h c hc
  unfold toSnakeCase
  rw [String.toList_ofList, lower_ascii hascii, breakWords_eq, markStarts, List.map_flatMap]
  refine congrArg (List.flatMap · _) (funext fun (c, p) => ?_)
  dsimp only
  split
  · rfl
  · rfl

/-- Two runs of capitals, a run that ends in a digit, and one that begins with it. -/
theorem toSnakeCase_eq_starts_acronyms :
    (∀ c ∈ "XMLParser3OfHTTP2x1B".toList, c.toNat < 128) ∧
      (toSnakeCase "XMLParser3OfHTTP2x1B").toList =
        "XMLParser3OfHTTP2x1B".toList.zipIdx.flatMap (fun (c, p) =>
          if StartsWord "XMLParser3OfHTTP2x1B".toList p then ['_', c.toLower] else [c.toLower]) ∧
      toSnakeCase "XMLParser3OfHTTP2x1B" = "xml_parser3_of_htt_p2x1_b" := by
  have hall : "XMLParser3OfHTTP2x1B".toList.all (fun c => decide (c.toNat < 128)) = true := by decide
  have hascii : ∀ c ∈ "XMLParser3OfHTTP2x1B".toList, c.toNat < 128 :=
    fun c hc => of_decide_eq_true (List.all_eq_true.mp hall c hc)
  exact ⟨hascii, toSnakeCase_eq_starts _ hascii, by decide +kernel⟩

end GraphQLTree.Text
