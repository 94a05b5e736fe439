import GraphQLTree.Proofs.HookKinds

/-! # Names made of regular words

A regular word has a first letter and after it lower-case letters and digits, among them a letter
(`Text.IsNameWord`). An underscored name is made of words that begin with a lower-case letter, joined
by underscores; a capitalised one of words that begin with a capital, one after the other. Between the
two forms only the first letters of the words change (`Text.recased`): the underscores are found again
at the capitals (`Text.breakWords_flatten`), and joining words brings the capitals back
(`Text.capitalize_joinWords`). So the two conversions are inverse to each other on such names
(`Text.name_forms_inverse`). -/

namespace GraphQLTree.Text

variable {c d : Char} {s t w : List Char} {words : List (List Char)}

/-! ### Words -/

/-- The characters of a word after its first one: lower-case letters and digits, among them a
letter. -/
structure IsWordTail (s : List Char) : Prop where
  plain : ∀ d ∈ s, (d.isLower || d.isDigit) = true
  letter : ∃ d ∈ s, d.isLower = true

/-- A word that begins with a letter of the given class. -/
def IsNameWord (first : Char → Bool) (w : List Char) : Prop :=
  ∃ c s, w = c :: s ∧ first c = true ∧ IsWordTail s

/-- A name of one or more words that are joined by underscores. -/
def IsUnderscoredName (name : String) : Prop :=
  ∃ words ≠ [], (∀ w ∈ words, IsNameWord Char.isLower w) ∧
    name.toList = ['_'].intercalate words

/-- A name of one or more words that begin with capitals. -/
def IsCapitalisedName (name : String) : Prop :=
  ∃ words ≠ [], (∀ w ∈ words, IsNameWord Char.isUpper w) ∧ name.toList = words.flatten

/-- A word whose first character is replaced by its image. -/
def recased (f : Char → Char) : List Char → List Char
  | [] => []
  | c :: s => f c :: s

/-! ### Characters of words -/

theorem exists_of_isUpper (h : c.isUpper = true) : ∃ i ∈ List.range 26, c = Char.ofNat (65 + i) := by
  unfold Char.isUpper at h
  simp only [decide_eq_true_eq, ge_iff_le, UInt32.le_iff_toNat_le] at h
  obtain ⟨h₁, h₂⟩ := h
  have h₁ : 65 ≤ c.toNat := h₁
  have h₂ : c.toNat ≤ 90 := h₂
  refine ⟨c.toNat - 65, List.mem_range.mpr (by omega), ?_⟩
  rw [Nat.add_sub_cancel' h₁, Char.ofNat_toNat]

theorem exists_of_isDigit (h : c.isDigit = true) : ∃ i ∈ List.range 10, c = Char.ofNat (48 + i) := by
  unfold Char.isDigit at h
  simp only [Bool.and_eq_true, decide_eq_true_eq, ge_iff_le, UInt32.le_iff_toNat_le] at h
  obtain ⟨h₁, h₂⟩ := h
  have h₁ : 48 ≤ c.toNat := h₁
  have h₂ : c.toNat ≤ 57 := h₂
  refine ⟨c.toNat - 48, List.mem_range.mpr (by omega), ?_⟩
  rw [Nat.add_sub_cancel' h₁, Char.ofNat_toNat]

/-- A capital is the upper case of its lower case, and no letter or digit of another kind. -/
theorem lower_of_isUpper (h : c.isUpper = true) :
    c.toLower.isLower = true ∧ c.toLower.toUpper = c ∧ lowerChar c = [c.toLower] ∧ c ≠ 'Σ' ∧
      c.isLower = false := by
  obtain ⟨i, hi, rfl⟩ := exists_of_isUpper h
  revert i
  decide +kernel

/-- The characters after the first one of a word are the same in both forms. -/
theorem plain_char (h : (d.isLower || d.isDigit) = true) :
    lowerChar d = [d] ∧ d ≠ 'Σ' ∧ d ≠ '_' ∧ d.isUpper = false := by
  rcases Bool.or_eq_true_iff.mp h with h | h
  · obtain ⟨i, hi, rfl⟩ := exists_of_isLower h
    revert i
    decide +kernel
  · obtain ⟨i, hi, rfl⟩ := exists_of_isDigit h
    revert i
    decide +kernel

theorem inRun_of_isLower (h : c.isLower = true) : inRun c = false := by
  obtain ⟨i, hi, rfl⟩ := exists_of_isLower h
  revert i
  decide +kernel

theorem plain_of_isLower (h : c.isLower = true) : (c.isLower || c.isDigit) = true := by
  rw [h, Bool.true_or]

theorem isNameWord_recased_toUpper (h : IsNameWord Char.isLower w) :
    IsNameWord Char.isUpper (recased Char.toUpper w) := by
  obtain ⟨c, s, rfl, hc, hs⟩ := h
  exact ⟨c.toUpper, s, rfl, (upper_of_isLower hc).2.1, hs⟩

theorem isNameWord_recased_toLower (h : IsNameWord Char.isUpper w) :
    IsNameWord Char.isLower (recased Char.toLower w) := by
  obtain ⟨c, s, rfl, hc, hs⟩ := h
  exact ⟨c.toLower, s, rfl, (lower_of_isUpper hc).1, hs⟩

theorem recased_toLower_toUpper (h : IsNameWord Char.isLower w) :
    recased Char.toLower (recased Char.toUpper w) = w := by
  obtain ⟨c, s, rfl, hc, -⟩ := h
  simp only [recased, (upper_of_isLower hc).2.2]

theorem recased_toUpper_toLower (h : IsNameWord Char.isUpper w) :
    recased Char.toUpper (recased Char.toLower w) = w := by
  obtain ⟨c, s, rfl, hc, -⟩ := h
  simp only [recased, (lower_of_isUpper hc).2.1]

theorem map_recased_eq {f g : Char → Char} (h : ∀ w ∈ words, recased f (recased g w) = w) :
    (words.map (recased g)).map (recased f) = words := by
  rw [List.map_map]
  exact (List.map_congr_left h).trans (List.map_id words)

/-! ### Joining words -/

/-- Characters that are no underscores are kept. -/
theorem joinWords_append (hs : ∀ d ∈ s, d ≠ '_') (t : List Char) :
    joinWords (s ++ '_' :: t) = s ++ joinWords ('_' :: t) := by
  induction s with
  | nil => rfl
  | cons c s ih =>
    obtain ⟨hc, hs⟩ := List.forall_mem_cons.mp hs
    have hrest := ih hs
    cases s with
    | nil => simp [joinWords, hc]
    | cons d s =>
      simp only [List.cons_append] at hrest ⊢
      simp only [joinWords, hc, decide_false, Bool.false_and, Bool.false_eq_true, if_false, hrest]

theorem joinWords_of_ne (hs : ∀ d ∈ s, d ≠ '_') : joinWords s = s := by
  induction s using joinWords.induct with
  | case1 => rfl
  | case2 c => rfl
  | case3 c d s h ih => simp [hs c (by simp)] at h
  | case4 c d s h ih =>
    rw [joinWords, if_neg h, ih fun e he => hs e (List.mem_cons_of_mem _ he)]

theorem IsWordTail.ne_underscore (h : IsWordTail s) : ∀ d ∈ s, d ≠ '_' :=
  fun d hd => (plain_char (h.plain d hd)).2.2.1

/-- After an underscore every word begins with a capital. -/
theorem joinWords_underscore (h : ∀ v ∈ w :: words, IsNameWord Char.isLower v) :
    joinWords ('_' :: ['_'].intercalate (w :: words)) =
      ((w :: words).map (recased Char.toUpper)).flatten := by
  induction words generalizing w with
  | nil =>
    obtain ⟨c, s, rfl, hc, hs⟩ := h w (by simp)
    have hkeep := joinWords_of_ne hs.ne_underscore
    simp [joinWords, recased, hc, (upper_of_isLower hc).1, hkeep]
  | cons v words ih =>
    obtain ⟨⟨c, s, rfl, hc, hs⟩, hrest⟩ := List.forall_mem_cons.mp h
    have hcapital (t : List Char) : joinWords ('_' :: c :: t) = c.toUpper :: joinWords t := by
      simp [joinWords, hc, (upper_of_isLower hc).1]
    rw [List.intercalate_cons_cons, List.append_assoc, List.singleton_append, List.cons_append,
      hcapital, joinWords_append hs.ne_underscore, ih hrest]
    rfl

/-- The capitalised form of an underscored name: its words begin with capitals. -/
theorem capitalize_joinWords (hne : words ≠ []) (h : ∀ v ∈ words, IsNameWord Char.isLower v) :
    capitalize (joinWords (['_'].intercalate words)) =
      (words.map (recased Char.toUpper)).flatten := by
  obtain ⟨w, words, rfl⟩ := List.exists_cons_of_ne_nil hne
  obtain ⟨⟨c, s, rfl, hc, hs⟩, hrest⟩ := List.forall_mem_cons.mp h
  have hfirst : ∀ d ∈ c :: s, d ≠ '_' :=
    List.forall_mem_cons.mpr ⟨(plain_char (plain_of_isLower hc)).2.2.1, hs.ne_underscore⟩
  have hcapital (t : List Char) : capitalize (c :: t) = c.toUpper :: t := by
    rw [capitalize, (upper_of_isLower hc).1, List.singleton_append]
  cases words with
  | nil => simp [joinWords_of_ne hfirst, hcapital, recased]
  | cons v words =>
    rw [List.intercalate_cons_cons, List.append_assoc, List.singleton_append,
      joinWords_append hfirst, joinWords_underscore hrest, List.cons_append, hcapital]
    rfl

/-! ### Finding the words again -/

/-- A run that is followed by a lower-case letter has no capital. -/
theorem lastCapital?_tail (h : IsWordTail s) (t : List Char) : lastCapital? (s ++ t) = none := by
  obtain ⟨hs, e, he, hlower⟩ := h
  induction s with
  | nil => simp at he
  | cons d s ih =>
    obtain ⟨hd, hs⟩ := List.forall_mem_cons.mp hs
    by_cases hl : d.isLower = true
    · simp [lastCapital?, inRun_of_isLower hl]
    · have he : e ∈ s := (List.mem_cons.mp he).resolve_left fun h => hl (h ▸ hlower)
      simp [lastCapital?, ih hs he, (plain_char hd).2.2.2]

/-- Digits before a capital are one run with it. -/
theorem lastCapital?_digits (hs : ∀ d ∈ s, d.isDigit = true) (hc : c.isUpper = true)
    (ht : IsWordTail t) (rest : List Char) :
    lastCapital? (s ++ c :: (t ++ rest)) = some s.length := by
  induction s with
  | nil => simp [lastCapital?, inRun, hc, lastCapital?_tail ht]
  | cons d s ih =>
    obtain ⟨hd, hs⟩ := List.forall_mem_cons.mp hs
    simp [lastCapital?, inRun, hd, ih hs]

theorem breakFrom_append (s : List Char) (c : Char) (t : List Char) :
    breakFrom (some s.length) (s ++ c :: t) = s ++ '_' :: c :: breakFrom (pieceLength? c t) t := by
  induction s with
  | nil => rfl
  | cons d s ih => exact congrArg (d :: ·) ih

theorem lastCapital?_plain (hs : ∀ d ∈ s, (d.isLower || d.isDigit) = true) :
    lastCapital? s = none := by
  induction s with
  | nil => rfl
  | cons d s ih =>
    obtain ⟨hd, hs⟩ := List.forall_mem_cons.mp hs
    simp [lastCapital?, ih hs, (plain_char hd).2.2.2]

/-- What is left of the last word is kept. -/
theorem breakFrom_last (hs : ∀ d ∈ s, (d.isLower || d.isDigit) = true) (c : Char) :
    breakFrom (pieceLength? c s) s = s := by
  induction s generalizing c with
  | nil => simp [breakFrom]
  | cons d s ih =>
    obtain ⟨hd, hs'⟩ := List.forall_mem_cons.mp hs
    have hnone : pieceLength? c (d :: s) = none := by
      simp [pieceLength?, (plain_char hd).2.2.2, lastCapital?_plain hs]
    rw [hnone]
    exact congrArg (d :: ·) (ih hs' d)

/-- After a lower-case letter or a digit, what is left of a word is kept, and an underscore stands
before the next word. -/
theorem breakFrom_word (hs : ∀ d ∈ s, (d.isLower || d.isDigit) = true)
    (hc : (c.isLower || c.isDigit) = true) (hd : d.isUpper = true) (ht : IsWordTail t)
    (rest : List Char) :
    breakFrom (pieceLength? c (s ++ d :: (t ++ rest))) (s ++ d :: (t ++ rest)) =
      s ++ '_' :: d :: breakFrom (pieceLength? d (t ++ rest)) (t ++ rest) := by
  induction s generalizing c with
  | nil =>
    have hzero : pieceLength? c ([] ++ d :: (t ++ rest)) = some 0 := by
      by_cases hl : c.isLower = true
      · simp [pieceLength?, hl, hd]
      · have hdigit : c.isDigit = true := (Bool.or_eq_true_iff.mp hc).resolve_left hl
        have hlast := lastCapital?_digits (s := []) (by simp) hd ht rest
        simp [pieceLength?, hl, inRun, hdigit, List.nil_append] at hlast ⊢
        exact hlast
    rw [hzero]
    rfl
  | cons e s ih =>
    obtain ⟨he, hs'⟩ := List.forall_mem_cons.mp hs
    by_cases hnone : pieceLength? c (e :: s ++ d :: (t ++ rest)) = none
    · rw [hnone]
      exact congrArg (e :: ·) (ih hs' he)
    · -- the rest of the word has digits only, and is one piece with the last character
      have hl : c.isLower = false := by
        rw [← Bool.not_eq_true]
        intro hl
        simp [pieceLength?, hl, (plain_char he).2.2.2] at hnone
      have hdigit : c.isDigit = true := by simpa [hl] using hc
      have hpiece : pieceLength? c (e :: s ++ d :: (t ++ rest)) =
          lastCapital? (e :: s ++ d :: (t ++ rest)) := by
        simp [pieceLength?, hl, inRun, hdigit]
      have hdigits : ∀ a ∈ e :: s, a.isDigit = true := by
        intro a ha
        by_contra hno
        have hletter : a.isLower = true := (Bool.or_eq_true_iff.mp (hs a ha)).resolve_right hno
        exact hnone (hpiece.trans (lastCapital?_tail ⟨hs, a, ha, hletter⟩ _))
      rw [hpiece, lastCapital?_digits hdigits hd ht]
      exact breakFrom_append _ _ _

/-- The words of a capitalised name are told apart by their capitals. -/
theorem breakFrom_flatten (hc : c.isUpper = true) (hs : IsWordTail s)
    (h : ∀ w ∈ words, IsNameWord Char.isUpper w) :
    c :: breakFrom (pieceLength? c (s ++ words.flatten)) (s ++ words.flatten) =
      ['_'].intercalate ((c :: s) :: words) := by
  induction words generalizing c s with
  | nil => simp [breakFrom_last hs.plain]
  | cons w words ih =>
    obtain ⟨⟨d, t, rfl, hd, ht⟩, hrest⟩ := List.forall_mem_cons.mp h
    have hnone : pieceLength? c (s ++ d :: (t ++ words.flatten)) = none := by
      simp [pieceLength?, (lower_of_isUpper hc).2.2.2.2, lastCapital?_tail hs]
    obtain ⟨e, s', rfl⟩ : ∃ e s', s = e :: s' := by
      obtain ⟨e, he, -⟩ := hs.letter
      exact List.exists_cons_of_ne_nil (List.ne_nil_of_mem he)
    obtain ⟨he, hs'⟩ := List.forall_mem_cons.mp hs.plain
    have hword := breakFrom_word hs' he hd ht words.flatten
    calc
      _ = c :: breakFrom none (e :: (s' ++ d :: (t ++ words.flatten))) := by
        rw [← hnone]
        rfl
      _ = c :: e :: (s' ++ '_' :: d :: breakFrom (pieceLength? d (t ++ words.flatten))
            (t ++ words.flatten)) := congrArg (fun r => c :: e :: r) hword
      _ = ['_'].intercalate ((c :: e :: s') :: (d :: t) :: words) := by
        rw [List.intercalate_cons_cons, ← ih hd ht hrest]
        simp

theorem breakWords_flatten (h : ∀ w ∈ words, IsNameWord Char.isUpper w) :
    breakWords words.flatten = ['_'].intercalate words := by
  cases words with
  | nil => rfl
  | cons w words =>
    obtain ⟨⟨c, s, rfl, hc, hs⟩, hrest⟩ := List.forall_mem_cons.mp h
    exact breakFrom_flatten hc hs hrest

/-! ### Lower case -/

/-- Without a capital sigma every character has a lower case by itself. -/
theorem lowerAfter_of_ne (hs : ∀ c ∈ s, c ≠ 'Σ') (before : List Char) :
    lowerAfter before s = s.flatMap lowerChar := by
  induction s generalizing before with
  | nil => rfl
  | cons c s ih =>
    obtain ⟨hc, hs⟩ := List.forall_mem_cons.mp hs
    simp [lowerAfter, hc, ih hs]

theorem lower_word (h : IsNameWord Char.isUpper w) :
    (∀ c ∈ w, c ≠ 'Σ') ∧ w.flatMap lowerChar = recased Char.toLower w := by
  obtain ⟨c, s, rfl, hc, hs⟩ := h
  obtain ⟨-, -, hlower, hsigma, -⟩ := lower_of_isUpper hc
  constructor
  · exact List.forall_mem_cons.mpr ⟨hsigma, fun d hd => (plain_char (hs.plain d hd)).2.1⟩
  · have htail : s.flatMap lowerChar = s.flatMap fun d => [d] :=
      congrArg List.flatten (List.map_congr_left fun d hd => (plain_char (hs.plain d hd)).1)
    simp [hlower, htail, recased]

theorem lower_words (h : ∀ w ∈ words, IsNameWord Char.isUpper w) :
    (∀ c ∈ ['_'].intercalate words, c ≠ 'Σ') ∧ (['_'].intercalate words).flatMap lowerChar =
      ['_'].intercalate (words.map (recased Char.toLower)) := by
  have hunderscore : lowerChar '_' = ['_'] := by decide
  induction words with
  | nil => simp
  | cons w words ih =>
    obtain ⟨hw, hrest⟩ := List.forall_mem_cons.mp h
    obtain ⟨hsigma, hlower⟩ := lower_word hw
    obtain ⟨hsigmas, hlowers⟩ := ih hrest
    cases words with
    | nil => simpa using ⟨hsigma, hlower⟩
    | cons v words =>
      rw [List.map_cons, List.map_cons, List.intercalate_cons_cons, List.intercalate_cons_cons,
        ← List.map_cons, ← hlowers, ← hlower]
      constructor
      · intro c hc
        simp only [List.mem_append, List.mem_singleton] at hc
        rcases hc with (hc | rfl) | hc
        · exact hsigma c hc
        · decide
        · exact hsigmas c hc
      · simp [hunderscore]

/-! ### Names -/

theorem toSnakeCase_of_words {name : String} (h : ∀ w ∈ words, IsNameWord Char.isUpper w)
    (hname : name.toList = words.flatten) :
    (toSnakeCase name).toList = ['_'].intercalate (words.map (recased Char.toLower)) := by
  obtain ⟨hsigma, hlower⟩ := lower_words h
  rw [toSnakeCase, String.toList_ofList, hname, breakWords_flatten h, ← hlower]
  exact lowerAfter_of_ne hsigma []

theorem toCamelCase_of_words {name : String} (hne : words ≠ [])
    (h : ∀ w ∈ words, IsNameWord Char.isLower w) (hname : name.toList = ['_'].intercalate words) :
    (toCamelCase name).toList = (words.map (recased Char.toUpper)).flatten := by
  rw [toCamelCase, String.toList_ofList, hname, capitalize_joinWords hne h]

/-- Underscored and capitalised names made of regular words are turned into each other, and the two
conversions are inverse to each other on them. -/
theorem name_forms_inverse :
    (∀ name, IsUnderscoredName name →
      IsCapitalisedName (toCamelCase name) ∧ toSnakeCase (toCamelCase name) = name) ∧
    ∀ name, IsCapitalisedName name →
      IsUnderscoredName (toSnakeCase name) ∧ toCamelCase (toSnakeCase name) = name := by
  constructor
  · rintro name ⟨words, hne, hwords, hname⟩
    have hcamel := toCamelCase_of_words hne hwords hname
    have hcapital : ∀ w ∈ words.map (recased Char.toUpper), IsNameWord Char.isUpper w :=
      List.forall_mem_map.mpr fun w hw => isNameWord_recased_toUpper (hwords w hw)
    refine ⟨⟨_, by simpa using hne, hcapital, hcamel⟩, String.toList_inj.mp ?_⟩
    rw [toSnakeCase_of_words hcapital hcamel, hname,
      map_recased_eq fun w hw => recased_toLower_toUpper (hwords w hw)]
  · rintro name ⟨words, hne, hwords, hname⟩
    have hsnake := toSnakeCase_of_words hwords hname
    have hplain : ∀ w ∈ words.map (recased Char.toLower), IsNameWord Char.isLower w :=
      List.forall_mem_map.mpr fun w hw => isNameWord_recased_toLower (hwords w hw)
    have hne' : words.map (recased Char.toLower) ≠ [] := by simpa using hne
    refine ⟨⟨_, hne', hplain, hsnake⟩, String.toList_inj.mp ?_⟩
    rw [toCamelCase_of_words hne' hplain hsnake, hname,
      map_recased_eq fun w hw => recased_toUpper_toLower (hwords w hw)]

/-- Words that end in digits, before one that has digits after its first letter. -/
theorem name_forms_inverse_digits :
    IsUnderscoredName "http2_x1y_id" ∧
      IsCapitalisedName (toCamelCase "http2_x1y_id") ∧
      toSnakeCase (toCamelCase "http2_x1y_id") = "http2_x1y_id" ∧
      IsCapitalisedName "Http2X1yId" ∧
      IsUnderscoredName (toSnakeCase "Http2X1yId") ∧
      toCamelCase (toSnakeCase "Http2X1yId") = "Http2X1yId" := by
  have htail (s : List Char) (h : (s.all fun d => d.isLower || d.isDigit) = true)
      (hl : s.any Char.isLower = true) : IsWordTail s :=
    ⟨List.all_eq_true.mp h, List.any_eq_true.mp hl⟩
  have hunderscored : IsUnderscoredName "http2_x1y_id" := by
    refine ⟨["http2".toList, "x1y".toList, "id".toList], by simp, ?_, by decide⟩
    rintro w hw
    simp only [List.mem_cons, List.not_mem_nil, or_false] at hw
    rcases hw with rfl | rfl | rfl
    · exact ⟨'h', "ttp2".toList, by decide, by decide, htail _ (by decide) (by decide)⟩
    · exact ⟨'x', "1y".toList, by decide, by decide, htail _ (by decide) (by decide)⟩
    · exact ⟨'i', "d".toList, by decide, by decide, htail _ (by decide) (by decide)⟩
  have hcapitalised : IsCapitalisedName "Http2X1yId" := by
    refine ⟨["Http2".toList, "X1y".toList, "Id".toList], by simp, ?_, by decide⟩
    rintro w hw
    simp only [List.mem_cons, List.not_mem_nil, or_false] at hw
    rcases hw with rfl | rfl | rfl
    · exact ⟨'H', "ttp2".toList, by decide, by decide, htail _ (by decide) (by decide)⟩
    · exact ⟨'X', "1y".toList, by decide, by decide, htail _ (by decide) (by decide)⟩
    · exact ⟨'I', "d".toList, by decide, by decide, htail _ (by decide) (by decide)⟩
  obtain ⟨hfrom, hback⟩ := name_forms_inverse.1 _ hunderscored
  obtain ⟨hfrom', hback'⟩ := name_forms_inverse.2 _ hcapitalised
  exact ⟨hunderscored, hfrom, hback, hcapitalised, hfrom', hback'⟩

end GraphQLTree.Text
