import GraphQLTree.Method.Call
import GraphQLTree.Proofs.Description
import GraphQLTree.Proofs.Equality
import GraphQLTree.Proofs.RegularNames
import Mathlib.Data.List.Induction
import Mathlib.Data.List.TakeWhile

/-! # Texts of versions

A version is written with decimal numbers and the first letter of its level. It is read from digits of
any script and from any word for the level. So more texts are read than are written; but whatever is
read has one of the four levels, and no serial number if it is final (`Version.regular_of_scan?`), and
such a version is found again in what is written of it (`Version.read?_write`). The second half of the
module follows a version as an object: to its text (`Store.IsVersion.runOn_text`), and to the object
that is made of the text, which is equal to it (`Version.versions_read_back`). -/

namespace GraphQLTree

namespace Text

/-! ### Digits -/

theorem digitValue?_of_isDigit {c : Char} (h : c.isDigit = true) :
    digitValue? c = some (c.toNat - '0'.toNat) := by
  obtain ⟨i, hi, rfl⟩ := exists_of_isDigit h
  revert i
  decide +kernel

theorem isDecimalDigit_of_isDigit {c : Char} (h : c.isDigit = true) : isDecimalDigit c = true := by
  unfold isDecimalDigit
  rw [digitValue?_of_isDigit h]
  rfl

theorem isLower_of_isDigit {c : Char} (h : c.isDigit = true) : c.isLower = false := by
  obtain ⟨i, hi, rfl⟩ := exists_of_isDigit h
  revert i
  decide +kernel

theorem isDigit_of_mem_toDigits {n : Nat} {c : Char} (h : c ∈ Nat.toDigits 10 n) :
    c.isDigit = true :=
  Nat.isDigit_of_mem_toDigits (by decide) (by decide) h

theorem digitsValue_eq_ofDigitChars {digits : List Char} (h : ∀ c ∈ digits, c.isDigit = true) :
    digitsValue digits = Nat.ofDigitChars 10 digits 0 := by
  refine List.foldl_ext _ _ 0 fun n c hc => ?_
  rw [digitValue?_of_isDigit (h c hc), Option.getD_some]

/-- The digits of a number are read as the number. -/
theorem digitsValue_toDigits (n : Nat) : digitsValue (Nat.toDigits 10 n) = n := by
  rw [digitsValue_eq_ofDigitChars fun _ => isDigit_of_mem_toDigits]
  exact Nat.ofDigitChars_toDigits (by decide) (by decide)

theorem digitsValue_concat (digits : List Char) (c : Char) :
    digitsValue (digits ++ [c]) = 10 * digitsValue digits + (digitValue? c).getD 0 := by
  unfold digitsValue
  rw [List.foldl_append]
  rfl

theorem digitsValue_lt (digits : List Char) : digitsValue digits < Nat.pow 10 digits.length := by
  induction digits using List.reverseRecOn with
  | nil => decide
  | append_singleton digits c ih =>
    have hdigit : (digitValue? c).getD 0 < 10 := by
      cases hc : digitValue? c with
      | none => decide
      | some d => exact digitValue?_lt hc
    have hpow : Nat.pow 10 (digits.length + 1) = Nat.pow 10 digits.length * 10 := rfl
    rw [digitsValue_concat, List.length_append, List.length_singleton, hpow]
    omega

/-- A number is written with no more digits than it was read from. -/
theorem length_toDigits_digitsValue (digits : List Char) :
    (Nat.toDigits 10 (digitsValue digits)).length ≤ max 1 digits.length := by
  refine (Nat.length_toDigits_le_iff (by decide) (by omega)).mpr ?_
  exact Nat.lt_of_lt_of_le (digitsValue_lt digits)
    (Nat.pow_le_pow_right (by decide) (Nat.le_max_right 1 digits.length))

end Text

namespace Version

variable {major minor micro serial : Nat} {level : String} {digits rest : List Char} {text : String}
  {v : Version}

/-- The release levels. -/
def levels : List String :=
  ["alpha", "beta", "candidate", "final"]

/-! ### Reading what was written -/

/-- A number is scanned up to the first character that is no digit. -/
theorem scanNumber?_append (hd : ∀ c ∈ digits, Text.isDecimalDigit c = true) (hne : digits ≠ [])
    (hrest : ∀ c ∈ rest.head?, Text.isDecimalDigit c = false) :
    scanNumber? (digits ++ rest) = some (digits, rest) := by
  have hnone : rest.takeWhile Text.isDecimalDigit = [] ∧
      rest.dropWhile Text.isDecimalDigit = rest := by
    cases rest with
    | nil => exact ⟨rfl, rfl⟩
    | cons c rest =>
      have hc := hrest c rfl
      exact ⟨List.takeWhile_cons_of_neg (by simp [hc]), List.dropWhile_cons_of_neg (by simp [hc])⟩
  unfold scanNumber?
  rw [List.takeWhile_append_of_pos hd, List.dropWhile_append_of_pos hd, hnone.1, hnone.2,
    List.append_nil]
  cases digits with
  | nil => exact absurd rfl hne
  | cons => rfl

theorem scanNumber?_toDigits (n : Nat) (hrest : ∀ c ∈ rest.head?, Text.isDecimalDigit c = false) :
    scanNumber? (Nat.toDigits 10 n ++ rest) = some (Nat.toDigits 10 n, rest) :=
  scanNumber?_append (fun _ hc => Text.isDecimalDigit_of_isDigit (Text.isDigit_of_mem_toDigits hc))
    Nat.toDigits_ne_nil hrest

/-- What is written after the three numbers. -/
def suffix (level : String) (serial : Nat) : List Char :=
  if level = "final" then [] else level.toList.take 1 ++ Nat.toDigits 10 serial

theorem toList_write (major minor micro serial : Nat) (level : String) :
    (write ⟨major, minor, micro, level, serial⟩).toList =
      Nat.toDigits 10 major ++ '.' :: (Nat.toDigits 10 minor ++ '.' ::
        (Nat.toDigits 10 micro ++ suffix level serial)) := by
  have hdot : (".").toList = ['.'] := rfl
  have hnumber (n : Nat) : (toString (n : Int)).toList = Nat.toDigits 10 n := Nat.toList_repr
  unfold write suffix
  dsimp only
  split
  · simp only [String.toList_append, hdot, hnumber, List.append_assoc, List.cons_append,
      List.nil_append, List.append_nil]
  · simp only [String.toList_append, String.toList_ofList, hdot, hnumber, List.append_assoc,
      List.cons_append, List.nil_append]

/-- The first letter of a level tells it, unless it is final. -/
theorem exists_start (h : level ∈ levels) (hf : level ≠ "final") : ∃ l, level.toList.take 1 = [l] ∧
    l.isLower = true ∧ Text.isDecimalDigit l = false ∧ levelOf [l] = level := by
  simp only [levels, List.mem_cons, List.not_mem_nil, or_false] at h
  rcases h with rfl | rfl | rfl | rfl
  · exact ⟨'a', by decide⟩
  · exact ⟨'b', by decide⟩
  · exact ⟨'c', by decide⟩
  · exact absurd rfl hf

theorem isDecimalDigit_suffix (h : level ∈ levels) :
    ∀ c ∈ (suffix level serial).head?, Text.isDecimalDigit c = false := by
  unfold suffix
  split
  · exact nofun
  · rename_i hf
    obtain ⟨l, hl, -, hdigit, -⟩ := exists_start h hf
    rw [hl]
    rintro c ⟨⟩
    exact hdigit

/-- The level and the serial number are found again; a final version has no serial number. -/
theorem scanSuffix?_suffix (h : level ∈ levels) : scanSuffix? (suffix level serial) =
    some (level, if level = "final" then [] else Nat.toDigits 10 serial) := by
  unfold suffix
  split
  · rename_i hf
    rw [hf]
    rfl
  · rename_i hf
    obtain ⟨l, hl, hlower, -, hlevel⟩ := exists_start h hf
    have hword : (Nat.toDigits 10 serial).takeWhile Char.isLower = [] ∧
        (Nat.toDigits 10 serial).dropWhile Char.isLower = Nat.toDigits 10 serial := by
      have hne : Nat.toDigits 10 serial ≠ [] := Nat.toDigits_ne_nil
      obtain ⟨d, digits, hd⟩ := List.exists_cons_of_ne_nil hne
      have hnot : d.isLower = false := Text.isLower_of_isDigit <|
        Text.isDigit_of_mem_toDigits (hd ▸ List.mem_cons_self ..)
      rw [hd]
      exact ⟨List.takeWhile_cons_of_neg (by simp [hnot]),
        List.dropWhile_cons_of_neg (by simp [hnot])⟩
    have hend : atEnd (l :: Nat.toDigits 10 serial) = false := by
      simp [atEnd, Nat.toDigits_ne_nil]
    have hnumber : scanNumber? (Nat.toDigits 10 serial) = some (Nat.toDigits 10 serial, []) := by
      have h : scanNumber? (Nat.toDigits 10 serial ++ []) = some (Nat.toDigits 10 serial, []) :=
        scanNumber?_toDigits serial nofun
      rwa [List.append_nil] at h
    rw [hl, List.singleton_append]
    unfold scanSuffix?
    rw [hend, List.takeWhile_cons_of_pos hlower, List.dropWhile_cons_of_pos hlower, hword.1,
      hword.2, hnumber]
    simp [atEnd, hlevel, hf]

/-- The parts of a version as they are written. -/
def partsOf (major minor micro : Nat) (level : String) (serial : Nat) : Parts :=
  ⟨Nat.toDigits 10 major, Nat.toDigits 10 minor, Nat.toDigits 10 micro, level,
    if level = "final" then [] else Nat.toDigits 10 serial⟩

theorem scan?_write (h : level ∈ levels) :
    scan? (write ⟨major, minor, micro, level, serial⟩) =
      some (partsOf major minor micro level serial) := by
  have hdot (rest : List Char) : ∀ c ∈ ('.' :: rest).head?, Text.isDecimalDigit c = false := by
    rintro c ⟨⟩
    decide
  simp only [scan?, toList_write, Option.bind_eq_bind, scanNumber?_toDigits major (hdot _),
    scanNumber?_toDigits minor (hdot _), scanNumber?_toDigits micro (isDecimalDigit_suffix h),
    scanSuffix?_suffix h, readDot?, Option.bind_some]
  rfl

theorem version_partsOf (hfinal : level = "final" → serial = 0) :
    (partsOf major minor micro level serial).version = ⟨major, minor, micro, level, serial⟩ := by
  unfold Parts.version partsOf
  simp only [Text.digitsValue_toDigits]
  by_cases hf : level = "final"
  · rw [if_pos hf, hfinal hf]
    rfl
  · rw [if_neg hf, Text.digitsValue_toDigits]

/-- A version that was written is read as itself. -/
theorem read?_write (h : level ∈ levels) (hfinal : level = "final" → serial = 0) :
    read? (write ⟨major, minor, micro, level, serial⟩) =
      some ⟨major, minor, micro, level, serial⟩ := by
  unfold read?
  rw [scan?_write h, Option.map_some, version_partsOf hfinal]

/-! ### What is read -/

theorem levelOf_mem (word : List Char) : levelOf word ∈ levels := by
  unfold levelOf
  split <;> decide

theorem scanSuffix?_regular {s serial : List Char} (h : scanSuffix? s = some (level, serial)) :
    level ∈ levels ∧ (level = "final" → serial = []) := by
  unfold scanSuffix? at h
  split at h
  · cases h
    exact ⟨by decide, fun _ => rfl⟩
  · split at h
    · nomatch h
    · nomatch h
    · split at h
      · cases h
        exact ⟨levelOf_mem _, fun hf => if_pos hf⟩
      · nomatch h

/-- What is read has one of the levels, and no serial number if it is final. -/
theorem regular_of_scan? {p : Parts} (h : scan? text = some p) :
    p.level ∈ levels ∧ (p.level = "final" → Text.digitsValue p.serial = 0) := by
  unfold scan? at h
  simp only [Option.bind_eq_bind, Option.bind_eq_some_iff, Prod.exists] at h
  obtain ⟨major, s₁, -, s₂, -, minor, s₃, -, s₄, -, micro, s₅, -, level, serial, hs, hp⟩ := h
  cases hp
  obtain ⟨hlevel, hfinal⟩ := scanSuffix?_regular hs
  refine ⟨hlevel, fun hf => ?_⟩
  change Text.digitsValue serial = 0
  rw [hfinal hf]
  rfl

/-- What was read and written is read as the same version. -/
theorem read?_write_of_read? (h : read? text = some v) : read? v.write = some v := by
  unfold read? at h
  obtain ⟨p, hp, rfl⟩ := Option.map_eq_some_iff.mp h
  obtain ⟨hlevel, hfinal⟩ := regular_of_scan? hp
  exact read?_write hlevel hfinal

/-! ### Long numbers -/

theorem tooLong?_eq_none {p : Parts} : p.tooLong? = none ↔
    ∀ digits ∈ [p.major, p.minor, p.micro, p.serial], digits.length ≤ digitLimit := by
  unfold Parts.tooLong?
  simp only [List.find?_eq_none, List.mem_map, forall_exists_index, and_imp,
    forall_apply_eq_imp_iff₂, decide_eq_true_eq, Nat.not_lt]

theorem tooLong?_partsOf
    (h : ∀ n ∈ [major, minor, micro, serial], (Nat.toDigits 10 n).length ≤ digitLimit) :
    (partsOf major minor micro level serial).tooLong? = none := by
  simp only [List.forall_mem_cons, List.not_mem_nil, false_implies, implies_true, and_true] at h
  obtain ⟨hmajor, hminor, hmicro, hserial⟩ := h
  have hend : (partsOf major minor micro level serial).serial.length ≤ digitLimit := by
    unfold partsOf
    dsimp only
    split
    · exact Nat.zero_le _
    · exact hserial
  refine tooLong?_eq_none.mpr ?_
  simp only [List.forall_mem_cons, List.not_mem_nil, false_implies, implies_true, and_true]
  exact ⟨hmajor, hminor, hmicro, hend⟩

theorem length_digits_le {p : Parts} (h : p.tooLong? = none) :
    ∀ n ∈ [p.major, p.minor, p.micro, p.serial].map Text.digitsValue,
      (Nat.toDigits 10 n).length ≤ digitLimit := by
  intro n hn
  obtain ⟨digits, hd, rfl⟩ := List.mem_map.mp hn
  exact Nat.le_trans (Text.length_toDigits_digitsValue digits)
    (Nat.max_le.mpr ⟨by decide, tooLong?_eq_none.mp h digits hd⟩)

end Version

/-! ### Version objects -/

namespace Action

theorem readVersionText_eq_ok {text : String} {v : Version} : readVersionText text = .ok v ↔
    ∃ p, Version.scan? text = some p ∧ p.tooLong? = none ∧ p.version = v := by
  unfold readVersionText
  cases Version.scan? text with
  | none => simp
  | some p =>
    cases hp : p.tooLong? with
    | none => simp [hp]
    | some n => simp [hp]

/-- Reads a text as a version. -/
def readText (text : String) : Action Value :=
  readVersion (.type (.basic .version)) (.text text)

/-- Whether a version is equal to what is read of its text. -/
def rereads (v : Value) : Action Bool := do
  equal (← readText (← text v)) v

end Action

/-- The start of a sequence up to its first item. -/
theorem slice_first {α : Type} (items : List α) : slice none (some 1) 1 items = items.take 1 := by
  cases items with
  | nil => rfl
  | cons x items =>
    have hstop : clampBound ((x :: items).length : Int) false 1 = 1 := by
      unfold clampBound
      rw [List.length_cons]
      simp only [Bool.false_eq_true, if_false]
      omega
    have hend : strides items.length (0 + 1) 1 1 = [] := by
      cases items.length <;> rfl
    have hforward : decide ((1 : Int) < 0) = false := rfl
    unfold slice
    dsimp only [Option.map_some, Option.map_none, Option.getD]
    rw [hforward, hstop]
    change (0 :: strides items.length (0 + 1) 1 1).filterMap ((x :: items)[·]?) = [x]
    rw [hend]
    rfl

namespace Store

variable {s s' : Store} {r q : Ref} {v : Version} {major minor micro serial k : Nat}
  {level : String}

/-- A version as an object: a tuple of its fields, none of which was replaced. -/
structure IsVersion (s : Store) (r : Ref) (v : Version) : Prop where
  classAttrs : s.classAttrs = []
  cell : ∃ fields, s.get? r = some (.tuple .version (Action.versionFieldsOf v) fields)
  data : ∀ name, s.functionData.lookup (r, name) = none

theorem IsVersion.special? (h : s.IsVersion r v) (name : String) :
    s.special? (s.typeOf (.ref r)) name = none := by
  obtain ⟨fields, hc⟩ := h.cell
  exact Action.special?_tuple h.classAttrs hc name

/-- A field is read by its name. -/
theorem IsVersion.runOn_field (h : s.IsVersion r v) {name : String} {x : Value}
    (hx : (name, x) ∈ BasicType.versionFields.zip (Action.versionFieldsOf v)) :
    Effect.runOn (Action.attr (.ref r) name (Behaviour.level (k + 1))) s = (.ok x, s) := by
  obtain ⟨fields, hc⟩ := h.cell
  have hentry : ∀ name ∈ BasicType.versionFields, s.classEntry? (s.typeOf (.ref r)) name =
      some (.basic .version, .value (.native .version name)) := by
    intro name hname
    rw [typeOf_ref hc, classEntry?_eq h.classAttrs rfl]
    change empty.classEntry? (.basic .version) name = _
    clear hx
    revert name
    decide
  have hseq : s.sequence? (.ref r) = some (Action.versionFieldsOf v) := by
    unfold sequence?
    rw [cell?_ref hc]
  have hinitial : Effect.runOn (Action.readInitial (.ref r) .version name) s = (.ok x, s) ∧
      (Value.native .version name).isData = true := by
    simp only [BasicType.versionFields, Action.versionFieldsOf, List.zip_cons_cons,
      List.zip_nil_right, List.mem_cons, Prod.mk.injEq, List.not_mem_nil, or_false] at hx
    rcases hx with ⟨rfl, rfl⟩ | ⟨rfl, rfl⟩ | ⟨rfl, rfl⟩ | ⟨rfl, rfl⟩ | ⟨rfl, rfl⟩ <;>
    · refine ⟨(Effect.runOn_bind_ok (Effect.runOn_get s) _).trans ?_, by decide⟩
      rw [hseq]
      rfl
  refine (Action.runOn_readAttr (h.special? _) (h.special? _) name).trans ?_
  refine (Effect.runOn_bind_ok (Effect.runOn_get s) _).trans ?_
  rw [hentry name (List.of_mem_zip hx).1]
  dsimp only
  rw [hinitial.2]
  change Effect.runOn (Action.readNative (.ref r) .version name) s = _
  refine (Effect.runOn_bind_ok (Effect.runOn_get s) _).trans ?_
  have hnone : Action.assignedData? s (.ref r) name = none := h.data name
  rw [hnone]
  exact hinitial.1

/-- The text of a number is its decimal form. -/
theorem runOn_text_int (h : s.classAttrs = []) (n : Int) :
    Effect.runOn (Action.text (.int n) (Behaviour.level (k + 2))) s = (.ok (toString n), s) := by
  have hnone (name : String) : s.special? (s.typeOf (.int n)) name = none := special?_basic h _ _
  have hwritten : Effect.runOn (Action.written (.int n) (Behaviour.level (k + 1))) s =
      (.ok (toString n), s) := by
    refine (Action.runOn_bind_ok (Action.runOn_special? "__repr__") _).trans ?_
    rw [hnone]
    rfl
  refine (Action.runOn_bind_ok (Action.runOn_special? "__str__") _).trans ?_
  rw [hnone]
  exact (Effect.runOn_bind_ok (Effect.runOn_get s) _).trans hwritten

/-- The start of a level. -/
theorem runOn_sliceOf_first (t : String) {b : Behaviour} :
    Effect.runOn (Action.sliceOf (.text t) ⟨.null, .int 1, .null⟩ b) s =
      (.ok (.text (String.ofList (t.toList.take 1))), s) := by
  rw [← slice_first]
  rfl

/-- A version is written as its fields say. -/
theorem IsVersion.runOn_textOfVersion (h : s.IsVersion r v) :
    Effect.runOn (Action.textOfVersion (.ref r) (Behaviour.level (k + 2))) s = (.ok v.write, s) := by
  have hs := h.classAttrs
  have hmajor : Effect.runOn (Action.attr (.ref r) "major" (Behaviour.level (k + 2))) s =
      (.ok (.int v.major), s) := h.runOn_field (.head _)
  have hminor : Effect.runOn (Action.attr (.ref r) "minor" (Behaviour.level (k + 2))) s =
      (.ok (.int v.minor), s) := h.runOn_field (.tail _ (.head _))
  have hmicro : Effect.runOn (Action.attr (.ref r) "micro" (Behaviour.level (k + 2))) s =
      (.ok (.int v.micro), s) := h.runOn_field (.tail _ (.tail _ (.head _)))
  have hlevel : Effect.runOn (Action.attr (.ref r) "releaselevel" (Behaviour.level (k + 2))) s =
      (.ok (.text v.level), s) := h.runOn_field (.tail _ (.tail _ (.tail _ (.head _))))
  have hserial : Effect.runOn (Action.attr (.ref r) "serial" (Behaviour.level (k + 2))) s =
      (.ok (.int v.serial), s) := h.runOn_field (.tail _ (.tail _ (.tail _ (.tail _ (.head _)))))
  refine (Action.runOn_bind_ok hmajor _).trans ?_
  refine (Action.runOn_bind_ok (runOn_text_int hs v.major) _).trans ?_
  refine (Action.runOn_bind_ok hminor _).trans ?_
  refine (Action.runOn_bind_ok (runOn_text_int hs v.minor) _).trans ?_
  refine (Action.runOn_bind_ok hmicro _).trans ?_
  refine (Action.runOn_bind_ok (runOn_text_int hs v.micro) _).trans ?_
  refine (Action.runOn_bind_ok hlevel _).trans ?_
  refine (Action.runOn_bind_ok (Action.runOn_equal_text hs v.level "final" (k + 1)) _).trans ?_
  unfold Version.write
  by_cases hf : v.level = "final"
  · rw [if_pos hf, beq_iff_eq.mpr hf]
    rfl
  · rw [if_neg hf, beq_eq_false_iff_ne.mpr hf]
    refine (Action.runOn_bind_ok (runOn_sliceOf_first v.level) _).trans ?_
    refine (Action.runOn_bind_ok (runOn_text_text hs _) _).trans ?_
    refine (Action.runOn_bind_ok hserial _).trans ?_
    exact Action.runOn_bind_ok (runOn_text_int hs v.serial) _

/-- There is room for what the text of a version uses. -/
theorem exists_depthLimit (s : Store) : ∃ k, s.depthLimit = k + 3 :=
  ⟨8 * s.size + 997, by unfold depthLimit; omega⟩

theorem IsVersion.runOn_text (h : s.IsVersion r v) :
    Effect.runOn (Action.text (.ref r) (Behaviour.level (k + 3))) s = (.ok v.write, s) := by
  obtain ⟨fields, hc⟩ := h.cell
  refine (Action.runOn_bind_ok (Action.runOn_special? "__str__") _).trans ?_
  rw [h.special?]
  refine (Effect.runOn_bind_ok (Effect.runOn_get s) _).trans ?_
  rw [cell?_ref hc]
  exact h.runOn_textOfVersion

/-! ### Reading a version and comparing versions -/

/-- A store with a new version. -/
def withVersion (s : Store) (v : Version) : Store :=
  (s.alloc (.tuple .version (Action.versionFieldsOf v) (.own []))).2

theorem runOn_call_version (v : Version) :
    Effect.runOn (Action.call (.type (.basic .version)) (Action.versionFieldsOf v)
      (Behaviour.level (k + 1))) s = (.ok (.ref s.size), s.withVersion v) :=
  rfl

theorem runOn_readText {text : String} (ht : Action.readVersionText text = .ok v) :
    Effect.runOn (Action.readText text (Behaviour.level (k + 1))) s =
      (.ok (.ref s.size), s.withVersion v) := by
  have hread : Effect.runOn (Action.ofExcept (Action.readVersionText text)
      (Behaviour.level (k + 1))) s = (.ok v, s) := by
    rw [ht]
    rfl
  refine (Action.runOn_bind_ok (Action.runOn_get s) _).trans ?_
  dsimp only
  refine (Action.runOn_bind_ok hread _).trans ?_
  exact runOn_call_version v

/-- Only what is read as a version makes one. -/
theorem exists_of_runOn_readText {text : String} {b : Behaviour} {x : Value}
    (h : Effect.runOn (Action.readText text b) s = (.ok x, s')) :
    ∃ v, Action.readVersionText text = .ok v := by
  cases ht : Action.readVersionText text with
  | ok v => exact ⟨v, rfl⟩
  | error fault =>
    have hfail : Effect.runOn (Action.readText text b) s = Effect.runOn (Effect.fail fault) s := by
      refine (Action.runOn_bind_ok (Action.runOn_get s) _).trans ?_
      dsimp only
      rw [ht]
      rfl
    rw [hfail] at h
    nomatch h

/-- A version in a new place. -/
theorem isVersion_alloc (h : s.classAttrs = []) (hdata : ∀ p ∈ s.functionData, p.1.1 < s.size)
    (v : Version) : (s.withVersion v).IsVersion s.size v := by
  refine ⟨h, ⟨_, get?_alloc s _⟩, fun name => ?_⟩
  refine List.lookup_eq_none_iff.mpr fun p hp => bne_iff_ne.mpr fun he => ?_
  have hlt := hdata p hp
  rw [← he] at hlt
  exact absurd hlt (Nat.lt_irrefl _)

theorem IsVersion.grows (h : s.IsVersion r v) (hg : s.Grows s')
    (hdata : s'.functionData = s.functionData) : s'.IsVersion r v := by
  obtain ⟨fields, hc⟩ := h.cell
  refine ⟨hg.classAttrs.trans h.classAttrs, ⟨fields, hg.get?_eq hc⟩, fun name => ?_⟩
  rw [hdata]
  exact h.data name

/-- Versions with the same fields are equal. -/
theorem IsVersion.runOn_equal (hq : s.IsVersion q v) (hr : s.IsVersion r v) :
    Effect.runOn (Action.equal (.ref q) (.ref r) (Behaviour.level (k + 2))) s = (.ok true, s) := by
  obtain ⟨fields, hc⟩ := hq.cell
  obtain ⟨fields', hc'⟩ := hr.cell
  have hleaf {x : Value} (hx : x.isLeaf = true) (hs : ∀ name, s.special? (s.typeOf x) name = none) :
      Effect.runOn (Action.equal x x (Behaviour.level (k + 1))) s = (.ok true, s) :=
    runOn_equal_of_first rfl (hs _) (runOn_compareLeaf hx)
  have hnumber (n : Int) := hleaf (x := .int n) rfl fun _ => special?_basic hq.classAttrs _ _
  have htext (t : String) := hleaf (x := .text t) rfl fun _ => special?_basic hq.classAttrs _ _
  refine runOn_equal_of_first ?_ (hq.special? _) (runOn_compareSequences hc hc'
    (runOn_sameFields_of_alike ?_))
  · rw [typeOf_ref hc, typeOf_ref hc']
    rfl
  · exact .cons (hnumber _) (.cons (hnumber _) (.cons (hnumber _) (.cons (htext _)
      (.cons (hnumber _) .nil))))

/-- A version is equal to what is read of its text, if its numbers are not too long to be read. -/
theorem IsVersion.runOn_rereads (h : s.IsVersion r ⟨major, minor, micro, level, serial⟩)
    (hdata : ∀ p ∈ s.functionData, p.1.1 < s.size) (hlevel : level ∈ Version.levels)
    (hfinal : level = "final" → serial = 0)
    (hshort : ∀ n ∈ [major, minor, micro, serial],
      (Nat.toDigits 10 n).length ≤ Version.digitLimit) :
    ∃ s', (Action.rereads (.ref r)).perform.runOn s = (.ok true, s') := by
  have hread : Action.readVersionText (Version.write ⟨major, minor, micro, level, serial⟩) =
      .ok ⟨major, minor, micro, level, serial⟩ :=
    Action.readVersionText_eq_ok.mpr ⟨_, Version.scan?_write hlevel,
      Version.tooLong?_partsOf hshort, Version.version_partsOf hfinal⟩
  obtain ⟨k, hk⟩ := s.exists_depthLimit
  refine ⟨s.withVersion ⟨major, minor, micro, level, serial⟩, ?_⟩
  rw [Action.runOn_perform, hk]
  refine (Action.runOn_bind_ok h.runOn_text _).trans ?_
  refine (Action.runOn_bind_ok (runOn_readText hread) _).trans ?_
  exact (isVersion_alloc h.classAttrs hdata _).runOn_equal (h.grows (grows_alloc s _) rfl)

end Store

namespace Version

variable {s : Store}

/-- Writing a version and reading what was written gives the version again. This is so for every
version that has one of the levels and no serial number if it is final, and for every version that
was read from a text. -/
theorem versions_read_back (h : s.classAttrs = []) (hdata : ∀ p ∈ s.functionData, p.1.1 < s.size) :
    (∀ major minor micro serial : Nat, ∀ level ∈ levels, (level = "final" → serial = 0) →
      ∀ v : Version, v = ⟨major, minor, micro, level, serial⟩ →
        read? v.write = some v ∧
        ∀ r, s.IsVersion r v → (Action.text (.ref r)).perform.runOn s = (.ok v.write, s) ∧
          ((∀ n ∈ [major, minor, micro, serial], (Nat.toDigits 10 n).length ≤ digitLimit) →
            ∃ s', (Action.rereads (.ref r)).perform.runOn s = (.ok true, s'))) ∧
    ∀ text : String,
      (∀ v, read? text = some v → read? v.write = some v) ∧
      ((∃ x s', (Action.readText text).perform.runOn s = (.ok x, s')) ↔
        ∃ p, scan? text = some p ∧ p.tooLong? = none) ∧
      ∀ x s', (Action.readText text).perform.runOn s = (.ok x, s') →
        (∃ r v, x = .ref r ∧ s'.IsVersion r v ∧ read? text = some v) ∧
          ∃ s'', (Action.rereads x).perform.runOn s' = (.ok true, s'') := by
  obtain ⟨k, hk⟩ := s.exists_depthLimit
  refine ⟨?_, fun text => ⟨fun v => read?_write_of_read?, ⟨?_, ?_⟩, ?_⟩⟩
  · rintro major minor micro serial level hlevel hfinal v rfl
    refine ⟨read?_write hlevel hfinal, fun r hr => ⟨?_, hr.runOn_rereads hdata hlevel hfinal⟩⟩
    rw [Action.runOn_perform, hk]
    exact hr.runOn_text
  · rintro ⟨x, s', hrun⟩
    obtain ⟨v, hv⟩ := Store.exists_of_runOn_readText hrun
    obtain ⟨p, hp, hshort, -⟩ := Action.readVersionText_eq_ok.mp hv
    exact ⟨p, hp, hshort⟩
  · rintro ⟨p, hp, hshort⟩
    refine ⟨.ref s.size, s.withVersion p.version, ?_⟩
    rw [Action.runOn_perform, hk]
    exact Store.runOn_readText (Action.readVersionText_eq_ok.mpr ⟨p, hp, hshort, rfl⟩)
  · intro x s' hrun
    obtain ⟨v, hv⟩ := Store.exists_of_runOn_readText hrun
    rw [Action.runOn_perform, hk, Store.runOn_readText hv] at hrun
    cases hrun
    obtain ⟨p, hp, hshort, rfl⟩ := Action.readVersionText_eq_ok.mp hv
    have hnew := Store.isVersion_alloc h hdata p.version
    refine ⟨⟨_, _, rfl, hnew, ?_⟩, ?_⟩
    · unfold read?
      rw [hp]
      rfl
    · obtain ⟨hlevel, hfinal⟩ := regular_of_scan? hp
      refine hnew.runOn_rereads (fun q hq => ?_) hlevel hfinal (length_digits_le hshort)
      exact Nat.lt_of_lt_of_le (hdata q hq) (Store.grows_alloc s _).size

/-- A release candidate is written and read again, and it is found in a text with another word for
its level and digits of another script. -/
theorem versions_read_back_candidate :
    let v : Version := ⟨12, 34, 56, "candidate", 789⟩
    let s := Store.empty.withVersion v
    s.classAttrs = [] ∧ (∀ p ∈ s.functionData, p.1.1 < s.size) ∧
      (Action.text (.ref 0)).perform.runOn s = (.ok "12.34.56c789", s) ∧
      (∃ s', (Action.rereads (.ref 0)).perform.runOn s = (.ok true, s')) ∧
      ∃ x s', (Action.readText "12.٣٤.56rc789\n").perform.runOn s = (.ok x, s') ∧
        ∃ s'', (Action.rereads x).perform.runOn s' = (.ok true, s'') := by
  intro v s
  have hdata : ∀ p ∈ s.functionData, p.1.1 < s.size := fun _ hp => absurd hp List.not_mem_nil
  have hv : s.IsVersion 0 v :=
    Store.isVersion_alloc rfl (fun _ hp => absurd hp List.not_mem_nil) v
  obtain ⟨hwrite, hread⟩ := versions_read_back (s := s) rfl hdata
  obtain ⟨htext, hagain⟩ := (hwrite 12 34 56 789 "candidate" (by decide) (by decide) v rfl).2 0 hv
  obtain ⟨-, ⟨-, haccepted⟩, hrereads⟩ := hread "12.٣٤.56rc789\n"
  obtain ⟨x, s', hrun⟩ := haccepted ⟨_, rfl, by decide +kernel⟩
  have hw : v.write = "12.34.56c789" := by decide +kernel
  exact ⟨rfl, hdata, hw ▸ htext, hagain (by decide +kernel), x, s', hrun, (hrereads x s' hrun).2⟩

end Version
end GraphQLTree
