import GraphQLTree.Proofs.Regular
import GraphQLTree.Visitor.Definition

/-! # Which visitor methods can be defined

The names that look like methods are checked by turning their kinds into class names. No two kinds
in plain spelling, which begins with a lower-case letter and has no capitals, become the same class
name: the plain spelling is read back from the class name (`splitWords`, `splitWords_joinWords`). So
for names in plain spelling the check accepts the kinds of the language and of their lists, and no
others (`isHookKind_iff`), and a class of visitors is defined exactly if all kinds are such
(`visitors_defined_iff`). Names that are spelled otherwise can slip through
(`visitors_defined_capital`). -/

namespace GraphQLTree

/-! ### The kinds there are -/

/-- The kinds of elements: those of the classes of the language. Among them are those of variants. -/
def elementKinds : List String :=
  NodeClass.builtin.map fun c => c.kind

/-- Whether a walk can look up methods for a kind: it is that of an element, or that of a list of
such elements. -/
def IsKnownKind (kind : String) : Prop :=
  ∃ element ∈ elementKinds, kind = element ∨ kind = element ++ "_list"

instance (kind : String) : Decidable (IsKnownKind kind) :=
  inferInstanceAs (Decidable (∃ element ∈ elementKinds, kind = element ∨ kind = element ++ "_list"))

theorem variants_mem_elementKinds {kind : String} (h : (variants? kind).isSome = true) :
    kind ∈ elementKinds := by
  unfold variants? at h
  split_ifs at h with hd hs
  · subst hd
    decide +kernel
  · subst hs
    decide +kernel
  · simp at h

/-! ### Lists and their elements -/

theorem elementKind_append (kind : String) : elementKind (kind ++ "_list") = kind := by
  have hl : (kind ++ "_list").toList = kind.toList ++ listSuffix := String.toList_append ..
  unfold elementKind
  rw [hl]
  simp

/-- A kind is that of its elements, or that of a list of them. -/
theorem elementKind_cases (kind : String) :
    elementKind kind = kind ∨ kind = elementKind kind ++ "_list" := by
  unfold elementKind
  dsimp only
  split_ifs with h
  · obtain ⟨stem, hs⟩ := List.isSuffixOf_iff_suffix.mp h
    right
    have hl : (String.ofList stem ++ "_list").toList = kind.toList := by
      rw [String.toList_append, String.toList_ofList]
      exact hs
    rw [← hs]
    simp only [List.length_append, Nat.add_sub_cancel, List.take_left']
    exact (String.toList_inj.mp hl).symm
  · exact .inl rfl

/-! ### From class names back to kinds -/

namespace Text

/-- A text in which every capital is replaced by an underscore and its lower case. -/
def splitWords (s : List Char) : List Char :=
  s.flatMap fun c => if c.isUpper then ['_', c.toLower] else [c]

/-! The upper case of letters and digits -/

theorem isLower_eq (c : Char) :
    c.isLower = (decide (c.val ≥ 'a'.val) && decide (c.val ≤ 'z'.val)) := rfl

theorem isAlpha_eq (c : Char) : c.isAlpha = (c.isUpper || c.isLower) := rfl

theorem exists_of_isLower {c : Char} (h : c.isLower = true) :
    ∃ i ∈ List.range 26, c = Char.ofNat (97 + i) := by
  rw [isLower_eq] at h
  simp only [Bool.and_eq_true, decide_eq_true_eq, ge_iff_le, UInt32.le_iff_toNat_le] at h
  obtain ⟨h₁, h₂⟩ := h
  have h₁ : 97 ≤ c.toNat := h₁
  have h₂ : c.toNat ≤ 122 := h₂
  refine ⟨c.toNat - 97, List.mem_range.mpr (by omega), ?_⟩
  rw [Nat.add_sub_cancel' h₁, Char.ofNat_toNat]

theorem upper_of_isLower {c : Char} (h : c.isLower = true) :
    upperChar c = [c.toUpper] ∧ c.toUpper.isUpper = true ∧ c.toUpper.toLower = c := by
  obtain ⟨i, hi, rfl⟩ := exists_of_isLower h
  revert i
  decide +kernel

/-- No digit lies among the characters that have an upper case. -/
theorem digits_apart : (zeroDigits.all fun z =>
    (upperShifts.all fun shift => (z + 9).blt shift.first || shift.last.blt z) &&
      upperLong.all fun entry => (z + 9).blt entry.1 || entry.1.blt z) = true := by
  decide +kernel

/-- Digits have no upper case of their own. -/
theorem upperChar_digit {d : Char} (h : isDecimalDigit d = true) (hl : d.isLower = false) :
    upperChar d = [d] := by
  unfold isDecimalDigit digitValue? at h
  rw [Option.isSome_map] at h
  obtain ⟨z, hz⟩ := Option.isSome_iff_exists.mp h
  have hspan := List.find?_some hz
  simp only [Bool.and_eq_true, decide_eq_true_eq] at hspan
  have hapart := List.all_eq_true.mp digits_apart z (List.mem_of_find?_eq_some hz)
  simp only [Bool.and_eq_true, List.all_eq_true, Bool.or_eq_true, Nat.blt_eq] at hapart
  obtain ⟨hshift, hlong⟩ := hapart
  have hfind : upperShifts.find? (·.covers d.toNat) = none := by
    refine List.find?_eq_none.mpr fun shift hs hc => ?_
    have := hshift shift hs
    simp only [Shift.covers, Bool.and_eq_true, decide_eq_true_eq] at hc
    omega
  have hlookup : upperLong.lookup d.toNat = none := by
    refine List.lookup_eq_none_iff.mpr fun entry he => bne_iff_ne.mpr ?_
    have := hlong entry he
    omega
  have hupper : d.toUpper = d := by
    rw [isLower_eq] at hl
    simp only [Bool.and_eq_false_iff, decide_eq_false_iff_not] at hl
    unfold Char.toUpper
    rw [dif_neg]
    rintro ⟨h₁, h₂⟩
    exact hl.elim (absurd h₁) (absurd h₂)
  unfold upperChar mapByTables
  rw [hfind, hlookup, hupper, ite_self]

/-- Where joined words are all letters, the words are told by the capitals. -/
theorem splitWords_joinWords {s : List Char} (hs : ∀ c ∈ s, c.isUpper = false)
    (hj : ∀ c ∈ joinWords s, c.isAlpha = true) : splitWords (joinWords s) = s := by
  induction s using joinWords.induct with
  | case1 => rfl
  | case2 c =>
    have := hs c (by simp)
    simp [joinWords, splitWords, this]
  | case3 c d s h ih =>
    have hjoin : joinWords (c :: d :: s) = upperChar d ++ joinWords s := by
      rw [joinWords, if_pos h]
    rw [hjoin] at hj ⊢
    simp only [Bool.and_eq_true, decide_eq_true_eq, Bool.or_eq_true] at h
    obtain ⟨rfl, hd⟩ := h
    have hrest : splitWords (joinWords s) = s :=
      ih (fun c hc => hs c (by simp [hc])) fun c hc => hj c (by simp [hc])
    by_cases hl : d.isLower = true
    · obtain ⟨hu, hupper, hlower⟩ := upper_of_isLower hl
      rw [hu]
      simp only [splitWords, List.cons_append, List.nil_append, List.flatMap_cons, hupper, if_true,
        hlower]
      exact congrArg (fun s => '_' :: d :: s) hrest
    · -- a digit stays as it is, and is no letter
      rw [Bool.not_eq_true] at hl
      have halpha := hj d (by simp [upperChar_digit (hd.resolve_left (by simp [hl])) hl])
      simp [isAlpha_eq, hl, hs d (by simp)] at halpha
  | case4 c d s h ih =>
    have hjoin : joinWords (c :: d :: s) = c :: joinWords (d :: s) := by
      rw [joinWords, if_neg h]
    rw [hjoin] at hj ⊢
    have hrest : splitWords (joinWords (d :: s)) = d :: s :=
      ih (fun c hc => hs c (by simp [List.mem_cons.mp hc])) fun c hc => hj c (by simp [hc])
    simp only [splitWords, List.flatMap_cons, hs c (by simp), Bool.false_eq_true, if_false,
      List.cons_append, List.nil_append]
    exact congrArg (c :: ·) hrest

/-- The plain spelling of a capitalised name. -/
def plainSpelling : List Char → List Char
  | [] => []
  | c :: s => c.toLower :: splitWords s

/-- A name that begins with a lower-case letter and has no capitals is read back from its
capitalised form, if that is all letters. -/
theorem plainSpelling_capitalize {c : Char} {s : List Char} (hc : c.isLower = true)
    (hs : ∀ d ∈ c :: s, d.isUpper = false)
    (ha : ∀ d ∈ capitalize (joinWords (c :: s)), d.isAlpha = true) :
    plainSpelling (capitalize (joinWords (c :: s))) = c :: s := by
  obtain ⟨rest, hrest⟩ : ∃ rest, joinWords (c :: s) = c :: rest := by
    cases s with
    | nil => exact ⟨[], rfl⟩
    | cons d s =>
      have hne : c ≠ '_' := by
        rintro rfl
        exact absurd hc (by decide)
      exact ⟨joinWords (d :: s), by simp [joinWords, hne]⟩
  obtain ⟨hu, -, hlower⟩ := upper_of_isLower hc
  have hsplit := splitWords_joinWords hs
  rw [hrest] at ha hsplit ⊢
  simp only [capitalize, hu, List.cons_append, List.nil_append] at ha ⊢
  have hall : ∀ d ∈ c :: rest, d.isAlpha = true := by
    intro d hd
    rcases List.mem_cons.mp hd with rfl | hd
    · rw [isAlpha_eq, hc, Bool.or_true]
    · exact ha d (by simp [hd])
  have := hsplit hall
  simp only [splitWords, List.flatMap_cons, hs c (by simp), Bool.false_eq_true, if_false,
    List.cons_append, List.nil_append, List.cons.injEq, true_and] at this
  simp only [plainSpelling, hlower, List.cons.injEq, true_and]
  exact this

end Text

/-! ### The kinds that are accepted -/

/-- Whether a kind begins with a lower-case letter and has no capitals, both of them of ASCII. -/
def isPlainSpelling (kind : String) : Bool :=
  kind.toList.head?.any Char.isLower && kind.toList.all fun c => !c.isUpper

/-- The name of a class is the capitalised form of its kind. -/
theorem toList_name_builtin : ∀ c ∈ NodeClass.builtin,
    c.name.toList = Text.capitalize (Text.joinWords c.kind.toList) ++ ['N', 'o', 'd', 'e'] := by
  decide +kernel

/-- The kinds of classes are in plain spelling, their capitalised forms are all letters, and none of
them looks like that of a list. -/
theorem kind_spelling : ∀ c ∈ NodeClass.builtin, isPlainSpelling c.kind = true ∧
    (Text.capitalize (Text.joinWords c.kind.toList)).all Char.isAlpha = true ∧
      listSuffix.isSuffixOf c.kind.toList = false := by
  decide +kernel

/-- A kind in plain spelling is read back from its capitalised form. -/
theorem plainSpelling_of_isPlainSpelling {kind : String} (h : isPlainSpelling kind = true)
    (ha : ∀ d ∈ Text.capitalize (Text.joinWords kind.toList), d.isAlpha = true) :
    Text.plainSpelling (Text.capitalize (Text.joinWords kind.toList)) = kind.toList := by
  unfold isPlainSpelling at h
  simp only [Bool.and_eq_true, List.all_eq_true, Bool.not_eq_true'] at h
  obtain ⟨hfirst, hcapitals⟩ := h
  rcases hk : kind.toList with - | ⟨d, s⟩
  · rfl
  · rw [hk] at hfirst hcapitals ha
    exact Text.plainSpelling_capitalize (by simpa using hfirst) hcapitals ha

theorem isHookKind_of_mem {kind element : String} (he : element ∈ elementKinds)
    (hk : elementKind kind = element) : isHookKind kind = true := by
  obtain ⟨c, hc, rfl⟩ := List.mem_map.mp he
  refine Bool.or_eq_true_iff.mpr (.inr ?_)
  rw [hk]
  unfold Catalog.find?
  rw [List.find?_isSome]
  refine ⟨c, List.mem_reverse.mpr (List.mem_cons_of_mem _ hc), beq_iff_eq.mpr ?_⟩
  refine String.toList_inj.mp ((toList_name_builtin c hc).trans ?_)
  simp [Text.toCamelCase]

theorem isHookKind_of_known {kind : String} (h : IsKnownKind kind) : isHookKind kind = true := by
  obtain ⟨element, he, h | h⟩ := h
  · rw [h]
    refine isHookKind_of_mem he ?_
    obtain ⟨c, hc, rfl⟩ := List.mem_map.mp he
    unfold elementKind
    simp [(kind_spelling c hc).2.2]
  · rw [h]
    exact isHookKind_of_mem he (elementKind_append element)

/-- A kind in plain spelling whose capitalised form is the name of a class is the kind of it. -/
theorem mem_elementKinds_of_find? {kind : String} (hp : isPlainSpelling kind = true)
    (h : (Catalog.language.find? (Text.toCamelCase kind ++ "Node")).isSome = true) :
    kind ∈ elementKinds := by
  unfold Catalog.find? at h
  obtain ⟨c, hc⟩ := Option.isSome_iff_exists.mp h
  have hmem : c ∈ NodeClass.library := List.mem_reverse.mp (List.mem_of_find?_eq_some hc)
  have hname : c.name = Text.toCamelCase kind ++ "Node" := by simpa using List.find?_some hc
  have hlist : Text.capitalize (Text.joinWords kind.toList) ++ ['N', 'o', 'd', 'e'] =
      c.name.toList := by
    rw [hname]
    simp [Text.toCamelCase]
  rcases List.mem_cons.mp hmem with rfl | hmem
  · -- only the empty kind becomes the name of the base of all classes
    have hnode : Text.capitalize (Text.joinWords kind.toList) ++ ['N', 'o', 'd', 'e'] =
        [] ++ ['N', 'o', 'd', 'e'] := hlist.trans (by decide)
    have hnil : Text.capitalize (Text.joinWords kind.toList) = [] := List.append_cancel_right hnode
    have hread := plainSpelling_of_isPlainSpelling hp (by simp [hnil])
    rw [hnil] at hread
    simp [isPlainSpelling, ← hread, Text.plainSpelling] at hp
  · obtain ⟨hplain, hall, -⟩ := kind_spelling c hmem
    have halpha := List.all_eq_true.mp hall
    have heq := List.append_cancel_right (hlist.trans (toList_name_builtin c hmem))
    have hread := plainSpelling_of_isPlainSpelling hp (heq ▸ halpha)
    rw [heq, plainSpelling_of_isPlainSpelling hplain halpha] at hread
    exact List.mem_map.mpr ⟨c, hmem, String.toList_inj.mp hread⟩

theorem isHookKind_iff {kind : String} (hp : isPlainSpelling (elementKind kind) = true) :
    isHookKind kind = true ↔ IsKnownKind kind := by
  refine ⟨fun h => ⟨elementKind kind, ?_, ?_⟩, isHookKind_of_known⟩
  · unfold isHookKind at h
    rcases Bool.or_eq_true_iff.mp h with h | h
    · exact variants_mem_elementKinds h
    · exact mem_elementKinds_of_find? hp h
  · exact (elementKind_cases kind).imp Eq.symm id

/-! ### Names of methods -/

theorem toList_hookName (direction : Direction) (kind : String) :
    (hookName direction kind).toList = direction.word.toList ++ '_' :: kind.toList := by
  unfold hookName
  simp

/-- The names that look like methods are those that are made of a direction and a kind. -/
theorem hookKind?_eq_some {name kind : String} :
    hookKind? name = some kind ↔ kind ≠ "" ∧ ∃ direction, name = hookName direction kind := by
  constructor
  · intro h
    unfold hookKind? splitName at h
    dsimp only at h
    split_ifs at h with hu hk
    obtain rfl := Option.some.inj h
    simp only [Bool.and_eq_true, Bool.or_eq_true, decide_eq_true_eq] at hk
    obtain ⟨hword, hne⟩ := hk
    refine ⟨hne, ?_⟩
    have hlist := List.takeWhile_append_dropWhile (p := (· != '_')) (l := name.toList)
    rcases hd : name.toList.dropWhile (· != '_') with - | ⟨c, rest⟩
    · rw [hd] at hne
      exact absurd rfl hne
    · have hc : c = '_' := by
        have := List.head?_dropWhile_not (· != '_') name.toList
        simpa [hd] using this
      subst hc
      rw [hd] at hlist
      have hname (direction : Direction)
          (hw : String.ofList (name.toList.takeWhile (· != '_')) = direction.word) :
          name = hookName direction (String.ofList (('_' :: rest).drop 1)) := by
        refine String.toList_inj.mp ?_
        rw [toList_hookName, ← hw]
        simpa using hlist.symm
      exact hword.elim (fun hw => ⟨.enter, hname .enter hw⟩) fun hw => ⟨.leave, hname .leave hw⟩
  · rintro ⟨hne, direction, rfl⟩
    have hu : (hookName direction kind).startsWith "_" = false := by
      cases direction <;> simp [hookName, Direction.word]
    have hword : ∀ c ∈ direction.word.toList, (c != '_') = true := by
      refine List.all_eq_true.mp ?_
      cases direction <;> rfl
    have hsplit : splitName (hookName direction kind) = (direction.word, kind) := by
      unfold splitName
      dsimp only
      rw [toList_hookName, List.takeWhile_append_of_pos hword, List.dropWhile_append_of_pos hword]
      simp
    unfold hookKind?
    rw [hu, hsplit]
    cases direction <;> simp [hne, Direction.word]

theorem list_forM_cons {m : Type → Type} [Monad m] {α : Type} (f : α → m Unit) (a : α)
    (l : List α) : (a :: l).forM f = f a >>= fun _ => l.forM f := rfl

/-- The names of methods are checked in order. -/
theorem checkHookNames_eq (names : List String) :
    checkHookNames names = ((names.filterMap hookKind?).find? fun kind => !isHookKind kind).elim
      (.ok ()) fun kind => .error (.invalidKind kind) := by
  unfold checkHookNames
  induction names with
  | nil => rfl
  | cons name names ih =>
    rw [list_forM_cons]
    rcases hk : hookKind? name with - | kind
    · rw [List.filterMap_cons_none hk, ← ih]
      rfl
    · rw [List.filterMap_cons_some hk, List.find?_cons]
      dsimp only
      cases isHookKind kind with
      | true => exact ih
      | false => rfl

/-- What is found first among several things is found first if each of them is listed once. -/
theorem find?_eraseDups {α : Type} [DecidableEq α] (p : α → Bool) (l : List α) :
    l.eraseDups.find? p = l.find? p := by
  induction hn : l.length using Nat.strongRecOn generalizing l with
  | ind n ih =>
    cases l with
    | nil => rfl
    | cons a l =>
      rw [List.eraseDups_cons, List.find?_cons, List.find?_cons]
      cases hp : p a with
      | true => rfl
      | false =>
        have hlt : (l.filter fun b => !b == a).length < n := by
          have := List.length_filter_le (fun b => !b == a) l
          simp only [List.length_cons] at hn
          omega
        dsimp only
        rw [ih _ hlt _ rfl, List.find?_filter]
        congr 1
        funext b
        by_cases hb : b = a
        · simp [hb, hp]
        · simp [hb]

/-! ### Definitions of visitors -/

/-- The names that say something about a class itself; no method can have them. -/
def reservedNames : List String := ["__slots__", "__qualname__", "__classcell__"]

/-- The methods that a class of visitors is to have, by their names. -/
def Namespace.ofMethods (names : List String) : Namespace := .ofAttrs names []

theorem lookup_ofMethods {names : List String} {name : String} (h : name ∉ names) :
    (Namespace.ofMethods names).lookup name = none := by
  refine List.lookup_eq_none_iff.mpr fun entry he => bne_iff_ne.mpr ?_
  unfold Namespace.ofMethods Namespace.ofAttrs at he
  simp only [List.filter_nil, List.map_nil, List.append_nil, List.mem_map, List.mem_eraseDups] at he
  obtain ⟨other, hmem, rfl⟩ := he
  rintro rfl
  exact h hmem

/-- A class of visitors with some methods is defined as far as the check of their names goes. -/
theorem runOn_defineVisitors {cls : String} {names : List String}
    (h : ∀ name ∈ reservedNames, name ∉ names) (s : Store) (b : Behaviour) :
    Effect.runOn (Action.defineVisitors cls (.ofMethods names) b) s =
      ((names.filterMap hookKind?).find? fun kind => !isHookKind kind).elim (.ok [], s) fun kind =>
        (Effect.fail (.invalidKind kind) : Effect (List String)).runOn s := by
  have hslots := lookup_ofMethods (h "__slots__" (by decide))
  have hname := lookup_ofMethods (h "__qualname__" (by decide))
  have hcell := lookup_ofMethods (h "__classcell__" (by decide))
  have hkeys : Effect.runOn (Action.definedKeys cls (.ofMethods names) b) s = (.ok [], s) := by
    unfold Action.definedKeys Action.listedKeys
    rw [hslots]
    rfl
  have hreserved : Effect.runOn (Action.checkReserved (.ofMethods names) b) s = (.ok (), s) := by
    unfold Action.checkReserved
    rw [hname, hcell]
    rfl
  have hmap : Namespace.ofMethods names = names.eraseDups.map fun name => (name, none) := by
    unfold Namespace.ofMethods Namespace.ofAttrs
    simp
  have hannounced (names : List String) (f : String × Option Value → Action Unit)
      (hf : ∀ name, f (name, none) = pure ()) :
      Effect.runOn ((names.map fun name => (name, none) : Namespace).forM f b) s = (.ok (), s) := by
    induction names with
    | nil => rfl
    | cons name names ih =>
      rw [List.map_cons, list_forM_cons, hf, pure_bind]
      exact ih
  have hnames : (Namespace.ofMethods names).map Prod.fst ++ [] = names.eraseDups := by
    rw [hmap]
    simp [Function.comp_def]
  refine (Action.runOn_bind_ok hkeys _).trans ((Action.runOn_bind_ok hreserved _).trans ?_)
  rw [hmap]
  refine (Action.runOn_bind_ok (hannounced names.eraseDups _ fun _ => rfl) _).trans ?_
  rw [← hmap, hnames, checkHookNames_eq, List.find?_filterMap, find?_eraseDups,
    ← List.find?_filterMap]
  rcases (names.filterMap hookKind?).find? (fun kind => !isHookKind kind) with - | kind <;> rfl

/-- Whether all names that look like methods have kinds that a walk can look up. -/
def AllKnown (names : List String) : Prop :=
  ∀ direction kind, kind ≠ "" → hookName direction kind ∈ names → IsKnownKind kind

theorem allKnown_iff {names : List String} :
    AllKnown names ↔ ∀ kind ∈ names.filterMap hookKind?, IsKnownKind kind := by
  unfold AllKnown
  simp only [List.mem_filterMap, hookKind?_eq_some]
  constructor
  · rintro h kind ⟨name, hmem, hne, direction, rfl⟩
    exact h direction kind hne hmem
  · exact fun h direction kind hne hmem => h kind ⟨_, hmem, hne, direction, rfl⟩

/-- **Validation of method names.** Where all kinds are in plain spelling, a class of visitors can be
defined exactly if all of its methods are such that a walk can look up; otherwise an error of types
names the kind of the first one that is not. -/
theorem visitors_defined_iff {cls : String} {names : List String}
    (hr : ∀ name ∈ reservedNames, name ∉ names)
    (hp : ∀ direction kind, kind ≠ "" → hookName direction kind ∈ names →
      isPlainSpelling (elementKind kind) = true) (s : Store) (b : Behaviour) :
    (Effect.runOn (Action.defineVisitors cls (.ofMethods names) b) s = (.ok [], s) ↔
      AllKnown names) ∧
    ∀ before after direction kind, names = before ++ hookName direction kind :: after →
      kind ≠ "" → ¬ IsKnownKind kind → AllKnown before →
      Effect.runOn (Action.defineVisitors cls (.ofMethods names) b) s =
        (.error (.raised s.size), (s.alloc (.error (.ofArgs .badType
          [.text ("Invalid AST node kind: " ++ kind ++ ".")]))).2) := by
  have hkind : ∀ kind ∈ names.filterMap hookKind?, (isHookKind kind = true ↔ IsKnownKind kind) := by
    intro kind hk
    obtain ⟨name, hmem, hname⟩ := List.mem_filterMap.mp hk
    obtain ⟨hne, direction, rfl⟩ := hookKind?_eq_some.mp hname
    exact isHookKind_iff (hp direction kind hne hmem)
  rw [runOn_defineVisitors hr]
  constructor
  · rw [allKnown_iff]
    rcases hf : (names.filterMap hookKind?).find? (fun kind => !isHookKind kind) with - | kind
    · refine iff_of_true rfl fun kind hk => (hkind kind hk).mp ?_
      simpa using List.find?_eq_none.mp hf kind hk
    · refine iff_of_false nofun fun hall => ?_
      have hmem := List.mem_of_find?_eq_some hf
      have hnot := List.find?_some hf
      simp [(hkind kind hmem).mpr (hall kind hmem)] at hnot
  · rintro before after direction kind rfl hne hunknown hbefore
    have hthis : hookKind? (hookName direction kind) = some kind :=
      hookKind?_eq_some.mpr ⟨hne, direction, rfl⟩
    have hfind : ((before ++ hookName direction kind :: after).filterMap hookKind?).find?
        (fun kind => !isHookKind kind) = some kind := by
      rw [List.filterMap_append, List.find?_append, List.filterMap_cons_some hthis, List.find?_cons]
      have hnone : (before.filterMap hookKind?).find? (fun kind => !isHookKind kind) = none := by
        refine List.find?_eq_none.mpr fun other ho => ?_
        simpa using isHookKind_of_known (allKnown_iff.mp hbefore other ho)
      have hrejected : isHookKind kind = false := by
        rw [← Bool.not_eq_true, hkind kind (by simp [hthis])]
        exact hunknown
      simp [hnone, hrejected]
    rw [hfind]
    rfl

/-- Whether the kinds of all names that look like methods are in plain spelling can be computed. -/
theorem isPlainSpelling_of_all {names : List String}
    (h : (names.filterMap hookKind?).all (fun kind => isPlainSpelling (elementKind kind)) = true)
    (direction : Direction) (kind : String) (hne : kind ≠ "")
    (hmem : hookName direction kind ∈ names) : isPlainSpelling (elementKind kind) = true :=
  List.all_eq_true.mp h kind
    (List.mem_filterMap.mpr ⟨_, hmem, hookKind?_eq_some.mpr ⟨hne, direction, rfl⟩⟩)

/-- A misspelt kind behind two that are known. -/
theorem visitors_defined_garfield :
    Effect.runOn (Action.defineVisitors scriptClass
        (.ofMethods ["helper_method", "enter_document", "leave_selection_list",
          "leave_garfield_list"]) .exhausted) .empty =
      (.error (.raised 0), (Store.empty.alloc (.error (.ofArgs .badType
        [.text ("Invalid AST node kind: " ++ "garfield_list" ++ ".")]))).2) := by
  have hbefore : AllKnown ["helper_method", "enter_document", "leave_selection_list"] :=
    allKnown_iff.mpr (by decide +kernel)
  exact (visitors_defined_iff (by decide) (isPlainSpelling_of_all (by decide +kernel)) _ _).2
    ["helper_method", "enter_document", "leave_selection_list"] [] .leave "garfield_list" rfl
    (by decide) (by decide +kernel) hbefore

/-- A kind that is spelled with a capital is accepted, and never looked up. -/
theorem visitors_defined_capital :
    Effect.runOn (Action.defineVisitors scriptClass (.ofMethods [hookName .enter "selectionField"])
        .exhausted) .empty = (.ok [], .empty) ∧ ¬ IsKnownKind "selectionField" := by
  refine ⟨?_, by decide +kernel⟩
  rw [runOn_defineVisitors (by decide +kernel),
    show ([hookName .enter "selectionField"].filterMap hookKind?).find?
      (fun kind => !isHookKind kind) = none from by decide +kernel, Option.elim_none]

end GraphQLTree
