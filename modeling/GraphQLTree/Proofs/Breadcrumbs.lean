import GraphQLTree.Proofs.Description
import GraphQLTree.Proofs.Rejection

/-! # Breadcrumbs can be read back

The stages of a failure report are plain texts, and one text can stand for different stages: an
element of a list of variants and the node that it is, or a list and an element of another kind. As
long as kinds are words, the stages still tell where the walk failed, when they are read from the
outside to the inside (`Crumbs.unique`): which lists the walk went down through, what became of the
element there, and the method that failed, if it was one. So walks that raise reports with the same
stages failed in the same way (`walks_decoded`), however different they were. -/

namespace GraphQLTree

/-! ### Words -/

/-- A kind is a word, such as one of letters, digits and underscores: it has no blanks and no closing
brackets. -/
def IsWord (kind : String) : Prop := ' ' ∉ kind.toList ∧ ')' ∉ kind.toList

instance (kind : String) : Decidable (IsWord kind) := by unfold IsWord; infer_instance

theorem isWord_of_all {kind : String}
    (h : kind.toList.all (fun c => c.isAlphanum || c == '_') = true) : IsWord kind :=
  ⟨fun hc => absurd (List.all_eq_true.mp h _ hc) (by decide),
    fun hc => absurd (List.all_eq_true.mp h _ hc) (by decide)⟩

theorem toList_plainKind (kind : String) :
    (plainKind kind).toList = kind.toList.map fun c => if c = '_' then ' ' else c := by
  unfold plainKind
  rw [String.toList_ofList]

/-- In plain words, different words stay different. -/
theorem plainKind_inj {kind kind' : String} (h : IsWord kind) (h' : IsWord kind')
    (heq : plainKind kind = plainKind kind') : kind = kind' := by
  have hback {k : String} (hk : IsWord k) :
      (plainKind k).toList.map (fun c => if c = ' ' then '_' else c) = k.toList := by
    rw [toList_plainKind, List.map_map]
    refine (List.map_congr_left fun c hc => ?_).trans (List.map_id _)
    have hne : c ≠ ' ' := fun he => hk.1 (he ▸ hc)
    by_cases hu : c = '_'
    · simp [hu]
    · simp [hu, hne]
  refine String.toList_inj.mp ?_
  rw [← hback h, ← hback h', heq]

theorem IsWord.not_mem_plainKind {kind : String} (h : IsWord kind) :
    ')' ∉ (plainKind kind).toList := by
  rw [toList_plainKind]
  intro hm
  obtain ⟨c, hc, he⟩ := List.mem_map.mp hm
  split at he
  · exact absurd he (by decide)
  · exact h.2 (he ▸ hc)

/-! ### Texts of stages -/

/-- Texts with different last characters are different. -/
theorem append_ne_of_last {s s' t t' : String} (c c' : Char) (h : t.toList.getLast? = some c)
    (h' : t'.toList.getLast? = some c') (hc : c ≠ c') : s ++ t ≠ s' ++ t' := by
  intro heq
  have hlast := congrArg (fun text => text.toList.getLast?) heq
  simp only [String.toList_append, List.getLast?_append, h, h'] at hlast
  exact hc (Option.some.inj hlast)

namespace Stage

variable {words words' : String} {d d' : Direction}

theorem hook_text_ne_list : (hook words d).text ≠ (list words').text :=
  append_ne_of_last ')' 't' rfl rfl (by decide)

theorem hook_text_ne_element (h : ')' ∉ words'.toList) :
    (hook words d).text ≠ (element words').text := by
  intro heq
  have hmem : ')' ∈ (hook words d).text.toList := by
    unfold text
    rw [String.toList_append]
    exact List.mem_append_right _ (by decide)
  rw [heq] at hmem
  unfold text at hmem
  rw [String.toList_append] at hmem
  rcases List.mem_append.mp hmem with hmem | hmem
  · exact absurd hmem (by decide)
  · exact h hmem

theorem list_text_inj (h : (list words).text = (list words').text) : words = words' :=
  (String.append_right_inj _).mp ((String.append_left_inj _).mp h)

theorem element_text_inj (h : (element words).text = (element words').text) : words = words' :=
  (String.append_right_inj _).mp h

theorem hook_text_inj (h : (hook words d).text = (hook words' d').text) :
    words = words' ∧ d = d' := by
  have hd := (String.append_left_inj _).mp h
  have hsame (heq : d = d') : words = words' := by
    subst heq
    exact (String.append_right_inj _).mp ((String.append_left_inj _).mp
      ((String.append_left_inj _).mp hd))
  rcases d with _ | _ <;> rcases d' with _ | _
  · exact ⟨hsame rfl, rfl⟩
  · exact absurd hd (append_ne_of_last 'r' 'e' rfl rfl (by decide))
  · exact absurd hd (append_ne_of_last 'e' 'r' rfl rfl (by decide))
  · exact ⟨hsame rfl, rfl⟩

end Stage

/-! ### Descents -/

/-- Where a failure lies in a list that the walk went down into. -/
inductive Spot
  /-- In the list's own method. -/
  | list
  /-- At an element of a list without variants. -/
  | element
  /-- In the method for an element of a list of variants. -/
  | wrapper
  /-- At an element that is none of the variants. -/
  | invalid
  /-- At or below the node, of the given kind, that an element of a list of variants is. -/
  | node (kind : Value)
  deriving DecidableEq, Repr

/-- A list that the walk went down into. -/
structure Hop where
  list : String
  spot : Spot
  deriving DecidableEq, Repr

/-- The way down to a failure. -/
@[ext] structure Descent where
  hops : List Hop
  /-- The kind and the direction of the method that failed, if one did. -/
  method? : Option (String × Direction)
  deriving DecidableEq, Repr

/-- The lists that a path went through, the outermost first. One that it ends in is not counted. -/
def hops : Path → List Hop
  | .node own _ :: .variant list _ :: above => hops above ++ [⟨list, .node own⟩]
  | .node _ _ :: .list list :: above => hops above ++ [⟨list, .element⟩]
  | .node _ _ :: _ => []
  | .list _ :: above => hops above
  | .variant _ _ :: above => hops above
  | [] => []

/-- The list that a method for the innermost frame of a path is about, or an element of it. -/
def lastHop : Path → List Hop
  | .list list :: _ => [⟨list, .list⟩]
  | .variant list _ :: _ => [⟨list, .wrapper⟩]
  | _ => []

/-- How a walk can fail. -/
inductive FailurePoint
  /-- In the method of a kind, for the innermost frame of a path. -/
  | hook (kind : String) (direction : Direction) (path : Path)
  /-- At an element that does not belong into its list, which is inside the path. -/
  | invalid (list : String) (above : Path)

namespace FailurePoint

/-- The way down to a failure. -/
def descent : FailurePoint → Descent
  | hook kind direction path => ⟨hops path ++ lastHop path, some (kind, direction)⟩
  | invalid list above =>
    ⟨hops above ++ [⟨list, if variants? list = none then .element else .invalid⟩], none⟩

/-- The stages of the report about a failure. -/
def stages : FailurePoint → List Stage
  | hook kind direction path => trail path ++ [.hook (plainKind kind) direction]
  | invalid list above => trail (.list list :: above) ++ [.element (plainKind list)]

end FailurePoint

/-! ### A grammar of stages -/

/-- Where a reader of stages is. -/
inductive Position
  | node
  | list (list : String)
  /-- Behind the stage of an element, which may be a variant. -/
  | element (list : String)

/-- How stages go on from a position, what lists they tell of, and what method. -/
inductive Crumbs : Position → List Stage → List Hop → Option (String × Direction) → Prop
  | hook {kind : String} (hk : IsWord kind) (direction : Direction) :
      Crumbs .node [.hook (plainKind kind) direction] [] (some (kind, direction))
  | list {list : String} {stages : List Stage} {hops : List Hop}
      {method? : Option (String × Direction)} (hl : IsWord list) :
      Crumbs (.list list) stages hops method? →
      Crumbs .node (.list (plainKind list) :: stages) hops method?
  | own {list kind : String} (hl : IsWord kind) (direction : Direction) :
      Crumbs (.list list) [.hook (plainKind kind) direction] [⟨list, .list⟩]
        (some (kind, direction))
  | element {list : String} {stages : List Stage} {hops : List Hop}
      {method? : Option (String × Direction)} (hl : IsWord list) :
      Crumbs (.element list) stages hops method? →
      Crumbs (.list list) (.element (plainKind list) :: stages) hops method?
  | rejected {list : String} (plain : variants? list = none) :
      Crumbs (.element list) [] [⟨list, .element⟩] none
  | plain {list : String} {stages : List Stage} {hops : List Hop}
      {method? : Option (String × Direction)} (plain : variants? list = none) :
      Crumbs .node stages hops method? →
      Crumbs (.element list) stages (⟨list, .element⟩ :: hops) method?
  | invalid {list : String} (varied : variants? list ≠ none) :
      Crumbs (.element list) [] [⟨list, .invalid⟩] none
  | wrapper {list kind : String} (varied : variants? list ≠ none) (hk : IsWord kind)
      (direction : Direction) :
      Crumbs (.element list) [.hook (plainKind kind) direction] [⟨list, .wrapper⟩]
        (some (kind, direction))
  | variant {list kind : String} {stages : List Stage} {hops : List Hop}
      {method? : Option (String × Direction)} (varied : variants? list ≠ none) (hk : IsWord kind) :
      Crumbs .node stages hops method? →
      Crumbs (.element list) (.variant (plainKind kind) :: stages)
        (⟨list, .node (.text kind)⟩ :: hops) method?

namespace Crumbs

variable {pos : Position} {stages stages' : List Stage} {hops hops' : List Hop}
  {method? method?' : Option (String × Direction)}

/-- At a node there is always a stage to come. -/
theorem ne_nil (h : Crumbs .node stages hops method?) : stages ≠ [] := by
  cases h with
  | hook => exact List.cons_ne_nil _ _
  | list => exact List.cons_ne_nil _ _

/-- **The texts of stages can be read in one way only.** -/
theorem unique (h : Crumbs pos stages hops method?) (h' : Crumbs pos stages' hops' method?')
    (heq : stages.map Stage.text = stages'.map Stage.text) :
    hops = hops' ∧ method? = method?' := by
  induction h generalizing stages' hops' method?' with
  | hook hk d =>
    cases h' with
    | hook hk' d' =>
      obtain ⟨hwords, rfl⟩ := Stage.hook_text_inj (List.cons.inj heq).1
      obtain rfl := plainKind_inj hk hk' hwords
      exact ⟨rfl, rfl⟩
    | list => exact absurd (List.cons.inj heq).1 Stage.hook_text_ne_list
  | list hl _ ih =>
    cases h' with
    | hook => exact absurd (List.cons.inj heq).1.symm Stage.hook_text_ne_list
    | list hl' h' =>
      obtain ⟨htext, hrest⟩ := List.cons.inj heq
      obtain rfl := plainKind_inj hl hl' (Stage.list_text_inj htext)
      exact ih h' hrest
  | own hk d =>
    cases h' with
    | own hk' d' =>
      obtain ⟨hwords, rfl⟩ := Stage.hook_text_inj (List.cons.inj heq).1
      obtain rfl := plainKind_inj hk hk' hwords
      exact ⟨rfl, rfl⟩
    | element hl' =>
      exact absurd (List.cons.inj heq).1 (Stage.hook_text_ne_element hl'.not_mem_plainKind)
  | element hl _ ih =>
    cases h' with
    | own =>
      exact absurd (List.cons.inj heq).1.symm (Stage.hook_text_ne_element hl.not_mem_plainKind)
    | element _ h' => exact ih h' (List.cons.inj heq).2
  | rejected plain =>
    cases h' with
    | rejected => exact ⟨rfl, rfl⟩
    | plain _ h' => exact absurd (List.map_eq_nil_iff.mp heq.symm) h'.ne_nil
    | invalid varied | wrapper varied | variant varied => exact absurd plain varied
  | plain plain h ih =>
    cases h' with
    | rejected => exact absurd (List.map_eq_nil_iff.mp heq) h.ne_nil
    | plain _ h' =>
      obtain ⟨rfl, rfl⟩ := ih h' heq
      exact ⟨rfl, rfl⟩
    | invalid varied | wrapper varied | variant varied => exact absurd plain varied
  | invalid varied =>
    cases h' with
    | rejected plain | plain plain => exact absurd plain varied
    | invalid => exact ⟨rfl, rfl⟩
    | wrapper | variant => nomatch heq
  | wrapper varied hk d =>
    cases h' with
    | rejected plain | plain plain => exact absurd plain varied
    | invalid => nomatch heq
    | wrapper _ hk' d' =>
      obtain ⟨hwords, rfl⟩ := Stage.hook_text_inj (List.cons.inj heq).1
      obtain rfl := plainKind_inj hk hk' hwords
      exact ⟨rfl, rfl⟩
    | variant _ hk' =>
      exact absurd (List.cons.inj heq).1 (Stage.hook_text_ne_element hk'.not_mem_plainKind)
  | variant varied hk _ ih =>
    cases h' with
    | rejected plain | plain plain => exact absurd plain varied
    | invalid => nomatch heq
    | wrapper =>
      exact absurd (List.cons.inj heq).1.symm (Stage.hook_text_ne_element hk.not_mem_plainKind)
    | variant _ hk' h' =>
      obtain ⟨htext, hrest⟩ := List.cons.inj heq
      obtain rfl := plainKind_inj hk hk' (Stage.element_text_inj htext)
      obtain ⟨rfl, rfl⟩ := ih h' hrest
      exact ⟨rfl, rfl⟩

end Crumbs

/-! ### The stages of a failure -/

/-- The kinds in a frame are words. -/
def Frame.InWords : Frame → Prop
  | .node kind _ => ∃ text, kind = .text text ∧ IsWord text
  | .list kind | .variant kind _ => IsWord kind

theorem Frame.FitsInto.varied {list : String} {element : Value} {above : Path}
    (h : (Frame.variant list element).FitsInto above) :
    variants? list ≠ none ∧ ∃ rest, above = .list list :: rest := by
  rcases above with - | ⟨_ | _ | _, rest⟩
  · nomatch h
  · nomatch h
  · obtain ⟨rfl, hv⟩ := h
    exact ⟨hv, rest, rfl⟩
  · nomatch h

/-- Where the stages of a path lead a reader. -/
def readTo : Path → Position
  | .list list :: _ => .list list
  | .variant list _ :: _ => .element list
  | _ => .node

/-- The stages of a path go before those of what is inside. -/
theorem crumbs_trail (path : Path) (ho : Stacked path) (hw : ∀ f ∈ path, f.InWords)
    {stages : List Stage} {more : List Hop} {method? : Option (String × Direction)}
    (h : Crumbs (readTo path) stages more method?) :
    Crumbs .node (trail path ++ stages) (hops path ++ more) method? := by
  induction path generalizing stages more with
  | nil => exact h
  | cons f above ih =>
    obtain ⟨hin, ho⟩ := ho
    obtain ⟨hf, hwords⟩ := List.forall_mem_cons.mp hw
    unfold trail
    rw [List.append_assoc]
    cases f with
    | list list =>
      rcases above with - | ⟨_ | _ | _, above⟩
      · exact False.elim hin
      · exact ih ho hwords (.list hf h)
      · exact False.elim hin
      · exact False.elim hin
    | variant list element =>
      obtain ⟨-, rest, rfl⟩ := hin.varied
      exact ih ho hwords (.element hf h)
    | node kind v =>
      rcases above with - | ⟨_ | list | ⟨list, element⟩, above⟩
      · exact h
      · exact False.elim hin
      · unfold hops
        rw [List.append_assoc]
        have hl : IsWord list := (List.forall_mem_cons.mp hwords).1
        exact ih ho hwords (.element hl (.plain hin h))
      · obtain ⟨text, rfl, hk⟩ := hf
        unfold hops
        rw [List.append_assoc]
        exact ih ho hwords (.variant ho.1.varied.1 hk h)

namespace FailurePoint

/-- The kinds that a failure is about are words. -/
def InWords : FailurePoint → Prop
  | hook kind _ path => IsWord kind ∧ ∀ f ∈ path, f.InWords
  | invalid list above => IsWord list ∧ ∀ f ∈ above, f.InWords

/-- A failure is at a place that a walk can come to. -/
def IsPlace : FailurePoint → Prop
  | hook _ _ path => path ≠ [] ∧ Stacked path
  | invalid list above => Stacked (.list list :: above)

/-- The stages of a failure are those of its descent. -/
theorem crumbs {x : FailurePoint} (h : x.IsPlace) (hx : x.InWords) :
    Crumbs .node x.stages x.descent.hops x.descent.method? := by
  cases x with
  | hook kind direction path =>
    obtain ⟨hne, ho⟩ := h
    obtain ⟨hk, hw⟩ := hx
    refine crumbs_trail path ho hw ?_
    rcases path with - | ⟨_ | list | ⟨list, element⟩, above⟩
    · exact absurd rfl hne
    · exact .hook hk direction
    · exact .own hk direction
    · exact .wrapper ho.1.varied.1 hk direction
  | invalid list above =>
    obtain ⟨hl, hw⟩ := hx
    have hlist : ∀ f ∈ .list list :: above, f.InWords := List.forall_mem_cons.mpr ⟨hl, hw⟩
    refine crumbs_trail (.list list :: above) h hlist (.element hl ?_)
    by_cases hv : variants? list = none
    · rw [if_pos hv]
      exact .rejected hv
    · rw [if_neg hv]
      exact .invalid hv

/-- Failures with the same texts of stages have the same descent. -/
theorem descent_eq {x y : FailurePoint} (hx : x.IsPlace) (hy : y.IsPlace) (hxw : x.InWords)
    (hyw : y.InWords) (h : x.stages.map Stage.text = y.stages.map Stage.text) :
    x.descent = y.descent := by
  obtain ⟨hhops, hmethod⟩ := (crumbs hx hxw).unique (crumbs hy hyw) h
  exact Descent.ext hhops hmethod

end FailurePoint

/-! ### Walks that fail -/

/-- A frame without the kind of its node, which can change. -/
def Frame.unnamed : Frame → Frame
  | .node _ v => .node .null v
  | f => f

/-- The frames are the same but for the kinds of nodes. -/
def SamePlace (path path' : Path) : Prop := path.map Frame.unnamed = path'.map Frame.unnamed

theorem unwind_unnamed {σ : Type} (path : Path) :
    unwind (σ := σ) (path.map Frame.unnamed) = unwind path := by
  induction path with
  | nil => rfl
  | cons f above ih =>
    have hnote : (f.unnamed.note (above.map Frame.unnamed) : Ref → Act σ Unit) = f.note above := by
      cases f with
      | list | variant => rfl
      | node =>
        rcases above with - | ⟨_ | _ | _, above⟩
        · rfl
        · rfl
        · rfl
        · rfl
    funext o
    rw [List.map_cons]
    unfold unwind
    rw [hnote, ih]

/-- What becomes of a failure does not depend on the kinds that nodes had on the way down. -/
theorem SamePlace.unwind_eq {σ : Type} {path path' : Path} (h : SamePlace path path') :
    unwind (σ := σ) path = unwind path' := by
  rw [← unwind_unnamed path, ← unwind_unnamed path', h]

/-- What can stand where does not depend on the kinds of nodes. -/
theorem stacked_unnamed (path : Path) : Stacked (path.map Frame.unnamed) ↔ Stacked path := by
  induction path with
  | nil => rfl
  | cons f above ih =>
    have hfits : f.unnamed.FitsInto (above.map Frame.unnamed) ↔ f.FitsInto above := by
      cases f with
      | list | variant | node =>
        rcases above with - | ⟨_ | _ | _, above⟩
        · rfl
        · rfl
        · rfl
        · rfl
    exact and_congr hfits ih

theorem SamePlace.stacked {path path' : Path} (h : SamePlace path path') (ho : Stacked path) :
    Stacked path' := by
  rw [← stacked_unnamed, h, stacked_unnamed] at ho
  exact ho

section

variable {σ : Type} (options : WalkOptions) (visitor : Visitor σ) (context root : Value)
  (w : World σ)

/-- A walk fails with a failure report of its own: in a method that raises an error other than a
failure report, or at an element that does not belong into its list. The paths hold the kinds that
nodes have then. -/
inductive FailsAt : FailurePoint → Prop
  | hook {marks : List (Mark σ)} {outcome : Except Halt Unit} {w' w₂ : World σ} {d : Direction}
      {f : Frame} {above path : Path} {e : Ref} {kind : String} {message : Value} {isTrue : Bool}
      (run : (tracedWalk options visitor context root).runOn (w.traced []) =
        (outcome, w'.traced marks))
      (fatal : Fatal marks d f above e w₂) (named : f.kind = .text kind)
      (same : SamePlace (f :: above) path) (kinds : KindsNamed w₂.store path)
      (pristine : w₂.store.Pristine) (tells : w₂.store.Tells e message isTrue)
      (log : Loggable options root w₂.store message []) : FailsAt (.hook kind d path)
  | invalid {record : List (Rejection σ)} {outcome : Except Halt Unit} {w' : World σ}
      {m : Rejection σ} {above : Path} {description : String}
      (run : (rejectingWalk options visitor context root).runOn (w.traced []) =
        (outcome, w'.traced record))
      (rejected : m ∈ record) (same : SamePlace m.above above)
      (kinds : KindsNamed m.world.store above) (pristine : m.world.store.Pristine)
      (null : m.world.store.PlainNull)
      (described : Store.Gives Store.KeepsObjects m.world.store
        (Action.describedText m.element) description)
      (log : Loggable options root m.world.store
        (.text (invalidElementText (plainKind m.kind) description)) []) :
      FailsAt (.invalid m.kind above)

variable {options visitor context root w}

/-- The report about an element that is rejected. -/
theorem runOn_rejectElement {s : Store} (kind : String) {description : String} {element : Value}
    (hw : w.store = s) (hp : s.Pristine) (hn : s.PlainNull)
    (hd : Store.Gives Store.KeepsObjects s (Action.describedText element) description) :
    ∃ s' r l e attrs, (rejectElement kind element : Act σ Unit).runOn w =
        (.error (.raised r), { w with store := s' }) ∧ s.Grows s' ∧ s'.Report r l [] ∧
      s'.IsReport r e attrs ∧ attrs.lookup "stages" = some (.ref l) ∧
      attrs.lookup "message" = some (.text (invalidElementText (plainKind kind) description)) := by
  subst hw
  obtain ⟨s₁, hread, hg₁⟩ := hd.perform (refl_of Store.KeepsObjects _) (Nat.le_refl _)
  obtain ⟨n, hn'⟩ : ∃ n, s₁.depthLimit = n + 3 :=
    ⟨8 * s₁.size + 997, by unfold Store.depthLimit; omega⟩
  have hp₁ := hp.of_classAttrs hg₁.classAttrs
  obtain ⟨s', r, l, hraise, hg, hl, hr⟩ := Store.runOn_raiseMessage hp₁
    (hn.of_classAttrs hg₁.classAttrs)
    (.text (invalidElementText (plainKind kind) description)) Unit n
  refine ⟨s', r, l, _, _, ?_, trans_of Store.Grows hg₁ hg, ⟨hp₁.of_classAttrs hg.classAttrs,
    ⟨_, _, hr, rfl, rfl⟩, hl⟩, hr, rfl, rfl⟩
  have hdescribed : (liftM (Action.describedText element) : Act σ String).runOn w =
      (.ok description, { w with store := s₁ }) := by
    rw [Act.runOn_action, hread]
  refine (Act.runOn_bind_ok hdescribed _).trans ?_
  rw [Act.runOn_action, Action.runOn_perform, hn', hraise]

/-- A walk that fails raises a failure report with the stages of where it fails. -/
theorem FailsAt.raises {x : FailurePoint} (h : FailsAt options visitor context root w x) :
    ∃ r l w', (walk options visitor context root).runOn w = (.error (.raised r), w') ∧
      w'.store.Report r l (stageTexts x.stages) := by
  cases h with
  | @hook marks outcome w' w₂ d f above path e kind message isTrue run fatal named same kinds
      pristine tells log =>
    obtain ⟨halt₀, w₀, habort, hwalk⟩ := walk_unwinds options visitor context run fatal
    obtain ⟨s₁, r, l, hwrap, hg, -, hp₁, hw, hl⟩ :=
      tells.wrap pristine (.text (hookStage d f).text) (f.node?.getD .null)
    have hrep := hw.report hp₁ hl
    cases habort.symm.trans (abort_wrap named hwrap hrep.isReport Bool)
    obtain ⟨report, hreport, -⟩ := id hw
    obtain ⟨w'', hend, hk, hr⟩ := unwind_raises (w := { w₂ with store := s₁ })
      [hookStage d f] hrep hg.keepsObjects kinds log hreport rfl rfl
    rw [hwalk, same.unwind_eq, hend]
    refine ⟨r, l, w'', rfl, ?_⟩
    rw [List.append_nil] at hr
    unfold hookStage at hr
    rw [named] at hr
    exact hr
  | @invalid record outcome w' m above description run rejected same kinds pristine null described
      log =>
    obtain ⟨-, halt₀, w₀, hreject, hwalk⟩ := walk_rejects options visitor context run rejected
    obtain ⟨s₁, r, l, e, attrs, hrun, hg, hrep, hreport, hs, hm⟩ :=
      runOn_rejectElement m.kind rfl pristine null described
    cases hreject.symm.trans hrun
    have hpath : SamePlace m.path (.variant m.kind m.element :: .list m.kind :: above) :=
      congrArg (_ :: _ :: ·) same
    have hkinds : KindsNamed m.world.store (.variant m.kind m.element :: .list m.kind :: above) :=
      kinds
    obtain ⟨w'', hend, hk, hr⟩ := unwind_raises (w := { m.world with store := s₁ }) [] hrep
      hg.keepsObjects hkinds log hreport hs hm
    rw [hwalk, hpath.unwind_eq, hend]
    refine ⟨r, l, w'', rfl, ?_⟩
    rw [List.append_nil, List.append_nil] at hr
    exact hr

/-- A walk fails at a place that it came to. -/
theorem FailsAt.isPlace {x : FailurePoint} (h : FailsAt options visitor context root w x) :
    x.IsPlace := by
  cases h with
  | @hook marks outcome w' w₂ d f above path e kind message isTrue run fatal named same =>
    obtain ⟨marks', hm, -, -, hleads, -⟩ := walk_nesting options visitor context root w
    obtain rfl : marks = marks' :=
      congrArg (fun run => run.2.state.2) (run.symm.trans hm)
    obtain ⟨call, w₁, -, hended, -⟩ := fatal
    refine ⟨?_, same.stacked (hleads _ hended).stacked⟩
    rintro rfl
    exact List.cons_ne_nil _ _ same
  | @invalid record outcome w' m above description run rejected same =>
    have hpath : SamePlace (.list m.kind :: m.above) (.list m.kind :: above) :=
      congrArg (_ :: ·) same
    exact hpath.stacked (walk_rejects options visitor context run rejected).1

variable (options visitor context root w) in
/-- A walk raises a failure report with these stages. -/
def RaisesStages (stages : List Value) : Prop :=
  ∃ r l w', (walk options visitor context root).runOn w = (.error (.raised r), w') ∧
    w'.store.Report r l stages

/-- The stages that a walk raises a report with are determined. -/
theorem RaisesStages.unique {stages stages' : List Value}
    (h : RaisesStages options visitor context root w stages)
    (h' : RaisesStages options visitor context root w stages') : stages = stages' := by
  obtain ⟨r, l, w₁, hrun, hr⟩ := h
  obtain ⟨r', l', w₂, hrun', hr'⟩ := h'
  cases hrun.symm.trans hrun'
  obtain ⟨e, attrs, hrep, hs, -⟩ := hr.report
  obtain ⟨e', attrs', hrep', hs', -⟩ := hr'.report
  rw [← hrep.field?] at hs
  rw [← hrep'.field?] at hs'
  cases hs.symm.trans hs'
  cases hr.stages.symm.trans hr'.stages
  rfl

end

/-- **Breadcrumbs can be read back.** A walk that fails in a method, or at an element that does not
belong into its list, raises a report with the stages of the place. If two walks over any roots, with
any tables and visitors, fail so at places whose kinds are words, and raise reports with the same
stages, then both went the same way down: through lists of the same kinds, with the same said of each
of them, to the same method if there is one. -/
theorem walks_decoded {σ σ' : Type} {options options' : WalkOptions} {visitor : Visitor σ}
    {visitor' : Visitor σ'} {context context' root root' : Value} {w : World σ} {w' : World σ'}
    {x y : FailurePoint} (hx : FailsAt options visitor context root w x)
    (hy : FailsAt options' visitor' context' root' w' y) (hxw : x.InWords) (hyw : y.InWords) :
    RaisesStages options visitor context root w (stageTexts x.stages) ∧
      RaisesStages options' visitor' context' root' w' (stageTexts y.stages) ∧
      ∀ stages, RaisesStages options visitor context root w stages →
        RaisesStages options' visitor' context' root' w' stages → x.descent = y.descent := by
  refine ⟨hx.raises, hy.raises, fun stages h h' => ?_⟩
  have heq : stageTexts x.stages = stageTexts y.stages :=
    (RaisesStages.unique hx.raises h).trans (RaisesStages.unique h' hy.raises)
  rw [stageTexts_eq, stageTexts_eq] at heq
  exact FailurePoint.descent_eq hx.isPlace hy.isPlace hxw hyw
    ((List.map_inj_right fun _ _ => Value.text.inj).mp heq)

/-! ### Two failing walks -/

/-- A document with a text among its definitions. -/
def oddDocument : Store where
  cells := #[
    .node ⟨.document, [("definitions", .ref 1)], .own [], none⟩,
    .tuple .frozen [.text "odd"] (.own [])]
  nextTag := 0
  classAttrs := []
  functionData := []

/-- The text is rejected. -/
theorem failsAt_oddDocument {σ : Type} {visitor : Visitor σ} {state : σ}
    {run : Except Halt Unit × World (Rejecting σ)}
    (hrun : run = (rejectingWalk .standard visitor .null (.ref 0)).runOn
      (World.traced ⟨oddDocument, [], state⟩ []))
    (h : run.2.state.2.head?.map (fun m =>
        (m.kind, m.element, m.above, m.world.store.classAttrs.isEmpty)) =
      some ("definition", .text "odd", [.node (.text "document") (.ref 0)], true)) :
    FailsAt .standard visitor .null (.ref 0) ⟨oddDocument, [], state⟩
      (.invalid "definition" [.node (.text "document") (.ref 0)]) := by
  obtain ⟨⟨kind, element, above, world⟩, hm, heq⟩ := Option.map_eq_some_iff.mp h
  simp only [Prod.mk.injEq, List.isEmpty_iff] at heq
  obtain ⟨rfl, rfl, rfl, hattrs⟩ := heq
  have hdescribed : Store.Gives Store.KeepsObjects world.store (Action.describedText (.text "odd"))
      (Text.truncate Limits.standard.text (Text.quote "odd")) :=
    Store.gives_describedText_datum hattrs fun _ => rfl
  have hend : run = (run.1, run.2.forget.traced run.2.state.2) := rfl
  exact .invalid (m := ⟨_, _, _, world⟩) (hrun.symm.trans hend) (List.mem_of_head? hm) rfl trivial
    (Store.pristine_of_classAttrs hattrs) (Store.plainNull_of_classAttrs hattrs) hdescribed nofun

/-- The method for the field raises an error with a text. -/
theorem failsAt_smallSchema {σ : Type} {visitor : Visitor σ} {state : σ} (text : String)
    {run : Except Halt Unit × World (Traced σ)}
    (hrun : run = (tracedWalk .standard visitor .null (.ref 0)).runOn
      (World.traced ⟨.smallSchema, [], state⟩ []))
    (h : (raisedWorlds run.2.state.2 .enter (fieldFrame :: fieldAbove) 7).head?.map (fun w =>
        (w.store.classAttrs, w.store.get? 7, w.store.get? 2)) =
      some ([], some (.error (.ofArgs .badValue [.text text])),
        some (.node ⟨.objectDefinition, [("name", .null), ("fields", .ref 3)], .own [], none⟩)))
    (ht : text ≠ "") :
    FailsAt .standard visitor .null (.ref 0) ⟨.smallSchema, [], state⟩
      (.hook "object_field_definition" .enter (fieldFrame :: fieldAbove)) := by
  obtain ⟨w₁, hw₁, heq⟩ := Option.map_eq_some_iff.mp h
  simp only [Prod.mk.injEq] at heq
  obtain ⟨hattrs, he, hnode⟩ := heq
  have herror : w₁.store.TextError 7 .badValue text := ⟨hattrs, he, rfl, by decide⟩
  obtain ⟨s₂, hsignal, hg⟩ := herror.gives_pruneSignal.perform (Store.Grows.refl _) (Nat.le_refl _)
  have hnode₂ : s₂.Node 2 _ := ⟨hg.classAttrs.trans hattrs, hg.get?_eq hnode, by decide, rfl⟩
  have herror₂ := herror.grows hg
  have hfatal : Fatal run.2.state.2 .enter fieldFrame fieldAbove 7 { w₁ with store := s₂ } := by
    obtain ⟨call, hd, hm⟩ := mem_of_raisedWorlds (List.mem_of_head? hw₁)
    refine ⟨call, w₁, hd, hm, herror.isErrorOf_general rfl, ?_⟩
    rw [Act.runOn_action, hsignal]
  have hend : run = (run.1, run.2.forget.traced run.2.state.2) := rfl
  exact .hook (hrun.symm.trans hend) hfatal rfl rfl
    ⟨⟨_, rfl, hnode₂.gives_kind⟩, trivial⟩ herror₂.pristine (herror₂.tells ht) nofun

/-- A walk that fails in a method, and one that fails at an element that does not belong into its
list. -/
theorem walks_decoded_fieldAndText :
    RaisesStages .standard (raisingVisitor (σ := Unit) "object_field_definition" "boom") .null
        (.ref 0) ⟨.smallSchema, [], ()⟩ (["failed to visit definition list",
          "failed to visit definition", "failed to visit object definition",
          "failed to visit object field definition list", "failed to visit object field definition",
          "failed to visit object field definition (enter)"].map .text) ∧
      RaisesStages .standard (raisingVisitor (σ := Unit) "object_field_definition" "boom") .null
        (.ref 0) ⟨oddDocument, [], ()⟩
        (["failed to visit definition list", "failed to visit definition"].map .text) := by
  have hx : FailsAt .standard (raisingVisitor (σ := Unit) "object_field_definition" "boom") .null
      (.ref 0) ⟨.smallSchema, [], ()⟩ _ :=
    failsAt_smallSchema "boom" rfl (by decide +kernel) (by decide)
  have hy : FailsAt .standard (raisingVisitor (σ := Unit) "object_field_definition" "boom") .null
      (.ref 0) ⟨oddDocument, [], ()⟩ _ := failsAt_oddDocument rfl (by decide +kernel)
  have hxw : (FailurePoint.hook "object_field_definition" .enter
      (fieldFrame :: fieldAbove)).InWords := by
    have hword (kind : String) (h : kind.toList.all (fun c => c.isAlphanum || c == '_') = true) :
        ∃ text, Value.text kind = .text text ∧ IsWord text := ⟨kind, rfl, isWord_of_all h⟩
    refine ⟨by decide, ?_⟩
    simp only [fieldFrame, fieldAbove, List.forall_mem_cons]
    refine ⟨hword _ (by decide), (by decide : IsWord _), hword _ (by decide), (by decide : IsWord _),
      (by decide : IsWord _), hword _ (by decide), fun _ h => absurd h List.not_mem_nil⟩
  have hyw : (FailurePoint.invalid "definition" [.node (.text "document") (.ref 0)]).InWords :=
    ⟨by decide, List.forall_mem_singleton.mpr ⟨"document", rfl, by decide⟩⟩
  have h := walks_decoded hx hy hxw hyw
  exact ⟨h.1, h.2.1⟩

end GraphQLTree
