import GraphQLTree.Proofs.Tree

/-! # Failure reports in a store

What it does to a store to record a stage on a failure report, and to make a report of an error.
Both go through attributes and methods of objects, so they are what they are meant to be in a store
where nothing was assigned to the class of reports (`Store.Pristine`). Recording a stage puts it
before those that the report has (`Store.Report.addStage`). A new report holds the message, the node
and the error that it was made of (`Store.runOn_newReport`). All other cells stay as they are
(`Store.KeepsBut`). -/

namespace GraphQLTree

theorem Action.runOn_discard {α : Type} {act : Action α} {b : Behaviour} {s s' : Store} {a : α}
    (h : Effect.runOn (act b) s = (.ok a, s')) :
    Effect.runOn (discard act b) s = (.ok (), s') :=
  Effect.runOn_bind_ok (f := fun _ => pure ()) h

theorem Action.runOn_mapTexts {b : Behaviour} {s : Store} (texts : List String) (k : Nat) :
    Effect.runOn ((((texts.map Value.text).zipIdx k).mapM fun
      | (.text t, _) => return t
      | (v, i) => failOn (.notText i) v : Action (List String)) b) s = (.ok texts, s) := by
  induction texts generalizing k with
  | nil => rfl
  | cons t texts ih =>
    rw [List.map_cons, List.zipIdx_cons, List.mapM_cons]
    exact (Action.runOn_bind_ok rfl _).trans ((Action.runOn_bind_ok (ih (k + 1)) _).trans rfl)

/-- Texts are joined without fail. -/
theorem Action.runOn_joinTexts {b : Behaviour} {s : Store} (separator : String)
    (texts : List String) :
    Effect.runOn (joinTexts separator (texts.map .text) b) s =
      (.ok (separator.intercalate texts), s) :=
  Action.runOn_bind_ok (runOn_mapTexts texts 0) _

namespace Store

variable {s s' s'' : Store} {r l t q : Ref} {c : Cell} {name : String} {n : Nat}

/-! ### Changes of one cell -/

/-- A store that keeps all its cells but one, and what was assigned to classes. -/
structure KeepsBut (r : Ref) (s s' : Store) : Prop where
  size : s.size ≤ s'.size
  get?_eq : ∀ {q c}, q ≠ r → s.get? q = some c → s'.get? q = some c
  classAttrs : s'.classAttrs = s.classAttrs

theorem KeepsBut.trans (h : s.KeepsBut r s') (h' : s'.KeepsBut r s'') : s.KeepsBut r s'' :=
  ⟨Nat.le_trans h.size h'.size, fun hq hc => h'.get?_eq hq (h.get?_eq hq hc),
    h'.classAttrs.trans h.classAttrs⟩

theorem Grows.keepsBut (h : s.Grows s') (r : Ref) : s.KeepsBut r s' :=
  ⟨h.size, fun _ hc => h.get?_eq hc, h.classAttrs⟩

theorem keepsBut_alloc (r : Ref) (s : Store) (c : Cell) : s.KeepsBut r (s.alloc c).2 :=
  (s.grows_alloc c).keepsBut r

theorem keepsBut_put (s : Store) (r : Ref) (c : Cell) : s.KeepsBut r (s.put r c) where
  size := by simp
  get?_eq hq hc := by rwa [get?_put_ne s c hq.symm]
  classAttrs := rfl

/-- A change of a cell that an earlier store has not is nothing to that store. -/
theorem Grows.trans_keepsBut (h : s.Grows s') (h' : s'.KeepsBut r s'') (hr : s.size ≤ r) :
    s.Grows s'' where
  size := Nat.le_trans h.size h'.size
  get?_eq hc := by
    have hlt := lt_size_of_get? hc
    exact h'.get?_eq (Nat.ne_of_lt (Nat.lt_of_lt_of_le hlt hr)) (h.get?_eq hc)
  classAttrs := h'.classAttrs.trans h.classAttrs

/-- A store that keeps all its cells that are no lists, and what was assigned to classes. -/
structure KeepsObjects (s s' : Store) : Prop where
  size : s.size ≤ s'.size
  get?_eq : ∀ {q c}, (∀ items, c ≠ .list items) → s.get? q = some c → s'.get? q = some c
  classAttrs : s'.classAttrs = s.classAttrs

instance : IsPreorder Store KeepsObjects where
  refl _ := ⟨Nat.le_refl _, fun _ hc => hc, rfl⟩
  trans _ _ _ h h' := ⟨Nat.le_trans h.size h'.size, fun hq hc => h'.get?_eq hq (h.get?_eq hq hc),
    h'.classAttrs.trans h.classAttrs⟩

theorem Grows.keepsObjects (h : s.Grows s') : s.KeepsObjects s' :=
  ⟨h.size, fun _ hc => h.get?_eq hc, h.classAttrs⟩

theorem KeepsObjects.keepsTrees (h : s.KeepsObjects s') : s.KeepsTrees s' :=
  ⟨fun hc => ⟨_, h.get?_eq nofun hc⟩, h.get?_eq nofun, h.classAttrs⟩

theorem KeepsBut.keepsObjects (h : s.KeepsBut l s') {items : List Value}
    (hl : s.get? l = some (.list items)) : s.KeepsObjects s' := by
  refine ⟨h.size, fun {q c} hne hc => h.get?_eq ?_ hc, h.classAttrs⟩
  rintro rfl
  exact hne items (Option.some.inj (hc.symm.trans hl))

/-! ### Answers -/

theorem depthLimit_mono (h : s.size ≤ s'.size) : s.depthLimit ≤ s'.depthLimit := by
  unfold depthLimit
  omega

/-- In every store that keeps what `keeps` says of `s`, an action gives this answer, also as a part
of other actions, and adds new cells at most. -/
def Gives {α : Type} (keeps : Store → Store → Prop) (s : Store) (act : Action α) (a : α) : Prop :=
  ∀ s' n, keeps s s' → s.depthLimit ≤ n + 100 →
    ∃ s'', Effect.runOn (act (Behaviour.level n)) s' = (.ok a, s'') ∧ s'.Grows s''

theorem Gives.perform {α : Type} {keeps : Store → Store → Prop} {act : Action α} {a : α}
    (h : Gives keeps s act a) (hk : keeps s s') (hs : s.size ≤ s'.size) :
    ∃ s'', act.perform.runOn s' = (.ok a, s'') ∧ s'.Grows s'' :=
  h s' s'.depthLimit hk (Nat.le_add_right_of_le (depthLimit_mono hs))

/-! ### Pristine stores -/

/-- The types that failure reports are made of. -/
def reportTypes : List TypeValue := [.error .visit, .basic .list]

/-- Nothing was assigned to the class of failure reports and to lists, nor to what they are derived
from. -/
def Pristine (s : Store) : Prop :=
  ∀ t ∈ reportTypes, ∀ a ∈ empty.lineage t, ∀ name, s.classAttr? a.id name = none

theorem pristine_of_classAttrs (h : s.classAttrs = []) : s.Pristine := by
  intro t _ a _ name
  unfold classAttr?
  rw [h]
  rfl

theorem Pristine.of_classAttrs (h : s.Pristine) (hc : s'.classAttrs = s.classAttrs) :
    s'.Pristine := by
  intro t ht a ha name
  unfold classAttr?
  rw [hc]
  exact h t ht a ha name

theorem lineage_reportTypes (s : Store) : ∀ t ∈ reportTypes, s.lineage t = empty.lineage t := by
  simp [reportTypes, lineage]

theorem findSome?_congr {α β : Type} {l : List α} {f g : α → Option β} (h : ∀ a ∈ l, f a = g a) :
    l.findSome? f = l.findSome? g := by
  induction l with
  | nil => rfl
  | cons a l ih =>
    rw [List.findSome?_cons, List.findSome?_cons, h a (List.mem_cons_self ..),
      ih fun b hb => h b (List.mem_cons_of_mem a hb)]

theorem Pristine.classEntry? (h : s.Pristine) {u : TypeValue} (hu : u ∈ reportTypes)
    (name : String) : s.classEntry? u name = empty.classEntry? u name := by
  unfold Store.classEntry?
  rw [lineage_reportTypes s u hu]
  refine findSome?_congr fun a ha => ?_
  unfold entryOf?
  rw [h u hu a ha]
  rfl

/-- The special methods that can stand in the way of failure reports. -/
def reportSpecials : List String :=
  ["__getattribute__", "__getattr__", "__setattr__", "__new__", "__bool__", "__len__", "__iter__",
    "__str__"]

theorem specialIn?_reportTypes :
    ∀ t ∈ reportTypes, ∀ name ∈ reportSpecials, empty.specialIn? t name = none := by
  decide +kernel

theorem Pristine.special? (h : s.Pristine) {u : TypeValue} (hu : u ∈ reportTypes)
    (hn : name ∈ reportSpecials) : s.special? u name = none := by
  have hs : s.specialIn? u name = none := by
    rw [← specialIn?_reportTypes u hu name hn]
    unfold Store.specialIn?
    rw [lineage_reportTypes s u hu]
    refine congrArg Option.join (findSome?_congr fun a ha => ?_)
    rw [h u hu a ha]
    rfl
  unfold Store.special?
  split
  · exact hs
  · rw [hs]
    split
    · rfl
    · rfl

/-- The class of reports provides no attributes of these names. -/
theorem classEntry?_reportAttr : ∀ name ∈ ["message", "stages", "node", "original_error"],
    empty.classEntry? (.error .visit) name = none := by
  decide +kernel

theorem visit_mem_reportTypes : TypeValue.error .visit ∈ reportTypes := List.mem_cons_self ..

theorem list_mem_reportTypes : TypeValue.basic .list ∈ reportTypes :=
  List.mem_cons_of_mem _ (List.mem_singleton.mpr rfl)

theorem Pristine.special?_list (h : s.Pristine) {items : List Value}
    (hl : s.get? l = some (.list items)) (hn : name ∈ reportSpecials) :
    s.special? (s.typeOf (.ref l)) name = none := by
  rw [typeOf_ref hl]
  exact h.special? list_mem_reportTypes hn

/-- The items of a list. -/
theorem Pristine.runOn_items? (h : s.Pristine) (n : Nat) {items : List Value}
    (hl : s.get? l = some (.list items)) :
    Effect.runOn (Action.items? (.ref l) (Behaviour.level (n + 1))) s = (.ok (some items), s) := by
  have hitems : s.items? (.ref l) = some items := by
    unfold Store.items?
    rw [cell?_ref hl]
  refine (Action.runOn_bind_ok (Action.runOn_special? "__iter__") _).trans ?_
  rw [h.special?_list hl (by decide)]
  refine (Effect.runOn_bind_ok (Effect.runOn_get s) _).trans ?_
  rw [cell?_ref hl, hitems]
  rfl

/-! ### Reports -/

/-- Attributes as they are held: by the object itself or by a dictionary. -/
def Hold (s : Store) (attrs : Attrs) : Fields → Prop
  | .own own => own = attrs
  | .shared d => ∃ entries, s.get? d = some (.dict entries) ∧ dictAttrs entries = attrs

theorem Hold.attrsOf {attrs : Attrs} {fields : Fields} (h : s.Hold attrs fields) :
    s.attrsOf fields = attrs := by
  cases fields with
  | own => exact h
  | shared d =>
    obtain ⟨entries, hd, rfl⟩ := h
    have hdict : s.dict? (.ref d) = some entries := by
      unfold dict?
      rw [cell?_ref hd]
    have hshared : s.attrsOf (.shared d) = dictAttrs ((s.dict? (.ref d)).getD []) := rfl
    rw [hshared, hdict]
    rfl

/-- An error that is a failure report with these attributes. -/
structure IsReport (s : Store) (r : Ref) (e : ErrorObject) (attrs : Attrs) : Prop where
  get : s.get? r = some (.error e)
  cls : e.cls = .visit
  made? : e.made? = none
  attrs : s.Hold attrs e.fields

namespace IsReport

variable {e : ErrorObject} {attrs : Attrs} (h : s.IsReport r e attrs)
include h

theorem typeOf : s.typeOf (.ref r) = .error .visit := by
  rw [typeOf_ref h.get]
  unfold Cell.type
  dsimp only
  rw [h.made?, h.cls]

theorem field? (name : String) : s.field? (.ref r) name = attrs.lookup name := by
  unfold Store.field?
  rw [cell?_ref h.get]
  change (s.attrsOf e.fields).lookup name = _
  rw [h.attrs.attrsOf]

theorem isReport : s.isReport (.ref r) = true := by
  have he : s.error? (.ref r) = some e := by
    unfold error?
    rw [cell?_ref h.get]
  unfold Store.isReport
  rw [he]
  exact beq_iff_eq.mpr h.cls

theorem node? : s.node? (.ref r) = none := by
  unfold Store.node?
  rw [cell?_ref h.get]

theorem special? (hp : s.Pristine) (hn : name ∈ reportSpecials) :
    s.special? (s.typeOf (.ref r)) name = none := by
  rw [h.typeOf]
  exact hp.special? visit_mem_reportTypes hn

theorem keepsObjects (hk : s.KeepsObjects s') : s'.IsReport r e attrs := by
  refine ⟨hk.get?_eq nofun h.get, h.cls, h.made?, ?_⟩
  have ha := h.attrs
  rcases hf : e.fields with own | d
  · rw [hf] at ha
    exact ha
  · rw [hf] at ha
    obtain ⟨entries, hd, he⟩ := ha
    exact ⟨entries, hk.get?_eq nofun hd, he⟩

/-- An attribute that a report has itself. -/
theorem runOn_attr (hp : s.Pristine) (hc : empty.classEntry? (.error .visit) name = none)
    {x : Value} (hx : attrs.lookup name = some x) :
    Effect.runOn (Action.attr (.ref r) name (Behaviour.level (n + 1))) s = (.ok x, s) := by
  have hentry : s.classEntry? (s.typeOf (.ref r)) name = none := by
    rw [h.typeOf, hp.classEntry? visit_mem_reportTypes, hc]
  refine (Action.runOn_readAttr (h.special? hp (by decide)) (h.special? hp (by decide)) name).trans ?_
  refine (Effect.runOn_bind_ok (Effect.runOn_get s) _).trans ?_
  rw [hentry, h.field?, hx]
  rfl

/-- The text of a report is its stages and then its message. -/
theorem runOn_text (hp : s.Pristine) {texts : List String} {message : String}
    (hs : attrs.lookup "stages" = some (.ref l)) (hl : s.get? l = some (.list (texts.map .text)))
    (hm : attrs.lookup "message" = some (.text message)) :
    Effect.runOn (Action.text (.ref r) (Behaviour.level (n + 2))) s =
      (.ok (": ".intercalate (texts ++ [message])), s) := by
  have hstages : Effect.runOn (Action.attr (.ref r) "stages" (Behaviour.level (n + 1))) s =
      (.ok (.ref l), s) := h.runOn_attr hp (classEntry?_reportAttr _ (by decide)) hs
  have hmessage : Effect.runOn (Action.attr (.ref r) "message" (Behaviour.level (n + 1))) s =
      (.ok (.text message), s) := h.runOn_attr hp (classEntry?_reportAttr _ (by decide)) hm
  have hspread : Effect.runOn (Action.spread (.ref l) (Behaviour.level (n + 1))) s =
      (.ok (texts.map .text), s) := Action.runOn_bind_ok (hp.runOn_items? n hl) _
  refine (Action.runOn_bind_ok (Action.runOn_special? "__str__") _).trans ?_
  rw [h.special? hp (by decide)]
  refine (Effect.runOn_bind_ok (Effect.runOn_get s) _).trans ?_
  rw [cell?_ref h.get]
  dsimp only
  rw [if_pos h.cls]
  refine (Action.runOn_bind_ok hstages _).trans ?_
  refine (Action.runOn_bind_ok hspread _).trans ?_
  refine (Action.runOn_bind_ok hmessage _).trans ?_
  have hlist : texts.map Value.text ++ [.text message] = (texts ++ [message]).map .text := by
    rw [List.map_append]
    rfl
  rw [hlist]
  exact Action.runOn_joinTexts _ _

end IsReport

/-! ### Recording stages -/

/-- A failure report whose stages are these; they are the items of the list `l`. -/
structure Report (s : Store) (r l : Ref) (stages : List Value) : Prop where
  pristine : s.Pristine
  report : ∃ e attrs, s.IsReport r e attrs ∧ attrs.lookup "stages" = some (.ref l) ∧
    attrs.lookup "add_stage" = none
  stages : s.get? l = some (.list stages)

theorem method?_addStage {stages : List Value} (h : s.Report r l stages) :
    s.method? (.ref r) "add_stage" = some (.function ⟨"VisitError", "add_stage", .addStage⟩) := by
  obtain ⟨e, attrs, hr, -, ha⟩ := h.report
  have hentry : empty.classEntry? (.error .visit) "add_stage" =
      some (.error .visit, .value (.function ⟨"VisitError", "add_stage", .addStage⟩)) := by
    decide +kernel
  unfold method?
  rw [hr.field?, ha, hr.typeOf, h.pristine.classEntry? visit_mem_reportTypes, hentry]
  rfl

theorem method?_insert (hp : s.Pristine) {items : List Value}
    (hl : s.get? l = some (.list items)) :
    s.method? (.ref l) "insert" = some (.native .list "insert") := by
  have hentry : empty.classEntry? (.basic .list) "insert" =
      some (.basic .list, .value (.native .list "insert")) := by
    decide +kernel
  have hfield : s.field? (.ref l) "insert" = none := by
    unfold field?
    rw [cell?_ref hl]
    rfl
  have htype : s.typeOf (.ref l) = .basic .list := typeOf_ref hl
  unfold method?
  rw [hfield, htype, hp.classEntry? list_mem_reportTypes, hentry]
  rfl

/-- Inserting at the front of a list. -/
theorem runOn_insert (hp : s.Pristine) {items : List Value} (hl : s.get? l = some (.list items))
    (x : Value) :
    ∃ s', Effect.runOn (Action.callMethod (.ref l) "insert" [.int 0, x]
        (Behaviour.level (n + 1))) s = (.ok .null, s') ∧
      s.KeepsBut l s' ∧ s'.get? l = some (.list (x :: items)) := by
  obtain ⟨s₁, hs₁⟩ : ∃ s₁, s₁ = (s.alloc (.bound (.ref l) (.native .list "insert"))).2 := ⟨_, rfl⟩
  have hk : s.KeepsBut l s₁ := hs₁ ▸ keepsBut_alloc l s _
  have hb : s₁.get? s.size = some (.bound (.ref l) (.native .list "insert")) := by
    rw [hs₁]
    exact get?_alloc s _
  have hl₁ : s₁.get? l = some (.list items) := by
    rw [hs₁]
    exact (s.grows_alloc _).get?_eq hl
  refine ⟨s₁.put l (.list (x :: items)), ?_, hk.trans (keepsBut_put s₁ l _),
    get?_put s₁ _ (lt_size_of_get? hl₁)⟩
  refine (Effect.runOn_bind_ok (Effect.runOn_get s) _).trans ?_
  rw [method?_insert hp hl]
  change Effect.runOn (Action.callValue (.ref s.size) [.int 0, x] [] (Behaviour.level n))
    (s.alloc (.bound (.ref l) (.native .list "insert"))).2 = _
  rw [← hs₁]
  refine (Effect.runOn_bind_ok (Effect.runOn_get s₁) _).trans ?_
  rw [cell?_ref hb]
  change Effect.runOn (Action.runMethod .list "insert" (.ref l) [.int 0, x] (Behaviour.level n)) s₁ = _
  refine (Effect.runOn_bind_ok (Effect.runOn_get s₁) _).trans ?_
  rw [cell?_ref hl₁]
  rfl

namespace Report

variable {stages : List Value}

theorem keepsBut (h : s.Report r l stages) (hk : s.KeepsBut l s') {stages' : List Value}
    (hl : s'.get? l = some (.list stages')) : s'.Report r l stages' := by
  obtain ⟨e, attrs, hr, hs, ha⟩ := h.report
  exact ⟨h.pristine.of_classAttrs hk.classAttrs, ⟨e, attrs, hr.keepsObjects (hk.keepsObjects h.stages), hs, ha⟩, hl⟩

theorem isReport (h : s.Report r l stages) : s.isReport (.ref r) = true := by
  obtain ⟨e, attrs, hr, -⟩ := h.report
  exact hr.isReport

/-- Recording a stage puts it before those that the report has, and changes nothing else. -/
theorem addStage (h : s.Report r l stages) (x : Value) :
    ∃ s', Effect.runOn (Action.callMethod (.ref r) "add_stage" [x]
        (Behaviour.level (n + 2))) s = (.ok .null, s') ∧
      s.KeepsBut l s' ∧ s'.Report r l (x :: stages) := by
  obtain ⟨e, attrs, hr, hs, -⟩ := h.report
  obtain ⟨s', hrun, hk, hl⟩ := runOn_insert (n := n) h.pristine h.stages x
  refine ⟨s', ?_, hk, h.keepsBut hk hl⟩
  have hread : Effect.runOn (Action.attr (.ref r) "stages" (Behaviour.level (n + 1))) s =
      (.ok (.ref l), s) := hr.runOn_attr h.pristine (classEntry?_reportAttr _ (by decide)) hs
  refine (Effect.runOn_bind_ok (Effect.runOn_get s) _).trans ?_
  rw [method?_addStage h]
  change Effect.runOn ((Action.addStage (.ref r) x >>= fun _ => pure .null : Action Value)
    (Behaviour.level (n + 1))) s = _
  have hadd : Effect.runOn (Action.addStage (.ref r) x (Behaviour.level (n + 1))) s = (.ok (), s') := by
    refine (Action.runOn_bind_ok hread _).trans ?_
    exact Action.runOn_discard hrun
  exact Action.runOn_bind_ok hadd _

end Report

/-! ### New reports -/

/-- A failure report that holds its attributes itself. -/
def reportOf (message : Value) (attrs : Attrs) : ErrorObject :=
  { ErrorObject.ofArgs .visit [message] with fields := .own attrs }

variable {message x : Value} {attrs : Attrs}

theorem isReport_reportOf (h : s.get? r = some (.error (reportOf message attrs))) :
    s.IsReport r (reportOf message attrs) attrs :=
  ⟨h, rfl, rfl, rfl⟩

theorem runOn_assignAttr (hp : s.Pristine) (h : s.get? r = some (.error (reportOf message attrs))) :
    Effect.runOn (Action.setAttr (.ref r) name x (Behaviour.level (n + 1))) s =
      Effect.runOn (Action.storeAttr (.ref r) name x (Behaviour.level n)) s := by
  have hr := isReport_reportOf h
  refine (Action.runOn_bind_ok (Action.runOn_special? "__setattr__") _).trans ?_
  rw [hr.special? hp (by decide)]
  refine (Effect.runOn_bind_ok (Effect.runOn_get s) _).trans ?_
  rw [hr.node?]
  rfl

/-- Assigning an attribute of a new report. -/
theorem runOn_setAttr (n : Nat) (hp : s.Pristine)
    (h : s.get? r = some (.error (reportOf message attrs)))
    (hc : empty.classEntry? (.error .visit) name = none) (x : Value) :
    ∃ s', Effect.runOn (Action.setAttr (.ref r) name x (Behaviour.level (n + 1))) s = (.ok (), s') ∧
      s.KeepsBut r s' ∧ s'.get? r = some (.error (reportOf message (attrs.set name x))) := by
  refine ⟨s.put r (.error (reportOf message (attrs.set name x))), ?_, keepsBut_put s r _,
    get?_put s _ (lt_size_of_get? h)⟩
  have hentry : s.classEntry? (s.typeOf (.ref r)) name = none := by
    rw [(isReport_reportOf h).typeOf, hp.classEntry? visit_mem_reportTypes, hc]
  have hfields : s.hasFields (.ref r) = true := by
    unfold hasFields
    rw [cell?_ref h]
    rfl
  rw [runOn_assignAttr hp h]
  refine (Effect.runOn_bind_ok (Effect.runOn_get s) _).trans ?_
  rw [hentry]
  dsimp only
  rw [hfields]
  change Effect.runOn (Effect.setField (.ref r) name x) s = _
  refine (Effect.runOn_bind_ok (Effect.runOn_get s) _).trans ?_
  rw [cell?_ref h]
  rfl

/-- Assigning the cause of a new report. -/
theorem runOn_setCause (n : Nat) (hp : s.Pristine)
    (h : s.get? r = some (.error (reportOf message attrs)))
    (hx : Action.isError s x = true) :
    ∃ s' data, Effect.runOn (Action.setAttr (.ref r) "__cause__" x (Behaviour.level (n + 1))) s =
        (.ok (), s') ∧
      s.KeepsBut r s' ∧
      s'.get? r = some (.error { reportOf message attrs with cause := x, data }) := by
  refine ⟨_, [("__suppress_context__", .bool true)], ?_, keepsBut_put s r _,
    get?_put s _ (lt_size_of_get? h)⟩
  have hentry : empty.classEntry? (.error .visit) "__cause__" =
      some (.error .base, .value (.native .failure "__cause__")) := by decide +kernel
  rw [runOn_assignAttr hp h]
  refine (Effect.runOn_bind_ok (Effect.runOn_get s) _).trans ?_
  rw [(isReport_reportOf h).typeOf, hp.classEntry? visit_mem_reportTypes, hentry]
  refine (Effect.runOn_bind_ok (Effect.runOn_get s) _).trans ?_
  rw [cell?_ref h]
  refine (Effect.runOn_bind_ok (Effect.runOn_get s) _).trans ?_
  dsimp only
  rw [hx, Bool.or_true]
  rfl

/-- A new list of the stages in another one. -/
theorem runOn_stageList (n : Nat) (hp : s.Pristine) {stage : Value}
    (ht : s.get? t = some (.list [stage])) :
    Effect.runOn (Action.stageList (.ref t) (Behaviour.level (n + 1))) s =
      (.ok (.ref s.size), (s.alloc (.list [stage])).2) := by
  have hfull : s.isTrue (.ref t) = true := isTrue_ref ht fun _ _ => Cell.noConfusion
  have htrue : Effect.runOn (Action.isTrue (.ref t) (Behaviour.level (n + 1))) s = (.ok true, s) := by
    rw [← hfull]
    exact Action.runOn_truth (hp.special?_list ht (by decide)) (hp.special?_list ht (by decide))
  have hitems : Effect.runOn (Action.items (.ref t) (Behaviour.level (n + 1))) s =
      (.ok [stage], s) := Action.runOn_bind_ok (hp.runOn_items? n ht) _
  refine (Action.runOn_bind_ok htrue _).trans ?_
  exact (Action.runOn_bind_ok hitems _).trans rfl

/-- A failure report that was made of the error `e`, with the error as its cause if that is true. -/
def Wraps (s : Store) (r l : Ref) (message node : Value) (e : Ref) (isTrue : Bool) : Prop :=
  ∃ report, s.IsReport r report [("message", message), ("stages", .ref l), ("node", node),
      ("original_error", .ref e)] ∧
    report.cause = if isTrue then .ref e else .null

theorem Wraps.report {node : Value} {e : Ref} {isTrue : Bool} {stages : List Value}
    (h : s.Wraps r l message node e isTrue) (hp : s.Pristine)
    (hl : s.get? l = some (.list stages)) : s.Report r l stages := by
  obtain ⟨report, hr, -⟩ := h
  exact ⟨hp, ⟨report, _, hr, rfl, rfl⟩, hl⟩

theorem Wraps.keepsObjects {node : Value} {e : Ref} {isTrue : Bool}
    (h : s.Wraps r l message node e isTrue) (hk : s.KeepsObjects s') :
    s'.Wraps r l message node e isTrue := by
  obtain ⟨report, hr, hc⟩ := h
  exact ⟨report, hr.keepsObjects hk, hc⟩

section

variable {args : List Value} {stage : Value} {e : Ref} {isTrue : Bool} {error : ErrorObject}

/-- Making a report assigns its attributes, with a new list for the stages; what is left is to set
its cause. -/
theorem runOn_initAttrs (n : Nat) (message node wrapped : Value) {stages : Value}
    {items : List Value} (hp : s.Pristine)
    (hr : s.get? r = some (.error (ErrorObject.ofArgs .visit args)))
    (hstages : ∀ s', s.KeepsBut r s' → Effect.runOn (Action.stageList stages
      (Behaviour.level (n + 1))) s' = (.ok (.ref s'.size), (s'.alloc (.list items)).2)) :
    ∃ s' l, s.KeepsBut r s' ∧ s.size ≤ l ∧ l ≠ r ∧
      s'.get? r = some (.error (reportOf message [("message", message), ("stages", .ref l),
        ("node", node), ("original_error", wrapped)])) ∧ s'.get? l = some (.list items) ∧
      Effect.runOn (Action.initReport (.ref r) message stages node wrapped
          (Behaviour.level (n + 1))) s =
        Effect.runOn ((do if ← Action.isTrue wrapped then
            Action.setAttr (.ref r) "__cause__" wrapped : Action Unit)
          (Behaviour.level (n + 1))) s' := by
  have hlt := lt_size_of_get? hr
  have hkeep : Effect.runOn (Action.keepArgs (.ref r) [message]) s =
      (.ok (), s.put r (.error (reportOf message []))) := by
    refine (Effect.runOn_bind_ok (Effect.runOn_get s) _).trans ?_
    have herr : s.error? (.ref r) = some (ErrorObject.ofArgs .visit args) := by
      unfold error?
      rw [cell?_ref hr]
    rw [herr]
    rfl
  obtain ⟨s₁, hs₁⟩ : ∃ s₁, s₁ = s.put r (.error (reportOf message [])) := ⟨_, rfl⟩
  have hk₁ : s.KeepsBut r s₁ := hs₁ ▸ keepsBut_put s r _
  have hr₁ : s₁.get? r = some (.error (reportOf message [])) := hs₁ ▸ get?_put s _ hlt
  have hp₁ := hp.of_classAttrs hk₁.classAttrs
  obtain ⟨s₂, hrun₂, hk₂, hr₂⟩ :=
    runOn_setAttr n hp₁ hr₁ (classEntry?_reportAttr "message" (by decide)) message
  have hp₂ := hp₁.of_classAttrs hk₂.classAttrs
  have hlist := hstages s₂ (hk₁.trans hk₂)
  obtain ⟨s₃, hs₃⟩ : ∃ s₃, s₃ = (s₂.alloc (.list items)).2 := ⟨_, rfl⟩
  rw [← hs₃] at hlist
  have hl₃ : s₃.get? s₂.size = some (.list items) := hs₃ ▸ get?_alloc s₂ _
  have hk₃ : s₂.KeepsBut r s₃ := hs₃ ▸ keepsBut_alloc r s₂ _
  have hr₃ : s₃.get? r = _ := hs₃ ▸ (s₂.grows_alloc _).get?_eq hr₂
  have hlr : s₂.size ≠ r := by
    rintro rfl
    nomatch hl₃.symm.trans hr₃
  obtain ⟨s₄, hrun₄, hk₄, hr₄⟩ := runOn_setAttr n
    (hp₂.of_classAttrs hk₃.classAttrs) hr₃ (classEntry?_reportAttr "stages" (by decide))
    (.ref s₂.size)
  have hk₄' := (hk₁.trans hk₂).trans (hk₃.trans hk₄)
  obtain ⟨s₅, hrun₅, hk₅, hr₅⟩ := runOn_setAttr n
    (hp.of_classAttrs hk₄'.classAttrs) hr₄ (classEntry?_reportAttr "node" (by decide)) node
  obtain ⟨s₆, hrun₆, hk₆, hr₆⟩ := runOn_setAttr n
    (hp.of_classAttrs (hk₄'.trans hk₅).classAttrs) hr₅
    (classEntry?_reportAttr "original_error" (by decide)) wrapped
  refine ⟨s₆, s₂.size, (hk₄'.trans hk₅).trans hk₆, (hk₁.trans hk₂).size, hlr, hr₆,
    (hk₄.trans (hk₅.trans hk₆)).get?_eq hlr hl₃, ?_⟩
  refine (Effect.runOn_bind_ok hkeep _).trans ?_
  rw [← hs₁]
  refine (Action.runOn_bind_ok hrun₂ _).trans ?_
  refine (Action.runOn_bind_ok hlist _).trans ?_
  refine (Action.runOn_bind_ok hrun₄ _).trans ?_
  refine (Action.runOn_bind_ok hrun₅ _).trans ?_
  exact Action.runOn_bind_ok hrun₆ _

/-- Making a report of an error. -/
theorem runOn_initReport (n : Nat) (message node : Value) (hp : s.Pristine)
    (hr : s.get? r = some (.error (ErrorObject.ofArgs .visit args)))
    (ht : s.get? t = some (.list [stage])) (he : s.get? e = some (.error error)) (hne : e ≠ r)
    (htrue : ∀ s', s.KeepsBut r s' → ∃ s'', Effect.runOn (Action.isTrue (.ref e)
      (Behaviour.level (n + 1))) s' = (.ok isTrue, s'') ∧ s'.Grows s'') :
    ∃ s' l, Effect.runOn (Action.initReport (.ref r) message (.ref t) node (.ref e)
        (Behaviour.level (n + 1))) s = (.ok (), s') ∧
      s.KeepsBut r s' ∧ s.size ≤ l ∧ s'.Wraps r l message node e isTrue ∧
      s'.get? l = some (.list [stage]) := by
  have htr : t ≠ r := by
    rintro rfl
    nomatch hr.symm.trans ht
  obtain ⟨s₁, l, hk₁, hl, hlr, hr₁, hl₁, hrun⟩ := runOn_initAttrs n message node (.ref e) hp hr
    fun s' hk => runOn_stageList n (hp.of_classAttrs hk.classAttrs) (hk.get?_eq htr ht)
  rw [hrun]
  obtain ⟨s₂, hrun₂, hg₂⟩ := htrue s₁ hk₁
  have hk₂ := hk₁.trans (hg₂.keepsBut r)
  have hr₂ := hg₂.get?_eq hr₁
  cases isTrue with
  | false =>
    exact ⟨s₂, l, Action.runOn_bind_ok hrun₂ _, hk₂, hl, ⟨_, isReport_reportOf hr₂, rfl⟩,
      hg₂.get?_eq hl₁⟩
  | true =>
    have herr : Action.isError s₂ (.ref e) = true := by
      have hc := cell?_ref (hk₂.get?_eq hne he)
      unfold Action.isError error?
      rw [hc]
      rfl
    obtain ⟨s₃, data, hrun₃, hk₃, hr₃⟩ :=
      runOn_setCause n (hp.of_classAttrs hk₂.classAttrs) hr₂ herr
    exact ⟨s₃, l, (Action.runOn_bind_ok hrun₂ _).trans hrun₃, hk₂.trans hk₃, hl,
      ⟨_, ⟨hr₃, rfl, rfl, rfl⟩, rfl⟩, hk₃.get?_eq hlr (hg₂.get?_eq hl₁)⟩

/-- The class of failure reports makes a new object and initialises it. -/
theorem runOn_makeReport (n : Nat) {args : List Value} {a : Arguments} (hp : s.Pristine)
    (ha : Routine.initReport.signature.bind "VisitError.__init__" (.ref s.size :: args) [] = .ok a)
    (hv : a.get 0 = .ref s.size)
    (hrun : Effect.runOn (Action.initReport (.ref s.size) (a.get 1) (a.get 2) (a.get 3) (a.get 4)
      (Behaviour.level (n + 1))) (s.alloc (.error (ErrorObject.ofArgs .visit args))).2 =
        (.ok (), s')) :
    Effect.runOn (Action.call (.type (.error .visit)) args (Behaviour.level (n + 3))) s =
      (.ok (.ref s.size), s') := by
  obtain ⟨s₁, hs₁⟩ : ∃ s₁, s₁ = (s.alloc (.error (ErrorObject.ofArgs .visit args))).2 := ⟨_, rfl⟩
  have hg₁ : s.Grows s₁ := hs₁ ▸ s.grows_alloc _
  have hr₁ : s₁.get? s.size = some (.error (ErrorObject.ofArgs .visit args)) := hs₁ ▸ get?_alloc s _
  have hp₁ := hp.of_classAttrs hg₁.classAttrs
  rw [← hs₁] at hrun
  have hentry : empty.classEntry? (.error .visit) "__init__" =
      some (.error .visit, .value (.function ⟨"VisitError", "__init__", .initReport⟩)) := by
    decide +kernel
  have htype : s₁.typeOf (.ref s.size) = .error .visit := typeOf_ref hr₁
  have hinit : Effect.runOn (Action.initialise (.ref s.size) args []
      (Behaviour.level (n + 2))) s₁ = (.ok (), s') := by
    refine (Effect.runOn_bind_ok (Effect.runOn_get s₁) _).trans ?_
    rw [htype, hp₁.classEntry? visit_mem_reportTypes, hentry]
    have hcall : Effect.runOn (Action.callWith (.function ⟨"VisitError", "__init__", .initReport⟩)
        (.ref s.size :: args) [] (Behaviour.level (n + 2))) s₁ = (.ok .null, s') := by
      change Effect.runOn (Action.callFunction ⟨"VisitError", "__init__", .initReport⟩
        (.ref s.size :: args) [] (Behaviour.level (n + 1))) s₁ = _
      unfold Action.callFunction
      have hbind : Effect.runOn (Action.ofExcept (Routine.initReport.signature.bind
          "VisitError.__init__" (.ref s.size :: args) []) (Behaviour.level (n + 1))) s₁ =
          (.ok a, s₁) := by
        rw [ha]
        rfl
      refine (Action.runOn_bind_ok hbind _).trans ?_
      rw [← hv] at hrun
      exact Action.runOn_bind_ok hrun _
    exact Action.runOn_bind_ok hcall _
  refine (Effect.runOn_bind_ok (Effect.runOn_get s) _).trans ?_
  change Effect.runOn (Action.newObject (.error .visit) (.error (ErrorObject.ofArgs .visit args)) args
    [] (Behaviour.level (n + 2))) s = _
  refine (Effect.runOn_bind_ok (Effect.runOn_get s) _).trans ?_
  rw [hp.special? visit_mem_reportTypes (by decide)]
  change Effect.runOn ((Action.initialise (.ref s.size) args [] >>= fun _ => pure (.ref s.size) :
    Action Value) (Behaviour.level (n + 2))) (s.alloc (.error (ErrorObject.ofArgs .visit args))).2 = _
  rw [← hs₁]
  exact Action.runOn_bind_ok hinit _

/-- The class of failure reports makes a report of an error. -/
theorem runOn_newReport (n : Nat) (message node : Value) (hp : s.Pristine)
    (ht : s.get? t = some (.list [stage]))
    (he : s.get? e = some (.error error)) {s₀ : Store} (hg : s₀.Grows s)
    (htrue : Gives Grows s₀ (Action.isTrue (.ref e)) isTrue) (hn : s₀.depthLimit ≤ n + 101) :
    ∃ s' r l, Effect.runOn (Action.call (.type (.error .visit)) [message, .ref t, node, .ref e]
        (Behaviour.level (n + 3))) s = (.ok (.ref r), s') ∧
      s.Grows s' ∧ s.size ≤ l ∧ s'.Wraps r l message node e isTrue ∧
      s'.get? l = some (.list [stage]) := by
  have hg₁ := s.grows_alloc (.error (.ofArgs .visit [message, .ref t, node, .ref e]))
  have hne : e ≠ s.size := Nat.ne_of_lt (lt_size_of_get? he)
  obtain ⟨s', l, hrun, hk, hl, hw, hstages⟩ := runOn_initReport n message node
    (hp.of_classAttrs hg₁.classAttrs) (get?_alloc s _) (hg₁.get?_eq ht) (hg₁.get?_eq he) hne
    fun s'' hk =>
      htrue s'' (n + 1) (trans_of Grows hg (hg₁.trans_keepsBut hk (Nat.le_refl _))) (by omega)
  exact ⟨s', s.size, l, runOn_makeReport n hp rfl rfl hrun, hg₁.trans_keepsBut hk (Nat.le_refl _),
    Nat.le_trans hg₁.size hl, hw, hstages⟩

end

/-! ### Errors caught in a stage -/

/-- An error that is no failure report can be told about: it has a text, or a description where that
is empty, and a truth value. -/
structure Tells (s : Store) (e : Ref) (message : Value) (isTrue : Bool) : Prop where
  error : ∃ error, s.get? e = some (.error error)
  other : Gives Grows s (Action.isOf (.error .visit) (.ref e)) false
  message : ∃ text, Gives Grows s (Action.text (.ref e)) text ∧
    if text = "" then Gives Grows s (Action.describe (.ref e)) message else message = .text text
  truth : Gives Grows s (Action.isTrue (.ref e)) isTrue

theorem Tells.gives_message {e : Ref} {isTrue : Bool} (h : s.Tells e message isTrue) :
    Gives Grows s (Action.messageOf (.ref e)) message := by
  intro s' n hg hn
  obtain ⟨text, htext, hm⟩ := h.message
  obtain ⟨s₁, hrun, hg₁⟩ := htext s' n hg hn
  by_cases hempty : text = ""
  · rw [if_pos hempty] at hm
    obtain ⟨s₂, hrun', hg₂⟩ := hm s₁ n (trans_of Grows hg hg₁) hn
    refine ⟨s₂, (Action.runOn_bind_ok hrun _).trans ?_, trans_of Grows hg₁ hg₂⟩
    rw [hempty]
    exact hrun'
  · rw [if_neg hempty] at hm
    subst hm
    refine ⟨s₁, (Action.runOn_bind_ok hrun _).trans ?_, hg₁⟩
    split
    · exact absurd rfl hempty
    · rfl

/-- An error becomes a new report with one stage. -/
theorem Tells.wrap {e : Ref} {isTrue : Bool} (h : s.Tells e message isTrue) (hp : s.Pristine)
    (stage node : Value) :
    ∃ s' r l, (Action.wrap (.ref e) stage node).perform.runOn s = (.ok (.ref r), s') ∧
      s.Grows s' ∧ s.size ≤ l ∧ s'.Pristine ∧ s'.Wraps r l message node e isTrue ∧
      s'.get? l = some (.list [stage]) := by
  obtain ⟨n, hn⟩ : ∃ n, s.depthLimit = n + 3 := ⟨8 * s.size + 997, by unfold depthLimit; omega⟩
  obtain ⟨error, he⟩ := h.error
  obtain ⟨s₁, hrun₁, hg₁⟩ := h.other s (n + 3) (Grows.refl s) (by omega)
  obtain ⟨s₂, hrun₂, hg₂⟩ := h.gives_message s₁ (n + 3) hg₁ (by omega)
  obtain ⟨s₃, hs₃⟩ : ∃ s₃, s₃ = (s₂.alloc (.list [stage])).2 := ⟨_, rfl⟩
  have hg₃ : s.Grows s₃ := hs₃ ▸ trans_of Grows hg₁ (trans_of Grows hg₂ (s₂.grows_alloc _))
  have ht : s₃.get? s₂.size = some (.list [stage]) := hs₃ ▸ get?_alloc s₂ _
  obtain ⟨s', r, l, hrun, hg', hl, hw, hstages⟩ := runOn_newReport n message node
    (hp.of_classAttrs hg₃.classAttrs) ht (hg₃.get?_eq he) hg₃ h.truth (by omega)
  have hgrown : s.Grows s' := trans_of Grows hg₃ hg'
  refine ⟨s', r, l, ?_, hgrown, Nat.le_trans hg₃.size hl, hp.of_classAttrs hgrown.classAttrs, hw,
    hstages⟩
  rw [Action.runOn_perform, hn]
  refine (Action.runOn_bind_ok hrun₁ _).trans ?_
  refine (Action.runOn_bind_ok hrun₂ _).trans ?_
  have hlist : Effect.runOn ((liftM (Effect.list [stage]) : Action Value)
      (Behaviour.level (n + 3))) s₂ = (.ok (.ref s₂.size), s₃) := by
    rw [hs₃]
    rfl
  exact (Action.runOn_bind_ok hlist _).trans hrun

/-- A report gets one more stage and stays the same object. -/
theorem Report.wrap {stages : List Value} (h : s.Report r l stages) (stage node : Value) :
    ∃ s', (Action.wrap (.ref r) stage node).perform.runOn s = (.ok (.ref r), s') ∧
      s.KeepsBut l s' ∧ s'.Report r l (stage :: stages) := by
  obtain ⟨e, attrs, hr, -⟩ := h.report
  obtain ⟨s', hrun, hk, hr'⟩ := h.addStage (n := 8 * s.size + 998) stage
  refine ⟨s', ?_, hk, hr'⟩
  have hsub : s.isSubtype (s.typeOf (.ref r)) (.error .visit) = true := by
    rw [hr.typeOf]
    rfl
  have hof (b : Behaviour) : Effect.runOn (Action.isOf (.error .visit) (.ref r) b) s = (.ok true, s) := by
    refine (Effect.runOn_bind_ok (Effect.runOn_get s) _).trans ?_
    rw [hsub]
    rfl
  have hlevel : s.depthLimit = 8 * s.size + 998 + 2 := by
    unfold depthLimit
    omega
  rw [Action.runOn_perform, hlevel]
  refine (Action.runOn_bind_ok (hof _) _).trans ?_
  exact (Action.runOn_bind_ok (Action.runOn_discard hrun) _).trans rfl

/-! ### Errors with a text -/

/-- An error of a class without members of its own, with a text for its only argument, in a store
where nothing was assigned to classes. -/
structure TextError (s : Store) (e : Ref) (cls : ErrorClass) (text : String) : Prop where
  classAttrs : s.classAttrs = []
  get : s.get? e = some (.error (ErrorObject.ofArgs cls [.text text]))
  own : cls.own = []
  cls_ne : cls ≠ .missingKey

namespace TextError

variable {e : Ref} {cls : ErrorClass} {text : String}

theorem grows (h : s.TextError e cls text) (hs : s.Grows s') : s'.TextError e cls text :=
  ⟨hs.classAttrs.trans h.classAttrs, hs.get?_eq h.get, h.own, h.cls_ne⟩

theorem typeOf (h : s.TextError e cls text) : s.typeOf (.ref e) = .error cls :=
  typeOf_ref h.get

theorem special? (h : s.TextError e cls text) (name : String) :
    s.special? (s.typeOf (.ref e)) name = none := by
  rw [h.typeOf]
  unfold Store.special?
  rw [h.classAttrs]
  rfl

theorem gives_isOf (h : s.TextError e cls text) :
    Gives Grows s (Action.isOf (.error .visit) (.ref e)) false := by
  intro s' n hs _
  have h' := h.grows hs
  refine ⟨s', ?_, Grows.refl s'⟩
  rw [Action.runOn_isOf (h'.special? _) (h'.special? _), h'.typeOf]
  have hcls : ∀ cls : ErrorClass, cls.own = [] →
      s'.isSubtype (.error cls) (.error .visit) = false := by
    intro cls ho
    cases cls with
    | visit => nomatch ho
    | _ => rfl
  rw [hcls cls h.own]

theorem gives_text (h : s.TextError e cls text) :
    Gives Grows s (Action.text (.ref e)) text := by
  intro s' n hs hn
  have h' := h.grows hs
  obtain ⟨n, rfl⟩ : ∃ k, n = k + 2 := ⟨n - 2, by unfold depthLimit at hn; omega⟩
  refine ⟨s', ?_, Grows.refl s'⟩
  refine (Action.runOn_bind_ok (Action.runOn_special? "__str__") _).trans ?_
  rw [h'.special?]
  refine (Effect.runOn_bind_ok (Effect.runOn_get s') _).trans ?_
  rw [cell?_ref h'.get]
  have hvisit : cls ≠ .visit := by
    rintro rfl
    nomatch h.own
  have htext : Effect.runOn (Action.text (.text text) (Behaviour.level (n + 1))) s' =
      (.ok text, s') := by
    have hspecial : s'.special? (s'.typeOf (.text text)) "__str__" = none :=
      special?_basic h'.classAttrs _ _
    refine (Action.runOn_bind_ok (Action.runOn_special? "__str__") _).trans ?_
    rw [hspecial]
    rfl
  change Effect.runOn ((if cls = .visit then Action.textOfReport (.ref e)
    else if cls = .missingKey then Action.written (.text text) else Action.text (.text text) :
      Action String) (Behaviour.level (n + 1))) s' = _
  rw [if_neg hvisit, if_neg h.cls_ne]
  exact htext

theorem gives_isTrue (h : s.TextError e cls text) :
    Gives Grows s (Action.isTrue (.ref e)) true := by
  intro s' n hs hn
  have h' := h.grows hs
  obtain ⟨n, rfl⟩ : ∃ k, n = k + 1 := ⟨n - 1, by unfold depthLimit at hn; omega⟩
  refine ⟨s', ?_, Grows.refl s'⟩
  have htrue : s'.isTrue (.ref e) = true := by
    rw [isTrue_ref h'.get fun _ _ => Cell.noConfusion]
    change (cls != .falsy) = true
    rw [bne_iff_ne]
    rintro rfl
    nomatch h.own
  rw [← htrue]
  exact Action.runOn_truth (h'.special? _) (h'.special? _)

/-- It tells its text. -/
theorem tells (h : s.TextError e cls text) (ht : text ≠ "") : s.Tells e (.text text) true where
  error := ⟨_, h.get⟩
  other := h.gives_isOf
  message := ⟨text, h.gives_text, by rw [if_neg ht]⟩
  truth := h.gives_isTrue

theorem classEntry?_prune : ∀ cls : ErrorClass, cls.own = [] →
    empty.classEntry? (.error cls) "prune" = none := by
  intro cls ho
  cases cls with
  | prune | visit | invalidInput | callPrune | failPrune | propPrune | falsy => nomatch ho
  | _ => decide +kernel

/-- It carries no prune signal. -/
theorem gives_pruneSignal (h : s.TextError e cls text) :
    Gives Grows s (Action.pruneSignal (.ref e)) none := by
  intro s' n hs hn
  have h' := h.grows hs
  obtain ⟨n, rfl⟩ : ∃ k, n = k + 1 := ⟨n - 1, by unfold depthLimit at hn; omega⟩
  have hentry : s'.classEntry? (s'.typeOf (.ref e)) "prune" = none := by
    rw [h'.typeOf, classEntry?_eq h'.classAttrs rfl, classEntry?_prune cls h.own]
  have hfield : s'.field? (.ref e) "prune" = none := by
    unfold field?
    rw [cell?_ref h'.get]
    rfl
  obtain ⟨fault, hfault⟩ : ∃ fault, fault = Fault.noAttribute (s'.typeName (.ref e)) "prune" :=
    ⟨_, rfl⟩
  obtain ⟨s₁, hs₁⟩ : ∃ s₁, s₁ = (s'.alloc (.error (.ofArgs fault.errorClass fault.args))).2 :=
    ⟨_, rfl⟩
  have hg : s'.Grows s₁ := hs₁ ▸ s'.grows_alloc _
  have hattr : Effect.runOn (Action.attr (.ref e) "prune" (Behaviour.level (n + 1))) s' =
      (.error (.raised s'.size), s₁) := by
    refine (Action.runOn_readAttr (h'.special? _) (h'.special? _) "prune").trans ?_
    refine (Effect.runOn_bind_ok (Effect.runOn_get s') _).trans ?_
    rw [hentry, hfield]
    refine (Effect.runOn_bind_ok (Effect.runOn_get s') _).trans ?_
    rw [cell?_ref h'.get, hs₁, hfault]
    rfl
  have hbad : Effect.isErrorOf .badAttribute s₁ s'.size = true := by
    have hget : s₁.get? s'.size = some (.error (.ofArgs fault.errorClass fault.args)) :=
      hs₁ ▸ get?_alloc s' _
    unfold Effect.isErrorOf error?
    rw [cell?_ref hget, hfault]
    rfl
  exact ⟨s₁, Action.runOn_pruneSignal (hg.classAttrs.trans h'.classAttrs)
    (Action.runOn_attrOrNull_missing hattr hbad), hg⟩

theorem isErrorOf_general (h : s.TextError e cls text) (ho : cls.isOrdinary = true) :
    Effect.isErrorOf .general s e = true := by
  unfold Effect.isErrorOf error?
  rw [cell?_ref h.get]
  exact ho

theorem pristine (h : s.TextError e cls text) : s.Pristine :=
  pristine_of_classAttrs h.classAttrs

end TextError
end Store
end GraphQLTree
