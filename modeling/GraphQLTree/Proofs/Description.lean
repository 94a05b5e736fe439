import GraphQLTree.Proofs.FailureReport

/-! # Descriptions of trees

What can stand in a tree of the language, and how it is described in messages: a node by the name of
its class and its own name, any other value by its written form (`Node.gives_describedText`,
`gives_describedText_datum`). So an element that does not belong into its list is rejected with a
failure report (`runOn_raiseMessage`). In a tree of nodes and such values (`Store.isTree`) all that a
walk asks for can be read, as long as trees are kept. -/

namespace GraphQLTree

/-- A value without parts, which is described by its written form. -/
def Value.isDatum : Value → Bool
  | .null | .bool _ | .int _ | .text _ | .float _ _ | .complex _ _ _ | .bytes _ => true
  | _ => false

namespace NodeObject

/-- The name of a node, if it has one that is a text. -/
def nameText? (n : NodeObject) : Option String :=
  if "name" ∈ n.cls.keys then
    match n.slots.lookup "name" with
    | some (.text name) => some name
    | _ => none
  else none

/-- The written form of a node. -/
def writtenForm (n : NodeObject) : String :=
  match n.nameText? with
  | some name => n.cls.name ++ " " ++ Text.quote name
  | none => n.cls.name

/-- The name of a node, if its class has one, is a value without parts. -/
def hasPlainName (n : NodeObject) : Bool :=
  "name" ∉ n.cls.keys || (n.slots.lookup "name").any (·.isDatum)

end NodeObject

namespace NodeClass

/-- No class of the language has a way of its own to write its nodes. -/
theorem special?_written : ∀ c ∈ builtin,
    Store.empty.special? (.node c) "__repr__" = none := by decide +kernel

/-- All classes of the language describe their nodes in the same way. -/
theorem inspect_builtin : ∀ c ∈ builtin, Store.empty.classEntry? (.node c) "__inspect__" =
    some (.node nodeLevel, .value (.function ⟨"Node", "__inspect__", .describeNode⟩)) := by
  decide +kernel

/-- A class without a key for a name provides none. -/
theorem name_builtin : ∀ c ∈ builtin, "name" ∉ c.keys →
    Store.empty.classEntry? (.node c) "name" = none := by decide +kernel

end NodeClass

namespace Store

variable {s s' : Store} {r : Ref} {n : NodeObject} {k : Nat}

/-! ### Texts -/

theorem runOn_text_text (h : s.classAttrs = []) (t : String) :
    Effect.runOn (Action.text (.text t) (Behaviour.level (k + 1))) s = (.ok t, s) := by
  have hspecial : s.special? (s.typeOf (.text t)) "__str__" = none := special?_basic h _ _
  refine (Action.runOn_bind_ok (Action.runOn_special? "__str__") _).trans ?_
  rw [hspecial]
  rfl

/-- The type of a value without parts. -/
theorem typeOf_datum {x : Value} (hx : x.isDatum = true) :
    ∃ t, ∀ s : Store, s.typeOf x = .basic t := by
  cases x with
  | null | bool | int | text | float | complex | bytes => exact ⟨_, fun _ => rfl⟩
  | _ => nomatch hx

/-- A value without parts is no object of a class that is derived from texts, unless it is a text. -/
theorem isSubtype_datum {x : Value} (hx : x.isDatum = true) (ht : ∀ t, x ≠ .text t) :
    s.isSubtype (s.typeOf x) (.basic .text) = false := by
  cases x with
  | text t => exact absurd rfl (ht t)
  | null | bool | int | float | complex | bytes => rfl
  | _ => nomatch hx

/-- Nothing happens, or a new error comes to be. -/
def NotesError (s s' : Store) : Prop :=
  s' = s ∨ ∃ e, s' = (s.alloc (.error e)).2

theorem NotesError.grows (h : s.NotesError s') : s.Grows s' := by
  obtain rfl | ⟨e, rfl⟩ := h
  · exact Grows.refl s'
  · exact s.grows_alloc _

/-! ### Nodes -/

namespace Node

variable (h : s.Node r n)
include h

/-- The class of a node is named by its name. -/
theorem runOn_classNameOf (b : Behaviour) :
    Effect.runOn (Action.classNameOf (.ref r) b) s = (.ok n.cls.name, s) := by
  have hhides : Effect.runOn (Action.hidesClass (.ref r) b) s = (.ok false, s) := by
    unfold Action.hidesClass
    rw [Action.runOn_bind_ok (Action.runOn_special? "__class__"), h.special? (by simp),
      Action.runOn_bind_ok (Action.runOn_special? "__getattribute__"), h.special? (by simp)]
    rfl
  have hname : s.nameOf (.node n.cls) = n.cls.name := by
    unfold nameOf classAttr?
    rw [h.classAttrs]
    rfl
  have hclass : Effect.runOn (Action.classOf (.ref r) b) s = (.ok (.type (.node n.cls)), s) := by
    refine (Action.runOn_bind_ok hhides _).trans ?_
    refine (Effect.runOn_bind_ok (Effect.runOn_get s) _).trans ?_
    rw [h.typeOf]
    rfl
  refine (Action.runOn_bind_ok hclass _).trans ?_
  refine (Effect.runOn_bind_ok (Effect.runOn_get s) _).trans ?_
  rw [hname]
  rfl

/-- The name of a node, which is null if its class has none. -/
theorem runOn_name (hn : n.hasPlainName = true) :
    ∃ x s', Effect.runOn (Action.attrOrNull (.ref r) "name" (Behaviour.level (k + 1))) s =
        (.ok x, s') ∧ s.NotesError s' ∧ x.isDatum = true ∧
      n.nameText? = match x with
        | .text name => some name
        | _ => none := by
  have hattr : Effect.runOn (Action.attr (.ref r) "name" (Behaviour.level (k + 1))) s =
      Effect.runOn (Action.readOwn (.ref r) "name" (Behaviour.level k)) s := h.runOn_readAttr "name"
  unfold NodeObject.nameText?
  by_cases hkey : "name" ∈ n.cls.keys
  · obtain ⟨x, hx, hd⟩ : ∃ x, n.slots.lookup "name" = some x ∧ x.isDatum = true := by
      unfold NodeObject.hasPlainName at hn
      rw [Bool.or_eq_true, decide_eq_true_eq] at hn
      exact (Option.any_eq_true ..).mp (hn.resolve_left fun hn => hn hkey)
    refine ⟨x, s, Action.runOn_attrOrNull (h.runOn_key hkey hx), .inl rfl, hd, ?_⟩
    rw [if_pos hkey, hx]
    cases x with
    | _ => rfl
  · have hentry : s.classEntry? (s.typeOf (.ref r)) "name" = none := by
      rw [h.classEntry?, NodeClass.name_builtin _ h.cls hkey]
    obtain ⟨fault, hfault⟩ : ∃ fault, fault = Fault.noAttribute (s.typeName (.ref r)) "name" :=
      ⟨_, rfl⟩
    obtain ⟨s₁, hs₁⟩ : ∃ s₁, s₁ = (s.alloc (.error (.ofArgs fault.errorClass fault.args))).2 :=
      ⟨_, rfl⟩
    have hmissing : Effect.runOn (Action.attr (.ref r) "name" (Behaviour.level (k + 1))) s =
        (.error (.raised s.size), s₁) := by
      rw [hattr]
      refine (Effect.runOn_bind_ok (Effect.runOn_get s) _).trans ?_
      rw [hentry, h.field?]
      refine (Effect.runOn_bind_ok (Effect.runOn_get s) _).trans ?_
      rw [cell?_ref h.cell, hs₁, hfault]
      rfl
    have hbad : Effect.isErrorOf .badAttribute s₁ s.size = true := by
      have hget : s₁.get? s.size = some (.error (.ofArgs fault.errorClass fault.args)) :=
        hs₁ ▸ get?_alloc s _
      unfold Effect.isErrorOf error?
      rw [cell?_ref hget, hfault]
      rfl
    refine ⟨.null, s₁, Action.runOn_attrOrNull_missing hmissing hbad, .inr ⟨_, hs₁⟩, rfl, ?_⟩
    rw [if_neg hkey]

/-- The written form of a node. -/
theorem runOn_written (hn : n.hasPlainName = true) :
    ∃ s', Effect.runOn (Action.written (.ref r) (Behaviour.level (k + 2))) s =
      (.ok n.writtenForm, s') ∧ s.NotesError s' := by
  obtain ⟨x, s', hname, hg, hd, hx⟩ := h.runOn_name (k := k) hn
  refine ⟨s', ?_, hg⟩
  have hspecial : s.special? (s.typeOf (.ref r)) "__repr__" = none := by
    rw [h.typeOf, special?_node h.classAttrs]
    exact NodeClass.special?_written _ h.cls
  refine (Action.runOn_bind_ok (Action.runOn_special? "__repr__") _).trans ?_
  rw [hspecial]
  refine (Effect.runOn_bind_ok (Effect.runOn_get s) _).trans ?_
  rw [cell?_ref h.cell]
  change Effect.runOn (Action.writeNode (.ref r) (Behaviour.level (k + 1))) s = _
  refine (Action.runOn_bind_ok (h.runOn_classNameOf _) _).trans ?_
  refine (Action.runOn_bind_ok hname _).trans ?_
  unfold NodeObject.writtenForm
  rw [hx]
  have hc : s'.classAttrs = [] := hg.grows.classAttrs.trans h.classAttrs
  have hother (ht : ∀ t, x ≠ .text t) : Effect.runOn (Action.isOf (.basic .text) x
      (Behaviour.level (k + 1))) s' = (.ok false, s') := by
    obtain ⟨t, htype⟩ := typeOf_datum hd
    rw [Action.runOn_isOf (htype s' ▸ special?_basic hc t _) (htype s' ▸ special?_basic hc t _),
      isSubtype_datum hd ht]
  cases x with
  | text name => rfl
  | null | bool | int | float | complex | bytes => exact Action.runOn_bind_ok (hother nofun) _
  | _ => nomatch hd

/-- The description of a node. -/
theorem runOn_describe (hn : n.hasPlainName = true) :
    ∃ s', Effect.runOn (Action.describe (.ref r) (Behaviour.level (k + 4))) s =
      (.ok (.text ("<" ++ n.writtenForm ++ ">")), s') ∧ s.Grows s' := by
  obtain ⟨s', hwritten, hg⟩ := h.runOn_written (k := k) hn
  refine ⟨s', ?_, hg.grows⟩
  have hshown : Effect.runOn (Action.shownSimple? .standard (.ref r) (Behaviour.level (k + 3))) s =
      (.ok none, s) := by
    unfold Action.shownSimple? Action.hidesClass
    simp only [bind_assoc]
    rw [Action.runOn_bind_ok (Action.runOn_special? "__class__"), h.special? (by simp),
      Action.runOn_bind_ok (Action.runOn_special? "__getattribute__"), h.special? (by simp)]
    rfl
  have hmethod : s.method? (.ref r) "__inspect__" =
      some (.function ⟨"Node", "__inspect__", .describeNode⟩) := by
    unfold method?
    rw [h.field?, h.classEntry?, NodeClass.inspect_builtin _ h.cls]
    rfl
  have hown : Effect.runOn (Action.ownDescription? (.ref r) (Behaviour.level (k + 3))) s =
      (.ok (some (.text ("<" ++ n.writtenForm ++ ">"))), s') := by
    refine (Effect.runOn_bind_ok (Effect.runOn_get s) _).trans ?_
    rw [hmethod]
    have hcall : Effect.runOn (Action.call (.function ⟨"Node", "__inspect__", .describeNode⟩)
        [.ref r] (Behaviour.level (k + 3))) s = (.ok (.text ("<" ++ n.writtenForm ++ ">")), s') :=
      Action.runOn_bind_ok hwritten _
    exact Action.runOn_bind_ok hcall _
  have hsimple : s.describeSimple? .standard (.ref r) = none := by
    unfold describeSimple?
    rw [cell?_ref h.cell]
  change Effect.runOn (Action.describeAt .standard 2 [] (.ref r) (Behaviour.level (k + 3))) s = _
  unfold Action.describeAt
  refine (Effect.runOn_bind_ok (Effect.runOn_get s) _).trans ?_
  rw [hsimple]
  refine (Action.runOn_bind_ok hshown _).trans ?_
  exact Action.runOn_bind_ok hown _

/-- The description of a node as a part of a text. -/
theorem gives_describedText (hn : n.hasPlainName = true) :
    Gives KeepsObjects s (Action.describedText (.ref r)) ("<" ++ n.writtenForm ++ ">") := by
  intro s' k hs hk
  obtain ⟨k, rfl⟩ : ∃ j, k = j + 4 := ⟨k - 4, by unfold depthLimit at hk; omega⟩
  have h' := h.keepsObjects hs
  obtain ⟨s'', hrun, hg⟩ := h'.runOn_describe (k := k) hn
  refine ⟨s'', ?_, hg⟩
  exact (Action.runOn_bind_ok hrun _).trans
    (runOn_text_text (hg.classAttrs.trans h'.classAttrs) _)

end Node

/-! ### Other values -/

/-- A value without parts is described in the same way in all stores. -/
theorem describeSimple?_datum {v : Value} (hv : v.isDatum = true) :
    ∃ text, ∀ s : Store, s.describeSimple? .standard v = some text := by
  cases v with
  | null | bool | float | complex => exact ⟨_, fun _ => rfl⟩
  | int n => exact ⟨Text.truncate Limits.standard.text (toString n), fun _ => rfl⟩
  | text t => exact ⟨Text.truncate Limits.standard.text (Text.quote t), fun _ => rfl⟩
  | bytes bs => exact ⟨Text.truncate Limits.standard.text (Text.quoteBytes bs), fun _ => rfl⟩
  | _ => nomatch hv

/-- The description of a value without parts. -/
theorem gives_describedText_datum (h : s.classAttrs = []) {v : Value} {text : String}
    (htext : ∀ s : Store, s.describeSimple? .standard v = some text) :
    Gives KeepsObjects s (Action.describedText v) text := by
  refine fun s' k hs hk => ⟨s', ?_, Grows.refl s'⟩
  obtain ⟨k, rfl⟩ : ∃ j, k = j + 1 := ⟨k - 1, by unfold depthLimit at hk; omega⟩
  have hdescribe : Effect.runOn (Action.describe v (Behaviour.level (k + 1))) s' =
      (.ok (.text text), s') := by
    change Effect.runOn (Action.describeAt .standard 2 [] v (Behaviour.level k)) s' = _
    unfold Action.describeAt
    refine (Effect.runOn_bind_ok (Effect.runOn_get s') _).trans ?_
    rw [htext]
    rfl
  exact (Action.runOn_bind_ok hdescribe _).trans
    (runOn_text_text (hs.classAttrs.trans h) _)

/-! ### Rejected elements -/

/-- Nothing was assigned to what null gets its special methods from. -/
def PlainNull (s : Store) : Prop := ∀ name, s.special? (.basic .null) name = none

theorem plainNull_of_classAttrs (h : s.classAttrs = []) : s.PlainNull :=
  special?_basic h .null

theorem PlainNull.of_classAttrs (h : s.PlainNull) (hc : s'.classAttrs = s.classAttrs) :
    s'.PlainNull := by
  intro name
  have hname := h name
  unfold special? specialIn? classAttr? at hname ⊢
  rw [hc]
  exact hname

theorem PlainNull.runOn_isTrue (h : s.PlainNull) (k : Nat) :
    Effect.runOn (Action.isTrue .null (Behaviour.level (k + 1))) s = (.ok false, s) :=
  Action.runOn_truth (h _) (h _)

/-- Without stages, a report gets an empty list of them. -/
theorem runOn_stageList_null (h : s.PlainNull) (k : Nat) :
    Effect.runOn (Action.stageList .null (Behaviour.level (k + 1))) s =
      (.ok (.ref s.size), (s.alloc (.list [])).2) :=
  (Action.runOn_bind_ok (h.runOn_isTrue k) _).trans rfl

/-- A new report of a message has no stages yet. -/
theorem runOn_raiseMessage (hp : s.Pristine) (hn : s.PlainNull) (message : Value) (α : Type)
    (k : Nat) :
    ∃ s' r l, Effect.runOn ((Action.raiseNew .visit [message] : Action α)
        (Behaviour.level (k + 3))) s = (.error (.raised r), s') ∧
      s.Grows s' ∧ s'.get? l = some (.list []) ∧
      s'.IsReport r (reportOf message [("message", message), ("stages", .ref l), ("node", .null),
          ("original_error", .null)])
        [("message", message), ("stages", .ref l), ("node", .null), ("original_error", .null)] := by
  have hg := s.grows_alloc (.error (.ofArgs .visit [message]))
  have hnull := hn.of_classAttrs hg.classAttrs
  obtain ⟨s₁, l, hk, -, -, hr, hl, hrun⟩ := runOn_initAttrs k message .null .null
    (hp.of_classAttrs hg.classAttrs) (get?_alloc s _) fun s' hk =>
      runOn_stageList_null (hnull.of_classAttrs hk.classAttrs) k
  have hfalse := (hnull.of_classAttrs hk.classAttrs).runOn_isTrue k
  have hmade : Effect.runOn (Action.call (.type (.error .visit)) [message]
      (Behaviour.level (k + 3))) s = (.ok (.ref s.size), s₁) :=
    runOn_makeReport (a := ⟨[some (.ref s.size), some message, none, none, none], [], []⟩) k hp rfl
      rfl (hrun.trans (Action.runOn_bind_ok hfalse _))
  have hreport := isReport_reportOf hr
  refine ⟨s₁, s.size, l, ?_, hg.trans_keepsBut hk (Nat.le_refl _), hl, hreport⟩
  exact (Action.runOn_bind_ok hmade _).trans (runOn_raiseReport hreport.isReport α _)

/-! ### Trees -/

/-- A value without parts belongs into no list. -/
theorem runOn_belongs_datum (h : s.classAttrs = []) {v : Value} (hv : v.isDatum = true)
    (kind : String) : (Action.belongs kind v).perform.runOn s = (.ok false, s) := by
  obtain ⟨t, htype⟩ := typeOf_datum hv
  have hspecial (name : String) : s.special? (s.typeOf v) name = none := by
    rw [htype]
    exact special?_basic h t name
  have hnode (c : NodeClass) : s.isSubtype (s.typeOf v) (.node c) = false := by
    rw [htype]
    unfold isSubtype lineage
    rw [List.any_map]
    exact List.any_eq_false.mpr fun _ _ => nofun
  unfold Action.belongs
  rcases variants? kind with - | classes
  · dsimp only
    rw [Action.runOn_perform, Action.runOn_isOf (hspecial _) (hspecial _), hnode]
  · dsimp only
    rw [Action.runOn_perform, Action.runOn_isOfAny (hspecial _) (hspecial _), List.any_map]
    have hnone : classes.any (s.isSubtype (s.typeOf v) ∘ .node) = false :=
      List.any_eq_false.mpr fun c _ => Bool.eq_false_iff.mp (hnode c)
    rw [hnone]

/-- A tree of nodes of the language, down to a depth: the walked attributes of each node are lists of
such trees and of values without parts. -/
def isTree (s : Store) (table : WalkTable) : Nat → Value → Bool
  | 0, _ => false
  | depth + 1, v =>
    match s.node? v with
    | some n =>
      n.cls ∈ NodeClass.builtin && n.fields = .own [] && n.hasPlainName &&
        (table.entries n.cls.kind).all fun (key, _) =>
          (s.listed? n key).any (·.all fun e => e.isDatum || s.isTree table depth e)
    | none => false

variable {table : WalkTable} {depth : Nat} {v : Value}

/-- The root of a tree and what is listed there. -/
theorem isTree_succ (hc : s.classAttrs = []) (h : s.isTree table (depth + 1) v = true) :
    ∃ r n, v = .ref r ∧ s.Node r n ∧ n.hasPlainName = true ∧
      ∀ entry ∈ table.entries n.cls.kind, ∃ items, s.listed? n entry.1 = some items ∧
        ∀ e ∈ items, e.isDatum = true ∨ s.isTree table depth e = true := by
  unfold isTree at h
  split at h
  · rename_i n hn
    obtain ⟨r, rfl, hcell⟩ := node?_some hn
    simp only [Bool.and_eq_true, decide_eq_true_eq] at h
    obtain ⟨⟨⟨hcls, hfields⟩, hname⟩, hlists⟩ := h
    refine ⟨r, n, rfl, ⟨hc, hcell, hcls, hfields⟩, hname, fun entry he => ?_⟩
    obtain ⟨items, hi, hall⟩ := (Option.any_eq_true ..).mp (List.all_eq_true.mp hlists entry he)
    exact ⟨items, hi, fun e he => (Bool.or_eq_true ..).mp (List.all_eq_true.mp hall e he)⟩
  · nomatch h

section

variable (hc : s.classAttrs = []) (h : v.isDatum = true ∨ s.isTree table depth v = true)
include hc h

/-- Whether an element belongs into a list can be read, and only trees do. -/
theorem reads_belongs (kind : String) :
    ∃ fits, Reads KeepsTrees s (Action.belongs kind v) fits ∧
      (fits = true → s.isTree table depth v = true) := by
  rcases h with hd | ht
  · refine ⟨false, fun s' hs => ⟨s', ?_, refl_of KeepsTrees s'⟩, nofun⟩
    exact runOn_belongs_datum (hs.classAttrs.trans hc) hd kind
  · cases depth with
    | zero => nomatch ht
    | succ depth =>
      obtain ⟨r, n, rfl, hn, -⟩ := isTree_succ hc ht
      exact ⟨_, hn.reads_belongs treeKeeping_keepsTrees kind, fun _ => ht⟩

/-- The description of an element can be read. -/
theorem reads_describedText : ∃ text, Reads KeepsTrees s (Action.describedText v) text := by
  rcases h with hd | ht
  · obtain ⟨text, htext⟩ := describeSimple?_datum hd
    refine ⟨text, fun s' hs => ?_⟩
    obtain ⟨s'', hrun, hg⟩ := (gives_describedText_datum (hs.classAttrs.trans hc) htext).perform
      (refl_of KeepsObjects s') (Nat.le_refl _)
    exact ⟨s'', hrun, hg.keepsTrees⟩
  · cases depth with
    | zero => nomatch ht
    | succ depth =>
      obtain ⟨r, n, rfl, hn, hname, -⟩ := isTree_succ hc ht
      refine ⟨"<" ++ n.writtenForm ++ ">", fun s' hs => ?_⟩
      obtain ⟨_, hn'⟩ := hn.keepsTrees hs
      obtain ⟨s'', hrun, hg⟩ := (hn'.gives_describedText hname).perform
        (refl_of KeepsObjects s') (Nat.le_refl _)
      exact ⟨s'', hrun, hg.keepsTrees⟩

end

end Store
end GraphQLTree
