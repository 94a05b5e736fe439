import GraphQLTree.Proofs.Building

/-! # Histories of building up nodes

A program performs one operation after the other, and makes other data in between (`Store.Builds`).
At every time the keys of sequences hold child sequences; appending to a node is the only thing that
changes them, and it puts what is appended behind what was there. So the items of a sequence are those
that it was made with and then all that were appended, in this order, and what was read before stays as
it was read (`Store.Builds.sequences`). -/

namespace GraphQLTree
namespace Store

variable {s s' s₀ s₁ : Store} {r q t : Ref} {n m : NodeObject} {x : Value} {key name : String}
  {items own : List Value} {k : Nat} {out : Ref → Prop} {op : BuildOp} {o : Except Halt Value}
  {before later : List BuildOp} {args : Attrs} {taken : List (String × List Value)}

/-! ### Runs -/

/-- A run of operations. Between them a program makes and changes whatever is neither a node nor a
tuple. -/
inductive Builds : Store → List BuildOp → Store → Prop
  | done (s : Store) : Builds s [] s
  | aside {s s₁ s' : Store} {ops : List BuildOp} : s.KeepsNodes nowhere s₁ → Builds s₁ ops s' →
      Builds s ops s'
  | perform {s s₁ s' : Store} {op : BuildOp} {o : Except Halt Value} {ops : List BuildOp} :
      s.Applicable op → op.run s = (o, s₁) → Builds s₁ ops s' → Builds s (op :: ops) s'

/-- Where there are no nodes yet, all are sound. -/
theorem sound_of_noNodes (h : s.classAttrs = []) (hn : ∀ r n, s.get? r ≠ some (.node n)) : s.Sound :=
  ⟨h, fun hc => absurd hc.1 (hn _ _)⟩

/-- What the run of an operation leaves is sound, and the operation did what it is for. -/
theorem Sound.of_run (h : s.Sound) (ha : s.Applicable op) (hrun : op.run s = (o, s')) :
    s'.Sound ∧ s.Does s' op o := by
  obtain ⟨s₁, o₁, hrun₁, hsound, hdoes⟩ := h.run ha
  cases hrun₁.symm.trans hrun
  exact ⟨hsound, hdoes⟩

theorem Sound.after (h : s.Sound) (ha : s.Applicable op) : (op.run s).2.Sound :=
  (h.of_run ha rfl).1

theorem Builds.next {ops : List BuildOp} (ha : s.Applicable op) (h : Builds (op.run s).2 ops s') :
    Builds s (op :: ops) s' :=
  .perform ha rfl h

theorem Builds.sound (h : s.Sound) (hrun : Builds s later s') : s'.Sound := by
  induction hrun with
  | done => exact h
  | aside hkeep _ ih => exact ih (h.aside hkeep)
  | perform ha hop _ ih => exact ih (h.of_run ha hop).1

/-! ### Child sequences stay as they are -/

theorem KeepsNodes.keepsFrozen (hk : s.KeepsNodes out s')
    (hout : ∀ {t items}, s.frozen? (.ref t) = some items → ¬ out t) (hi : s.frozen? x = some items) :
    s'.frozen? x = some items := by
  obtain ⟨t, rfl, -⟩ := frozen?_some hi
  exact hk.frozen?_eq (hout hi) hi

theorem ChangesKey.keepsFrozen (h : s.ChangesKey s' r key) (hi : s.frozen? x = some items) :
    s'.frozen? x = some items := by
  obtain ⟨n, -, hn, -⟩ := h.node
  refine h.keepsNodes.keepsFrozen (fun {t items} hi heq => ?_) hi
  subst heq
  cases (cell_of_frozen? hi).symm.trans hn

theorem Does.keepsFrozen (h : s.Does s' op o) (hi : s.frozen? x = some items) :
    s'.frozen? x = some items := by
  cases h with
  | construct hk => exact hk.keepsFrozen (fun hi => Nat.ne_of_lt (lt_size_of_frozen? hi)) hi
  | add hc => exact hc.keepsFrozen hi
  | set hc => exact hc.keepsFrozen hi
  | mark hc => exact hc.keepsFrozen hi
  | refuse hk => exact hk.keepsFrozen (fun _ => id) hi
  | copy hk => exact hk.keepsFrozen (fun hi => Nat.ne_of_lt (lt_size_of_frozen? hi)) hi
  | deepCopy hk => exact hk.keepsFrozen (fun hi => Nat.not_le.mpr (lt_size_of_frozen? hi)) hi

/-! ### What the keys of a node hold -/

theorem Lists.items_eq {y : Value} (h : s.Lists r key x own) (h' : s.Lists r key y items) :
    own = items := by
  cases h.1.symm.trans h'.1
  exact Option.some.inj (h.2.symm.trans h'.2)

/-- A node whose key holds what it held still lists the same items. -/
theorem Lists.of_lookup (h : s.Sound) (h' : s'.Sound) (hn : s.LibraryCell r n)
    (hm : s'.LibraryCell r m) (hcls : m.cls = n.cls) (hkey : key ∈ n.cls.sequenceKeys)
    (hsame : m.slots.lookup key = n.slots.lookup key)
    (hfrozen : s.frozen? x = some own → s'.frozen? x = some own) (hl : s.Lists r key x own) :
    s'.Lists r key x own := by
  have hmem := (h.node hn).regular.sequence_subset key hkey
  have hx := (h.node hn).of_lists hmem hl
  exact (h'.node hm).lists (hcls ▸ hmem) (hsame.trans hx) (hfrozen hl.2)

theorem KeepsNodes.lists (hk : s.KeepsNodes out s') (h : s.Sound) (h' : s'.Sound) (hr : ¬ out r)
    (hn : s.LibraryCell r n) (hkey : key ∈ n.cls.sequenceKeys)
    (hfrozen : s.frozen? x = some own → s'.frozen? x = some own) (hl : s.Lists r key x own) :
    s'.Lists r key x own :=
  hl.of_lookup h h' hn ⟨(hk.node hr).mpr hn.1, hn.2⟩ rfl hkey rfl hfrozen

/-- Changing another key, or another node, leaves what a key lists. -/
theorem ChangesKey.lists (hc : s.ChangesKey s' q name) (h : s.Sound) (h' : s'.Sound)
    (hn : s.LibraryCell r n) (hkey : key ∈ n.cls.sequenceKeys) (hother : q = r → name ≠ key)
    (hl : s.Lists r key x own) : s'.Lists r key x own := by
  by_cases hqr : q = r
  · subst hqr
    obtain ⟨n', m, hn', hm, hcls, -, -, hsame⟩ := hc.node
    cases hn'.symm.trans hn.1
    exact hl.of_lookup h h' hn ⟨hm, hcls ▸ hn.2⟩ hcls hkey (hsame key (Ne.symm (hother rfl)))
      hc.keepsFrozen
  · exact hc.keepsNodes.lists h h' (Ne.symm hqr) hn hkey hc.keepsFrozen hl

/-- What a key lists has the items that it had, and then those that were appended. -/
theorem Does.lists (hd : s.Does s' op o) (ha : s.Applicable op) (h : s.Sound) (h' : s'.Sound)
    (hn : s.LibraryCell r n) (hkey : key ∈ n.cls.sequenceKeys) (hl : s.Lists r key x own) :
    ∃ y, s'.Lists r key y (own ++ op.appended r key) := by
  have hlt : r < s.size := lt_size_of_get? hn.1
  have hfrozen := fun hi : s.frozen? x = some own => hd.keepsFrozen hi
  have hsame (hk : s'.Lists r key x own) : ∃ y, s'.Lists r key y (own ++ []) :=
    ⟨x, (List.append_nil own).symm ▸ hk⟩
  have hsingle (name : String) (hname : name ∈ "nullable" :: NodeClass.assignable) : name ≠ key := by
    rintro rfl
    exact NodeClass.single_library _ hn.2 name hname hkey
  cases hd with
  | construct hk => exact hsame (hk.lists h h' (Nat.ne_of_lt hlt) hn hkey hfrozen hl)
  | @add q name _ y own' items hc hold hnew =>
    by_cases hqr : q = r ∧ name = key
    · obtain ⟨rfl, rfl⟩ := hqr
      obtain rfl := hold.items_eq hl
      refine ⟨y, ?_⟩
      rwa [BuildOp.appended, if_pos ⟨rfl, rfl⟩]
    · refine ⟨x, ?_⟩
      rw [BuildOp.appended, if_neg hqr, List.append_nil]
      exact hc.lists h h' hn hkey (fun hq hname => hqr ⟨hq, hname⟩) hl
  | set hc =>
    obtain ⟨-, -, -, hassign⟩ := ha
    exact hsame (hc.lists h h' hn hkey (fun _ => hsingle _ (List.mem_cons_of_mem _ hassign)) hl)
  | mark hc => exact hsame (hc.lists h h' hn hkey (fun _ => hsingle _ (List.mem_cons_self ..)) hl)
  | refuse hk => exact hsame (hk.lists h h' id hn hkey hfrozen hl)
  | copy hk => exact hsame (hk.lists h h' (Nat.ne_of_lt hlt) hn hkey hfrozen hl)
  | deepCopy hk => exact hsame (hk.lists h h' (Nat.not_le.mpr hlt) hn hkey hfrozen hl)

/-! ### Whole histories -/

theorem Builds.keepsFrozen (hrun : Builds s later s') (h : s.Sound) (hi : s.frozen? x = some items) :
    s'.frozen? x = some items := by
  induction hrun with
  | done => exact hi
  | aside hkeep _ ih => exact ih (h.aside hkeep) (hkeep.keepsFrozen (fun _ => id) hi)
  | perform ha hop _ ih =>
    obtain ⟨hsound, hdoes⟩ := h.of_run ha hop
    exact ih hsound (hdoes.keepsFrozen hi)

/-- A node keeps its class. -/
theorem Does.libraryCell (hd : s.Does s' op o) (hn : s.LibraryCell r n) :
    ∃ m, s'.LibraryCell r m ∧ m.cls = n.cls := by
  have hlt : r < s.size := lt_size_of_get? hn.1
  have hsame {out : Ref → Prop} (hk : s.KeepsNodes out s') (hr : ¬ out r) :
      ∃ m, s'.LibraryCell r m ∧ m.cls = n.cls :=
    ⟨n, ⟨(hk.node hr).mpr hn.1, hn.2⟩, rfl⟩
  have hchanged {q : Ref} {name : String} (hc : s.ChangesKey s' q name) :
      ∃ m, s'.LibraryCell r m ∧ m.cls = n.cls := by
    by_cases hqr : r = q
    · subst hqr
      obtain ⟨n', m, hn', hm, hcls, -⟩ := hc.node
      cases hn'.symm.trans hn.1
      exact ⟨m, ⟨hm, hcls ▸ hn.2⟩, hcls⟩
    · exact hsame hc.keepsNodes hqr
  cases hd with
  | construct hk => exact hsame hk (Nat.ne_of_lt hlt)
  | add hc => exact hchanged hc
  | set hc => exact hchanged hc
  | mark hc => exact hchanged hc
  | refuse hk => exact hsame hk id
  | copy hk => exact hsame hk (Nat.ne_of_lt hlt)
  | deepCopy hk => exact hsame hk (Nat.not_le.mpr hlt)

theorem Builds.lists (hrun : Builds s later s') (h : s.Sound) (hn : s.LibraryCell r n)
    (hkey : key ∈ n.cls.sequenceKeys) (hl : s.Lists r key x own) :
    ∃ y, s'.Lists r key y (own ++ later.flatMap (·.appended r key)) := by
  induction hrun generalizing n x own with
  | done => exact ⟨x, by rwa [List.flatMap_nil, List.append_nil]⟩
  | aside hkeep _ ih =>
    exact ih (h.aside hkeep) ⟨(hkeep.node id).mpr hn.1, hn.2⟩ hkey
      (hkeep.lists h (h.aside hkeep) id hn hkey (hkeep.keepsFrozen fun _ => id) hl)
  | perform ha hop _ ih =>
    obtain ⟨hsound, hdoes⟩ := h.of_run ha hop
    obtain ⟨m, hm, hcls⟩ := hdoes.libraryCell hn
    obtain ⟨y, hy⟩ := hdoes.lists ha h hsound hn hkey hl
    rw [List.flatMap_cons, ← List.append_assoc]
    exact ih hsound hm (hcls ▸ hkey) hy

/-- **Whatever was built up before: an operation that can be performed does what it is for, the keys of
sequences hold child sequences with the items they had and then all that were appended since, in this
order, and every child sequence stays as it was.** -/
theorem Builds.sequences (h₀ : s₀.Sound) (hbefore : Builds s₀ before s) (hlater : Builds s later s') :
    (∀ op, s.Applicable op → ∃ s₁ o, op.run s = (o, s₁) ∧ s.Does s₁ op o) ∧
    (∀ r n, s.LibraryCell r n → ∀ key ∈ n.cls.sequenceKeys, ∃ x y own, s.Lists r key x own ∧
      s'.Lists r key y (own ++ later.flatMap (·.appended r key))) ∧
    ∀ x items, s.frozen? x = some items → s'.frozen? x = some items := by
  have h := hbefore.sound h₀
  refine ⟨fun op ha => ?_, fun r n hn key hkey => ?_, fun x items => hlater.keepsFrozen h⟩
  · obtain ⟨s₁, o, hrun, -, hdoes⟩ := h.run ha
    exact ⟨s₁, o, hrun, hdoes⟩
  · obtain ⟨x, own, hx, hi⟩ := (h.node hn).sequence key hkey
    have hl := (h.node hn).lists ((h.node hn).regular.sequence_subset key hkey) hx hi
    obtain ⟨y, hy⟩ := hlater.lists h hn hkey hl
    exact ⟨x, y, own, hl, hy⟩

/-- A named type that was marked once, and then could not be marked again. -/
def markedType (times : Nat) : Store :=
  match times with
  | 0 => ((BuildOp.construct .namedType [("name", .text "T")]).run
      (empty.alloc (.buffer [84])).2).2
  | times + 1 => ((BuildOp.markNonNull 1).run (markedType times)).2

/-- The type beside a value that holds bytes, which can be changed. -/
def madeValue : Store :=
  ((BuildOp.construct .stringValue [("value", .ref 0)]).run (markedType 2)).2

/-- A document that was made with a list of the type, after some operations. -/
def madeDocument : List BuildOp → Store
  | [] => ((BuildOp.construct .document [("definitions", .ref 4)]).run
      (madeValue.alloc (.list [.ref 1])).2).2
  | op :: ops => (op.run (madeDocument ops)).2

theorem builds_madeDocument : Builds empty [.construct .namedType [("name", .text "T")],
    .markNonNull 1, .markNonNull 1, .construct .stringValue [("value", .ref 0)],
    .construct .document [("definitions", .ref 4)]] (madeDocument []) := by
  have hempty : empty.Sound := sound_of_noNodes rfl fun r n h => nomatch h
  have hbytes : empty.KeepsNodes nowhere (empty.alloc (.buffer [84])).2 :=
    keepsNodes_alloc _ (by simp)
  have hsound := hempty.aside hbytes
  have hmake : (empty.alloc (.buffer [84])).2.Applicable
      (.construct .namedType [("name", .text "T")]) :=
    applicable_construct rfl (by decide) (by decide) fun key hkey => absurd hkey List.not_mem_nil
  have hsound₁ := hsound.after hmake
  have hn₁ : (markedType 0).LibraryCell 1 ⟨.namedType, [("nullable", .bool true), ("name", .text "T")],
      .own [], none⟩ := ⟨by decide +kernel, by decide⟩
  have hmark₁ : (markedType 0).Applicable (.markNonNull 1) :=
    ⟨_, .bool true, hn₁, by decide, rfl, (hsound₁.node hn₁).markable (by decide) rfl rfl⟩
  have hsound₂ := hsound₁.after hmark₁
  have hn₂ : (markedType 1).LibraryCell 1
      ⟨.namedType, [("nullable", .bool false), ("name", .text "T")], .own [], none⟩ :=
    ⟨by decide +kernel, by decide⟩
  have hmark₂ : (markedType 1).Applicable (.markNonNull 1) :=
    ⟨_, .bool false, hn₂, by decide, rfl, (hsound₂.node hn₂).markable (by decide) rfl rfl⟩
  have hvalue : (markedType 2).Applicable (.construct .stringValue [("value", .ref 0)]) :=
    applicable_construct (by decide +kernel) (by decide) (by decide)
      fun key hkey => absurd hkey List.not_mem_nil
  have hlist : (madeValue.alloc (.list [.ref 1])).2.sequence? (.ref 4) = some [.ref 1] := by
    decide +kernel
  have hmake₂ : (madeValue.alloc (.list [.ref 1])).2.Applicable
      (.construct .document [("definitions", .ref 4)]) := by
    refine applicable_construct (by decide +kernel) (by decide) (by decide) fun key hkey => ?_
    obtain rfl := List.mem_singleton.mp hkey
    exact ⟨_, .inr hlist⟩
  exact .aside hbytes (.next hmake (.next hmark₁ (.next hmark₂ (.next hvalue
    (.aside (keepsNodes_alloc _ (by simp)) (.next hmake₂ (.done _)))))))

/-- The document can be copied deeply: its items are nodes, and what these hold is no object or bytes. -/
theorem clonable_madeDocument
    (h : (madeDocument [.copy 5, .add 5 "definitions" [.ref 3]]).Sound) :
    (madeDocument [.copy 5, .add 5 "definitions" [.ref 3]]).Clonable (.ref 5) := by
  have hdocument : (madeDocument [.copy 5, .add 5 "definitions" [.ref 3]]).LibraryCell 5
      ⟨.document, [("definitions", .ref 8)], .own [], none⟩ := ⟨by decide +kernel, by decide⟩
  have htype : (madeDocument [.copy 5, .add 5 "definitions" [.ref 3]]).LibraryCell 1
      ⟨.namedType, [("nullable", .bool false), ("name", .text "T")], .own [], none⟩ :=
    ⟨by decide +kernel, by decide⟩
  have hvalue : (madeDocument [.copy 5, .add 5 "definitions" [.ref 3]]).LibraryCell 3
      ⟨.stringValue, [("value", .ref 0)], .own [], none⟩ := ⟨by decide +kernel, by decide⟩
  have hbytes : (madeDocument [.copy 5, .add 5 "definitions" [.ref 3]]).get? 0 =
      some (.buffer [84]) := by decide +kernel
  refine (h.node hdocument).clonable fun key hkey x hx => ?_
  obtain rfl := List.mem_singleton.mp hkey
  cases hx
  refine .sequence (show _ = some [.ref 1, .ref 3] by decide +kernel) fun x hx => ?_
  obtain rfl | rfl : x = .ref 1 ∨ x = .ref 3 := by simpa using hx
  · refine (h.node htype).clonable fun key hkey x hx => .atom ?_
    obtain rfl | hkey := List.mem_cons.mp hkey
    · cases hx
      rfl
    · obtain rfl := List.mem_singleton.mp hkey
      cases hx
      rfl
  · refine (h.node hvalue).clonable fun key hkey x hx => ?_
    obtain rfl := List.mem_singleton.mp hkey
    cases hx
    exact .alone (copiedAlone_whole h.classAttrs hbytes rfl rfl)

/-- Appending to the document before and after it is copied with its type and its value, which holds
bytes. -/
theorem Builds.sequences_document : ∃ s s' : Store, ∃ x y,
    empty.Sound ∧
    Builds empty [.construct .namedType [("name", .text "T")], .markNonNull 1, .markNonNull 1,
      .construct .stringValue [("value", .ref 0)], .construct .document [("definitions", .ref 4)]] s ∧
    s.get? 0 = some (.buffer [84]) ∧
    Builds s [.add 5 "definitions" [.ref 3], .copy 5, .deepCopy 5,
      .add 5 "definitions" [.ref 1, .ref 5]] s' ∧
    s.Lists 5 "definitions" x [.ref 1] ∧ s'.frozen? x = some [.ref 1] ∧
    s'.Lists 5 "definitions" y [.ref 1, .ref 3, .ref 1, .ref 5] := by
  have hempty : empty.Sound := sound_of_noNodes rfl fun r n h => nomatch h
  have hsound := builds_madeDocument.sound hempty
  have hn : (madeDocument []).LibraryCell 5
      ⟨.document, [("definitions", .ref 6)], .own [], none⟩ := ⟨by decide +kernel, by decide⟩
  have hlists : (madeDocument []).Lists 5 "definitions" (.ref 6) [.ref 1] :=
    (hsound.node hn).lists (by decide) rfl (by decide +kernel)
  have hadd₁ : (madeDocument []).Applicable (.add 5 "definitions" [.ref 3]) := ⟨_, hn, by decide⟩
  have hsound₁ := hsound.after hadd₁
  have hn₁ : (madeDocument [.add 5 "definitions" [.ref 3]]).LibraryCell 5
      ⟨.document, [("definitions", .ref 8)], .own [], none⟩ := ⟨by decide +kernel, by decide⟩
  have hcopy : (madeDocument [.add 5 "definitions" [.ref 3]]).Applicable (.copy 5) := ⟨_, hn₁⟩
  have hsound₂ := hsound₁.after hcopy
  have hn₂ : (madeDocument [.copy 5, .add 5 "definitions" [.ref 3]]).LibraryCell 5
      ⟨.document, [("definitions", .ref 8)], .own [], none⟩ := ⟨by decide +kernel, by decide⟩
  have hdeep : (madeDocument [.copy 5, .add 5 "definitions" [.ref 3]]).Applicable (.deepCopy 5) :=
    ⟨_, hn₂, clonable_madeDocument hsound₂⟩
  have hn₃ : (madeDocument [.deepCopy 5, .copy 5, .add 5 "definitions" [.ref 3]]).LibraryCell 5
      ⟨.document, [("definitions", .ref 8)], .own [], none⟩ := ⟨by decide +kernel, by decide⟩
  have hadd₂ : (madeDocument [.deepCopy 5, .copy 5, .add 5 "definitions" [.ref 3]]).Applicable
      (.add 5 "definitions" [.ref 1, .ref 5]) := ⟨_, hn₃, by decide⟩
  have hlater := Builds.next hadd₁ (.next hcopy (.next hdeep (.next hadd₂ (.done _))))
  obtain ⟨-, hsequences, hfrozen⟩ := Builds.sequences hempty builds_madeDocument hlater
  obtain ⟨x, y, own, hx, hy⟩ := hsequences 5 _ hn "definitions" (by decide)
  obtain rfl := hx.items_eq hlists
  exact ⟨_, _, x, y, hempty, builds_madeDocument, by decide +kernel, hlater, hx, hfrozen x _ hx.2, hy⟩

end Store
end GraphQLTree
