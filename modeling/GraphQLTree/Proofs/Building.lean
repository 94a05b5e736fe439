import GraphQLTree.Proofs.Changes
import GraphQLTree.Proofs.DeepCopy
import GraphQLTree.Proofs.Description
import GraphQLTree.Proofs.NodeMethods

/-! # Building up nodes

Programs make nodes, append to their sequences, assign some of their keys, and copy them (`BuildOp`).
Wherever all nodes of the library are sound, an operation does what it is for and leaves them sound
(`Store.Sound.run`): it changes one key of one node, or it makes new nodes, and every child sequence that
was there before stays as it was. -/

namespace GraphQLTree

/-! ### Operations -/

/-- What a program does to build up nodes. -/
inductive BuildOp
  | construct (c : NodeClass) (args : Attrs)
  | add (r : Ref) (key : String) (items : List Value)
  | set (r : Ref) (key : String) (x : Value)
  | markNonNull (r : Ref)
  | copy (r : Ref)
  | deepCopy (r : Ref)

namespace BuildOp

/-- The call that performs an operation. -/
def action : BuildOp → Action Value
  | construct c args => Action.callWith (.type (.node c)) [] args
  | add r key items => Action.callMethod (.ref r) ("add_" ++ key) items
  | set r key x => Action.callMethod (.ref r) ("set_" ++ key) [x]
  | markNonNull r => Action.callMethod (.ref r) "mark_non_null" []
  | copy r => Action.copy (.ref r)
  | deepCopy r => Action.deepCopyUsing .null (.ref r)

/-- The outcome of an operation and the store after it. -/
def run (op : BuildOp) (s : Store) : Except Halt Value × Store :=
  op.action.perform.runOn s

/-- What an operation appends to the sequence under a key of a node. -/
def appended (r : Ref) (key : String) : BuildOp → List Value
  | add q name items => if q = r ∧ name = key then items else []
  | _ => []

end BuildOp

namespace Store

variable {s s' s₁ s₂ s₃ : Store} {r t : Ref} {n m : NodeObject} {x y : Value} {key : String}
  {items own : List Value} {k : Nat} {out : Ref → Prop} {op : BuildOp} {o : Except Halt Value}
  {copies : Copies}

/-- Whether a value is a node of a class of the library. -/
def LibraryCell (s : Store) (r : Ref) (n : NodeObject) : Prop :=
  s.get? r = some (.node n) ∧ n.cls ∈ NodeClass.library

/-- Whether a program can perform an operation: the methods are those of nodes of the library, the
arguments for sequences can be gone through, and what is copied deeply does not contain itself. -/
def Applicable (s : Store) : BuildOp → Prop
  | .construct c args => c ∈ NodeClass.library ∧ "self" ∉ args.map Prod.fst ∧
      ∀ k, ampleDepth ≤ k → ∃ P, Gatherable P s.size k s (c.sequenceKeys.map args.given)
  | .add r key _ => ∃ n, s.LibraryCell r n ∧ key ∈ n.cls.sequenceKeys
  | .set r key _ => ∃ n, s.LibraryCell r n ∧ key ∈ n.cls.keys ∧ key ∈ NodeClass.assignable
  | .markNonNull r => ∃ n x, s.LibraryCell r n ∧ "nullable" ∈ n.cls.keys ∧
      n.slots.lookup "nullable" = some x ∧ s.Markable r x
  | .copy r => ∃ n, s.LibraryCell r n
  | .deepCopy r => ∃ n, s.LibraryCell r n ∧ s.Clonable (.ref r)

/-! ### Sound stores -/

/-- A store in which all nodes of the library are sound. -/
structure Sound (s : Store) : Prop where
  classAttrs : s.classAttrs = []
  node : ∀ {r n}, s.LibraryCell r n → s.SoundNode r n

/-- The cells that were changed are not those of child sequences. -/
theorem SoundNode.keepsNodes_out (h : s.SoundNode r n) (hk : s.KeepsNodes out s') (hr : ¬ out r)
    (hout : ∀ {t items}, s.frozen? (.ref t) = some items → ¬ out t) : s'.SoundNode r n where
  classAttrs := hk.classAttrs.trans h.classAttrs
  cell := (hk.node hr).mpr h.cell
  cls := h.cls
  fields := h.fields
  digest := h.digest
  key := h.key
  sequence key hkey := by
    obtain ⟨x, items, hx, hi⟩ := h.sequence key hkey
    obtain ⟨t, rfl, -⟩ := frozen?_some hi
    exact ⟨.ref t, items, hx, hk.frozen?_eq (hout hi) hi⟩

/-- All nodes are sound if those are that were changed or made. -/
theorem Sound.keepsNodes (h : s.Sound) (hk : s.KeepsNodes out s')
    (hout : ∀ {t items}, s.frozen? (.ref t) = some items → ¬ out t)
    (hnew : ∀ {r n}, out r → s'.LibraryCell r n → s'.SoundNode r n) : s'.Sound where
  classAttrs := hk.classAttrs.trans h.classAttrs
  node {r n} hn := by
    by_cases hr : out r
    · exact hnew hr hn
    · exact (h.node ⟨(hk.node hr).mp hn.1, hn.2⟩).keepsNodes_out hk hr hout

theorem Sound.aside (h : s.Sound) (hk : s.KeepsNodes nowhere s') : s'.Sound :=
  h.keepsNodes hk (fun _ => id) fun h => h.elim

theorem Grows.keepsNodes (h : s.Grows s') : s.KeepsNodes (s.size ≤ ·) s' where
  size := h.size
  classAttrs := h.classAttrs
  node {r n} hr := by
    obtain ⟨c, hc⟩ : ∃ c, s.get? r = some c :=
      ⟨_, Array.getElem?_eq_getElem (Nat.lt_of_not_le hr)⟩
    rw [h.get?_eq hc, hc]
  tuple _ hc := h.get?_eq hc

theorem lt_size_of_frozen? (h : s.frozen? (.ref t) = some items) : t < s.size :=
  lt_size_of_get? (cell_of_frozen? h)

/-! ### What can be marked -/

theorem NotesError.keepsNodes (h : s.NotesError s') : s.KeepsNodes nowhere s' := by
  obtain rfl | ⟨e, rfl⟩ := h
  · exact .refl _ s'
  · exact keepsNodes_alloc s (by simp)

/-- A type whose key `nullable` holds a value without parts, and whose name is one, can be marked. -/
theorem SoundNode.markable (h : s.SoundNode r n) (hk : "nullable" ∈ n.cls.keys) (hx : x.isDatum = true)
    (hn : n.hasPlainName = true) : s.Markable r x := by
  intro k hdepth
  obtain ⟨k, rfl⟩ : ∃ j, k = j + 2 := ⟨k - 2, by unfold ampleDepth at hdepth; omega⟩
  obtain ⟨t, htype⟩ := typeOf_datum hx
  have hspecial (name : String) : s.special? (s.typeOf x) name = none :=
    htype s ▸ special?_basic h.classAttrs t name
  have htrue : Effect.runOn (Action.isTrue x (Behaviour.level (k + 2))) s = (.ok (s.isTrue x), s) :=
    Action.runOn_truth (hspecial _) (hspecial _)
  refine ⟨?_, fun s₁ hs₁ => ?_⟩
  · rw [htrue]
    exact .refl _ s
  · have h₁ := h.keepsNodes hs₁
    have hcls : n.cls ∈ NodeClass.builtin := by
      refine (List.mem_cons.mp h.cls).resolve_left fun heq => ?_
      rw [heq] at hk
      cases hk
    obtain ⟨s₂, hrun, hnotes⟩ := Node.runOn_written (k := k) ⟨h₁.classAttrs, h₁.cell, hcls, h.fields⟩ hn
    rw [hrun]
    exact hnotes.keepsNodes

/-! ### What can be made and copied -/

/-- A class can be called where null, lists and tuples are given for the keys of sequences. -/
theorem applicable_construct {c : NodeClass} {args : Attrs} (h : s.classAttrs = [])
    (hc : c ∈ NodeClass.library) (hself : "self" ∉ args.map Prod.fst)
    (hv : ∀ key ∈ c.sequenceKeys, ∃ items, s.Supplies (args.given key) items) :
    s.Applicable (.construct c args) := by
  refine ⟨hc, hself, fun k hk => ?_⟩
  obtain ⟨k, rfl⟩ : ∃ j, k = j + 1 := ⟨k - 1, by unfold ampleDepth at hk; omega⟩
  exact ⟨_, gatherable_of_supplies h (Nat.le_refl _) (List.forall_mem_map.mpr hv)⟩

/-- A sound node can be copied deeply if what its keys hold can be. -/
theorem SoundNode.clonable (h : s.SoundNode r n)
    (hall : ∀ key ∈ n.cls.keys, ∀ x, n.slots.lookup key = some x → s.Clonable x) :
    s.Clonable (.ref r) :=
  .node h.regularNode h.key h.sequence hall

/-! ### Reading sequences -/

/-- Reading a key of a node gives a child sequence with these items. -/
def Lists (s : Store) (r : Ref) (key : String) (x : Value) (items : List Value) : Prop :=
  (Action.attr (.ref r) key).perform.runOn s = (.ok x, s) ∧ s.frozen? x = some items

theorem SoundNode.lists (h : s.SoundNode r n) (hk : key ∈ n.cls.keys)
    (hx : n.slots.lookup key = some x) (hi : s.frozen? x = some items) : s.Lists r key x items := by
  refine ⟨?_, hi⟩
  rw [Action.runOn_perform, s.depthLimit_eq]
  exact h.regularNode.runOn_key hk hx

theorem SoundNode.of_lists (h : s.SoundNode r n) (hk : key ∈ n.cls.keys)
    (hl : s.Lists r key x items) : n.slots.lookup key = some x := by
  obtain ⟨y, hy⟩ := h.key key hk
  have hrun : (Action.attr (.ref r) key).perform.runOn s = (.ok y, s) := by
    rw [Action.runOn_perform, s.depthLimit_eq]
    exact h.regularNode.runOn_key hk hy
  cases hrun.symm.trans hl.1
  exact hy

/-- What is kept for a child sequence has the items of it. -/
theorem Kept.frozen? {old : Nat} (h : s.Kept old true x y) (hi : s.frozen? x = some items) :
    s.frozen? y = some items := by
  cases h with
  | frozen hc hc' =>
    cases (cell_of_frozen? hi).symm.trans hc
    unfold Store.frozen?
    rw [cell?_ref hc']

/-! ### What operations do -/

/-- Only one key of one node is changed. -/
structure ChangesKey (s s' : Store) (r : Ref) (key : String) : Prop where
  keepsNodes : s.KeepsNodes (· = r) s'
  node : ∃ n m, s.get? r = some (.node n) ∧ s'.get? r = some (.node m) ∧ m.cls = n.cls ∧
    m.fields = n.fields ∧ m.digest? = none ∧
    ∀ name ≠ key, m.slots.lookup name = n.slots.lookup name

/-- What an operation does, and its outcome. -/
inductive Does (s s' : Store) : BuildOp → Except Halt Value → Prop
  | construct {c : NodeClass} {args : Attrs} {m : NodeObject} {k : Nat}
      {taken : List (String × List Value)} : s.KeepsNodes (· = s.size) s' →
      s'.get? s.size = some (.node m) → m.cls = c → m.digest? = none →
      taken.map Prod.fst = c.keys.filter (c.sequenceKeys.contains ·) →
      Gathers s.size args k s taken s' → (∀ e ∈ taken, ∃ x, s'.Lists s.size e.1 x e.2) →
      Does s s' (.construct c args) (.ok (.ref s.size))
  | add {r : Ref} {key : String} {x y : Value} {own items : List Value} : s.ChangesKey s' r key →
      s.Lists r key x own → s'.Lists r key y (own ++ items) → Does s s' (.add r key items) (.ok .null)
  | set {r : Ref} {key : String} {x : Value} : s.ChangesKey s' r key →
      Does s s' (.set r key x) (.ok .null)
  | mark {r : Ref} : s.ChangesKey s' r "nullable" → Does s s' (.markNonNull r) (.ok .null)
  | refuse {r : Ref} {e : Halt} : s.KeepsNodes nowhere s' → Does s s' (.markNonNull r) (.error e)
  | copy {r : Ref} {n m : NodeObject} : s.KeepsNodes (· = s.size) s' → s.get? r = some (.node n) →
      s'.get? s.size = some (.node m) → m.cls = n.cls → m.digest? = none →
      (∀ key ∈ n.cls.sequenceKeys, ∃ x y items,
        s.Lists r key x items ∧ s'.Lists s.size key y items) →
      Does s s' (.copy r) (.ok (.ref s.size))
  | deepCopy {r t : Ref} {n m : NodeObject} {copies : Copies} : s.KeepsNodes (s.size ≤ ·) s' →
      Copied s s' copies → s.get? r = some (.node n) → copies.lookup r = some (.ref t) →
      s'.get? t = some (.node m) → m.cls = n.cls →
      (∀ key ∈ n.cls.sequenceKeys, ∃ x y items items', s.Lists r key x items ∧
        s'.Lists t key y items' ∧ List.Forall₂ (Image s copies) items items') →
      Does s s' (.deepCopy r) (.ok (.ref t))

/-! ### Changing a key -/

/-- A sound node stays sound when a key gets another value, which is a child sequence if the key is that
of a sequence. No other key is changed. -/
theorem Sound.assign (h : s.Sound) (hn : s.SoundNode r n) (hk : key ∈ n.cls.keys)
    (hkeep : s.KeepsNodes (· = r) s') (hcell : s'.get? r = some (.node (assigned n key x)))
    (hx : key ∈ n.cls.sequenceKeys → ∃ items, s'.frozen? x = some items) :
    s'.Sound ∧ s'.SoundNode r (assigned n key x) ∧ s.ChangesKey s' r key := by
  have hother : ∀ name ≠ key, (assigned n key x).slots.lookup name = n.slots.lookup name :=
    fun name hne => Attrs.lookup_set_of_ne hne x
  have hself : (assigned n key x).slots.lookup key = some x := Attrs.lookup_set x
  have hne {t : Ref} {items : List Value} (hi : s.frozen? (.ref t) = some items) : t ≠ r := by
    rintro rfl
    cases (cell_of_frozen? hi).symm.trans hn.cell
  have hsound : s'.SoundNode r (assigned n key x) := by
    refine ⟨hkeep.classAttrs.trans hn.classAttrs, hcell, hn.cls, hn.fields, ?_, fun name hname => ?_,
      fun name hname => ?_⟩
    · have hdigest : "_hash" ≠ key := by
        rintro rfl
        exact hn.regular.digest_notMem hk
      rw [hother _ hdigest]
      exact hn.digest
    · by_cases hnk : name = key
      · exact ⟨x, hnk ▸ hself⟩
      · rw [hother name hnk]
        exact hn.key name hname
    · by_cases hnk : name = key
      · subst hnk
        obtain ⟨items, hi⟩ := hx hname
        exact ⟨x, items, hself, hi⟩
      · rw [hother name hnk]
        obtain ⟨y, items, hy, hi⟩ := hn.sequence name hname
        obtain ⟨t, rfl, -⟩ := frozen?_some hi
        exact ⟨.ref t, items, hy, hkeep.frozen?_eq (hne hi) hi⟩
  refine ⟨h.keepsNodes hkeep hne ?_, hsound, hkeep, n, _, hn.cell, hcell, rfl, rfl, rfl, hother⟩
  rintro q m rfl hm
  cases hcell.symm.trans hm.1
  exact hsound

/-! ### One operation -/

theorem Sound.construct {c : NodeClass} {args : Attrs} (h : s.Sound)
    (ha : s.Applicable (.construct c args)) :
    ∃ s' o, (BuildOp.construct c args).run s = (o, s') ∧ s'.Sound ∧ s.Does s' (.construct c args) o := by
  obtain ⟨hc, hself, hg⟩ := ha
  have hregular := NodeClass.regular_library c hc
  obtain ⟨P, hg⟩ := hg (996 + 8 * s.size + 2) (by unfold ampleDepth; omega)
  obtain ⟨s', slots, taken, default?, hrun, -, hmade, hd, hall⟩ := runOn_construct hregular h.classAttrs
    hself hg fun key => List.mem_map_of_mem (f := args.given)
  have hsequence : ∀ e ∈ taken, ∃ t, slots.lookup e.1 = some (.ref t) ∧
      s'.frozen? (.ref t) = some e.2 := by
    intro e he
    obtain ⟨t, ht, -, hcell⟩ := hall.sequence e he
    refine ⟨t, ht, ?_⟩
    unfold frozen?
    rw [cell?_ref hcell]
  have hsound : s'.SoundNode s.size ⟨c, slots, .own [], none⟩ := by
    refine hmade.soundNode hc fun key hkey => ?_
    obtain ⟨e, he, rfl⟩ := hall.exists_taken (hregular.sequence_subset key hkey) hkey
    obtain ⟨t, ht, hi⟩ := hsequence e he
    exact ⟨_, _, ht, hi⟩
  have hkeys := hall.taken_sequence
  refine ⟨s', .ok (.ref s.size), ?_, ?_, ?_⟩
  · unfold BuildOp.run
    rw [Action.runOn_perform, show s.depthLimit = 996 + 8 * s.size + 4 by unfold depthLimit; omega]
    exact hrun
  · refine h.keepsNodes hall.keepsNodes (fun hi => Nat.ne_of_lt (lt_size_of_frozen? hi)) ?_
    rintro q m rfl hm
    cases hmade.cell.symm.trans hm.1
    exact hsound
  · refine .construct hall.keepsNodes hmade.cell rfl rfl hall.takenNames
      (hall.gathers.congr fun e he => ?_) fun e he => ?_
    · exact Attrs.given_withDefault fun d hmem heq => hd d hmem (heq ▸ hkeys e he)
    · obtain ⟨t, ht, hi⟩ := hsequence e he
      exact ⟨_, hsound.lists (hregular.sequence_subset _ (hkeys e he)) ht hi⟩

theorem Sound.add (h : s.Sound) (ha : s.Applicable (.add r key items)) :
    ∃ s' o, (BuildOp.add r key items).run s = (o, s') ∧ s'.Sound ∧ s.Does s' (.add r key items) o := by
  obtain ⟨n, hn, hk⟩ := ha
  have hsound := h.node hn
  have hkey := hsound.regular.sequence_subset key hk
  obtain ⟨x, own, hx, hi⟩ := hsound.sequence key hk
  obtain ⟨s', hrun, hkeep, -, t, -, hcell, ht⟩ := hsound.runOn_append (k := 995 + 8 * s.size) hk hx hi items
  obtain ⟨hall, hsound', hchange⟩ := h.assign hsound hkey hkeep hcell fun _ => ⟨_, ht⟩
  refine ⟨s', .ok .null, ?_, hall,
    .add hchange (hsound.lists hkey hx hi) (hsound'.lists hkey (Attrs.lookup_set _) ht)⟩
  unfold BuildOp.run
  rw [Action.runOn_perform, show s.depthLimit = 995 + 8 * s.size + 5 by unfold depthLimit; omega]
  exact hrun

theorem Sound.set (h : s.Sound) (ha : s.Applicable (.set r key x)) :
    ∃ s' o, (BuildOp.set r key x).run s = (o, s') ∧ s'.Sound ∧ s.Does s' (.set r key x) o := by
  obtain ⟨n, hn, hk, hassign⟩ := ha
  have hsound := h.node hn
  have hsingle := NodeClass.single_library _ hn.2 key (List.mem_cons_of_mem _ hassign)
  obtain ⟨hall, -, hchange⟩ := h.assign (x := x) hsound hk (keepsNodes_put s r _)
    (get?_put s _ (lt_size_of_get? hn.1)) fun hmem => absurd hmem hsingle
  refine ⟨_, .ok .null, ?_, hall, .set hchange⟩
  unfold BuildOp.run
  rw [Action.runOn_perform, show s.depthLimit = 997 + 8 * s.size + 3 by unfold depthLimit; omega]
  exact hsound.runOn_assign hassign hk x

theorem Sound.markNonNull (h : s.Sound) (ha : s.Applicable (.markNonNull r)) :
    ∃ s' o, (BuildOp.markNonNull r).run s = (o, s') ∧ s'.Sound ∧ s.Does s' (.markNonNull r) o := by
  obtain ⟨n, x, hn, hk, hx, hm⟩ := ha
  have hsound := h.node hn
  have hsingle := NodeClass.single_library _ hn.2 "nullable" (List.mem_cons_self ..)
  obtain ⟨o, s', hrun, hdone⟩ := hsound.runOn_markNonNull (k := 997 + 8 * s.size) hk hx hm
    (by unfold ampleDepth; omega)
  have hrun' : (BuildOp.markNonNull r).run s = (o, s') := by
    unfold BuildOp.run
    rw [Action.runOn_perform, show s.depthLimit = 997 + 8 * s.size + 3 by unfold depthLimit; omega]
    exact hrun
  refine ⟨s', o, hrun', ?_⟩
  rcases hdone with ⟨s₁, rfl, hkeep, rfl⟩ | ⟨hfail, hkeep⟩
  · have hn₁ := (hkeep.node id).mpr hn.1
    obtain ⟨hall, -, hchange⟩ := h.assign (x := .bool false) hsound hk
      (hkeep.of_nowhere.trans (keepsNodes_put s₁ r _)) (get?_put s₁ _ (lt_size_of_get? hn₁))
      fun hmem => absurd hmem hsingle
    exact ⟨hall, .mark hchange⟩
  · cases o with
    | ok v => exact absurd rfl (hfail v)
    | error e => exact ⟨h.aside hkeep, .refuse hkeep⟩

theorem Sound.copy (h : s.Sound) (ha : s.Applicable (.copy r)) :
    ∃ s' o, (BuildOp.copy r).run s = (o, s') ∧ s'.Sound ∧ s.Does s' (.copy r) o := by
  obtain ⟨n, hn⟩ := ha
  have hsound := h.node hn
  obtain ⟨s', slots, hrun, hgrow, hmade, hkeep, hall⟩ := hsound.runOn_copy (995 + 8 * s.size)
  have hsequence : ∀ key ∈ n.cls.sequenceKeys, ∃ x y items, n.slots.lookup key = some x ∧
      s.frozen? x = some items ∧ slots.lookup key = some y ∧ s'.frozen? y = some items := by
    intro key hkey
    obtain ⟨x, y, hx, hy, hkept⟩ := hall key (hsound.regular.sequence_subset key hkey)
    obtain ⟨x', items, hx', hi⟩ := hsound.sequence key hkey
    obtain rfl := Option.some.inj (hx.symm.trans hx')
    rw [List.contains_iff_mem.mpr hkey] at hkept
    exact ⟨x, y, items, hx, hi, hy, hkept.frozen? (frozen?_grows hgrow hi)⟩
  have hsound' : s'.SoundNode s.size ⟨n.cls, slots, .own [], none⟩ := by
    refine hmade.soundNode hn.2 fun key hkey => ?_
    obtain ⟨-, y, items, -, -, hy, hi⟩ := hsequence key hkey
    exact ⟨y, items, hy, hi⟩
  refine ⟨s', .ok (.ref s.size), ?_, ?_, ?_⟩
  · unfold BuildOp.run
    rw [Action.runOn_perform, show s.depthLimit = 995 + 8 * s.size + 5 by unfold depthLimit; omega]
    exact hrun
  · refine h.keepsNodes hkeep (fun hi => Nat.ne_of_lt (lt_size_of_frozen? hi)) ?_
    rintro q m rfl hm
    cases hmade.cell.symm.trans hm.1
    exact hsound'
  · refine .copy hkeep hn.1 hmade.cell rfl rfl fun key hkey => ?_
    obtain ⟨x, y, items, hx, hi, hy, hi'⟩ := hsequence key hkey
    have hmem := hsound.regular.sequence_subset key hkey
    exact ⟨x, y, items, hsound.lists hmem hx hi, hsound'.lists hmem hy hi'⟩

/-! ### Deep copies -/

/-- The copy of a sound node keeps child sequences of the copies of the items. -/
theorem Sound.copiedSequences {slots : Attrs} (h : s.Sound) (hcopied : Copied s s' copies)
    (hn : s.LibraryCell r n) (hall : ∀ key ∈ n.cls.keys, ∃ v y w, n.slots.lookup key = some v ∧
      Image s copies v y ∧ slots.lookup key = some w ∧
      s'.Kept s.size (n.cls.sequenceKeys.contains key) y w) :
    ∀ key ∈ n.cls.sequenceKeys, ∃ x w items items', n.slots.lookup key = some x ∧
      s.frozen? x = some items ∧ slots.lookup key = some w ∧ s'.frozen? w = some items' ∧
      List.Forall₂ (Image s copies) items items' := by
  intro key hkey
  have hsound := h.node hn
  obtain ⟨x, y, w, hx, himage, hw, hkept⟩ := hall key (hsound.regular.sequence_subset key hkey)
  obtain ⟨x', items, hx', hi⟩ := hsound.sequence key hkey
  obtain rfl := Option.some.inj (hx.symm.trans hx')
  obtain ⟨t, items', rfl, hcell, -, hitems⟩ := hcopied.given hi himage
  rw [List.contains_iff_mem.mpr hkey] at hkept
  refine ⟨x, w, items, items', hx, hi, hw, hkept.frozen? ?_, hitems⟩
  unfold frozen?
  rw [cell?_ref hcell]

/-- The copy of a sound node is sound. -/
theorem Sound.soundCopy (h : s.Sound) (hcopied : Copied s s' copies) (hp : s.IsPart (.ref r))
    (hr : copies.lookup r = some (.ref t)) (hm : s'.LibraryCell t m) : s'.SoundNode t m := by
  obtain ⟨t', ht', -, hcopy⟩ := hcopied.copy hp hr
  cases ht'
  cases hcopy with
  | sequence _ hi => cases (cell_of_frozen? hi).symm.trans hm.1
  | @node n slots hn hmade hall =>
    cases hmade.cell.symm.trans hm.1
    refine hmade.soundNode hm.2 fun key hkey => ?_
    obtain ⟨-, w, -, items', -, -, hw, hi, -⟩ :=
      h.copiedSequences hcopied ⟨hn.cell, hm.2⟩ hall key hkey
    exact ⟨w, items', hw, hi⟩

theorem Sound.deepCopy (h : s.Sound) (ha : s.Applicable (.deepCopy r)) :
    ∃ s' o, (BuildOp.deepCopy r).run s = (o, s') ∧ s'.Sound ∧ s.Does s' (.deepCopy r) o := by
  obtain ⟨n, hn, hclonable⟩ := ha
  have hsound := h.node hn
  obtain ⟨y, s', copies, hrun, hstep, himage⟩ :=
    copyable_of_clonable h.classAttrs hclonable hclonable.tall (ampleDepth_le s) _ _ (.start s)
  have hcopied := hstep.copied
  have hpart : s.IsPart (.ref r) := .inl ⟨n, hsound.regularNode.node?⟩
  obtain ⟨t, rfl, hr, hle, hcopy⟩ : ∃ t, y = .ref t ∧ copies.lookup r = some (.ref t) ∧
      s.size ≤ t ∧ CopyOf s s' copies r t := by
    cases himage with
    | other hnot => exact absurd hpart hnot
    | object _ hr =>
      obtain ⟨t, rfl, hle, hcopy⟩ := hcopied.copy hpart hr
      exact ⟨t, rfl, hr, hle, hcopy⟩
  have hkeep := hstep.grows.keepsNodes
  refine ⟨s', .ok (.ref t), ?_, ?_, ?_⟩
  · unfold BuildOp.run
    rw [Action.runOn_perform, show s.depthLimit = (s.size + 1) + (994 + 7 * s.size) + 5 by
      unfold depthLimit
      omega]
    exact Action.runOn_bind_ok (Action.runOn_get s) _ |>.trans ((Action.runOn_bind_ok hrun _).trans rfl)
  · refine h.keepsNodes hkeep (fun hi => Nat.not_le.mpr (lt_size_of_frozen? hi)) fun hq hm => ?_
    obtain hlt | ⟨z, hz, hcopied'⟩ := hcopied.node hm.1
    · exact absurd hlt (Nat.not_lt.mpr hq)
    · exact h.soundCopy hcopied hz hcopied' hm
  · cases hcopy with
    | sequence hi => cases (cell_of_frozen? hi).symm.trans hn.1
    | @node n' slots hn' hmade hall =>
      cases hn'.cell.symm.trans hn.1
      have hsound' := h.soundCopy hcopied hpart hr ⟨hmade.cell, hn.2⟩
      refine .deepCopy hkeep hcopied hn.1 hr hmade.cell rfl fun key hkey => ?_
      obtain ⟨x, w, items, items', hx, hi, hw, hi', hitems⟩ :=
        h.copiedSequences hcopied hn hall key hkey
      have hmem := hsound.regular.sequence_subset key hkey
      exact ⟨x, w, items, items', hsound.lists hmem hx hi, hsound'.lists hmem hw hi', hitems⟩

/-! ### Any operation -/

/-- **An operation that can be performed does what it is for, and leaves all nodes sound.** -/
theorem Sound.run (h : s.Sound) (ha : s.Applicable op) :
    ∃ s' o, op.run s = (o, s') ∧ s'.Sound ∧ s.Does s' op o := by
  cases op with
  | construct => exact h.construct ha
  | add => exact h.add ha
  | set => exact h.set ha
  | markNonNull => exact h.markNonNull ha
  | copy => exact h.copy ha
  | deepCopy => exact h.deepCopy ha

end Store
end GraphQLTree
