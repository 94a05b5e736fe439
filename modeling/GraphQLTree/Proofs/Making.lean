import GraphQLTree.Proofs.Gathering

/-! # Making nodes

What it does to call a regular class (`Store.runOn_construct`): the new node keeps the arguments for the
keys as they are, but for each key of a sequence a new child sequence with the items of the argument
(`Store.Assigned`). No other node is changed. Where the arguments for the keys of sequences are child
sequences themselves, nothing else changes at all (`Store.runOn_make`). -/

namespace GraphQLTree

/-! ### Attributes -/

namespace Attrs

theorem set_of_lookup {attrs : Attrs} {name : String} (h : attrs.lookup name = none) (v : Value) :
    attrs.set name v = attrs ++ [(name, v)] := by
  induction attrs with
  | nil => rfl
  | cons entry attrs ih =>
    obtain ⟨a, w⟩ := entry
    rw [List.lookup_cons] at h
    split at h
    · nomatch h
    · rename_i hne
      unfold set
      rw [if_neg (Ne.symm (beq_eq_false_iff_ne.mp hne)), ih h]
      rfl

theorem lookup_append {attrs more : Attrs} {name : String} :
    (attrs ++ more).lookup name = (attrs.lookup name).or (more.lookup name) := by
  induction attrs with
  | nil => rfl
  | cons entry attrs ih =>
    obtain ⟨a, w⟩ := entry
    rw [List.cons_append, List.lookup_cons, List.lookup_cons]
    split
    · rfl
    · exact ih

theorem lookup_none_of_notMem {attrs : Attrs} {name : String} (h : name ∉ attrs.map Prod.fst) :
    attrs.lookup name = none := by
  induction attrs with
  | nil => rfl
  | cons entry attrs ih =>
    obtain ⟨a, w⟩ := entry
    rw [List.map_cons, List.mem_cons, not_or] at h
    rw [List.lookup_cons, beq_eq_false_iff_ne.mpr h.1]
    exact ih h.2

end Attrs

/-! ### The arguments of a new node -/

/-- Arguments by name are handed on to the initialisation of a node. -/
theorem Routine.bind_initNode {default? : Option (String × Default)} {function : String}
    (v : Value) {named : Attrs} (h : "self" ∉ named.map Prod.fst) :
    (Routine.initNode default?).signature.bind function [v] named =
      .ok ⟨[some v], [], named⟩ := by
  have hnamed (acc : Attrs) : named.foldlM ((Routine.initNode default?).signature.addNamed function)
      ⟨[some v], [], acc⟩ = .ok ⟨[some v], [], acc ++ named⟩ := by
    induction named generalizing acc with
    | nil => rw [List.append_nil]; rfl
    | cons arg named ih =>
      rw [List.map_cons, List.mem_cons, not_or] at h
      have hadd : (Routine.initNode default?).signature.addNamed function ⟨[some v], [], acc⟩ arg =
          .ok ⟨[some v], [], acc ++ [arg]⟩ := by
        have hindex : (Routine.initNode default?).signature.names.idxOf? arg.1 = none := by
          change List.idxOf? arg.1 ["self"] = none
          rw [List.idxOf?_cons, beq_eq_false_iff_ne.mpr h.1]
          rfl
        unfold Signature.addNamed
        rw [hindex]
        rfl
      rw [List.foldlM_cons, hadd]
      refine (ih h.2 (acc ++ [arg])).trans ?_
      rw [List.append_assoc, List.singleton_append]
  unfold Signature.bind
  have hall := hnamed []
  rw [List.nil_append] at hall
  change (named.foldlM ((Routine.initNode default?).signature.addNamed function)
    (⟨[some v], [], []⟩ : Arguments) >>= _) = _
  rw [hall]
  rfl

theorem Action.lookup_withDefault {default? : Option (String × Default)} {args : Attrs}
    {key : String} {v : Value} (h : args.lookup key = some v) :
    (withDefault default? args).lookup key = some v := by
  unfold withDefault
  split
  · split
    · exact h
    · rw [Attrs.lookup_append, h]
      rfl
  · exact h

/-- A default is for its own key only. -/
theorem Attrs.given_withDefault {default? : Option (String × Default)} {args : Attrs} {key : String}
    (h : ∀ d ∈ default?, d.1 ≠ key) : (Action.withDefault default? args).given key = args.given key := by
  unfold Action.withDefault
  split
  · rename_i name default
    split
    · rfl
    · have hne : key ≠ name := Ne.symm (h _ rfl)
      unfold given
      rw [lookup_append, List.lookup_cons, beq_eq_false_iff_ne.mpr hne]
      cases args.lookup key <;> rfl
  · rfl

namespace Store

variable {s s' s₁ s₂ : Store} {r t : Ref} {c : NodeClass} {args : Attrs} {k : Nat} {key : String}
  {keys : List String} {taken taken' : List (String × List Value)} {slots : Attrs} {x : Value}
  {P : Store → Prop} {vs : List Value}

/-! ### Assigning one key -/

/-- A node that is being made: the keys that were assigned so far have values. -/
structure Unfinished (s : Store) (r : Ref) (c : NodeClass) (slots : Attrs) : Prop where
  classAttrs : s.classAttrs = []
  cell : s.get? r = some (.node ⟨c, slots, .own [], none⟩)

theorem Unfinished.regularNode (h : s.Unfinished r c slots) (hc : c.Regular) :
    s.RegularNode r ⟨c, slots, .own [], none⟩ :=
  ⟨h.classAttrs, h.cell, hc, [], rfl, fun _ _ => rfl⟩

/-- What is kept under a key, and what is gone through for that. -/
inductive Takes (c : NodeClass) (args : Attrs) (k : Nat) (key : String) (s : Store) :
    List (String × List Value) → Value → Store → Prop
  | single : key ∉ c.sequenceKeys → Takes c args k key s [] (args.given key) s
  | sequence {items : List Value} {s₁ : Store} : key ∈ c.sequenceKeys →
      Effect.runOn (Action.gathered (args.given key) (Behaviour.level k)) s = (.ok items, s₁) →
      s.KeepsNodes nowhere s₁ → Takes c args k key s [(key, items)] (.ref s₁.size)
        (s₁.alloc (.tuple .frozen items (.own []))).2

theorem Takes.keepsNodes (h : Takes c args k key s taken x s') : s.KeepsNodes nowhere s' := by
  cases h with
  | single => exact .refl _ s
  | sequence _ _ hkeep => exact hkeep.trans (keepsNodes_alloc _ (by simp))

/-- The value for a key, for whatever is done with it then. -/
theorem runOn_takes (hs : s.classAttrs = []) (hP : P s) (hg : Gatherable P r (k + 1) s₁ vs)
    (hv : key ∈ c.sequenceKeys → args.given key ∈ vs) :
    ∃ taken x s', Takes c args (k + 1) key s taken x s' ∧ P s' ∧
      ∀ act : Value → Action Unit, Effect.runOn ((do
        if ← (Action.NameList.names c.sequenceKeys).has (.text key) then
          Action.freeze (args.given key) >>= act
        else pure (args.given key) >>= act : Action Unit) (Behaviour.level (k + 1))) s =
          Effect.runOn (act x (Behaviour.level (k + 1))) s' := by
  have hhas := Action.runOn_has hs c.sequenceKeys key k
  by_cases hk : key ∈ c.sequenceKeys
  · rw [List.contains_iff_mem.mpr hk] at hhas
    obtain ⟨items, s₂, hrun, hkeep, hP₂⟩ := hg.gather (hv hk) hP
    refine ⟨_, _, _, .sequence hk hrun hkeep, hg.keep hP₂ (keepsBut_alloc r _ _), fun act => ?_⟩
    exact (Action.runOn_bind_ok hhas _).trans (Action.runOn_bind_ok (runOn_freeze hrun) _)
  · have hno : c.sequenceKeys.contains key = false := by simpa using hk
    rw [hno] at hhas
    exact ⟨_, _, _, .single hk, hP, fun act => Action.runOn_bind_ok hhas _⟩

/-! ### Assigning all keys -/

/-- What was assigned for some keys of a new node at `r`: the arguments themselves, and new child
sequences with the items of those for sequences. -/
structure Assigned (c : NodeClass) (r : Ref) (args : Attrs) (k : Nat) (keys : List String) (s s' : Store)
    (slots : Attrs) (taken : List (String × List Value)) : Prop where
  keepsNodes : s.KeepsNodes (· = r) s'
  names : slots.map Prod.fst = keys
  takenNames : taken.map Prod.fst = keys.filter (c.sequenceKeys.contains ·)
  gathers : Gathers r args k s taken s'
  single : ∀ key ∈ keys, key ∉ c.sequenceKeys → slots.lookup key = some (args.given key)
  sequence : ∀ e ∈ taken, ∃ t, slots.lookup e.1 = some (.ref t) ∧ s.size ≤ t ∧
    s'.get? t = some (.tuple .frozen e.2 (.own []))

theorem Assigned.nil (s : Store) : Assigned c r args k [] s s [] [] where
  keepsNodes := .refl _ s
  names := rfl
  takenNames := rfl
  gathers := .done ((Grows.refl s).keepsBut r)
  single := by simp
  sequence := by simp

/-- One more key was assigned before. -/
theorem Assigned.cons (hn : key ∉ keys) (ht : Takes c args k key s taken x s₁)
    (hput : s₁.KeepsBut r s₂) (hput' : s₁.KeepsNodes (· = r) s₂) (hr : r < s.size)
    (h : Assigned c r args k keys s₂ s' slots taken') :
    Assigned c r args k (key :: keys) s s' ((key, x) :: slots) (taken ++ taken') := by
  have hne : ∀ {key'}, key' ∈ keys → key' ≠ key := by
    rintro key' hmem rfl
    exact hn hmem
  have hlookup : ∀ {key'}, key' ≠ key → ((key, x) :: slots).lookup key' = slots.lookup key' := by
    intro key' hne
    rw [List.lookup_cons, beq_eq_false_iff_ne.mpr hne]
  have hself : ((key, x) :: slots).lookup key = some x := by
    rw [List.lookup_cons, beq_self_eq_true]
  have hrest : ∀ e ∈ taken', ∃ t, ((key, x) :: slots).lookup e.1 = some (.ref t) ∧ s.size ≤ t ∧
      s'.get? t = some (.tuple .frozen e.2 (.own [])) := by
    intro e he
    obtain ⟨t, ht', hle, hc⟩ := h.sequence e he
    have hmem : e.1 ∈ keys := by
      have hmem := List.mem_map_of_mem (f := Prod.fst) he
      rw [h.takenNames] at hmem
      exact (List.mem_filter.mp hmem).1
    have hsize : s.size ≤ s₂.size := Nat.le_trans ht.keepsNodes.size hput.size
    exact ⟨t, (hlookup (hne hmem)).trans ht', Nat.le_trans hsize hle, hc⟩
  have hsingle : ∀ key' ∈ keys, key' ∉ c.sequenceKeys →
      ((key, x) :: slots).lookup key' = some (args.given key') := by
    intro key' hmem hnot
    exact (hlookup (hne hmem)).trans (h.single key' hmem hnot)
  have hkeep : s.KeepsNodes (· = r) s' := (ht.keepsNodes.of_nowhere.trans hput').trans h.keepsNodes
  have hnames : ((key, x) :: slots).map Prod.fst = key :: keys := by
    rw [List.map_cons, h.names]
  cases ht with
  | single hk =>
    refine ⟨hkeep, hnames, ?_, h.gathers.after hput, ?_, hrest⟩
    · rw [List.filter_cons_of_neg (by simpa using hk)]
      exact h.takenNames
    · exact List.forall_mem_cons.mpr ⟨fun _ => hself, hsingle⟩
  | @sequence items s₁ hk hrun hgather =>
    have hnot : s₁.size ≠ r := Nat.ne_of_gt (Nat.lt_of_lt_of_le hr hgather.size)
    refine ⟨hkeep, hnames, ?_, ?_, ?_, ?_⟩
    · rw [List.filter_cons_of_pos (by simpa using hk), List.map_append, h.takenNames]
      rfl
    · refine .next ((Grows.refl s).keepsBut r) hrun (h.gathers.after ?_)
      exact (keepsBut_alloc r _ _).trans hput
    · exact List.forall_mem_cons.mpr ⟨fun hnot => absurd hk hnot, hsingle⟩
    · refine List.forall_mem_cons.mpr ⟨⟨s₁.size, hself, hgather.size, ?_⟩, hrest⟩
      exact h.keepsNodes.tuple hnot (hput'.tuple hnot (get?_alloc s₁ _))

theorem Unfinished.lt_size (h : s.Unfinished r c slots) : r < s.size :=
  lt_size_of_get? h.cell

/-- The keys of a new node are assigned one after the other. The induction is on the keys that are
left, and what was assigned before them is in `slots`. -/
theorem runOn_assignKeys (hc : c.Regular) (hg : Gatherable P r (k + 2) s₁ vs)
    (hv : ∀ key ∈ c.sequenceKeys, args.given key ∈ vs) (hu : s.Unfinished r c slots) (hP : P s)
    (hkeys : ∀ key ∈ keys, key ∈ c.keys) (hn : keys.Nodup)
    (hslots : ∀ key ∈ "_hash" :: keys, slots.lookup key = none) :
    ∃ s' slots' taken, Effect.runOn (Action.assignKeys (.ref r) args (.names c.sequenceKeys)
        (keys.map .text) (Behaviour.level (k + 2))) s = (.ok (), s') ∧ P s' ∧
      s'.Unfinished r c (slots ++ slots') ∧ Assigned c r args (k + 2) keys s s' slots' taken := by
  induction keys generalizing s slots with
  | nil =>
    refine ⟨s, [], [], rfl, hP, ?_, .nil s⟩
    rwa [List.append_nil]
  | cons key keys ih =>
    obtain ⟨hkey, hkeys⟩ := List.forall_mem_cons.mp hkeys
    obtain ⟨hnew, hn⟩ := List.nodup_cons.mp hn
    obtain ⟨taken, x, s₁, htakes, hP₁, hrun₁⟩ := runOn_takes (k := k + 1) hu.classAttrs hP hg (hv key)
    have hu₁ : s₁.Unfinished r c slots :=
      ⟨htakes.keepsNodes.classAttrs.trans hu.classAttrs, (htakes.keepsNodes.node id).mpr hu.cell⟩
    have hset := (hu₁.regularNode hc).runOn_setAttr (k := k) (hslots _ (List.mem_cons_self ..)) hkey x
    have habsent : slots.lookup key = none := hslots key (by simp)
    rw [Attrs.set_of_lookup habsent] at hset
    have hput := keepsBut_put s₁ r (.node ⟨c, slots ++ [(key, x)], .own [], none⟩)
    have hput' := keepsNodes_put s₁ r (.node ⟨c, slots ++ [(key, x)], .own [], none⟩)
    have hu₂ : (s₁.put r (.node ⟨c, slots ++ [(key, x)], .own [], none⟩)).Unfinished r c
        (slots ++ [(key, x)]) := ⟨hu₁.classAttrs, get?_put s₁ _ hu₁.lt_size⟩
    have hslots₂ : ∀ key' ∈ "_hash" :: keys, (slots ++ [(key, x)]).lookup key' = none := by
      intro key' hmem
      have hne : key' ≠ key := by
        rcases List.mem_cons.mp hmem with rfl | hmem
        · exact fun h => hc.digest_notMem (h ▸ hkey)
        · exact fun h => hnew (h ▸ hmem)
      have hold : slots.lookup key' = none := hslots key' (by
        rcases List.mem_cons.mp hmem with rfl | hmem
        · exact List.mem_cons_self ..
        · exact List.mem_cons_of_mem _ (List.mem_cons_of_mem _ hmem))
      rw [Attrs.lookup_append, hold, List.lookup_cons, beq_eq_false_iff_ne.mpr hne]
      rfl
    obtain ⟨s', slots', taken', hrun, hP', hu', hall⟩ :=
      ih hu₂ (hg.keep hP₁ hput) hkeys hn hslots₂
    refine ⟨s', (key, x) :: slots', taken ++ taken', ?_, hP', ?_,
      hall.cons hnew htakes hput hput' hu.lt_size⟩
    · have hgiven : Effect.runOn (Action.argumentOf args (.text key) (Behaviour.level (k + 2))) s =
          (.ok (args.given key), s) := rfl
      rw [List.map_cons]
      refine (Action.runOn_bind_ok hgiven _).trans ?_
      exact (hrun₁ _).trans ((Action.runOn_bind_ok hset _).trans hrun)
    · rwa [List.append_assoc] at hu'

/-! ### Making a node -/

/-- A node that was made: all of its keys have values, and nothing else does. -/
structure Made (s : Store) (r : Ref) (c : NodeClass) (slots : Attrs) : Prop
    extends s.Unfinished r c slots where
  names : slots.map Prod.fst = c.keys

/-- A new node is initialised. -/
theorem runOn_initNode (hc : c.Regular) (hu : s.Unfinished r c [])
    (hg : Gatherable P r (k + 2) s vs) (hv : ∀ key ∈ c.sequenceKeys, args.given key ∈ vs)
    {default? : Option (String × Default)} (hd : ∀ d ∈ default?, d.1 ∉ c.sequenceKeys) :
    ∃ s' slots taken, Effect.runOn (Action.initNode (.ref r) default? args
        (Behaviour.level (k + 2))) s = (.ok (), s') ∧ P s' ∧ s'.Made r c slots ∧
      Assigned c r (Action.withDefault default? args) (k + 2) c.keys s s' slots taken := by
  have hnode := hu.regularNode hc
  obtain ⟨_, hseq⟩ := hc.sequenceKeys
  have hv' : ∀ key ∈ c.sequenceKeys, (Action.withDefault default? args).given key ∈ vs := by
    intro key hkey
    rw [Attrs.given_withDefault fun d hmem heq => hd d hmem (heq ▸ hkey)]
    exact hv key hkey
  obtain ⟨s', slots, taken, hrun, hP, hu', hall⟩ := runOn_assignKeys hc hg hv' hu hg.start
    (fun _ => id) hc.nodup (fun _ _ => rfl)
  refine ⟨s', slots, taken, ?_, hP, ⟨hu', hall.names⟩, hall⟩
  refine (Action.runOn_bind_ok (hnode.runOn_nameList (by decide) hseq) _).trans ?_
  exact (Action.runOn_bind_ok hnode.runOn_namesOf _).trans hrun

theorem Assigned.after (h : Assigned c r args k keys s₁ s' slots taken) (hk : s.KeepsBut r s₁)
    (hk' : s.KeepsNodes (· = r) s₁) : Assigned c r args k keys s s' slots taken where
  keepsNodes := hk'.trans h.keepsNodes
  names := h.names
  takenNames := h.takenNames
  gathers := h.gathers.after hk
  single := h.single
  sequence e he := by
    obtain ⟨t, ht, hle, hc⟩ := h.sequence e he
    exact ⟨t, ht, Nat.le_trans hk'.size hle, hc⟩

/-- A regular class that is called with arguments for its keys makes a new node. -/
theorem runOn_construct (hc : c.Regular) (h : s.classAttrs = []) (hself : "self" ∉ args.map Prod.fst)
    (hg : Gatherable P s.size (k + 2) s vs) (hv : ∀ key ∈ c.sequenceKeys, args.given key ∈ vs) :
    ∃ s' slots taken default?,
      Effect.runOn (Action.callWith (.type (.node c)) [] args (Behaviour.level (k + 4))) s =
        (.ok (.ref s.size), s') ∧ P s' ∧ s'.Made s.size c slots ∧
      (∀ d ∈ default?, d.1 ∉ c.sequenceKeys) ∧
      Assigned c s.size (Action.withDefault default? args) (k + 2) c.keys s s' slots taken := by
  obtain ⟨s₁, hs₁⟩ : ∃ s₁, s₁ = (s.alloc (.node ⟨c, [], .own [], none⟩)).2 := ⟨_, rfl⟩
  have hgrow : s.Grows s₁ := hs₁ ▸ s.grows_alloc _
  have hkeep : s.KeepsNodes (· = s.size) s₁ := hs₁ ▸ keepsNodes_alloc_new s _
  have hu : s₁.Unfinished s.size c [] :=
    ⟨hgrow.classAttrs.trans h, hs₁ ▸ get?_alloc s _⟩
  have hnode := hu.regularNode hc
  have hg₁ : Gatherable P s.size (k + 2) s₁ vs :=
    ⟨hg.keep hg.start (hgrow.keepsBut _), hg.keep, hg.gather⟩
  obtain ⟨_, owner, default?, hinit, hd⟩ := hc.init
  obtain ⟨s', slots, taken, hrun, hP, hu', hall⟩ := runOn_initNode hc hu hg₁ hv hd
  refine ⟨s', slots, taken, default?, ?_, hP, hu', hd, hall.after (hgrow.keepsBut _) hkeep⟩
  have hfunction : Effect.runOn (Action.callWith (.function ⟨owner, "__init__", .initNode default?⟩)
      [.ref s.size] args (Behaviour.level (k + 3))) s₁ = (.ok .null, s') := by
    have hbind : Effect.runOn (Action.ofExcept ((Routine.initNode default?).signature.bind
        (owner ++ "." ++ "__init__") [.ref s.size] args) (Behaviour.level (k + 2))) s₁ =
          (.ok ⟨[some (.ref s.size)], [], args⟩, s₁) := by
      rw [Routine.bind_initNode _ hself]
      rfl
    change Effect.runOn (Action.callFunction ⟨owner, "__init__", .initNode default?⟩ [.ref s.size] args
      (Behaviour.level (k + 2))) s₁ = _
    refine (Action.runOn_bind_ok hbind _).trans ?_
    exact Action.runOn_bind_ok hrun _
  have hinitialise : Effect.runOn (Action.initialise (.ref s.size) [] args
      (Behaviour.level (k + 3))) s₁ = (.ok (), s') := by
    refine (Effect.runOn_bind_ok (Effect.runOn_get s₁) _).trans ?_
    rw [hnode.classEntry?, hinit]
    exact Action.runOn_bind_ok hfunction _
  have hnew : s.special? (.node c) "__new__" = none := by
    rw [special?_node h]
    exact hc.special _ (by decide)
  refine (Effect.runOn_bind_ok (Effect.runOn_get s) _).trans ?_
  change Effect.runOn ((if c.isNode then Action.newObject (.node c) (.node ⟨c, [], .own [], none⟩) [] args
    else Action.newObject (.node c) (.object ⟨.node c, [], .own []⟩) [] args : Action Value)
      (Behaviour.level (k + 3))) s = _
  rw [hc.isNode]
  refine (Effect.runOn_bind_ok (Effect.runOn_get s) _).trans ?_
  rw [hnew]
  change Effect.runOn ((Action.initialise (.ref s.size) [] args >>= fun _ => pure (.ref s.size) :
    Action Value) (Behaviour.level (k + 3))) (s.alloc (.node ⟨c, [], .own [], none⟩)).2 = _
  rw [← hs₁]
  exact Action.runOn_bind_ok hinitialise _

/-! ### Making a node of child sequences -/

/-- Attributes of different names are assigned one behind the other. -/
theorem foldl_set {attrs done : Attrs} (h : (attrs.map Prod.fst).Nodup)
    (hd : ∀ a ∈ done.map Prod.fst, a ∉ attrs.map Prod.fst) :
    attrs.foldl (fun done (name, x) => done.set name x) done = done ++ attrs := by
  induction attrs generalizing done with
  | nil => rw [List.append_nil]; rfl
  | cons entry attrs ih =>
    obtain ⟨name, x⟩ := entry
    obtain ⟨hnew, h⟩ := List.nodup_cons.mp h
    have habsent : done.lookup name = none := Attrs.lookup_none_of_notMem fun hmem =>
      hd name hmem (List.mem_cons_self ..)
    rw [List.foldl_cons]
    dsimp only
    rw [Attrs.set_of_lookup habsent]
    refine (ih h fun a ha => ?_).trans (List.append_assoc ..)
    rw [List.map_append, List.mem_append] at ha
    rcases ha with ha | ha
    · exact fun hmem => hd a ha (List.mem_cons_of_mem _ hmem)
    · rwa [List.mem_singleton.mp ha]

theorem distinct_of_nodup {attrs : Attrs} (h : (attrs.map Prod.fst).Nodup) :
    Action.distinct attrs = attrs :=
  foldl_set h nofun

/-- What a new node keeps under a key for a given value, where `old` is the number of cells that were
there before: the value itself, or a new child sequence with the items of the given one. -/
inductive Kept (s : Store) (old : Nat) : (isSequence : Bool) → (given kept : Value) → Prop
  | same (v : Value) : Kept s old false v v
  | frozen {t t' : Ref} {items : List Value} :
      s.get? t = some (.tuple .frozen items (.own [])) →
      s.get? t' = some (.tuple .frozen items (.own [])) → old ≤ t' →
      Kept s old true (.ref t) (.ref t')

/-- What is given for a key of a class: any value, or a child sequence for the key of a sequence. -/
def Given (s : Store) (c : NodeClass) (args : Attrs) (key : String) : Prop :=
  ∃ v, args.lookup key = some v ∧ (key ∈ c.sequenceKeys →
    ∃ t items, v = .ref t ∧ s.get? t = some (.tuple .frozen items (.own [])))

theorem Given.tuple (h : s.Given c args key) (hk : key ∈ c.sequenceKeys) :
    ∃ t items, args.given key = .ref t ∧ s.get? t = some (.tuple .frozen items (.own [])) := by
  obtain ⟨v, hv, hseq⟩ := h
  obtain ⟨t, items, rfl, ht⟩ := hseq hk
  exact ⟨t, items, by simp [Attrs.given, hv], ht⟩

theorem Given.supplies (h : s.Given c args key) (hk : key ∈ c.sequenceKeys) :
    ∃ items, s.Supplies (args.given key) items := by
  obtain ⟨t, items, ht, hc⟩ := h.tuple hk
  exact ⟨items, .inr (ht ▸ sequence?_tuple hc)⟩

/-- What was gone through are the keys of sequences. -/
theorem Assigned.taken_sequence (h : Assigned c r args k keys s s' slots taken) :
    ∀ e ∈ taken, e.1 ∈ c.sequenceKeys := by
  intro e he
  have hmem := List.mem_map_of_mem (f := Prod.fst) he
  rw [h.takenNames] at hmem
  exact List.contains_iff_mem.mp (List.mem_filter.mp hmem).2

/-- Every key of a sequence was gone through. -/
theorem Assigned.exists_taken (h : Assigned c r args k keys s s' slots taken) (hkey : key ∈ keys)
    (hk : key ∈ c.sequenceKeys) : ∃ e ∈ taken, e.1 = key := by
  have hmem : key ∈ taken.map Prod.fst := by
    rw [h.takenNames]
    exact List.mem_filter.mpr ⟨hkey, List.contains_iff_mem.mpr hk⟩
  exact List.mem_map.mp hmem

/-- A regular class that is called with values for all of its keys, where child sequences are given for
the keys of sequences, makes a new node and changes nothing else. -/
theorem runOn_make (hc : c.Regular) (h : s.classAttrs = []) (hself : "self" ∉ args.map Prod.fst)
    (hg : ∀ key ∈ c.keys, s.Given c args key) (k : Nat) :
    ∃ s' slots, Effect.runOn (Action.callWith (.type (.node c)) [] args (Behaviour.level (k + 4))) s =
        (.ok (.ref s.size), s') ∧
      s.Grows s' ∧ s'.Made s.size c slots ∧ s.KeepsNodes (· = s.size) s' ∧
      ∀ key ∈ c.keys, ∃ v x, args.lookup key = some v ∧ slots.lookup key = some x ∧
        s'.Kept s.size (c.sequenceKeys.contains key) v x := by
  have hgiven : ∀ key ∈ c.sequenceKeys, s.Given c args key := fun key hkey =>
    hg key (hc.sequence_subset key hkey)
  have hsupplies : ∀ v ∈ c.sequenceKeys.map args.given, ∃ items, s.Supplies v items :=
    List.forall_mem_map.mpr fun key hkey => (hgiven key hkey).supplies hkey
  obtain ⟨s', slots, taken, default?, hrun, hgrow, hu, hd, hall⟩ := runOn_construct (k := k) hc h hself
    (gatherable_of_supplies h (Nat.le_refl _) hsupplies) fun key => List.mem_map_of_mem (f := args.given)
  refine ⟨s', slots, hrun, hgrow, hu, hall.keepsNodes, fun key hkey => ?_⟩
  obtain ⟨v, hv, -⟩ := hg key hkey
  have hv' : (Action.withDefault default? args).given key = v := by
    simp [Attrs.given, Action.lookup_withDefault hv]
  by_cases hk : key ∈ c.sequenceKeys
  · obtain ⟨e, he, rfl⟩ := hall.exists_taken hkey hk
    obtain ⟨t, items, ht, hc⟩ := (hgiven _ hk).tuple hk
    obtain ⟨t', ht', hle, hc'⟩ := hall.sequence e he
    have hdefault : ∀ key ∈ c.sequenceKeys,
        (Action.withDefault default? args).given key = args.given key := fun key hkey =>
      Attrs.given_withDefault fun d hmem heq => hd d hmem (heq ▸ hkey)
    have hsupplies : ∀ e ∈ taken, ∃ items,
        s.Supplies ((Action.withDefault default? args).given e.1) items := by
      intro e he
      have hkey := hall.taken_sequence e he
      rw [hdefault _ hkey]
      exact (hgiven _ hkey).supplies hkey
    have htaken : e.2 = items := by
      have hgathered := (hall.gathers.supplies h (Nat.le_refl _) (.refl s) hsupplies).2 e he
      rw [hdefault _ hk, ht] at hgathered
      obtain ⟨hnull, -⟩ | hi := hgathered
      · cases hnull
      · exact Option.some.inj (hi.symm.trans (sequence?_tuple hc))
    subst htaken
    obtain rfl : v = .ref t := hv'.symm.trans ((hdefault _ hk).trans ht)
    rw [List.contains_iff_mem.mpr hk]
    exact ⟨.ref t, .ref t', hv, ht', .frozen (hgrow.get?_eq hc) hc' hle⟩
  · have hno : c.sequenceKeys.contains key = false := by simpa using hk
    rw [hno]
    exact ⟨v, v, hv, hv' ▸ hall.single key hkey hk, .same v⟩

end Store
end GraphQLTree
