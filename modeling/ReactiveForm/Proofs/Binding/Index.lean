import ReactiveForm.Binding.Index
import ReactiveForm.Proofs.Directive.Reading
import ReactiveForm.Proofs.Document.Tree
import ReactiveForm.Proofs.Document.View

/-!
# `ReactiveForm.Proofs.Binding.Index` — the index lists every directive and finds it by its inputs

The index is built in one loop that fills three structures together. What it says afterwards does not
speak of the loop: the entries are the attributes that can be read, by kind and then in document order,
and the dependents of an input are those of the entries whose directive names it.

## Contents
- `Document.entry?` and `Index.build_entries`, the entries in closed form.
- `Document.Precedes`, the order of application, with `Index.ordered_entries` and `Index.pairwise_key`.
- `Index.build_induction`, from one attribute to all of them.
- `Index.Placed`, what ties the places to the entries, kept by `Index.insert`.
- `Index.dependents_build` and `Index.isRegistered_build`, the look-ups by input.
- `Index.perm_groups_build`: **the groups hold every switch once**, and `nodup_triggers`.
- `Element.directivePart` and `Index.build_congr`, what the index of a document is read from.
-/

namespace ReactiveForm

/-! ## References -/

theorem nodup_eraseDups (l : List String) : l.eraseDups.Nodup := by
  induction hn : l.length using Nat.strongRecOn generalizing l with
  | ind n ih =>
    cases l with
    | nil => exact List.Pairwise.nil
    | cons a rest =>
      rw [List.eraseDups_cons]
      refine List.nodup_cons.mpr ⟨fun h => ?_, ih _ ?_ _ rfl⟩
      · have hmem := List.mem_filter.mp (List.mem_eraseDups.mp h)
        simp at hmem
      · have hle := List.length_filter_le (fun b => !b == a) rest
        rw [List.length_cons] at hn
        omega

/-- A directive is listed once under each of its inputs. -/
theorem Directive.nodup_references (directive : Directive) : directive.references.Nodup := by
  cases directive with
  | echo input => exact List.pairwise_singleton _ _
  | _ => exact nodup_eraseDups _

/-! ## Entries -/

/-- The entry that an attribute of a node makes, if it can be read. -/
def Document.entry? (d : Document) (options : DirectiveOptions) (kind : DirectiveKind)
    (node : NodeId) : Option IndexedDirective :=
  match d.directive? options node kind with
  | some (.ok directive) => some ⟨node, directive⟩
  | _ => none

/-- What tells entries of an index apart. -/
def IndexedDirective.key (entry : IndexedDirective) : NodeId × DirectiveKind :=
  (entry.node, entry.directive.kind)

/-- **The order in which directives are applied:** by kind, and those of one kind in document order. -/
def Document.Precedes (d : Document) (a b : NodeId × DirectiveKind) : Prop :=
  [a.2, b.2].Sublist DirectiveKind.all ∨ a.2 = b.2 ∧ [a.1, b.1].Sublist d.descendants

/-- Neither kinds nor nodes come twice, so that nothing precedes itself. -/
theorem Document.Precedes.ne {d : Document} {a b : NodeId × DirectiveKind} (h : d.Precedes a b) :
    a ≠ b := by
  rintro rfl
  rcases h with h | ⟨-, h⟩
  · exact List.pairwise_iff_forall_sublist.mp (by decide : DirectiveKind.all.Nodup) h rfl
  · exact List.pairwise_iff_forall_sublist.mp d.tree.nodup_descendants h rfl

namespace Index

variable {d d' : Document} {options : DirectiveOptions} {switches : Bool}

theorem read_of_entry? {i : Index} {kind : DirectiveKind} {node : NodeId} :
    (i.read d options kind node).entries = i.entries ++ (d.entry? options kind node).toList := by
  unfold read Document.entry?
  split
  · next h => simp [h]
  · next h => simp [h, insert]
  · next h => simp [h]

/-- **What is collected from every attribute** stands by kind, and then in document order. -/
theorem collect_build {α : Type} {π : Index → List α} {f : DirectiveKind → NodeId → Option α}
    (hempty : π empty = [])
    (hread : ∀ i kind node, π (i.read d options kind node) = π i ++ (f kind node).toList) :
    π (build d options switches) =
      (indexedKinds switches).flatMap fun kind =>
        (d.withAttribute kind.attributeName).filterMap (f kind) := by
  have hnodes : ∀ (kind : DirectiveKind) (nodes : List NodeId) (i : Index),
      π (nodes.foldl (fun i node => i.read d options kind node) i) = π i ++ nodes.filterMap (f kind) := by
    intro kind nodes
    induction nodes with
    | nil => simp
    | cons node rest ih =>
      intro i
      rw [List.foldl_cons, ih, hread, List.append_assoc, List.filterMap_cons]
      cases f kind node <;> rfl
  have hkinds : ∀ (kinds : List DirectiveKind) (i : Index),
      π (kinds.foldl (fun i kind => (d.withAttribute kind.attributeName).foldl
          (fun i node => i.read d options kind node) i) i) =
        π i ++ kinds.flatMap fun kind => (d.withAttribute kind.attributeName).filterMap (f kind) := by
    intro kinds
    induction kinds with
    | nil => simp
    | cons kind rest ih =>
      intro i
      rw [List.foldl_cons, ih, hnodes, List.flatMap_cons, List.append_assoc]
  exact (hkinds (indexedKinds switches) empty).trans (by rw [hempty, List.nil_append])

/-- **The entries of an index:** by kind, and those of one kind in document order. -/
theorem build_entries :
    (build d options switches).entries =
      (indexedKinds switches).flatMap fun kind =>
        (d.withAttribute kind.attributeName).filterMap (d.entry? options kind) :=
  collect_build rfl fun _ _ _ => read_of_entry?

/-- **What reading every attribute preserves holds of the index:** the invariant is carried through the
nodes of one kind, and then through the kinds. -/
theorem build_induction {P : Index → Prop} (hempty : P empty)
    (hread : ∀ i kind node, P i → P (i.read d options kind node)) : P (build d options switches) := by
  have hnodes : ∀ (nodes : List NodeId) (kind : DirectiveKind) (i : Index), P i →
      P (nodes.foldl (fun i node => i.read d options kind node) i) := by
    intro nodes kind
    induction nodes with
    | nil => exact fun _ hi => hi
    | cons node rest ih => exact fun i hi => ih _ (hread i kind node hi)
  have hkinds : ∀ (kinds : List DirectiveKind) (i : Index), P i →
      P (kinds.foldl (fun i kind => (d.withAttribute kind.attributeName).foldl
        (fun i node => i.read d options kind node) i) i) := by
    intro kinds
    induction kinds with
    | nil => exact fun _ hi => hi
    | cons kind rest ih => exact fun i hi => ih _ (hnodes _ kind i hi)
  exact hkinds _ _ hempty

/-- An attribute is read as a directive of its own kind. -/
theorem kind_of_directive? {node : NodeId} {kind : DirectiveKind} {directive : Directive}
    (h : d.directive? options node kind = some (.ok directive)) : directive.kind = kind := by
  obtain ⟨raw, -, hraw⟩ := Option.map_eq_some_iff.mp h
  cases hp : Directive.parse options kind raw with
  | error e =>
    rw [hp] at hraw
    cases hraw
  | ok parsed =>
    rw [hp] at hraw
    rw [← Except.ok.inj hraw, ← Directive.kind_of_parse hp]
    cases parsed <;> rfl

/-- **An entry is what its element says.** So a node has one entry of each kind. -/
theorem directive?_of_mem {entry : IndexedDirective} (h : entry ∈ (build d options switches).entries) :
    d.directive? options entry.node entry.directive.kind = some (.ok entry.directive) := by
  rw [build_entries, List.mem_flatMap] at h
  obtain ⟨kind, -, h⟩ := h
  obtain ⟨node, -, h⟩ := List.mem_filterMap.mp h
  unfold Document.entry? at h
  split at h
  · next directive hd =>
    rw [← Option.some.inj h, kind_of_directive? hd]
    exact hd
  · cases h

/-- An entry tells which attribute it has been read from. -/
theorem key_of_entry? {kind : DirectiveKind} {node : NodeId} {entry : IndexedDirective}
    (h : d.entry? options kind node = some entry) : entry.key = (node, kind) := by
  unfold Document.entry? at h
  split at h
  · next directive hd =>
    rw [← Option.some.inj h]
    exact congrArg (Prod.mk node) (kind_of_directive? hd)
  · cases h

/-- **Whatever is collected from the attributes of a document stands in the order of application.** -/
theorem ordered_collect {α : Type} {f : DirectiveKind → NodeId → Option α}
    {key : α → NodeId × DirectiveKind} (hkey : ∀ kind node a, f kind node = some a → key a = (node, kind)) :
    ((indexedKinds switches).flatMap fun kind =>
        (d.withAttribute kind.attributeName).filterMap (f kind)).Pairwise
      fun a b => d.Precedes (key a) (key b) := by
  refine List.pairwise_flatMap.mpr ⟨fun kind _ => ?_, ?_⟩
  · -- those of one kind have been selected from the nodes in document order
    have hnodes : (d.withAttribute kind.attributeName).Pairwise fun n m => [n, m].Sublist d.descendants := by
      refine List.pairwise_iff_forall_sublist.mpr fun hsub => hsub.trans ?_
      unfold Document.withAttribute
      split <;> exact List.filter_sublist
    refine hnodes.filterMap _ fun n m hnm a ha b hb => .inr ?_
    rw [hkey kind n a ha, hkey kind m b hb]
    exact ⟨rfl, hnm⟩
  · refine List.pairwise_iff_forall_sublist.mpr fun {k l} hsub a ha b hb => .inl ?_
    obtain ⟨n, -, ha⟩ := List.mem_filterMap.mp ha
    obtain ⟨m, -, hb⟩ := List.mem_filterMap.mp hb
    rw [hkey k n a ha, hkey l m b hb]
    exact hsub.trans List.filter_sublist

/-- **The entries stand in the order of application.** -/
theorem ordered_entries :
    (build d options switches).entries.Pairwise fun a b => d.Precedes a.key b.key := by
  rw [build_entries]
  exact ordered_collect fun _ _ _ => key_of_entry?

/-- **An index has one entry of each kind for each node.** -/
theorem pairwise_key :
    (build d options switches).entries.Pairwise fun a b => a.key ≠ b.key :=
  ordered_entries.imp Document.Precedes.ne

theorem eq_of_mem {entry other : IndexedDirective} (h : entry ∈ (build d options switches).entries)
    (h' : other ∈ (build d options switches).entries) (hnode : entry.node = other.node)
    (hkind : entry.directive.kind = other.directive.kind) : entry = other := by
  have hd := directive?_of_mem h
  rw [hnode, hkind, directive?_of_mem h'] at hd
  obtain ⟨node, directive⟩ := entry
  obtain ⟨node', directive'⟩ := other
  obtain rfl : node = node' := hnode
  obtain rfl : directive' = directive := Except.ok.inj (Option.some.inj hd)
  rfl

theorem lt_size_of_mem {entry : IndexedDirective} (h : entry ∈ (build d options switches).entries) :
    entry.node.index < d.tree.size := by
  obtain ⟨raw, hraw, -⟩ := Option.map_eq_some_iff.mp (directive?_of_mem h)
  exact Document.lt_size_of_attribute? hraw

/-- The classes that the entries name can be added and removed. -/
theorem isClassName_of_mem {node : NodeId} {rules : List ClassRule}
    (h : ⟨node, .classIf rules⟩ ∈ (build d options switches).entries) :
    ∀ rule ∈ rules, ∀ c ∈ rule.classes, Document.isClassName c = true := by
  obtain ⟨raw, -, hraw⟩ := Option.map_eq_some_iff.mp (directive?_of_mem h)
  cases hp : Directive.parse options .classIf raw with
  | error e =>
    rw [show Directive.kind (.classIf rules) = .classIf from rfl, hp] at hraw
    cases hraw
  | ok parsed =>
    rw [show Directive.kind (.classIf rules) = .classIf from rfl, hp] at hraw
    have hparsed : parsed = .classIf rules := by
      cases parsed with
      | switch group own => cases Except.ok.inj hraw
      | _ => exact Except.ok.inj hraw
    rw [hparsed] at hp
    exact Directive.isClassName_of_parse hp

/-! ## Places -/

/-- The entries at some places. -/
def entriesAt (entries : List IndexedDirective) (places : List Nat) : List IndexedDirective :=
  places.filterMap fun place => entries[place]?

/-- One more entry at the end does not move the others. -/
theorem entriesAt_append {entries : List IndexedDirective} {places : List Nat}
    (h : ∀ place ∈ places, place < entries.length) (entry : IndexedDirective) :
    entriesAt (entries ++ [entry]) places = entriesAt entries places := by
  induction places with
  | nil => rfl
  | cons place rest ih =>
    have hrest := ih fun p hp => h p (List.mem_cons_of_mem _ hp)
    unfold entriesAt at hrest ⊢
    rw [List.filterMap_cons, List.filterMap_cons,
      List.getElem?_append_left (h place List.mem_cons_self), hrest]

/-- **What ties the places to the entries:** those of an input are places, they lead to the entries
that name the input in the order of the entries, and an input without entries is not listed. -/
structure Placed (i : Index) : Prop where
  lt : ∀ name, ∀ place ∈ (i.places.get? name).getD [], place < i.entries.length
  entries : ∀ name,
    entriesAt i.entries ((i.places.get? name).getD []) =
      i.entries.filter fun entry => entry.directive.references.contains name
  listed : ∀ name, i.places.get? name ≠ some []

theorem get?_foldl_pushAt {names : List String} (hnd : names.Nodup) (m : StringMap (List Nat))
    (place : Nat) (name : String) :
    (names.foldl (fun m name => pushAt m name place) m).get? name =
      if name ∈ names then some ((m.get? name).getD [] ++ [place]) else m.get? name := by
  induction names generalizing m with
  | nil => rfl
  | cons first rest ih =>
    obtain ⟨hfirst, hrest⟩ := List.nodup_cons.mp hnd
    rw [List.foldl_cons, ih hrest, pushAt, StringMap.get?_insert]
    by_cases he : name = first
    · subst he
      rw [if_neg hfirst, if_pos rfl, if_pos List.mem_cons_self]
    · rw [if_neg he]
      simp only [List.mem_cons, he, false_or]

namespace Placed

theorem empty : Placed empty where
  lt _ _ h := nomatch h
  entries _ := rfl
  listed _ h := nomatch h

/-- **A new entry is found under each of its inputs**, after all others, and under no other name. -/
theorem insert {i : Index} (h : i.Placed) (node : NodeId) (directive : Directive) :
    (i.insert node directive).Placed := by
  have hget : ∀ name, (i.insert node directive).places.get? name =
      if name ∈ directive.references then
        some ((i.places.get? name).getD [] ++ [i.entries.length]) else i.places.get? name :=
    fun name => get?_foldl_pushAt directive.nodup_references i.places i.entries.length name
  have hlen : (i.insert node directive).entries.length = i.entries.length + 1 :=
    List.length_append
  refine ⟨fun name place hplace => ?_, fun name => ?_, fun name => ?_⟩
  · rw [hget] at hplace
    rw [hlen]
    split at hplace
    · rcases List.mem_append.mp hplace with hp | hp
      · exact Nat.lt_succ_of_lt (h.lt name place hp)
      · rw [List.mem_singleton.mp hp]
        exact Nat.lt_succ_self _
    · exact Nat.lt_succ_of_lt (h.lt name place hplace)
  · -- the old places lead where they led, and the new one to the new entry
    obtain ⟨entry, hentry⟩ : ∃ entry : IndexedDirective, entry = ⟨node, directive⟩ := ⟨_, rfl⟩
    have hentries : (i.insert node directive).entries = i.entries ++ [entry] := by
      rw [hentry]
      rfl
    have hlast : [entry].filter (fun entry => entry.directive.references.contains name) =
        if name ∈ directive.references then [entry] else [] := by
      by_cases hname : name ∈ directive.references <;> simp [hentry, hname]
    have hplace : entriesAt (i.entries ++ [entry]) [i.entries.length] = [entry] := by
      simp [entriesAt]
    rw [hentries, hget, List.filter_append, hlast, ← h.entries name]
    split
    · calc entriesAt (i.entries ++ [entry]) ((i.places.get? name).getD [] ++ [i.entries.length])
          = entriesAt (i.entries ++ [entry]) ((i.places.get? name).getD []) ++
              entriesAt (i.entries ++ [entry]) [i.entries.length] := List.filterMap_append
        _ = entriesAt i.entries ((i.places.get? name).getD []) ++ [entry] := by
            rw [entriesAt_append (h.lt name), hplace]
    · rw [List.append_nil]
      exact entriesAt_append (h.lt name) _
  · rw [hget]
    split
    · exact fun he => List.append_ne_nil_of_right_ne_nil _ (List.cons_ne_nil _ _) (Option.some.inj he)
    · exact h.listed name

theorem read {i : Index} (h : i.Placed) (kind : DirectiveKind) (node : NodeId) :
    (i.read d options kind node).Placed := by
  unfold Index.read
  split
  · exact h
  · exact h.insert node _
  · exact ⟨h.lt, h.entries, h.listed⟩

/-- **The places of the index of a document are right.** -/
theorem build : (build d options switches).Placed :=
  build_induction .empty fun _ kind node h => h.read kind node

end Placed

/-- **The dependents of an input** are the entries that name it, in their order. -/
theorem dependents_build (name : String) :
    (build d options switches).dependents name =
      (build d options switches).entries.filter fun entry =>
        entry.directive.references.contains name :=
  Placed.build.entries name

theorem mem_dependents_build {name : String} {entry : IndexedDirective} :
    entry ∈ (build d options switches).dependents name ↔
      entry ∈ (build d options switches).entries ∧ name ∈ entry.directive.references := by
  rw [dependents_build, List.mem_filter, List.contains_iff_mem]

/-- An input is registered when an entry names it. -/
theorem isRegistered_build {name : String} :
    (build d options switches).isRegistered name = true ↔
      ∃ entry ∈ (build d options switches).entries, name ∈ entry.directive.references := by
  have hplaced : (build d options switches).Placed := Placed.build
  unfold isRegistered StringMap.contains
  constructor
  · intro h
    obtain ⟨places, hplaces⟩ := Option.isSome_iff_exists.mp h
    -- an input that is listed has a place, and the place leads to an entry
    have hne : places ≠ [] := fun he => hplaced.listed name (he ▸ hplaces)
    obtain ⟨place, rest, rfl⟩ := List.exists_cons_of_ne_nil hne
    have hlt := hplaced.lt name place (by rw [hplaces]; exact List.mem_cons_self)
    have hmem : (build d options switches).entries[place] ∈ (build d options switches).dependents name := by
      refine List.mem_filterMap.mpr ⟨place, ?_, List.getElem?_eq_getElem hlt⟩
      rw [hplaces]
      exact List.mem_cons_self
    exact ⟨_, mem_dependents_build.mp hmem⟩
  · rintro ⟨entry, hentry⟩
    obtain ⟨place, hplace, -⟩ := List.mem_filterMap.mp (mem_dependents_build.mpr hentry)
    cases hget : (build d options switches).places.get? name with
    | some places => rfl
    | none =>
      rw [hget] at hplace
      cases hplace

/-! ## Switch groups -/

/-- One more item at a key is one more item in all. -/
theorem perm_pushAt {α : Type} (m : StringMap (List α)) (key : String) (item : α) :
    ((pushAt m key item).entries.flatMap (·.2)).Perm (m.entries.flatMap (·.2) ++ [item]) := by
  obtain ⟨l, hl⟩ := m
  show ((StringMap.insertEntry key ((l.lookup key).getD [] ++ [item]) l).flatMap (·.2)).Perm
    (l.flatMap (·.2) ++ [item])
  induction l with
  | nil => exact .refl _
  | cons first rest ih =>
    obtain ⟨k, v⟩ := first
    obtain ⟨hfirst, hrest⟩ := List.pairwise_cons.mp hl
    rw [StringMap.insertEntry]
    split
    · next hlt =>
      -- the key comes before all others, so that it is new
      have hnone : ((k, v) :: rest).lookup key = none := by
        refine List.lookup_eq_none_iff.mpr fun entry hentry => ?_
        have hbefore : key < entry.1 := by
          rcases List.mem_cons.mp hentry with rfl | hentry
          · exact hlt
          · exact String.lt_trans hlt (hfirst entry hentry)
        have hne : key ≠ entry.1 := fun he => String.lt_irrefl _ (he ▸ hbefore)
        exact bne_iff_ne.mpr hne
      rw [hnone]
      exact List.perm_append_comm
    · split
      · next heq =>
        have hkey : (key == k) = true := beq_iff_eq.mpr heq
        rw [List.lookup_cons, hkey]
        show (v ++ [item] ++ rest.flatMap (·.2)).Perm (v ++ rest.flatMap (·.2) ++ [item])
        rw [List.append_assoc, List.append_assoc]
        exact List.perm_append_comm.append_left v
      · next hne =>
        rw [List.lookup_cons, beq_eq_false_iff_ne.mpr hne]
        show (v ++ (StringMap.insertEntry key ((rest.lookup key).getD [] ++ [item]) rest).flatMap (·.2)).Perm
          (v ++ rest.flatMap (·.2) ++ [item])
        rw [List.append_assoc]
        exact (ih hrest).append_left v

/-- The nodes of the switches of an index. -/
def switchNodes (i : Index) : List NodeId :=
  (i.entries.filter (·.directive.kind == .switch)).map (·.node)

/-- **The groups of an index hold every switch once.** -/
theorem perm_groups_build :
    ((build d options switches).groups.entries.flatMap (·.2)).Perm
      (build d options switches).switchNodes := by
  refine build_induction (P := fun i => (i.groups.entries.flatMap (·.2)).Perm i.switchNodes) (.refl _)
    fun i kind node hi => ?_
  unfold read
  split
  · exact hi
  · next directive _ =>
    have hnodes : (i.insert node directive).switchNodes =
        i.switchNodes ++ if directive.kind = .switch then [node] else [] := by
      unfold switchNodes insert
      rw [List.filter_append, List.map_append]
      by_cases hkind : directive.kind = .switch <;> simp [hkind]
    rw [hnodes]
    cases directive with
    | switch group own => exact (perm_pushAt i.groups group node).trans (hi.append_right [node])
    | _ =>
      rw [if_neg (fun h => nomatch h), List.append_nil]
      exact hi
  · exact hi

theorem nodup_switchNodes : (build d options switches).switchNodes.Nodup := by
  refine List.pairwise_map.mpr ?_
  refine List.Pairwise.imp_of_mem ?_ (pairwise_key.filter _)
  intro a b ha hb hkey hnode
  have hkind : ∀ {entry : IndexedDirective},
      entry ∈ (build d options switches).entries.filter (·.directive.kind == .switch) →
        entry.directive.kind = .switch := fun h => beq_iff_eq.mp (List.mem_filter.mp h).2
  exact hkey (Prod.ext hnode ((hkind ha).trans (hkind hb).symm))

/-- A trigger is listed once. -/
theorem nodup_triggers (d' : Document) : ((build d options switches).triggers d').Nodup := by
  have hswitches : (build d options switches).switchNodes.Nodup := nodup_switchNodes
  have hnodes := perm_groups_build.nodup_iff.mpr hswitches
  exact (List.mergeSort_perm _ _).nodup_iff.mpr (hnodes.filter _)

end Index

/-! ## What an index is read from -/

/-- The part of an element that its directives are read from. -/
def Element.directivePart (e : Element) : Option String × (DirectiveKind → Option String) :=
  (e.attribute? switchClassAttribute, fun kind => e.attribute? kind.attributeName)

/-- No kind is carried by the classes of an element. -/
theorem DirectiveKind.attributeName_ne_class (kind : DirectiveKind) : kind.attributeName ≠ "class" := by
  cases kind <;> decide

namespace Index

variable {d d' : Document}

/-- **Documents whose elements carry the same directives have the same index.** -/
theorem build_congr (h : d.view Element.directivePart = d'.view Element.directivePart)
    (options : DirectiveOptions) (switches : Bool) :
    build d options switches = build d' options switches := by
  have hwith : ∀ kind : DirectiveKind,
      d.withAttribute kind.attributeName = d'.withAttribute kind.attributeName := by
    intro kind
    unfold Document.withAttribute
    rw [if_neg kind.attributeName_ne_class, if_neg kind.attributeName_ne_class]
    refine Document.select_congr h fun e e' he => ?_
    exact congrArg Option.isSome (congrFun (congrArg Prod.snd he) kind)
  have hclass : ∀ node, d.switchClass? node = d'.switchClass? node := by
    intro node
    unfold Document.switchClass?
    rw [show d.attribute? node switchClassAttribute = d'.attribute? node switchClassAttribute from
      Document.bind_element?_congr (Document.map_element?_of_view h node) fun _ _ => congrArg Prod.fst]
  have hdirective : ∀ kind node, d.directive? options node kind = d'.directive? options node kind := by
    intro kind node
    unfold Document.directive?
    rw [hclass node, show d.attribute? node kind.attributeName = d'.attribute? node kind.attributeName from
      Document.bind_element?_congr (Document.map_element?_of_view h node) fun _ _ he =>
        congrFun (congrArg Prod.snd he) kind]
  have hread : (fun (i : Index) (kind : DirectiveKind) (node : NodeId) => i.read d options kind node) =
      fun i kind node => i.read d' options kind node := by
    funext i kind node
    unfold read
    rw [hdirective]
  show (indexedKinds switches).foldl (fun i kind => (d.withAttribute kind.attributeName).foldl
      (fun i node => (fun (i : Index) kind node => i.read d options kind node) i kind node) i) empty = _
  simp only [hread, hwith]
  rfl

end Index

end ReactiveForm
