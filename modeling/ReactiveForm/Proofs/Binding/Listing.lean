import ReactiveForm.Proofs.Binding.Index

/-!
# `ReactiveForm.Proofs.Binding.Listing` — an index says what its document says, and nothing else

An attribute of a document spells a directive or it does not, and an index keeps both apart: what spells
one is an entry, what does not is a failure. Nothing is left out, nothing stands twice, and both lists
follow the order of application. What the index answers to questions, about inputs and about groups, is
what a search through its entries would answer.

## Contents
- `Document.spelled?`, what an attribute of an indexed kind spells.
- `Index.build_failures`, `ordered_failures` and `members_build`, the other parts in closed form.
- `Index.Exact` and `Index.build_exact`: **an index is exact**.
-/

namespace ReactiveForm

/-! ## Attributes -/

/-- What the attribute of an indexed kind at a node spells, if the node has it. A switch that is not
indexed is no attribute of an indexed kind. -/
def Document.spelled? (d : Document) (options : DirectiveOptions) (switches : Bool) (node : NodeId)
    (kind : DirectiveKind) : Option (Except DirectiveError Directive) :=
  if kind = .switch ∧ switches = false then none
  else (d.attribute? node kind.attributeName).map (Directive.parse options kind)

/-- The group that a switch belongs to. -/
def Directive.group? : Directive → Option String
  | switch group _ => some group
  | _ => none

/-- What tells failures apart. -/
def Failure.key (f : Failure) : NodeId × DirectiveKind := (f.node, f.kind)

/-- The failure that an attribute of a node makes, if it cannot be read. -/
def Document.failure? (d : Document) (options : DirectiveOptions) (kind : DirectiveKind)
    (node : NodeId) : Option Failure :=
  match d.directive? options node kind with
  | some (.error e) => some ⟨node, kind, .directive e⟩
  | _ => none

namespace Index

variable {d : Document} {options : DirectiveOptions} {switches : Bool} {kind : DirectiveKind}
  {node : NodeId}

theorem mem_indexedKinds : kind ∈ indexedKinds switches ↔ ¬ (kind = .switch ∧ switches = false) := by
  unfold indexedKinds
  rw [List.mem_filter, and_iff_right kind.mem_all]
  cases switches <;> simp

/-- What is found only where an attribute is can be looked for everywhere. -/
theorem filterMap_withAttribute {α : Type} {f : NodeId → Option α}
    (hf : ∀ node a, f node = some a → ∃ raw, d.attribute? node kind.attributeName = some raw) :
    (d.withAttribute kind.attributeName).filterMap f = d.descendants.filterMap f := by
  rw [Document.withAttribute, if_neg kind.attributeName_ne_class, Document.select, List.filterMap_filter]
  refine congrArg (d.descendants.filterMap ·) (funext fun node => ?_)
  split
  · rfl
  · next hno =>
    refine (Option.eq_none_iff_forall_ne_some.mpr fun a ha => hno ?_).symm
    obtain ⟨raw, hraw⟩ := hf node a ha
    obtain ⟨e, he, hraw⟩ := Option.bind_eq_some_iff.mp hraw
    rw [he]
    show (e.attribute? kind.attributeName).isSome = true
    rw [hraw]
    rfl

/-- The class of a switch does not decide whether its attribute can be read. -/
theorem spelled?_iff :
    (∀ e, d.spelled? options switches node kind = some (.error e) ↔
        ¬ (kind = .switch ∧ switches = false) ∧ d.directive? options node kind = some (.error e)) ∧
      ((∃ parsed, d.spelled? options switches node kind = some (.ok parsed)) ↔
        ¬ (kind = .switch ∧ switches = false) ∧
          ∃ directive, d.directive? options node kind = some (.ok directive)) := by
  unfold Document.spelled? Document.directive?
  by_cases hkind : kind = .switch ∧ switches = false
  · simp [hkind]
  · simp only [hkind, not_false_eq_true, true_and]
    cases d.attribute? node kind.attributeName with
    | none => simp
    | some raw =>
      rw [Option.map_some, Option.map_some]
      cases Directive.parse options kind raw <;> simp [Except.map]

theorem spelled?_eq_error_iff {e : DirectiveError} :
    d.spelled? options switches node kind = some (.error e) ↔
      ¬ (kind = .switch ∧ switches = false) ∧ d.directive? options node kind = some (.error e) :=
  spelled?_iff.1 e

theorem exists_spelled?_eq_ok_iff :
    (∃ parsed, d.spelled? options switches node kind = some (.ok parsed)) ↔
      ¬ (kind = .switch ∧ switches = false) ∧
        ∃ directive, d.directive? options node kind = some (.ok directive) :=
  spelled?_iff.2

/-- **What is collected from attributes that are there** is found where they are. -/
theorem mem_collect {α : Type} {f : DirectiveKind → NodeId → Option α} {a : α}
    (hf : ∀ kind node a, f kind node = some a → ∃ raw, d.attribute? node kind.attributeName = some raw) :
    (a ∈ (indexedKinds switches).flatMap fun kind =>
        (d.withAttribute kind.attributeName).filterMap (f kind)) ↔
      ∃ kind node, ¬ (kind = .switch ∧ switches = false) ∧ f kind node = some a := by
  rw [List.mem_flatMap]
  refine exists_congr fun kind => ?_
  rw [mem_indexedKinds, filterMap_withAttribute (hf kind), List.mem_filterMap, exists_and_left]
  refine and_congr_right fun _ => exists_congr fun node => and_iff_right_of_imp fun h => ?_
  obtain ⟨raw, hraw⟩ := hf kind node a h
  exact d.tree.mem_descendants (Document.lt_size_of_attribute? hraw)

/-! ## Entries and failures -/

theorem entry?_eq_some_iff {entry : IndexedDirective} :
    d.entry? options kind node = some entry ↔
      entry.node = node ∧ d.directive? options node kind = some (.ok entry.directive) := by
  obtain ⟨n, directive⟩ := entry
  unfold Document.entry?
  split
  · next found hd => simp [hd, eq_comm]
  · next hd =>
    refine ⟨fun h => (nomatch h), fun h => ?_⟩
    exact absurd h.2 (hd directive)

theorem failure?_eq_some_iff {f : Failure} :
    d.failure? options kind node = some f ↔
      ∃ e, d.directive? options node kind = some (.error e) ∧ f = ⟨node, kind, .directive e⟩ := by
  unfold Document.failure?
  split
  · next e hd => simp [hd, eq_comm]
  · next hd =>
    refine ⟨fun h => (nomatch h), ?_⟩
    rintro ⟨e, he, -⟩
    exact absurd he (hd e)

theorem attribute?_of_directive? {r : Except DirectiveError Directive}
    (h : d.directive? options node kind = some r) :
    ∃ raw, d.attribute? node kind.attributeName = some raw := by
  obtain ⟨raw, hraw, -⟩ := Option.map_eq_some_iff.mp h
  exact ⟨raw, hraw⟩

theorem mem_entries {entry : IndexedDirective} :
    entry ∈ (build d options switches).entries ↔
      ¬ (entry.directive.kind = .switch ∧ switches = false) ∧
        d.directive? options entry.node entry.directive.kind = some (.ok entry.directive) := by
  rw [build_entries, mem_collect fun kind node entry h =>
    attribute?_of_directive? (entry?_eq_some_iff.mp h).2]
  simp only [entry?_eq_some_iff]
  constructor
  · rintro ⟨kind, node, hkind, rfl, h⟩
    rw [kind_of_directive? h]
    exact ⟨hkind, h⟩
  · rintro ⟨hkind, h⟩
    exact ⟨_, _, hkind, rfl, h⟩

/-- **The failures of an index:** by kind, and those of one kind in document order. -/
theorem build_failures :
    (build d options switches).failures =
      (indexedKinds switches).flatMap fun kind =>
        (d.withAttribute kind.attributeName).filterMap (d.failure? options kind) := by
  refine collect_build rfl fun i kind node => ?_
  unfold read Document.failure?
  split
  · next h => simp [h]
  · next h => simp [h, insert]
  · next h => simp [h]

theorem mem_failures {f : Failure} :
    f ∈ (build d options switches).failures ↔
      ∃ e, ¬ (f.kind = .switch ∧ switches = false) ∧
        d.directive? options f.node f.kind = some (.error e) ∧ f.error = .directive e := by
  rw [build_failures, mem_collect fun kind node f h => by
    obtain ⟨e, he, -⟩ := failure?_eq_some_iff.mp h
    exact attribute?_of_directive? he]
  simp only [failure?_eq_some_iff]
  constructor
  · rintro ⟨kind, node, hkind, e, he, rfl⟩
    exact ⟨e, hkind, he, rfl⟩
  · rintro ⟨e, hkind, he, herror⟩
    refine ⟨f.kind, f.node, hkind, e, he, ?_⟩
    rw [← herror]

/-- **The failures stand in the order of application.** -/
theorem ordered_failures :
    (build d options switches).failures.Pairwise fun f g => d.Precedes f.key g.key := by
  rw [build_failures]
  refine ordered_collect fun kind node f h => ?_
  obtain ⟨e, -, rfl⟩ := failure?_eq_some_iff.mp h
  rfl

/-- There is an entry for each attribute that spells a directive. -/
theorem mem_map_key_entries :
    (node, kind) ∈ (build d options switches).entries.map IndexedDirective.key ↔
      ∃ parsed, d.spelled? options switches node kind = some (.ok parsed) := by
  rw [List.mem_map, exists_spelled?_eq_ok_iff]
  constructor
  · rintro ⟨entry, hmem, hkey⟩
    obtain ⟨rfl, rfl⟩ := Prod.mk.inj hkey
    obtain ⟨hkind, hd⟩ := mem_entries.mp hmem
    exact ⟨hkind, _, hd⟩
  · rintro ⟨hkind, directive, hd⟩
    refine ⟨⟨node, directive⟩, mem_entries.mpr ?_, ?_⟩
    · rw [kind_of_directive? hd]
      exact ⟨hkind, hd⟩
    · exact congrArg (Prod.mk node) (kind_of_directive? hd)

/-- There is a failure for each attribute that spells none. -/
theorem mem_map_key_failures :
    (node, kind) ∈ (build d options switches).failures.map Failure.key ↔
      ∃ e, d.spelled? options switches node kind = some (.error e) := by
  rw [List.mem_map]
  simp only [spelled?_eq_error_iff]
  constructor
  · rintro ⟨f, hmem, hkey⟩
    obtain ⟨rfl, rfl⟩ := Prod.mk.inj hkey
    obtain ⟨e, hkind, hd, -⟩ := mem_failures.mp hmem
    exact ⟨e, hkind, hd⟩
  · rintro ⟨e, hkind, hd⟩
    exact ⟨⟨node, kind, .directive e⟩, mem_failures.mpr ⟨e, hkind, hd, rfl⟩, rfl⟩

/-! ## Groups -/

/-- The node of an attribute that is a switch of a group. -/
def member? (d : Document) (options : DirectiveOptions) (group : String) (kind : DirectiveKind)
    (node : NodeId) : Option NodeId :=
  (d.entry? options kind node).bind fun entry =>
    if entry.directive.group? = some group then some node else none

theorem member?_eq_some_iff {group : String} {m : NodeId} :
    member? d options group kind node = some m ↔
      m = node ∧ ∃ directive, d.directive? options node kind = some (.ok directive) ∧
        directive.group? = some group := by
  unfold member?
  rw [Option.bind_eq_some_iff]
  constructor
  · rintro ⟨entry, hentry, h⟩
    obtain ⟨hgroup, h⟩ := Option.ite_none_right_eq_some.mp h
    exact ⟨(Option.some.inj h).symm, entry.directive, (entry?_eq_some_iff.mp hentry).2, hgroup⟩
  · rintro ⟨rfl, directive, hd, hgroup⟩
    exact ⟨⟨m, directive⟩, entry?_eq_some_iff.mpr ⟨rfl, hd⟩, if_pos hgroup⟩

theorem kind_of_group? {directive : Directive} {group : String} (h : directive.group? = some group) :
    directive.kind = .switch := by
  cases directive with
  | switch _ _ => rfl
  | _ => cases h

theorem members_read (i : Index) (kind : DirectiveKind) (node : NodeId) (group : String) :
    (i.read d options kind node).members group =
      i.members group ++ (member? d options group kind node).toList := by
  unfold read member? Document.entry?
  split
  · next h => simp [h]
  · next directive h =>
    rw [h]
    simp only [Option.bind_some, members, insert]
    cases directive with
    | switch g own =>
      show ((pushAt i.groups g node).get? group).getD [] = _
      rw [pushAt, StringMap.get?_insert]
      by_cases hg : group = g
      · simp [hg, Directive.group?]
      · have hne : g ≠ group := fun he => hg he.symm
        simp [hg, hne, Directive.group?]
    | _ => simp [Directive.group?]
  · next h => simp [h, members]

theorem any_entries_iff {group : String} :
    ((build d options switches).entries.any fun entry =>
        entry.node == node && entry.directive.group? == some group) = true ↔
      switches = true ∧ (member? d options group .switch node).isSome = true := by
  rw [List.any_eq_true, Option.isSome_iff_exists]
  constructor
  · rintro ⟨entry, hmem, h⟩
    obtain ⟨hnode, hgroup⟩ := Bool.and_eq_true_iff.mp h
    obtain ⟨hkind, hd⟩ := mem_entries.mp hmem
    rw [kind_of_group? (eq_of_beq hgroup)] at hkind hd
    rw [eq_of_beq hnode] at hd
    exact ⟨by simpa using hkind, node, member?_eq_some_iff.mpr ⟨rfl, _, hd, eq_of_beq hgroup⟩⟩
  · rintro ⟨hswitches, m, hm⟩
    obtain ⟨-, directive, hd, hgroup⟩ := member?_eq_some_iff.mp hm
    refine ⟨⟨node, directive⟩, mem_entries.mpr ⟨fun h => ?_, ?_⟩, by simp [hgroup]⟩
    · rw [hswitches] at h
      cases h.2
    · rw [kind_of_group? hgroup]
      exact hd

/-- **The members of a group** are the nodes whose switch belongs to it, in document order. -/
theorem members_build (group : String) :
    (build d options switches).members group =
      d.descendants.filter fun node => (build d options switches).entries.any fun entry =>
        entry.node == node && entry.directive.group? == some group := by
  rw [collect_build (π := fun i => i.members group) rfl fun i kind node => members_read i kind node group]
  -- only switches belong to groups
  have hother : ∀ kind, kind ≠ .switch →
      (d.withAttribute kind.attributeName).filterMap (member? d options group kind) = [] := by
    intro kind hne
    refine List.filterMap_eq_nil_iff.mpr fun node _ => Option.eq_none_iff_forall_ne_some.mpr ?_
    intro m hm
    obtain ⟨-, directive, hd, hgroup⟩ := member?_eq_some_iff.mp hm
    exact hne ((kind_of_directive? hd).symm.trans (kind_of_group? hgroup))
  cases switches with
  | false =>
    rw [List.flatMap_eq_nil_iff.mpr fun kind hkind => hother kind fun h => mem_indexedKinds.mp hkind ⟨h, rfl⟩]
    refine (List.filter_eq_nil_iff.mpr fun node _ h => ?_).symm
    cases (any_entries_iff.mp h).1
  | true =>
    calc (indexedKinds true).flatMap (fun kind =>
          (d.withAttribute kind.attributeName).filterMap (member? d options group kind))
        = (d.withAttribute DirectiveKind.switch.attributeName).filterMap
            (member? d options group .switch) := by
          simp [indexedKinds, DirectiveKind.all, hother]
      _ = d.descendants.filterMap (member? d options group .switch) := by
          refine filterMap_withAttribute fun node m hm => ?_
          obtain ⟨-, directive, hd, -⟩ := member?_eq_some_iff.mp hm
          exact attribute?_of_directive? hd
      _ = _ := by
          rw [← List.filterMap_eq_filter]
          refine congrArg (d.descendants.filterMap ·) (funext fun node => Option.ext fun m => ?_)
          rw [Option.guard_eq_some_iff, any_entries_iff, Option.isSome_iff_exists]
          constructor
          · exact fun hm => ⟨(member?_eq_some_iff.mp hm).1.symm, rfl, m, hm⟩
          · rintro ⟨rfl, -, m, hm⟩
            obtain ⟨rfl, -⟩ := member?_eq_some_iff.mp hm
            exact hm

/-! ## Exactness -/

/-- **An index that says what its document says, and nothing else.** -/
structure Exact (i : Index) (d : Document) (options : DirectiveOptions) (switches : Bool) : Prop where
  /-- There is an entry for each attribute that spells a directive, -/
  mem_entries : ∀ node kind, (node, kind) ∈ i.entries.map IndexedDirective.key ↔
    ∃ parsed, d.spelled? options switches node kind = some (.ok parsed)
  /-- which is the directive of the element. -/
  read : ∀ entry ∈ i.entries,
    d.directive? options entry.node entry.directive.kind = some (.ok entry.directive)
  /-- There is a failure for each attribute that spells none, -/
  mem_failures : ∀ node kind, (node, kind) ∈ i.failures.map Failure.key ↔
    ∃ e, d.spelled? options switches node kind = some (.error e)
  /-- which tells why. -/
  refused : ∀ f ∈ i.failures, ∃ e, d.spelled? options switches f.node f.kind = some (.error e) ∧
    f.error = .directive e
  /-- Nothing stands twice, and all stands in the order of application. -/
  ordered : i.entries.Pairwise (fun a b => d.Precedes a.key b.key) ∧
    i.failures.Pairwise fun f g => d.Precedes f.key g.key
  /-- The dependents of an input are the entries that name it. -/
  dependents : ∀ name, i.dependents name =
    i.entries.filter fun entry => entry.directive.references.contains name
  registered : ∀ name, i.isRegistered name = true ↔ i.dependents name ≠ []
  /-- Registered inputs are listed once and in ascending order. -/
  names : i.inputNames.Pairwise (· < ·) ∧
    ∀ name, name ∈ i.inputNames ↔ i.isRegistered name = true
  /-- The members of a group are the nodes whose switch belongs to it. -/
  members : ∀ group, i.members group = d.descendants.filter fun node =>
    i.entries.any fun entry => entry.node == node && entry.directive.group? == some group

/-- **An index is exact**, whatever the document, the options and the switches. -/
theorem build_exact (d : Document) (options : DirectiveOptions) (switches : Bool) :
    (build d options switches).Exact d options switches where
  mem_entries _ _ := mem_map_key_entries
  read _ := directive?_of_mem
  mem_failures _ _ := mem_map_key_failures
  refused f hmem := by
    obtain ⟨e, hkind, hd, herror⟩ := Index.mem_failures.mp hmem
    exact ⟨e, spelled?_eq_error_iff.mpr ⟨hkind, hd⟩, herror⟩
  ordered := ⟨ordered_entries, ordered_failures⟩
  dependents := dependents_build
  registered name := by
    rw [isRegistered_build]
    constructor
    · rintro ⟨entry, hentry⟩
      exact List.ne_nil_of_mem (mem_dependents_build.mpr hentry)
    · intro hne
      obtain ⟨entry, hentry⟩ := List.exists_mem_of_ne_nil _ hne
      exact ⟨entry, mem_dependents_build.mp hentry⟩
  names := ⟨StringMap.keys_sorted _, fun _ => StringMap.mem_keys⟩
  members := members_build

end Index

end ReactiveForm
