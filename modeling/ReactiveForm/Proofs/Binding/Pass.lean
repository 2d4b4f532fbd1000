import Mathlib.Data.List.Basic
import ReactiveForm.Proofs.Binding.Commit

/-!
# `ReactiveForm.Proofs.Binding.Pass` — a run through directives in closed form

A pass evaluates and writes in turns. As long as no directive writes what another one reads, the turns
do not matter: every outcome can be found out from the document that the pass began with, and every
element ends as what its own outcomes, written one after the other, make of it.

## Contents
- `Index.isClassName_of_classNames`, the classes that the entries of an index write.
- `IndexedDirective.Sound`, what a pass needs of an entry, and `Index.sound_of_mem`.
- `DirectiveKind.driven`, the kinds of directives that have a state.
- `Pass.outcomesAt`, and `Pass.element?_applyAll`, an element after a pass.
- `Pass.verdict` and `Pass.hasClass_applyAll`: **the last successful writer of a class wins**.
- `Pass.text_applyAll`, `Pass.get?_states_applyAll` and `Pass.view_applyAll`.
-/

namespace ReactiveForm

/-! ## Sound entries -/

theorem isClassName_of_classProblem? {key name : String} (h : classProblem? key name = none) :
    Document.isClassName name = true := by
  unfold classProblem? at h
  unfold Document.isClassName
  split at h
  · cases h
  · next hempty =>
    split at h
    · cases h
    · next hblank => rw [eq_false_of_ne_true hempty, eq_false_of_ne_true hblank]; rfl

/-- **The marker classes of a configuration without problems** are class names, and they differ. -/
theorem Config.markers_of_problems {config : Config} (h : config.problems = []) :
    Document.isClassName config.classes.hidden = true ∧
      Document.isClassName config.classes.disabled = true ∧
      config.classes.hidden ≠ config.classes.disabled := by
  unfold problems at h
  obtain ⟨hmarkers, hshared⟩ := List.append_eq_nil_iff.mp h
  obtain ⟨hhidden, hdisabled⟩ := List.append_eq_nil_iff.mp hmarkers
  have hname := isClassName_of_classProblem? (Option.toList_eq_nil_iff.mp hhidden)
  refine ⟨hname, isClassName_of_classProblem? (Option.toList_eq_nil_iff.mp hdisabled), fun heq => ?_⟩
  have hempty : config.classes.hidden.isEmpty = false := by
    unfold Document.isClassName at hname
    rw [Bool.and_eq_true] at hname
    simpa using hname.1
  rw [← heq, hempty] at hshared
  simp at hshared

/-- **The classes that the entries of an index write** are class names, if the configuration has no problems. -/
theorem Index.isClassName_of_classNames {config : Config} {d : Document} {options : DirectiveOptions}
    {switches : Bool} {entry : IndexedDirective} (hconfig : config.problems = [])
    (h : entry ∈ (build d options switches).entries) :
    ∀ c ∈ entry.directive.classNames config, Document.isClassName c = true := by
  intro c hc
  obtain ⟨hhidden, hdisabled, -⟩ := Config.markers_of_problems hconfig
  obtain ⟨node, directive⟩ := entry
  cases directive with
  | showIf _ | hideIf _ => rwa [List.mem_singleton.mp hc]
  | disableIf _ => rwa [List.mem_singleton.mp hc]
  | classIf rules =>
    obtain ⟨rule, hrule, hmem⟩ := List.mem_flatMap.mp hc
    exact isClassName_of_mem h rule hrule c hmem
  | attributeIf _ | echo _ | switch _ _ => cases hc

/-- **What a pass needs of an entry:** that its node exists, that what it finds out can be written, and
that it does not write what the values of inputs are read from. -/
structure IndexedDirective.Sound (config : Config) (d : Document) (entry : IndexedDirective) : Prop where
  inTree : entry.node.index < d.tree.size
  writable : entry.directive.Writable config
  neutral : ∀ a ∈ entry.directive.assignments, a.name ≠ "name" ∧ a.name ≠ "type"

/-- The entries of an index are sound, unless they set an attribute that they should not. -/
theorem Index.sound_of_mem {config : Config} {d : Document} {options : DirectiveOptions}
    {switches : Bool} {entry : IndexedDirective} (hconfig : config.problems = [])
    (h : entry ∈ (build d options switches).entries)
    (ha : ∀ a ∈ entry.directive.assignments,
      a.name ∉ Document.mirroredAttributes ∧ a.name ≠ "name" ∧ a.name ≠ "type") :
    entry.Sound config d where
  inTree := lt_size_of_mem h
  neutral a hmem := (ha a hmem).2
  writable.assignments a hmem := (ha a hmem).1
  writable.classNames := isClassName_of_classNames hconfig h

/-! ## Directives with a state -/

/-- The kinds of directives that are driven by one condition, the last truth of which is remembered. -/
def DirectiveKind.driven : List DirectiveKind := [showIf, hideIf, disableIf, attributeIf]

theorem Directive.kind_mem_driven {config : Config} {change : Option Change} {d d' : Document} {node : NodeId}
    {directive : Directive} {state : EffectState}
    (h : directive.effect config change d node = .ok (d', some state)) :
    directive.kind ∈ DirectiveKind.driven := by
  cases directive with
  | showIf _ | hideIf _ | disableIf _ | attributeIf _ => simp [kind, DirectiveKind.driven]
  | classIf rules =>
    obtain ⟨_, -, h⟩ := bind_eq_ok_iff.mp h
    obtain ⟨_, -, h⟩ := bind_eq_ok_iff.mp h
    cases h
  | echo input =>
    unfold effect at h
    simp only at h
    split at h
    · obtain ⟨_, -, h⟩ := bind_eq_ok_iff.mp h
      cases h
    · split at h <;> cases h
  | switch _ _ => cases h

namespace Pass

variable {config : Config} {change : Option Change} {p : Pass} {entry : IndexedDirective}
  {entries : List IndexedDirective} {o : Outcome}

/-! ## One entry -/

theorem apply_of_ok (hs : entry.Sound config p.document)
    (ho : entry.directive.outcome config change p.document = .ok o) :
    apply config change p entry =
      { document := p.document.modify entry.node o.write
        states := (o.state.map (p.states.set entry.node entry.directive.kind)).getD p.states
        report := p.report.succeed } := by
  unfold apply
  rw [Directive.effect_of_outcome hs.writable hs.inTree ho]
  cases o.state <;> rfl

theorem apply_of_error {e : UnknownInput}
    (ho : entry.directive.outcome config change p.document = .error e) :
    apply config change p entry =
      { p with report := p.report.fail ⟨entry.node, entry.directive.kind, .unknownInput e⟩ } := by
  unfold apply
  rw [Directive.effect_of_outcome_error ho]

theorem tree_apply (hs : entry.Sound config p.document) :
    (apply config change p entry).document.tree = p.document.tree := by
  cases ho : entry.directive.outcome config change p.document with
  | ok o => rw [apply_of_ok hs ho]; rfl
  | error e => rw [apply_of_error ho]

/-- **What no outcome of an entry touches, the entry does not touch.** -/
theorem view_apply {α : Type} {π : Element → α} (hs : entry.Sound config p.document)
    (hπ : ∀ o : Outcome, (∀ a ∈ o.assignment, a ∈ entry.directive.assignments) →
      ∀ e, π (o.write e) = π e) :
    (apply config change p entry).document.view π = p.document.view π := by
  cases ho : entry.directive.outcome config change p.document with
  | ok o =>
    rw [apply_of_ok hs ho]
    exact Document.view_modify (hπ o (Directive.assignment_mem ho)) p.document entry.node
  | error e => rw [apply_of_error ho]

theorem inputView_apply (hs : entry.Sound config p.document) :
    (apply config change p entry).document.view Element.inputPart =
      p.document.view Element.inputPart :=
  view_apply hs fun _ ho => Outcome.inputPart_write fun a ha => hs.neutral a (ho a ha)

/-! ## All entries -/

/-- What an entry finds out in a document, unless it fails. -/
def outcome? (config : Config) (change : Option Change) (d : Document) (entry : IndexedDirective) :
    Option Outcome :=
  (entry.directive.outcome config change d).toOption

theorem outcome?_eq_some_iff {d : Document} :
    outcome? config change d entry = some o ↔ entry.directive.outcome config change d = .ok o := by
  unfold outcome?
  cases entry.directive.outcome config change d with
  | ok o' => exact ⟨fun h => congrArg Except.ok (Option.some.inj h),
      fun h => congrArg some (Except.ok.inj h)⟩
  | error e => exact ⟨fun h => (nomatch h), fun h => (nomatch h)⟩

/-- What the entries of a node find out in a document, in their order. -/
def outcomesAt (config : Config) (change : Option Change) (d : Document)
    (entries : List IndexedDirective) (node : NodeId) : List Outcome :=
  (entries.filter (·.node == node)).filterMap (outcome? config change d)

/-- What an entry finds out is a question of the inputs. -/
theorem outcome?_of_inputView {d d' : Document}
    (h : d.view Element.inputPart = d'.view Element.inputPart) (entry : IndexedDirective) :
    outcome? config change d entry = outcome? config change d' entry := by
  unfold outcome?
  rw [Directive.outcome_of_values (Document.values_congr h)]

theorem outcomesAt_of_inputView {d d' : Document}
    (h : d.view Element.inputPart = d'.view Element.inputPart) (entries : List IndexedDirective)
    (node : NodeId) :
    outcomesAt config change d entries node = outcomesAt config change d' entries node := by
  have hfun : outcome? config change d = outcome? config change d' :=
    funext fun entry => outcome?_of_inputView h entry
  unfold outcomesAt
  rw [hfun]

theorem sound_apply {other : IndexedDirective} (hs : entry.Sound config p.document)
    (h : other.Sound config p.document) :
    other.Sound config (apply config change p entry).document :=
  ⟨by rw [tree_apply hs]; exact h.inTree, h.writable, h.neutral⟩

/-- **What no outcome touches, the pass does not touch.** -/
theorem view_applyAll {α : Type} {π : Element → α}
    (hs : ∀ entry ∈ entries, entry.Sound config p.document)
    (hπ : ∀ entry ∈ entries, ∀ o : Outcome, (∀ a ∈ o.assignment, a ∈ entry.directive.assignments) →
      ∀ e, π (o.write e) = π e) :
    (applyAll config change p entries).document.view π = p.document.view π := by
  induction entries generalizing p with
  | nil => rfl
  | cons entry rest ih =>
    obtain ⟨hentry, hrest⟩ := List.forall_mem_cons.mp hs
    obtain ⟨hπentry, hπrest⟩ := List.forall_mem_cons.mp hπ
    exact (ih (fun other ho => sound_apply hentry (hrest other ho)) hπrest).trans
      (view_apply hentry hπentry)

theorem inputView_applyAll (hs : ∀ entry ∈ entries, entry.Sound config p.document) :
    (applyAll config change p entries).document.view Element.inputPart =
      p.document.view Element.inputPart :=
  view_applyAll hs fun entry hentry _ ho =>
    Outcome.inputPart_write fun a ha => (hs entry hentry).neutral a (ho a ha)

theorem element?_apply (hs : entry.Sound config p.document) (node : NodeId) :
    (apply config change p entry).document.element? node =
      (p.document.element? node).map fun e =>
        (outcomesAt config change p.document [entry] node).foldl (fun e o => o.write e) e := by
  have hcases : outcomesAt config change p.document [entry] node =
      if entry.node = node then (outcome? config change p.document entry).toList else [] := by
    unfold outcomesAt
    by_cases hn : entry.node = node
    · rw [if_pos hn, List.filter_cons, if_pos (beq_iff_eq.mpr hn), List.filter_nil,
        List.filterMap_cons]
      cases outcome? config change p.document entry <;> rfl
    · rw [if_neg hn, List.filter_cons, if_neg fun h => hn (beq_iff_eq.mp h)]
      rfl
  rw [hcases]
  cases ho : entry.directive.outcome config change p.document with
  | ok o =>
    have ho? : outcome? config change p.document entry = some o := by rw [outcome?, ho]; rfl
    rw [apply_of_ok hs ho, Document.element?_modify, ho?]
    by_cases hn : entry.node = node
    · rw [if_pos hn, if_pos hn]
      rfl
    · rw [if_neg hn, if_neg hn]
      exact Option.map_id'.symm
  | error e =>
    have ho? : outcome? config change p.document entry = none := by rw [outcome?, ho]; rfl
    rw [apply_of_error ho, ho?]
    have hnil : (if entry.node = node then (none : Option Outcome).toList else []) = [] := by
      split <;> rfl
    rw [hnil]
    exact Option.map_id'.symm

/-- **An element after a pass:** its own outcomes have been written to it, one after the other, all of
them found out from the document that the pass began with. -/
theorem element?_applyAll (hs : ∀ entry ∈ entries, entry.Sound config p.document) (node : NodeId) :
    (applyAll config change p entries).document.element? node =
      (p.document.element? node).map fun e =>
        (outcomesAt config change p.document entries node).foldl (fun e o => o.write e) e := by
  induction entries generalizing p with
  | nil => exact Option.map_id'.symm
  | cons entry rest ih =>
    obtain ⟨hentry, hrest⟩ := List.forall_mem_cons.mp hs
    have happend : outcomesAt config change p.document (entry :: rest) node =
        outcomesAt config change p.document [entry] node ++
          outcomesAt config change p.document rest node := by
      unfold outcomesAt
      rw [← List.filterMap_append, ← List.filter_append]
      rfl
    have hsound : ∀ other ∈ rest, other.Sound config (apply config change p entry).document :=
      fun other ho => sound_apply hentry (hrest other ho)
    have hstep := ih hsound
    -- the first entry changes no input, so that the rest finds out what it would have found out before
    rw [outcomesAt_of_inputView (inputView_apply hentry), element?_apply hentry, Option.map_map]
      at hstep
    rw [happend]
    simp only [List.foldl_append]
    exact hstep

/-! ## Who wins -/

/-- **The last one that wants something wins,** in a run of which each step gives way to the next. -/
theorem get_foldl_of_step {σ ι γ : Type} {get : σ → Option γ} {step : σ → ι → σ}
    {want : ι → Option γ} (h : ∀ s i, get (step s i) = (want i).or (get s)) (l : List ι) (s : σ) :
    get (l.foldl step s) = ((l.filterMap want).getLast?).or (get s) := by
  induction l generalizing s with
  | nil => rfl
  | cons i rest ih =>
    rw [List.foldl_cons, ih, h, List.filterMap_cons]
    cases want i with
    | none => rfl
    | some x =>
      rw [List.getLast?_cons]
      cases (rest.filterMap want).getLast? <;> rfl

/-- What the last entry of a node wants that succeeds and wants something. -/
def lastWish {γ : Type} (config : Config) (change : Option Change) (d : Document)
    (entries : List IndexedDirective) (node : NodeId) (want : Outcome → Option γ) : Option γ :=
  ((entries.filter (·.node == node)).filterMap fun entry =>
    (outcome? config change d entry).bind want).getLast?

/-- **What a pass does to one aspect of an element:** the last wish is granted, and without a wish the
aspect stays as it is. -/
theorem map_applyAll {γ : Type} (hs : ∀ entry ∈ entries, entry.Sound config p.document)
    {get : Element → Option γ} {want : Outcome → Option γ}
    (hget : ∀ e o, get (o.write e) = (want o).or (get e)) (node : NodeId) :
    ((applyAll config change p entries).document.element? node).map get =
      (p.document.element? node).map fun e =>
        (lastWish config change p.document entries node want).or (get e) := by
  rw [element?_applyAll hs, Option.map_map]
  refine congrArg (Option.map · _) (funext fun e => ?_)
  have hlast := get_foldl_of_step hget (outcomesAt config change p.document entries node) e
  unfold outcomesAt at hlast
  rw [List.filterMap_filterMap] at hlast
  exact hlast

section Wishes

variable {γ : Type} {want : Outcome → Option γ} {d d' : Document} {node : NodeId}

theorem lastWish_congr {change' : Option Change}
    (h : ∀ entry ∈ entries, entry.node = node →
      (outcome? config change d entry).bind want = (outcome? config change' d' entry).bind want) :
    lastWish config change d entries node want = lastWish config change' d' entries node want := by
  unfold lastWish
  congr 1
  refine List.filterMap_congr fun entry hentry => ?_
  obtain ⟨hmem, hn⟩ := List.mem_filter.mp hentry
  exact h entry hmem (beq_iff_eq.mp hn)

/-- A wish is a question of the inputs. -/
theorem lastWish_of_inputView (h : d.view Element.inputPart = d'.view Element.inputPart) :
    lastWish config change d entries node want = lastWish config change d' entries node want :=
  lastWish_congr fun entry _ _ => by rw [outcome?_of_inputView h]

theorem lastWish_eq_none_iff :
    lastWish config change d entries node want = none ↔
      ∀ entry ∈ entries, entry.node = node → (outcome? config change d entry).bind want = none := by
  unfold lastWish
  rw [List.getLast?_eq_none_iff, List.filterMap_eq_nil_iff]
  constructor
  · exact fun h entry hmem hn => h entry (List.mem_filter.mpr ⟨hmem, beq_iff_eq.mpr hn⟩)
  · intro h entry hentry
    obtain ⟨hmem, hn⟩ := List.mem_filter.mp hentry
    exact h entry hmem (beq_iff_eq.mp hn)

/-- The last wish is the wish of an entry that succeeds. -/
theorem exists_of_lastWish {x : γ} (h : lastWish config change d entries node want = some x) :
    ∃ entry ∈ entries, entry.node = node ∧
      ∃ o, entry.directive.outcome config change d = .ok o ∧ want o = some x := by
  obtain ⟨entry, hentry, hwant⟩ := List.mem_filterMap.mp (List.mem_of_getLast? h)
  obtain ⟨hmem, hn⟩ := List.mem_filter.mp hentry
  obtain ⟨o, ho, hwant⟩ := Option.bind_eq_some_iff.mp hwant
  exact ⟨entry, hmem, beq_iff_eq.mp hn, o, outcome?_eq_some_iff.mp ho, hwant⟩

/-- A wish that nobody else opposes is the last one. -/
theorem lastWish_of_unopposed {entry : IndexedDirective} {x : γ} (hmem : entry ∈ entries)
    (hn : entry.node = node) (ho : entry.directive.outcome config change d = .ok o)
    (hwant : want o = some x)
    (hothers : ∀ other ∈ entries, other.node = node → other ≠ entry →
      (outcome? config change d other).bind want = none) :
    lastWish config change d entries node want = some x := by
  -- there is a last wish, since the entry has one, and nobody else can have made it
  cases hlast : lastWish config change d entries node want with
  | none =>
    have hnone := lastWish_eq_none_iff.mp hlast entry hmem hn
    rw [outcome?_eq_some_iff.mpr ho, Option.bind_some, hwant] at hnone
    cases hnone
  | some y =>
    obtain ⟨other, hother, hon, o', ho', hy⟩ := exists_of_lastWish hlast
    by_cases heq : other = entry
    · subst heq
      rw [ho] at ho'
      rw [← Except.ok.inj ho', hwant] at hy
      rw [hy]
    · have hnone := hothers other hother hon heq
      rw [outcome?_eq_some_iff.mpr ho', Option.bind_some, hy] at hnone
      cases hnone

/-- Nothing is wished for a node that does not exist. -/
theorem lastWish_of_missing (hn : ∀ entry ∈ entries, entry.node.index < d.tree.size)
    (h : d.element? node = none) : lastWish config change d entries node want = none := by
  refine lastWish_eq_none_iff.mpr fun entry hentry he => ?_
  have hsome := Document.isSome_element?_iff.mpr (hn entry hentry)
  rw [he, h] at hsome
  cases hsome

end Wishes

/-! ## Classes, texts and attributes -/

/-- **The verdict of some entries on a class of a node:** what the last of them that succeeds and
writes the class wants; nothing when none does. -/
def verdict (config : Config) (change : Option Change) (d : Document)
    (entries : List IndexedDirective) (node : NodeId) (c : String) : Option Bool :=
  lastWish config change d entries node fun o => lastSetting o.classes c

/-- An entry has no say on a class when it fails or does not write the class at all. -/
theorem setting_eq_none_iff {c : String} :
    ((outcome? config none d entry).bind fun o => lastSetting o.classes c) = none ↔
      ¬ (∃ o, entry.directive.outcome config none d = .ok o) ∨
        c ∉ entry.directive.classNames config := by
  cases ho : entry.directive.outcome config none d with
  | error e =>
    have hnone : outcome? config none d entry = none := by rw [outcome?, ho]; rfl
    simp [hnone]
  | ok o =>
    rw [outcome?_eq_some_iff.mpr ho, Option.bind_some, lastSetting_eq_none_iff,
      Directive.map_fst_classes ho]
    simp

/-- A class after its last wish has been granted. -/
theorem hasClass_of_map {d d' : Document} {node : NodeId} {c : String} {wish : Option Bool}
    (h : (d'.element? node).map (fun e => some (e.hasClass c)) =
      (d.element? node).map fun e => wish.or (some (e.hasClass c)))
    (hmissing : d.element? node = none → wish = none) :
    d'.hasClass node c = wish.getD (d.hasClass node c) := by
  unfold Document.hasClass
  cases he : d.element? node with
  | none =>
    rw [he, Option.map_none, Option.map_eq_none_iff] at h
    rw [h, hmissing he]
    rfl
  | some e =>
    rw [he, Option.map_some] at h
    obtain ⟨e', he', hclass⟩ := Option.map_eq_some_iff.mp h
    rw [he']
    refine Option.some.inj (hclass.trans ?_)
    cases wish <;> rfl

/-- **The last successful writer of a class wins,** and a class without a writer stays as it is. -/
theorem hasClass_applyAll (hs : ∀ entry ∈ entries, entry.Sound config p.document) (node : NodeId)
    (c : String) :
    (applyAll config change p entries).document.hasClass node c =
      (verdict config change p.document entries node c).getD (p.document.hasClass node c) := by
  refine hasClass_of_map (map_applyAll hs (fun e o => ?_) node)
    (lastWish_of_missing fun entry h => (hs entry h).inTree)
  rw [Outcome.hasClass_write]
  cases lastSetting o.classes c <;> rfl

/-- The text that some entries give a node last. -/
def lastText (config : Config) (change : Option Change) (d : Document)
    (entries : List IndexedDirective) (node : NodeId) : Option String :=
  lastWish config change d entries node Outcome.text

theorem text_applyAll (hs : ∀ entry ∈ entries, entry.Sound config p.document) (node : NodeId) :
    ((applyAll config change p entries).document.element? node).map Element.text =
      (p.document.element? node).map fun e =>
        (lastText config change p.document entries node).or e.text :=
  map_applyAll hs (fun _ _ => rfl) node

/-- An entry without assignments has no say on an attribute. -/
theorem assigned_eq_none {d : Document} (h : entry.directive.assignments = []) (key : String) :
    ((outcome? config change d entry).bind fun o => o.assigned key) = none := by
  cases ho : outcome? config change d entry with
  | none => rfl
  | some o =>
    have hnone : o.assignment = none := by
      refine Option.eq_none_iff_forall_ne_some.mpr fun a ha => ?_
      have hmem := Directive.assignment_mem (outcome?_eq_some_iff.mp ho) a ha
      rw [h] at hmem
      cases hmem
    rw [Option.bind_some, Outcome.assigned, hnone, Option.bind_none]

theorem attribute?_of_map {d d' : Document} {node : NodeId} {key : String} {wish : Option String}
    (h : (d'.element? node).map (·.attribute? key) =
      (d.element? node).map fun e => wish.or (e.attribute? key))
    (hmissing : d.element? node = none → wish = none) :
    d'.attribute? node key = wish.or (d.attribute? node key) := by
  unfold Document.attribute?
  cases he : d.element? node with
  | none =>
    rw [he, Option.map_none, Option.map_eq_none_iff] at h
    rw [h, hmissing he]
    rfl
  | some e =>
    rw [he, Option.map_some] at h
    obtain ⟨e', he', hvalue⟩ := Option.map_eq_some_iff.mp h
    rw [he']
    exact hvalue

/-- **The last assignment of an attribute wins,** and an attribute without one stays as it is. -/
theorem attribute?_applyAll (hs : ∀ entry ∈ entries, entry.Sound config p.document) (node : NodeId)
    (key : String) :
    (applyAll config change p entries).document.attribute? node key =
      (lastWish config change p.document entries node fun o => o.assigned key).or
        (p.document.attribute? node key) :=
  attribute?_of_map (map_applyAll hs (fun e o => o.attribute?_write e key) node)
    (lastWish_of_missing fun entry h => (hs entry h).inTree)

/-! ## States -/

/-- An entry changes no state but its own, and it has one only if it is driven by one condition. -/
theorem key_of_get?_states_apply_ne {node : NodeId} {kind : DirectiveKind}
    (h : (apply config change p entry).states.get? node kind ≠ p.states.get? node kind) :
    entry.key = (node, kind) ∧ kind ∈ DirectiveKind.driven := by
  unfold apply at h
  cases heffect : entry.directive.effect config change p.document entry.node with
  | error e =>
    rw [heffect] at h
    exact absurd rfl h
  | ok result =>
    obtain ⟨d, state?⟩ := result
    rw [heffect] at h
    cases state? with
    | none => exact absurd rfl h
    | some state =>
      have h : (p.states.set entry.node entry.directive.kind state).get? node kind ≠ _ := h
      rw [EffectStates.get?_set] at h
      split at h
      · next hkey =>
        exact ⟨hkey.symm, (Prod.mk.inj hkey).2 ▸ Directive.kind_mem_driven heffect⟩
      · exact absurd rfl h

theorem exists_key_of_get?_states_applyAll_ne {node : NodeId} {kind : DirectiveKind}
    (h : (applyAll config change p entries).states.get? node kind ≠ p.states.get? node kind) :
    (node, kind) ∈ entries.map IndexedDirective.key ∧ kind ∈ DirectiveKind.driven := by
  induction entries generalizing p with
  | nil => exact absurd rfl h
  | cons entry rest ih =>
    by_cases hrest : (applyAll config change (apply config change p entry) rest).states.get? node kind =
        (apply config change p entry).states.get? node kind
    · obtain ⟨hkey, hdriven⟩ := key_of_get?_states_apply_ne fun he => h (hrest.trans he)
      exact ⟨List.mem_map.mpr ⟨entry, List.mem_cons_self, hkey⟩, hdriven⟩
    · exact (ih hrest).imp_left fun hmem => List.mem_cons_of_mem _ hmem

/-- A directive without an entry keeps its state. -/
theorem get?_states_applyAll_of_ne {node : NodeId} {kind : DirectiveKind}
    (h : ∀ entry ∈ entries, (entry.node, entry.directive.kind) ≠ (node, kind)) :
    (applyAll config change p entries).states.get? node kind = p.states.get? node kind := by
  by_contra hne
  obtain ⟨entry, hentry, hkey⟩ := List.mem_map.mp (exists_key_of_get?_states_applyAll_ne hne).1
  exact h entry hentry hkey

/-- **A directive that succeeds leaves its state,** when no other entry has its node and its kind. -/
theorem get?_states_applyAll (hs : ∀ entry ∈ entries, entry.Sound config p.document)
    (hmem : entry ∈ entries) (ho : entry.directive.outcome config change p.document = .ok o)
    {state : EffectState} (hstate : o.state = some state)
    (hunique : ∀ other ∈ entries,
      (other.node, other.directive.kind) = (entry.node, entry.directive.kind) → other = entry) :
    (applyAll config change p entries).states.get? entry.node entry.directive.kind = some state := by
  induction entries generalizing p with
  | nil => cases hmem
  | cons first rest ih =>
    obtain ⟨hfirst, hrest⟩ := List.forall_mem_cons.mp hs
    obtain ⟨hufirst, hurest⟩ := List.forall_mem_cons.mp hunique
    have hsound : ∀ other ∈ rest, other.Sound config (apply config change p first).document :=
      fun other h => sound_apply hfirst (hrest other h)
    have hsame : entry.directive.outcome config change (apply config change p first).document =
        .ok o :=
      (Directive.outcome_of_values (Document.values_congr (inputView_apply hfirst))).trans ho
    by_cases hlater : entry ∈ rest
    · exact ih hsound hlater hsame hurest
    · -- the entry stands first, and what follows has other keys
      obtain rfl : entry = first := (List.mem_cons.mp hmem).resolve_right hlater
      have hkeys : ∀ other ∈ rest, (other.node, other.directive.kind) ≠
          (entry.node, entry.directive.kind) :=
        fun other h hkey => hlater (hurest other h hkey ▸ h)
      refine (get?_states_applyAll_of_ne hkeys).trans ?_
      rw [apply_of_ok hfirst ho, hstate]
      exact EffectStates.get?_set_self _ _ _ _

end Pass

end ReactiveForm
