import ReactiveForm.Binding.Effect
import ReactiveForm.Proofs.Condition.Dependence
import ReactiveForm.Proofs.Binding.Index

/-!
# `ReactiveForm.Proofs.Binding.Outcome` — a directive first reads and then writes

The effect of a directive is split in two. Its *outcome* is what it finds out by looking at the inputs:
which classes are to be present, what the text is to be, which attribute is to be set. *Writing* an
outcome changes one element and looks at nothing. What depends on the inputs is thereby a question of
outcomes, and what becomes of an element a question of what is written last.

## Contents
- `Outcome` and `Directive.outcome`, with `outcome_congr` and `outcome_ok_iff`.
- `lastSetting`, what a list of settings says last on a class.
- `Outcome.write`, with what it does to classes, text and attributes.
- `Outcome.commit` and `Directive.effect_eq`: **an effect is an outcome that is committed**, with
  `effect_of_commit`, `effect_of_commit_error` and `commit_of_effect`.
- `Directive.effect_of_outcome`, when it comes to `Outcome.write`.
-/

namespace ReactiveForm

/-! ## Outcomes -/

/-- What a directive has found out and is to write to its element. -/
structure Outcome where
  /-- The classes that are to be present or absent, in this order. -/
  classes : List (String × Bool) := []
  text : Option String := none
  assignment : Option Assignment := none
  state : Option EffectState := none

namespace Directive

/-- What a directive is to write once the truths of its conditions and its text are known. -/
def settle (config : Config) : Directive → List Bool → Option String → Outcome
  | showIf _, [active], _ =>
    { classes := [(config.classes.hidden, !active)], state := some (.ofBool active) }
  | hideIf _, [active], _ =>
    { classes := [(config.classes.hidden, active)], state := some (.ofBool active) }
  | disableIf _, [active], _ =>
    { classes := [(config.classes.disabled, active)], state := some (.ofBool active) }
  | classIf rules, truths, _ =>
    { classes := (rules.zip truths).flatMap fun (rule, present) =>
        rule.classes.map fun name => (name, present) }
  | attributeIf rule, [active], _ =>
    { assignment := if active then some rule.whenTrue else rule.whenFalse
      state := some (.ofBool active) }
  | echo _, _, text => { text }
  | _, _, _ => {}

/-- The text that a directive repeats. -/
def echoed (config : Config) (change : Option Change) (d : Document) :
    Directive → Except UnknownInput (Option String)
  | echo input =>
    let ctx : Context :=
      { source := d.values, change, unknownInput := config.evaluation.unknownInput }
    match ctx.resolve input, config.evaluation.unknownInput with
    | some value, _ => .ok (some value)
    | none, .fail => .error (.among input d.values)
    | none, .assumeFalse => .ok none
  | _ => .ok none

/-- What a directive finds out. -/
def outcome (config : Config) (change : Option Change) (d : Document) (directive : Directive) :
    Except UnknownInput Outcome := do
  let truths ← directive.truths config change d
  let text ← directive.echoed config change d
  return directive.settle config truths text

/-- The classes that a directive writes, whatever the inputs are. -/
def classNames (config : Config) : Directive → List String
  | showIf _ => [config.classes.hidden]
  | hideIf _ => [config.classes.hidden]
  | disableIf _ => [config.classes.disabled]
  | classIf rules => rules.flatMap ClassRule.classes
  | _ => []

/-- The assignments that a directive may select. -/
def assignments : Directive → List Assignment
  | attributeIf rule => rule.whenTrue :: rule.whenFalse.toList
  | _ => []

theorem assignments_of_kind {directive : Directive} (h : directive.kind ≠ .attributeIf) :
    directive.assignments = [] := by
  cases directive with
  | attributeIf _ => exact absurd rfl h
  | showIf _ | hideIf _ | disableIf _ | classIf _ | echo _ | switch _ _ => rfl

variable {config : Config} {change change' : Option Change} {d d' : Document} {directive : Directive}
  {o : Outcome}

/-! ## What an outcome depends on -/

/-- The inputs of a directive are those of its conditions, and the one that it repeats. -/
theorem mem_references {name : String} :
    name ∈ directive.references ↔
      (∃ c ∈ directive.conditions, name ∈ c.references) ∨ directive = echo name := by
  cases directive <;> simp [references, conditions, List.mem_flatMap, eq_comm]

/-- Two documents in which the inputs `names` are read alike, each with its changed input. -/
abbrev Alike (config : Config) (names : List String) (change change' : Option Change)
    (d d' : Document) : Prop :=
  Context.Agree names ⟨d.values, change, config.evaluation.unknownInput⟩
    ⟨d'.values, change', config.evaluation.unknownInput⟩

theorem evaluate_congr {c : Condition} (hc : c ∈ directive.conditions)
    (h : Alike config directive.references change change' d d') :
    d.evaluate config change c = d'.evaluate config change' c :=
  Condition.evaluate_congr (h.mono fun _ hn => mem_references.mpr (.inl ⟨c, hc, hn⟩))

/-- **The outcome of a directive depends on its own inputs only.** -/
theorem outcome_congr (h : Alike config directive.references change change' d d') :
    directive.outcome config change d = directive.outcome config change' d' := by
  have htruths : directive.truths config change d = directive.truths config change' d' :=
    mapM_congr fun c hc => evaluate_congr hc h
  have hechoed : directive.echoed config change d = directive.echoed config change' d' := by
    cases directive with
    | echo input =>
      have hr := h.resolve input List.mem_cons_self
      have hk : d.values.names = d'.values.names := h.known
      simp only [echoed, UnknownInput.among, hr, hk]
    | _ => rfl
  unfold outcome
  rw [htruths, hechoed]

/-- **How a directive fails to read depends on which of its inputs exist.** -/
theorem error?_outcome_congr
    (h : Context.Coexist directive.references ⟨d.values, change, config.evaluation.unknownInput⟩
      ⟨d'.values, change', config.evaluation.unknownInput⟩) :
    error? (directive.outcome config change d) = error? (directive.outcome config change' d') := by
  have htruths : error? (directive.truths config change d) = error? (directive.truths config change' d') :=
    error?_mapM_congr fun c hc =>
      Condition.error?_evaluate_congr (h.mono fun _ hn => mem_references.mpr (.inl ⟨c, hc, hn⟩))
  have hechoed : error? (directive.echoed config change d) = error? (directive.echoed config change' d') := by
    cases directive with
    | echo input =>
      have hsome := h.isSome input List.mem_cons_self
      have hk : d.values.names = d'.values.names := h.known
      simp only [echoed, UnknownInput.among, hk]
      cases hv : Context.resolve ⟨d.values, change, config.evaluation.unknownInput⟩ input with
      | some value =>
        rw [hv] at hsome
        obtain ⟨value', hv'⟩ := Option.isSome_iff_exists.mp hsome.symm
        rw [hv']
        rfl
      | none =>
        rw [hv] at hsome
        rw [Option.not_isSome_iff_eq_none.mp (ne_true_of_eq_false hsome.symm)]
    | _ => rfl
  exact error?_bind_congr htruths fun _ _ _ _ => error?_bind_congr hechoed fun _ _ _ _ => rfl

theorem outcome_of_values (h : d.values = d'.values) :
    directive.outcome config change d = directive.outcome config change d' := by
  have hagree : Alike config directive.references change change d d' := by
    rw [Alike, h]
    exact ⟨fun _ _ => rfl, rfl, rfl⟩
  exact outcome_congr hagree

theorem truths_ok_iff :
    (∃ truths, directive.truths config change d = .ok truths) ↔
      ∀ c ∈ directive.conditions, config.evaluation.unknownInput = .assumeFalse ∨
        ∀ name ∈ c.references,
          (Context.resolve ⟨d.values, change, config.evaluation.unknownInput⟩ name).isSome = true :=
  mapM_ok_iff.trans (forall₂_congr fun _ _ => Condition.evaluate_ok_iff)

theorem echoed_ok_iff :
    (∃ text, directive.echoed config change d = .ok text) ↔
      ∀ input, directive = echo input → config.evaluation.unknownInput = .assumeFalse ∨
        (Context.resolve ⟨d.values, change, config.evaluation.unknownInput⟩ input).isSome = true := by
  cases directive with
  | echo input =>
    simp only [echoed, echo.injEq, forall_eq']
    cases Context.resolve ⟨d.values, change, config.evaluation.unknownInput⟩ input <;>
      cases config.evaluation.unknownInput <;> simp
  | _ => exact ⟨fun _ _ h => (nomatch h), fun _ => ⟨none, rfl⟩⟩

/-- **When a directive succeeds in reading:** when its inputs exist, or missing ones are tolerated.
The values of the inputs do not matter. -/
theorem outcome_ok_iff :
    (∃ o, directive.outcome config change d = .ok o) ↔
      config.evaluation.unknownInput = .assumeFalse ∨
        ∀ name ∈ directive.references,
          (Context.resolve ⟨d.values, change, config.evaluation.unknownInput⟩ name).isSome = true := by
  have hsplit : (∃ o, directive.outcome config change d = .ok o) ↔
      (∃ truths, directive.truths config change d = .ok truths) ∧
        ∃ text, directive.echoed config change d = .ok text := by
    constructor
    · rintro ⟨o, ho⟩
      obtain ⟨truths, htruths, ho⟩ := bind_eq_ok_iff.mp ho
      obtain ⟨text, htext, -⟩ := bind_eq_ok_iff.mp ho
      exact ⟨⟨truths, htruths⟩, text, htext⟩
    · rintro ⟨⟨truths, htruths⟩, text, htext⟩
      exact ⟨_, bind_eq_ok_iff.mpr ⟨truths, htruths, bind_eq_ok_iff.mpr ⟨text, htext, rfl⟩⟩⟩
  rw [hsplit, truths_ok_iff, echoed_ok_iff]
  by_cases hpolicy : config.evaluation.unknownInput = .assumeFalse
  · simp [hpolicy]
  · simp only [hpolicy, false_or, mem_references]
    constructor
    · rintro ⟨hc, he⟩ name (⟨c, hmem, hn⟩ | hn)
      · exact hc c hmem name hn
      · exact he name hn
    · exact fun h => ⟨fun c hmem name hn => h name (.inl ⟨c, hmem, hn⟩), fun name hn => h name (.inr hn)⟩

/-- An outcome as truths that are settled. -/
theorem outcome_eq_ok_iff :
    directive.outcome config change d = .ok o ↔
      ∃ truths, directive.truths config change d = .ok truths ∧
        ∃ text, directive.echoed config change d = .ok text ∧
          o = directive.settle config truths text := by
  unfold outcome
  rw [bind_eq_ok_iff]
  refine exists_congr fun truths => and_congr_right fun _ => ?_
  rw [bind_eq_ok_iff]
  refine exists_congr fun text => and_congr_right fun _ => ?_
  exact ⟨fun h => (Except.ok.inj h).symm, fun h => congrArg Except.ok h.symm⟩

/-- **The classes of an outcome** are those of the directive, whatever the inputs are. -/
theorem map_fst_classes (h : directive.outcome config change d = .ok o) :
    o.classes.map Prod.fst = directive.classNames config := by
  obtain ⟨truths, htruths, text, -, rfl⟩ := outcome_eq_ok_iff.mp h
  have hlen : truths.length = directive.conditions.length := length_of_mapM_eq_ok htruths
  cases directive with
  | showIf c | hideIf c | disableIf c | attributeIf c =>
    obtain ⟨active, rfl⟩ := List.length_eq_one_iff.mp hlen
    rfl
  | echo input | switch group own => rfl
  | classIf rules =>
    have key : ∀ (rules : List ClassRule) (truths : List Bool), truths.length = rules.length →
        ((rules.zip truths).flatMap fun (rule, present) => rule.classes.map fun name =>
          (name, present)).map Prod.fst = rules.flatMap ClassRule.classes := by
      intro rules
      induction rules with
      | nil => exact fun _ _ => rfl
      | cons rule rest ih =>
        intro truths hlen
        cases truths with
        | nil => cases hlen
        | cons present others =>
          rw [List.zip_cons_cons, List.flatMap_cons, List.flatMap_cons, List.map_append,
            ih others (Nat.succ.inj hlen), List.map_map]
          exact congrArg (· ++ _) (List.map_id _)
    exact key rules truths (hlen.trans (List.length_map _))

theorem assignment_mem (h : directive.outcome config change d = .ok o) :
    ∀ a ∈ o.assignment, a ∈ directive.assignments := by
  obtain ⟨truths, htruths, text, -, rfl⟩ := outcome_eq_ok_iff.mp h
  have hlen : truths.length = directive.conditions.length := length_of_mapM_eq_ok htruths
  cases directive with
  | showIf c | hideIf c | disableIf c =>
    obtain ⟨active, rfl⟩ := List.length_eq_one_iff.mp hlen
    exact fun a ha => nomatch ha
  | attributeIf rule =>
    obtain ⟨active, rfl⟩ := List.length_eq_one_iff.mp hlen
    intro a ha
    cases active with
    | true =>
      rw [← Option.some.inj ha]
      exact List.mem_cons_self
    | false =>
      have ha : rule.whenFalse = some a := ha
      show a ∈ rule.whenTrue :: rule.whenFalse.toList
      rw [ha]
      exact List.mem_cons_of_mem _ List.mem_cons_self
  | _ => exact fun a ha => nomatch ha

end Directive

/-! ## Settings of classes -/

/-- What some settings say last on a class. -/
def lastSetting (settings : List (String × Bool)) (c : String) : Option Bool :=
  (settings.filter (·.1 == c)).getLast?.map Prod.snd

theorem lastSetting_append (s t : List (String × Bool)) (c : String) :
    lastSetting (s ++ t) c = (lastSetting t c).or (lastSetting s c) := by
  unfold lastSetting
  rw [List.filter_append, List.getLast?_append]
  cases (t.filter (·.1 == c)).getLast? <;> rfl

theorem lastSetting_singleton (name : String) (present : Bool) (c : String) :
    lastSetting [(name, present)] c = if name = c then some present else none := by
  by_cases h : name = c <;> simp [lastSetting, h]

theorem lastSetting_eq_none_iff {settings : List (String × Bool)} {c : String} :
    lastSetting settings c = none ↔ c ∉ settings.map Prod.fst := by
  unfold lastSetting
  rw [Option.map_eq_none_iff, List.getLast?_eq_none_iff, List.filter_eq_nil_iff]
  constructor
  · intro h hc
    obtain ⟨s, hs, he⟩ := List.mem_map.mp hc
    exact h s hs (beq_iff_eq.mpr he)
  · exact fun h s hs he => h (List.mem_map.mpr ⟨s, hs, beq_iff_eq.mp he⟩)

/-- The element with a class made present or absent. -/
def Element.withSetting (e : Element) (s : String × Bool) : Element :=
  if s.2 then e.withClass s.1 else e.withoutClass s.1

namespace Element

theorem hasClass_withSetting (e : Element) (s : String × Bool) (c : String) :
    (e.withSetting s).hasClass c = (lastSetting [s] c).getD (e.hasClass c) := by
  obtain ⟨name, present⟩ := s
  unfold withSetting
  rw [lastSetting_singleton]
  by_cases hc : name = c
  · subst hc
    cases present <;> simp
  · have hne : c ≠ name := fun h => hc h.symm
    cases present <;> simp [hc, hne]

/-- **The last setting of a class counts.** -/
theorem hasClass_foldl_withSetting (settings : List (String × Bool)) (e : Element) (c : String) :
    (settings.foldl withSetting e).hasClass c = (lastSetting settings c).getD (e.hasClass c) := by
  induction settings generalizing e with
  | nil => rfl
  | cons s rest ih =>
    have hcons : lastSetting (s :: rest) c = (lastSetting rest c).or (lastSetting [s] c) :=
      lastSetting_append [s] rest c
    rw [List.foldl_cons, ih, hasClass_withSetting, hcons]
    cases lastSetting rest c <;> rfl

/-- Settings touch nothing but classes. -/
theorem foldl_withSetting_eq (settings : List (String × Bool)) (e : Element) :
    settings.foldl withSetting e = { e with classes := (settings.foldl withSetting e).classes } := by
  induction settings generalizing e with
  | nil => rfl
  | cons s rest ih =>
    have hs : e.withSetting s = { e with classes := (e.withSetting s).classes } := by
      unfold withSetting withClass withoutClass
      cases s.2 with
      | true =>
        rw [if_pos rfl]
        split <;> rfl
      | false => rfl
    rw [List.foldl_cons, ih, hs]

end Element

/-! ## Writing -/

namespace Outcome

/-- The element that an outcome is written to. -/
def write (o : Outcome) (e : Element) : Element where
  tag := e.tag
  attributes :=
    match o.assignment with
    | some a => e.attributes.insert a.name a.value
    | none => e.attributes
  classes := (o.classes.foldl Element.withSetting e).classes
  text := o.text.or e.text
  value := e.value
  checked := e.checked

theorem hasClass_write (o : Outcome) (e : Element) (c : String) :
    (o.write e).hasClass c = (lastSetting o.classes c).getD (e.hasClass c) :=
  Element.hasClass_foldl_withSetting o.classes e c

/-- The value that an outcome gives to an attribute. -/
def assigned (o : Outcome) (key : String) : Option String :=
  o.assignment.bind fun a => if key = a.name then some a.value else none

theorem assigned_eq_some_iff {o : Outcome} {key value : String} :
    o.assigned key = some value ↔ ∃ a ∈ o.assignment, a.name = key ∧ a.value = value := by
  unfold assigned
  rw [Option.bind_eq_some_iff]
  refine exists_congr fun a => and_congr_right fun _ => ?_
  rw [Option.ite_none_right_eq_some, Option.some.injEq, eq_comm (a := key)]

theorem assigned_eq_none {o : Outcome} {key : String} (h : ∀ a ∈ o.assignment, a.name ≠ key) :
    o.assigned key = none := by
  refine Option.eq_none_iff_forall_ne_some.mpr fun value hvalue => ?_
  obtain ⟨a, ha, hname, -⟩ := assigned_eq_some_iff.mp hvalue
  exact h a ha hname

theorem attribute?_write (o : Outcome) (e : Element) (key : String) :
    (o.write e).attribute? key = (o.assigned key).or (e.attribute? key) := by
  unfold write assigned Element.attribute?
  cases o.assignment with
  | none => rfl
  | some a =>
    show (e.attributes.insert a.name a.value).get? key =
      (if key = a.name then some a.value else none).or (e.attributes.get? key)
    rw [StringMap.get?_insert]
    split <;> rfl

theorem attribute?_write_of_ne {o : Outcome} {key : String} (h : ∀ a ∈ o.assignment, a.name ≠ key)
    (e : Element) : (o.write e).attribute? key = e.attribute? key := by
  rw [attribute?_write, assigned_eq_none h, Option.none_or]

/-- What an element is as a control is not touched, unless an attribute is set that says so. -/
theorem inputPart_write {o : Outcome} (h : ∀ a ∈ o.assignment, a.name ≠ "name" ∧ a.name ≠ "type")
    (e : Element) : (o.write e).inputPart = e.inputPart := by
  unfold Element.inputPart Element.controlPart
  rw [attribute?_write_of_ne (fun a ha => (h a ha).1), attribute?_write_of_ne (fun a ha => (h a ha).2)]
  rfl

theorem directivePart_write {o : Outcome}
    (h : ∀ a ∈ o.assignment, a.name ≠ switchClassAttribute ∧
      ∀ kind : DirectiveKind, a.name ≠ kind.attributeName)
    (e : Element) : (o.write e).directivePart = e.directivePart := by
  unfold Element.directivePart
  rw [attribute?_write_of_ne fun a ha => (h a ha).1]
  exact congrArg (Prod.mk _) (funext fun kind => attribute?_write_of_ne (fun a ha => (h a ha).2 kind) e)

end Outcome

/-! ## Effects -/

namespace Document

variable {d : Document} {node : NodeId}

theorem setClass_of_isClassName (hn : node.index < d.tree.size) {s : String × Bool}
    (hs : isClassName s.1 = true) : d.setClass node s.1 s.2 = .ok (d.modify node (·.withSetting s)) := by
  unfold setClass addClass removeClass editClass
  rw [if_pos hs, if_pos hs, edit_of_lt hn, edit_of_lt hn]
  obtain ⟨name, present⟩ := s
  cases present <;> rfl

theorem setClasses_of_isClassName (hn : node.index < d.tree.size) {settings : List (String × Bool)}
    (hs : ∀ s ∈ settings, isClassName s.1 = true) :
    d.setClasses node settings =
      .ok (d.modify node fun e => settings.foldl Element.withSetting e) := by
  unfold setClasses
  induction settings generalizing d with
  | nil => exact congrArg Except.ok (modify_id node).symm
  | cons s rest ih =>
    obtain ⟨name, present⟩ := s
    have hfirst : d.setClass node name present = .ok (d.modify node (·.withSetting (name, present))) :=
      setClass_of_isClassName hn (hs (name, present) List.mem_cons_self)
    have hrest := ih (d := d.modify node (·.withSetting (name, present))) hn fun t ht =>
      hs t (List.mem_cons_of_mem _ ht)
    rw [modify_modify] at hrest
    exact bind_eq_ok_iff.mpr ⟨_, hfirst, hrest⟩

theorem setClasses_singleton (d : Document) (node : NodeId) (name : String) (present : Bool) :
    d.setClasses node [(name, present)] = d.setClass node name present := by
  show (d.setClass node name present >>= fun d => .ok d) = d.setClass node name present
  cases d.setClass node name present <;> rfl

/-- The attributes that stand for more than themselves: setting one of them also sets the classes, the
value or the state. -/
def mirroredAttributes : List String := ["class", "value", "checked"]

theorem setAttribute_of_plain (hn : node.index < d.tree.size) {name : String}
    (hname : name ∉ mirroredAttributes) (value : String) :
    d.setAttribute node name value =
      .ok (d.modify node fun e => { e with attributes := e.attributes.insert name value }) := by
  simp only [mirroredAttributes, List.mem_cons, List.not_mem_nil, or_false, not_or] at hname
  unfold setAttribute
  simp only [hname, if_false]
  exact edit_of_lt hn _

end Document

/-- An outcome committed to a document: its classes, its text and its attribute, in this order. -/
def Outcome.commit (o : Outcome) (d : Document) (node : NodeId) : Except DocumentError Document := do
  let d ← d.setClasses node o.classes
  let d ← match o.text with
    | some text => d.setText node text
    | none => .ok d
  match o.assignment with
  | some a => d.setAttribute node a.name a.value
  | none => .ok d

namespace Outcome

variable {d : Document} {node : NodeId} {o : Outcome}

theorem commit_of_classes (htext : o.text = none) (hassign : o.assignment = none) :
    o.commit d node = d.setClasses node o.classes := by
  unfold commit
  rw [htext, hassign]
  cases d.setClasses node o.classes <;> rfl

/-- What an outcome writes apart from its attribute. -/
def unassigned (o : Outcome) : Outcome := { o with assignment := none }

theorem write_unassigned (o : Outcome) (e : Element) :
    o.unassigned.write e =
      { o.classes.foldl Element.withSetting e with text := o.text.or e.text } := by
  rw [Element.foldl_withSetting_eq]
  rfl

/-- **Class names and texts are committed as they are,** and then the attribute is set. -/
theorem commit_of_isClassName (hn : node.index < d.tree.size)
    (hclasses : ∀ s ∈ o.classes, Document.isClassName s.1 = true) :
    o.commit d node =
      match o.assignment with
      | some a => (d.modify node o.unassigned.write).setAttribute node a.name a.value
      | none => .ok (d.modify node o.unassigned.write) := by
  have hwrite : o.unassigned.write =
      fun e => { o.classes.foldl Element.withSetting e with text := o.text.or e.text } :=
    funext o.write_unassigned
  unfold commit
  rw [Document.setClasses_of_isClassName hn hclasses, hwrite]
  simp only [bind, Except.bind]
  cases o.text with
  | none =>
    have hkeep : (fun e => { o.classes.foldl Element.withSetting e with text := none.or e.text }) =
        fun e => o.classes.foldl Element.withSetting e := by
      funext e
      rw [Element.foldl_withSetting_eq]
      rfl
    rw [hkeep]
  | some text =>
    have hset := @Document.edit_of_lt (d.modify node fun e => o.classes.foldl Element.withSetting e)
      node hn (·.withText text)
    rw [Document.modify_modify] at hset
    simp only [Document.setText, hset]
    rfl

/-- Nothing stands in the way of a plain attribute. -/
theorem commit_of_plain (hn : node.index < d.tree.size)
    (hclasses : ∀ s ∈ o.classes, Document.isClassName s.1 = true)
    (hassign : ∀ a ∈ o.assignment, a.name ∉ Document.mirroredAttributes) :
    o.commit d node = .ok (d.modify node o.write) := by
  rw [commit_of_isClassName hn hclasses]
  obtain ⟨classes, text, assignment, state⟩ := o
  cases assignment with
  | none => rfl
  | some a =>
    have hset := @Document.setAttribute_of_plain
      (d.modify node (unassigned ⟨classes, text, some a, state⟩).write) node hn _ (hassign a rfl) a.value
    rw [Document.modify_modify] at hset
    exact hset

end Outcome

namespace Directive

variable {config : Config} {change : Option Change} {d : Document} {node : NodeId}
  {directive : Directive} {o : Outcome}

theorem outcome_of_condition {c : Condition} (hc : directive.conditions = [c])
    (hechoed : directive.echoed config change d = .ok none) :
    directive.outcome config change d =
      (d.evaluate config change c).map fun active => directive.settle config [active] none := by
  unfold outcome truths
  rw [hc, hechoed, List.mapM_cons]
  cases d.evaluate config change c <;> rfl

/-- The effect of a directive with one condition, whose edits commit what it finds out. -/
theorem conditional_eq {c : Condition} {act : Bool → Except DocumentError Document}
    (hc : directive.conditions = [c]) (hechoed : directive.echoed config change d = .ok none)
    (hstate : ∀ active, (directive.settle config [active] none).state = some (.ofBool active))
    (hact : ∀ active, (directive.settle config [active] none).commit d node = act active) :
    conditional c config change d act = (do
      let o ← (directive.outcome config change d).mapError EffectError.unknownInput
      let d ← (o.commit d node).mapError EffectError.document
      return (d, o.state)) := by
  rw [outcome_of_condition hc hechoed]
  unfold conditional
  cases d.evaluate config change c with
  | error e => rfl
  | ok active =>
    show ((act active).mapError EffectError.document >>= fun d => Except.ok (d, some (.ofBool active))) =
      (((directive.settle config [active] none).commit d node).mapError EffectError.document >>=
        fun d => Except.ok (d, (directive.settle config [active] none).state))
    rw [hact, hstate]

/-- **An effect is an outcome that is committed,** whatever the directive and the configuration are. -/
theorem effect_eq (directive : Directive) (config : Config) (change : Option Change) (d : Document)
    (node : NodeId) :
    directive.effect config change d node = (do
      let o ← (directive.outcome config change d).mapError EffectError.unknownInput
      let d ← (o.commit d node).mapError EffectError.document
      return (d, o.state)) := by
  cases directive with
  | showIf c | hideIf c | disableIf c =>
    refine conditional_eq rfl rfl (fun _ => rfl) fun active => ?_
    rw [Outcome.commit_of_classes rfl rfl]
    exact Document.setClasses_singleton d node _ _
  | classIf rules =>
    unfold outcome
    rw [effect]
    cases (classIf rules).truths config change d with
    | error e => rfl
    | ok found =>
      show _ = (((settle config (classIf rules) found none).commit d node).mapError
        EffectError.document >>= fun d => Except.ok (d, none))
      rw [Outcome.commit_of_classes rfl rfl]
      rfl
  | attributeIf rule =>
    refine conditional_eq rfl rfl (fun _ => rfl) fun active => ?_
    show Outcome.commit { assignment := if active then some rule.whenTrue else rule.whenFalse,
                          state := some (.ofBool active) } d node = _
    cases if active then some rule.whenTrue else rule.whenFalse <;> rfl
  | echo input =>
    unfold outcome
    simp only [effect, echoed]
    cases Context.resolve ⟨d.values, change, config.evaluation.unknownInput⟩ input with
    | some value =>
      have hcommit : Outcome.commit { text := some value } d node = d.setText node value := by
        show (d.setText node value >>= fun d => Except.ok d) = _
        cases d.setText node value <;> rfl
      show _ = ((Outcome.commit { text := some value } d node).mapError EffectError.document >>=
        fun d => Except.ok (d, none))
      rw [hcommit]
      rfl
    | none => cases config.evaluation.unknownInput <;> rfl
  | switch group own => rfl

/-- An effect succeeds when its outcome can be committed, -/
theorem effect_of_commit {d' : Document} (ho : directive.outcome config change d = .ok o)
    (h : o.commit d node = .ok d') : directive.effect config change d node = .ok (d', o.state) := by
  rw [effect_eq, ho]
  exact bind_eq_ok_iff.mpr ⟨o, rfl, bind_eq_ok_iff.mpr ⟨d', mapError_eq_ok_iff.mpr h, rfl⟩⟩

/-- and fails when it cannot, -/
theorem effect_of_commit_error {e : DocumentError} (ho : directive.outcome config change d = .ok o)
    (h : o.commit d node = .error e) : directive.effect config change d node = .error (.document e) := by
  rw [effect_eq, ho]
  show ((o.commit d node).mapError EffectError.document >>= fun d => Except.ok (d, o.state)) = _
  rw [h]
  rfl

/-- or when it cannot even be found out. -/
theorem effect_of_outcome_error {e : UnknownInput}
    (ho : directive.outcome config change d = .error e) :
    directive.effect config change d node = .error (.unknownInput e) := by
  rw [effect_eq, ho]
  rfl

/-- **An effect that has succeeded has committed its outcome.** -/
theorem commit_of_effect {d' : Document} {state? : Option EffectState}
    (h : directive.effect config change d node = .ok (d', state?)) :
    ∃ o, directive.outcome config change d = .ok o ∧ o.commit d node = .ok d' := by
  rw [effect_eq] at h
  obtain ⟨o, ho, h⟩ := bind_eq_ok_iff.mp h
  obtain ⟨d₁, hcommit, h⟩ := bind_eq_ok_iff.mp h
  obtain rfl : d₁ = d' := congrArg Prod.fst (Except.ok.inj h)
  exact ⟨o, mapError_eq_ok_iff.mp ho, mapError_eq_ok_iff.mp hcommit⟩

/-- **What makes an effect certain to be written once it is known:** class names that are none would be
refused, and a mirrored attribute would touch more than itself. -/
structure Writable (config : Config) (directive : Directive) : Prop where
  classNames : ∀ c ∈ directive.classNames config, Document.isClassName c = true
  assignments : ∀ a ∈ directive.assignments, a.name ∉ Document.mirroredAttributes

theorem effect_of_outcome (hw : directive.Writable config) (hn : node.index < d.tree.size)
    (ho : directive.outcome config change d = .ok o) :
    directive.effect config change d node = .ok (d.modify node o.write, o.state) := by
  have hclasses : ∀ s ∈ o.classes, Document.isClassName s.1 = true := by
    intro s hs
    refine hw.classNames s.1 ?_
    rw [← map_fst_classes ho]
    exact List.mem_map_of_mem hs
  exact effect_of_commit ho <|
    Outcome.commit_of_plain hn hclasses fun a ha => hw.assignments a (assignment_mem ho a ha)

end Directive

end ReactiveForm
