import ReactiveForm.Proofs.Binding.Setting

/-!
# `ReactiveForm.Proofs.Binding.Order` — filling in two inputs in either order

What a page shows is not a function of the values of its inputs alone. A change applies the directives
of its own input again and no others, so that a class that directives of two inputs write is left by
whichever input has been set last; the order of kinds decides only within one pass. This is the one
trace that the order leaves: values, states and texts are the same either way, and so is every class on
which the two inputs do not contradict each other.

## Contents
- `Pass.verdict_of_other` and `Pass.lastText_of_other`, what another input can do to a verdict.
- `Page.Simple`, a page on which setting an input is one pass, kept by `Page.Simple.set`.
- `Page.set_set_classes_iff`, the classes on which two orders disagree.
-/

namespace ReactiveForm

/-! ## What another input can do to a verdict -/

namespace Pass

variable {config : Config} {d d' : Document} {entry : IndexedDirective}
  {entries : List IndexedDirective} {node : NodeId} {name : String}

/-- Whether a directive succeeds is a question of the controls. -/
theorem outcome_ok_congr (h : d.view Element.controlPart = d'.view Element.controlPart)
    (directive : Directive) :
    (∃ o, directive.outcome config none d = .ok o) ↔ ∃ o, directive.outcome config none d' = .ok o := by
  have hsome : ∀ name, (d.inputSnapshot name).isSome = true ↔ (d'.inputSnapshot name).isSome = true := by
    intro name
    rw [Document.isSome_inputSnapshot_iff, Document.isSome_inputSnapshot_iff,
      Document.controlsNamed_congr h]
  rw [Directive.outcome_ok_iff, Directive.outcome_ok_iff]
  exact or_congr Iff.rfl (forall₂_congr fun name _ => hsome name)

/-- **Another input changes the verdict only through directives of its own.** If none of those has a say,
the verdict stands. -/
theorem verdict_of_other {c : String} {others : List IndexedDirective} (h : Document.Differs name d d')
    (hothers : ∀ entry ∈ entries, name ∈ entry.directive.references → entry ∈ others)
    (hnone : verdict config none d' others node c = none) :
    verdict config none d entries node c = verdict config none d' entries node c := by
  refine lastWish_congr fun entry hentry hn => ?_
  by_cases hname : name ∈ entry.directive.references
  · have hsilent := lastWish_eq_none_iff.mp hnone entry (hothers entry hentry hname) hn
    rw [hsilent, setting_eq_none_iff, outcome_ok_congr h.controls]
    exact setting_eq_none_iff.mp hsilent
  · rw [outcome?, outcome?, Directive.outcome_of_differs h hname]

/-- Only an echo gives a text. -/
theorem echo_of_text {o : Outcome} {text : String}
    (ho : entry.directive.outcome config none d = .ok o) (htext : o.text = some text) :
    ∃ input, entry.directive = .echo input := by
  obtain ⟨found, hfound, echoed, -, rfl⟩ := Directive.outcome_eq_ok_iff.mp ho
  have hlen : found.length = entry.directive.conditions.length := length_of_mapM_eq_ok hfound
  cases hd : entry.directive with
  | echo input => exact ⟨input, rfl⟩
  | showIf c | hideIf c | disableIf c | attributeIf c =>
    rw [hd] at hlen htext
    obtain ⟨active, rfl⟩ := List.length_eq_one_iff.mp hlen
    cases htext
  | classIf rules | switch group own =>
    rw [hd] at htext
    cases htext

/-- **A text does not depend on another input,** since an echo names one input and no other. -/
theorem lastText_of_other (h : Document.Differs name d d')
    (hnames : ∀ entry ∈ entries, ∃ own, own ≠ name ∧ own ∈ entry.directive.references) :
    lastText config none d entries node = lastText config none d' entries node := by
  refine lastWish_congr fun entry hentry _ => ?_
  by_cases hecho : ∃ input, entry.directive = .echo input
  · obtain ⟨input, hinput⟩ := hecho
    obtain ⟨own, hne, hown⟩ := hnames entry hentry
    have hname : name ∉ entry.directive.references := fun hname => hne <| by
      rw [hinput] at hown hname
      rw [List.mem_singleton.mp hown, List.mem_singleton.mp hname]
    rw [outcome?, outcome?, Directive.outcome_of_differs h hname]
  · have hsilent : ∀ d, (outcome? config none d entry).bind Outcome.text = none := by
      intro d
      refine Option.eq_none_iff_forall_ne_some.mpr fun text htext => hecho ?_
      obtain ⟨o, ho, htext⟩ := Option.bind_eq_some_iff.mp htext
      exact echo_of_text (outcome?_eq_some_iff.mp ho) htext
    rw [hsilent, hsilent]

end Pass

/-! ## Simple pages -/

namespace Page

/-- What the directives of an input want of a class, as a page stands. -/
def verdict (p : Page) (name : String) (node : NodeId) (c : String) : Option Bool :=
  Pass.verdict p.controller.config none p.document (p.controller.index.dependents name) node c

/-- The text that the directives of an input give an element last, as a page stands. -/
def lastText (p : Page) (name : String) (node : NodeId) : Option String :=
  Pass.lastText p.controller.config none p.document (p.controller.index.dependents name) node

/-- **A page on which setting an input is one pass:** its controller is ready, no directive assigns an
attribute, and no name has two controls. -/
structure Simple (p : Page) : Prop where
  ready : p.controller.Ready p.document
  valid : p.controller.config.problems = []
  plain : ∀ entry ∈ p.controller.index.entries, entry.directive.kind ≠ .attributeIf
  single : ∀ name, (p.document.controlsNamed name).length ≤ 1

/-- **An input of a page has been filled in:** a node has another value and state, and the directives
of the input have been applied on top. -/
structure Filled (name : String) (node : NodeId) (state : String × Bool) (p q : Page) : Prop where
  simple : q.Simple
  config : q.controller.config = p.controller.config
  index : q.controller.index = p.controller.index
  inputs : q.document.view Element.inputPart =
    (p.document.modify node (·.withState state)).view Element.inputPart
  classes : ∀ other c, q.document.hasClass other c =
    (q.verdict name other c).getD (p.document.hasClass other c)
  texts : ∀ other, (q.document.element? other).map Element.text =
    (p.document.element? other).map fun e => (q.lastText name other).or e.text

variable {d : Document} {config : Config} {p q : Page} {name value : String} {node : NodeId}
  {state : String × Bool}

theorem inert_of_plain {i : Index} (h : ∀ entry ∈ i.entries, entry.directive.kind ≠ .attributeIf) :
    i.Inert := by
  intro entry hentry a ha
  rw [Directive.assignments_of_kind (h entry hentry)] at ha
  cases ha

/-- An input with one control, not a textarea, is carried as a handler expects. -/
theorem carried_of_single (hsingle : (d.controlsNamed name).length ≤ 1)
    (htag : ∀ node ∈ d.controlsNamed name, (d.element? node).any (·.tag == "textarea") = false) :
    d.Carried name := by
  cases hcontrols : d.controlsNamed name with
  | nil => exact .inl hcontrols
  | cons node rest =>
    have hone := eq_singleton_of_head? hsingle (by rw [hcontrols]; rfl)
    refine .inr (.inl ⟨node, hone, htag node ?_⟩)
    rw [hone]
    exact List.mem_cons_self

theorem textarea_congr {d d' : Document}
    (h : d'.view Element.controlPart = d.view Element.controlPart)
    (htag : ∀ node ∈ d.controlsNamed name, (d.element? node).any (·.tag == "textarea") = false) :
    ∀ node ∈ d'.controlsNamed name, (d'.element? node).any (·.tag == "textarea") = false := by
  intro node hn
  rw [Document.controlsNamed_congr h] at hn
  refine (Document.any_element?_congr (Document.map_element?_of_view h node) ?_).trans (htag node hn)
  exact fun _ _ he => congrArg (· == "textarea") (congrArg Element.ControlPart.tag he)

/-- **Mounting makes a page simple.** -/
theorem simple_mount (hconfig : config.problems = [])
    (hplain : ∀ entry ∈ (Index.build d config.directiveOptions config.capabilities.switches).entries,
      entry.directive.kind ≠ .attributeIf)
    (hsingle : ∀ name, (d.controlsNamed name).length ≤ 1) :
    ((ofDocument d config).after .mount).Simple ∧
      ((ofDocument d config).after .mount).document.view Element.controlPart =
        d.view Element.controlPart := by
  obtain ⟨u, hconnect, hu⟩ := Controller.connect_ready (c := .ofConfig config) (d := d) (fun _ => rfl)
    hconfig (inert_of_plain hplain)
  have hmount : (ofDocument d config).attempt .mount = .ok (⟨u.document, u.controller⟩, u.report) := by
    show ((Controller.ofConfig config).connect d).map ofUpdate = _
    rw [hconnect]
    rfl
  rw [after_of_ok hmount]
  refine ⟨⟨hu.ready, ?_, ?_, fun name => ?_⟩, hu.controls⟩
  · rw [show u.controller.config = config from hu.config]
    exact hconfig
  · rw [show u.controller.index = _ from hu.index]
    exact hplain
  · rw [Document.controlsNamed_congr hu.controls]
    exact hsingle name

/-- **Setting an input of a simple page** enters a value and applies the dependents of the input. -/
theorem Simple.after_set (h : p.Simple)
    (htag : ∀ node ∈ p.document.controlsNamed name,
      (p.document.element? node).any (·.tag == "textarea") = false)
    (hs : p.document.setting? name value = some (node, state)) :
    Document.Entered name p.document (p.document.modify node (·.withState state)) ∧
      p.after (.set name value) =
        (ofUpdate (p.controller.applyAll (p.document.modify node (·.withState state)) none {}
          (p.controller.index.dependents name))).1 := by
  obtain ⟨d, hd⟩ : ∃ d, d = p.document.modify node (·.withState state) := ⟨_, rfl⟩
  rw [← hd]
  have hn := Document.mem_of_setting? hs
  obtain ⟨-, hname, hcontrol⟩ := Document.mem_controlsNamed.mp hn
  obtain ⟨kind, hkind⟩ := Option.isSome_iff_exists.mp hcontrol
  have hentered : Document.Entered name p.document d := by
    rw [hd]
    exact Document.entered_withState hname state
  obtain ⟨fired, hfired⟩ : ∃ fired, fired = fire ⟨d, p.controller⟩ node kind.event := ⟨_, rfl⟩
  have hset : p.attempt (.set name value) = .ok (fired.1, fired.2) := by
    rw [hfired, ← fireControl_eq hkind hentered, hd]
    exact set_of_setting? (h.single name) hs
  have hcarried : d.Carried name :=
    (carried_of_single (h.single name) htag).congr hentered.controlView.symm
  have hnode : node ∈ d.controlsNamed name := by
    rw [Document.controlsNamed_congr hentered.controlView]
    exact hn
  obtain ⟨hc, hdoc⟩ := (h.ready.entered hentered).fired h.valid (inert_of_plain h.plain)
    (fun _ => hcarried) hnode ((Document.control?_congr hentered.controlView node).trans hkind)
  refine ⟨hentered, (after_of_ok hset).trans ?_⟩
  rw [hfired]
  show Page.mk (p.controller.handleEvent d node kind.event).document
    (p.controller.handleEvent d node kind.event).controller = _
  rw [hc, hdoc]
  rfl

/-- What applying the dependents of an input leaves, when the input has just been entered. -/
theorem Simple.filled (h : p.Simple)
    (hentered : Document.Entered name p.document (p.document.modify node (·.withState state)))
    (hq : q = (ofUpdate (p.controller.applyAll (p.document.modify node (·.withState state)) none {}
      (p.controller.index.dependents name))).1) : Filled name node state p q := by
  obtain ⟨d, hd⟩ : ∃ d, d = p.document.modify node (·.withState state) := ⟨_, rfl⟩
  rw [← hd] at hentered hq
  have hready := h.ready.entered hentered
  have hsound : ∀ entry ∈ p.controller.index.dependents name, entry.Sound p.controller.config d :=
    fun entry hentry => hready.sound h.valid (inert_of_plain h.plain) (hready.mem_dependents.mp hentry).1
  have hview : q.document.view Element.inputPart = d.view Element.inputPart := by
    rw [hq]
    exact Pass.inputView_applyAll hsound
  have hconfig : q.controller.config = p.controller.config := by rw [hq]; rfl
  have hindex : q.controller.index = p.controller.index := by rw [hq]; rfl
  refine ⟨⟨?_, ?_, ?_, fun other => ?_⟩, hconfig, hindex, by rw [← hd]; exact hview,
    fun other c => ?_, fun other => ?_⟩
  · rw [hq]
    exact hready.applyAll h.valid (inert_of_plain h.plain)
      (fun entry hentry => (hready.mem_dependents.mp hentry).1) none {}
  · rw [hconfig]
    exact h.valid
  · rw [hindex]
    exact h.plain
  · rw [Document.controlsNamed_congr ((Document.controlView_of_inputView hview).trans
      hentered.controlView)]
    exact h.single other
  · have hverdict : q.verdict name other c =
        Pass.verdict p.controller.config none d (p.controller.index.dependents name) other c := by
      unfold verdict
      rw [hindex, hconfig]
      exact Pass.lastWish_of_inputView hview
    rw [hverdict, ← hentered.hasClass, hq]
    exact Pass.hasClass_applyAll hsound other c
  · have htext : (d.element? other).map Element.text = (p.document.element? other).map Element.text :=
      Document.map_element?_of_view (hentered.view fun _ _ he => (Element.stateless_congr he).2.2.2) other
    have hlast : q.lastText name other =
        Pass.lastText p.controller.config none d (p.controller.index.dependents name) other := by
      unfold lastText
      rw [hindex, hconfig]
      exact Pass.lastWish_of_inputView hview
    have hmap := congrArg (Option.map (Option.or (Pass.lastText p.controller.config none d
      (p.controller.index.dependents name) other))) htext
    rw [Option.map_map, Option.map_map] at hmap
    rw [hlast, hq]
    exact (Pass.text_applyAll hsound other).trans hmap

/-- **Setting an input of a simple page fills it in,** if there is anything to set. -/
theorem Simple.set (h : p.Simple)
    (htag : ∀ node ∈ p.document.controlsNamed name,
      (p.document.element? node).any (·.tag == "textarea") = false)
    (hs : p.document.setting? name value = some (node, state)) :
    Filled name node state p (p.after (.set name value)) := by
  obtain ⟨hentered, hafter⟩ := h.after_set htag hs
  exact h.filled hentered hafter

/-! ## Two inputs, one after the other -/

namespace Filled

variable {a b : String} {m n : NodeId} {s t : String × Bool} {p q r : Page}

theorem controls (h : Filled a m s p q) :
    q.document.view Element.controlPart = p.document.view Element.controlPart :=
  (Document.controlView_of_inputView h.inputs).trans
    (Document.view_modify (f := (·.withState s)) (fun _ => rfl) _ _)

/-- What setting another input comes to is as before. -/
theorem setting? (h : Filled a m s p q) (hm : p.document.attribute? m "name" = some a) (hne : b ≠ a)
    (value : String) : q.document.setting? b value = p.document.setting? b value :=
  (Document.setting?_of_inputView h.inputs b value).trans ((Document.entered_withState hm s).setting? hne value)

/-- Only the input that has been filled in has another value. -/
theorem differs (h : Filled a m s p q) (hm : p.document.attribute? m "name" = some a) :
    Document.Differs a p.document q.document where
  controls := h.controls.symm
  others other hne := by
    have hvalues := Document.values_congr h.inputs
    have hv := congrArg (fun source : ValueSource => source.valueOf other) hvalues
    exact ((Document.entered_withState hm s).inputSnapshot hne).symm.trans hv.symm

/-- **A class after two inputs** is what the directives of the second one want, else what the directives
of the first one want, both in view of the final values. -/
theorem classes_of_two (hp : Filled a m s p q) (hq : Filled b n t q r)
    (hn : q.document.attribute? n "name" = some b) (node : NodeId) (c : String) :
    r.document.hasClass node c =
      ((r.verdict b node c).or (r.verdict a node c)).getD (p.document.hasClass node c) := by
  have hdiffers := hq.differs hn
  have hverdict : ∀ d name, Pass.verdict q.controller.config none d
      (q.controller.index.dependents name) node c =
        Pass.verdict r.controller.config none d (r.controller.index.dependents name) node c := by
    intro d name
    rw [hq.config, hq.index]
  rw [hq.classes, hp.classes]
  cases hb : r.verdict b node c with
  | some y => rfl
  | none =>
    -- the second input has no say, so that the first one has kept its verdict
    have hkeep : q.verdict a node c = r.verdict a node c := by
      unfold verdict at hb ⊢
      rw [hverdict]
      refine Pass.verdict_of_other hdiffers (fun entry hentry hname => ?_) hb
      exact hq.simple.ready.mem_dependents.mpr ⟨(hq.simple.ready.mem_dependents.mp hentry).1, hname⟩
    rw [hkeep]
    rfl

/-- A text after two inputs. -/
theorem texts_of_two (hp : Filled a m s p q) (hq : Filled b n t q r) (hne : a ≠ b)
    (hn : q.document.attribute? n "name" = some b) (node : NodeId) :
    (r.document.element? node).map Element.text = (p.document.element? node).map fun e =>
      ((r.lastText b node).or (r.lastText a node)).or e.text := by
  have hkeep : q.lastText a node = r.lastText a node := by
    unfold lastText
    rw [hq.config, hq.index]
    refine Pass.lastText_of_other (hq.differs hn) fun entry hentry => ?_
    rw [← hq.index] at hentry
    exact ⟨a, hne, (hq.simple.ready.mem_dependents.mp hentry).2⟩
  have hmap := congrArg (Option.map (Option.or (r.lastText b node))) (hp.texts node)
  rw [Option.map_map, Option.map_map] at hmap
  refine (hq.texts node).trans (hmap.trans (congrArg (Option.map · _) (funext fun e => ?_)))
  rw [Function.comp_apply, hkeep, Option.or_assoc]

/-- No text is given by the directives of two inputs. -/
theorem lastText_or_comm (h : r.Simple) (hne : a ≠ b) (node : NodeId) :
    (r.lastText b node).or (r.lastText a node) = (r.lastText a node).or (r.lastText b node) := by
  cases hb : r.lastText b node with
  | none => rw [Option.none_or, Option.or_none]
  | some tb =>
    cases ha : r.lastText a node with
    | none => rw [Option.none_or, Option.or_none]
    | some ta =>
      -- both texts would come from the one echo of the node
      exfalso
      obtain ⟨x, hx, hxn, o, ho, ht⟩ := Pass.exists_of_lastWish ha
      obtain ⟨y, hy, hyn, o', ho', ht'⟩ := Pass.exists_of_lastWish hb
      obtain ⟨i, hi⟩ := Pass.echo_of_text ho ht
      obtain ⟨j, hj⟩ := Pass.echo_of_text ho' ht'
      obtain ⟨hxmem, hxa⟩ := h.ready.mem_dependents.mp hx
      obtain ⟨hymem, hyb⟩ := h.ready.mem_dependents.mp hy
      rw [h.ready.index] at hxmem hymem
      have hxy : x = y := Index.eq_of_mem hxmem hymem (hxn.trans hyn.symm) (by rw [hi, hj]; rfl)
      rw [hi] at hxa
      rw [← hxy, hi] at hyb
      exact hne ((List.mem_singleton.mp hxa).trans (List.mem_singleton.mp hyb).symm)

/-- The values and states after two inputs. -/
theorem inputs_of_two (hp : Filled a m s p q) (hq : Filled b n t q r) :
    r.document.view Element.inputPart =
      ((p.document.modify m (·.withState s)).modify n (·.withState t)).view Element.inputPart :=
  hq.inputs.trans (Document.inputView_withState_congr hp.inputs n t)

end Filled

/-- Setting an input fails when there is nothing to set. -/
theorem isOk_set (hsingle : (p.document.controlsNamed name).length ≤ 1) :
    (p.set name value).isOk = (p.document.setting? name value).isSome := by
  cases hs : p.document.setting? name value with
  | none =>
    obtain ⟨e, he⟩ := set_of_no_setting? hsingle hs
    rw [he]
    rfl
  | some due =>
    rw [set_of_setting? hsingle hs]
    rfl

theorem after_set_of_none (hsingle : (p.document.controlsNamed name).length ≤ 1)
    (hs : p.document.setting? name value = none) : p.after (.set name value) = p := by
  obtain ⟨e, he⟩ := set_of_no_setting? hsingle hs
  exact after_of_error he

/-- When there is nothing to set for an input, there is nothing to set after another one either. -/
theorem Simple.after_set_of_none (h : p.Simple) {a b : String} (hne : a ≠ b)
    (htb : ∀ node ∈ p.document.controlsNamed b,
      (p.document.element? node).any (·.tag == "textarea") = false)
    {va vb : String} (hsa : p.document.setting? a va = none) :
    (p.after (.set b vb)).after (.set a va) = p.after (.set b vb) := by
  cases hsb : p.document.setting? b vb with
  | none => rw [Page.after_set_of_none (h.single b) hsb, Page.after_set_of_none (h.single a) hsa]
  | some due =>
    obtain ⟨n, t⟩ := due
    have hb := h.set htb hsb
    have hnb := (Document.mem_controlsNamed.mp (Document.mem_of_setting? hsb)).2.1
    exact Page.after_set_of_none (hb.simple.single a) ((hb.setting? hnb hne va).trans hsa)

/-- Setting two inputs of a simple page fills in one after the other. -/
theorem Simple.run_two (h : p.Simple) {a b : String} (hne : a ≠ b)
    (hta : ∀ node ∈ p.document.controlsNamed a,
      (p.document.element? node).any (·.tag == "textarea") = false)
    (htb : ∀ node ∈ p.document.controlsNamed b,
      (p.document.element? node).any (·.tag == "textarea") = false)
    {va vb : String} {m n : NodeId} {s t : String × Bool}
    (hsa : p.document.setting? a va = some (m, s)) (hsb : p.document.setting? b vb = some (n, t)) :
    ∃ q, Filled a m s p q ∧ q.document.attribute? n "name" = some b ∧
      Filled b n t q (p.run [.set a va, .set b vb]) := by
  have ha := h.set hta hsa
  have hma := (Document.mem_controlsNamed.mp (Document.mem_of_setting? hsa)).2.1
  -- what is due to an input is the same after the other one has been filled in
  have hsb' : (p.after (.set a va)).document.setting? b vb = some (n, t) :=
    (ha.setting? hma hne.symm vb).trans hsb
  have hnb := (Document.mem_controlsNamed.mp (Document.mem_of_setting? hsb')).2.1
  exact ⟨p.after (.set a va), ha, hnb, ha.simple.set (textarea_congr ha.controls htb) hsb'⟩

/-- **Two orders on a simple page,** when there is something to set for both inputs. -/
theorem Simple.set_set (h : p.Simple) {a b : String} (hne : a ≠ b)
    (hta : ∀ node ∈ p.document.controlsNamed a,
      (p.document.element? node).any (·.tag == "textarea") = false)
    (htb : ∀ node ∈ p.document.controlsNamed b,
      (p.document.element? node).any (·.tag == "textarea") = false)
    {va vb : String} {m n : NodeId} {s t : String × Bool}
    (hsa : p.document.setting? a va = some (m, s)) (hsb : p.document.setting? b vb = some (n, t)) :
    let left := p.run [.set a va, .set b vb]
    let right := p.run [.set b vb, .set a va]
    left.document.view Element.inputPart = right.document.view Element.inputPart ∧
      (∀ node, (left.document.element? node).map Element.text =
        (right.document.element? node).map Element.text) ∧
      ∀ node c, left.document.hasClass node c ≠ right.document.hasClass node c ↔
        ∃ x, left.verdict a node c = some x ∧ left.verdict b node c = some (!x) := by
  obtain ⟨pa, ha, hnb, hleft⟩ := h.run_two hne hta htb hsa hsb
  obtain ⟨pb, hb, hma, hright⟩ := h.run_two hne.symm htb hta hsb hsa
  obtain ⟨left, hl⟩ : ∃ q, q = p.run [.set a va, .set b vb] := ⟨_, rfl⟩
  obtain ⟨right, hr⟩ : ∃ q, q = p.run [.set b vb, .set a va] := ⟨_, rfl⟩
  rw [← hl] at hleft ⊢
  rw [← hr] at hright ⊢
  have hmn : m ≠ n := by
    rintro rfl
    have hname := (Document.mem_controlsNamed.mp (Document.mem_of_setting? hsa)).2.1
    have hother := (Document.mem_controlsNamed.mp (Document.mem_of_setting? hsb)).2.1
    exact hne (Option.some.inj (hname.symm.trans hother))
  have hinputs : left.document.view Element.inputPart = right.document.view Element.inputPart := by
    rw [ha.inputs_of_two hleft, hb.inputs_of_two hright, Document.modify_comm hmn]
  have hconfig : right.controller.config = left.controller.config := by
    rw [hright.config, hb.config, hleft.config, ha.config]
  have hindex : right.controller.index = left.controller.index := by
    rw [hright.index, hb.index, hleft.index, ha.index]
  -- with equal inputs both pages give equal verdicts, and only their precedence is left
  have hverdict : ∀ name node c, right.verdict name node c = left.verdict name node c := by
    intro name node c
    unfold verdict
    rw [hconfig, hindex]
    exact Pass.lastWish_of_inputView hinputs.symm
  refine ⟨hinputs, fun node => ?_, fun node c => ?_⟩
  · have htext : ∀ name, right.lastText name node = left.lastText name node := by
      intro name
      unfold lastText
      rw [hconfig, hindex]
      exact Pass.lastWish_of_inputView hinputs.symm
    rw [ha.texts_of_two hleft hne hnb, hb.texts_of_two hright hne.symm hma, htext, htext,
      Filled.lastText_or_comm hleft.simple hne]
  · rw [ha.classes_of_two hleft hnb, hb.classes_of_two hright hma, hverdict, hverdict]
    cases left.verdict a node c with
    | none => cases left.verdict b node c <;> simp
    | some x =>
      cases left.verdict b node c with
      | none => simp
      | some y => cases x <;> cases y <;> simp

/-- Two inputs that want opposite things of one paragraph. -/
def crossed : Document :=
  .form [.ofAttributes "input" [("name", "a")], .ofAttributes "input" [("name", "b")],
    .ofAttributes "p" [("data-show", "a == 1"), ("data-hide", "b == 1")]]

/-- An input next to a textarea, to which no controller listens. -/
def silent : Document :=
  .form [.ofAttributes "textarea" [("name", "a")], .ofAttributes "input" [("name", "b")],
    .ofAttributes "p" [("data-show", "a == 1 && b == 1")]]

/-- **The order in which two inputs are set shows in classes only,** and only in those on which the
directives of the two have contradicting last words. -/
theorem set_set_classes_iff {d : Document} {config : Config} (hconfig : config.problems = [])
    (hplain : ∀ entry ∈ (Index.build d config.directiveOptions config.capabilities.switches).entries,
      entry.directive.kind ≠ .attributeIf)
    (hsingle : ∀ name ∈ d.inputNames, (d.controlsNamed name).length = 1) {a b : String} (hne : a ≠ b)
    (hta : ∀ node ∈ d.controlsNamed a, (d.element? node).any (·.tag == "textarea") = false)
    (htb : ∀ node ∈ d.controlsNamed b, (d.element? node).any (·.tag == "textarea") = false)
    (va vb : String) :
    (mounted d config).controller.connected = true ∧
      let left := (mounted d config).run [.set a va, .set b vb]
      let right := (mounted d config).run [.set b vb, .set a va]
      left.document.view Element.inputPart = right.document.view Element.inputPart ∧
        (∀ node, (left.document.element? node).map Element.text =
          (right.document.element? node).map Element.text) ∧
        ∀ node c, left.document.hasClass node c ≠ right.document.hasClass node c ↔
          ((mounted d config).set a va).isOk = true ∧ ((mounted d config).set b vb).isOk = true ∧
            ∃ x, left.verdict a node c = some x ∧ left.verdict b node c = some (!x) := by
  have hatmost : ∀ name, (d.controlsNamed name).length ≤ 1 := by
    intro name
    by_cases hname : name ∈ d.inputNames
    · exact Nat.le_of_eq (hsingle name hname)
    · have hnone : d.controlsNamed name = [] :=
        List.eq_nil_iff_forall_not_mem.mpr fun node hnode => hname (Document.mem_inputNames hnode)
      rw [hnone]
      exact Nat.zero_le 1
  obtain ⟨h, hcontrols⟩ := simple_mount hconfig hplain hatmost
  obtain ⟨p, hp⟩ : ∃ p, p = mounted d config := ⟨_, rfl⟩
  rw [← hp]
  have h : p.Simple := hp ▸ h
  have hcontrols : p.document.view Element.controlPart = d.view Element.controlPart := hp ▸ hcontrols
  refine ⟨h.ready.connected, ?_⟩
  have hta := textarea_congr hcontrols hta
  have htb := textarea_congr hcontrols htb
  rw [isOk_set (h.single a), isOk_set (h.single b)]
  have hrun : ∀ x y, p.run [x, y] = (p.after x).after y := fun _ _ => rfl
  cases hsa : p.document.setting? a va with
  | none =>
    have heq : p.run [.set a va, .set b vb] = p.run [.set b vb, .set a va] := by
      rw [hrun, hrun, after_set_of_none (h.single a) hsa, h.after_set_of_none hne htb hsa]
    simp [heq]
  | some due =>
    cases hsb : p.document.setting? b vb with
    | none =>
      have heq : p.run [.set a va, .set b vb] = p.run [.set b vb, .set a va] := by
        rw [hrun, hrun, after_set_of_none (h.single b) hsb, h.after_set_of_none hne.symm hta hsb]
      simp [heq]
    | some due' => simpa using h.set_set hne hta htb hsa hsb

/-- In the crossed form the input that is set last decides whether the paragraph is hidden. -/
theorem set_set_classes_iff_crossed :
    (∀ entry ∈ (Index.build crossed {} true).entries, entry.directive.kind ≠ .attributeIf) ∧
      (∀ name ∈ crossed.inputNames, (crossed.controlsNamed name).length = 1) ∧
      ((mounted crossed {}).run [.set "a" "1", .set "b" "1"]).document.view Element.inputPart =
        ((mounted crossed {}).run [.set "b" "1", .set "a" "1"]).document.view Element.inputPart ∧
      ((mounted crossed {}).run [.set "a" "1", .set "b" "1"]).document.hasClass ⟨3⟩ "bs-d-none" ≠
        ((mounted crossed {}).run [.set "b" "1", .set "a" "1"]).document.hasClass ⟨3⟩ "bs-d-none" := by
  have hplain : ∀ entry ∈ (Index.build crossed {} true).entries,
      entry.directive.kind ≠ .attributeIf := by decide +kernel
  have hsingle : ∀ name ∈ crossed.inputNames, (crossed.controlsNamed name).length = 1 := by
    decide +kernel
  obtain ⟨-, hinputs, -, hclasses⟩ := @set_set_classes_iff crossed {} (by decide +kernel) hplain hsingle
    "a" "b" (by decide) (by decide +kernel) (by decide +kernel) "1" "1"
  refine ⟨hplain, hsingle, hinputs, (hclasses ⟨3⟩ "bs-d-none").mpr ⟨?_, ?_, false, ?_⟩⟩
  · decide +kernel
  · decide +kernel
  · decide +kernel

/-- **Classes do depend on the order,** and with a textarea they do so even where one directive alone
reads both inputs. -/
theorem set_set_classes_not_comm :
    (({} : Config).problems = [] ∧ "a" ≠ "b") ∧
      ((∀ entry ∈ (Index.build crossed {} true).entries, entry.directive.kind ≠ .attributeIf) ∧
        (∀ name ∈ crossed.inputNames, (crossed.controlsNamed name).length = 1) ∧
        ((mounted crossed {}).run [.set "a" "1", .set "b" "1"]).document.hasClass ⟨3⟩ "bs-d-none" ≠
          ((mounted crossed {}).run [.set "b" "1", .set "a" "1"]).document.hasClass ⟨3⟩ "bs-d-none") ∧
      (∀ entry ∈ (Index.build silent {} true).entries, entry.directive.kind ≠ .attributeIf) ∧
        (∀ name ∈ silent.inputNames, (silent.controlsNamed name).length = 1) ∧
        ((mounted silent {}).run [.set "a" "1", .set "b" "1"]).document.hasClass ⟨3⟩ "bs-d-none" ≠
          ((mounted silent {}).run [.set "b" "1", .set "a" "1"]).document.hasClass ⟨3⟩ "bs-d-none" := by
  decide +kernel

end Page

end ReactiveForm
