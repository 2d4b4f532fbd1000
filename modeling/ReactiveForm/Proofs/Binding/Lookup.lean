import ReactiveForm.Proofs.Binding.Synchrony

/-!
# `ReactiveForm.Proofs.Binding.Lookup` — two readings of a changed input

The handler of a change takes the value from the control that has changed, while a plain pass looks it up
by the name, which leads to the first control of that name, or to the group when that is a radio button.
Where several controls share a name the two values can differ. What then comes out differently is bounded:
directives fail or succeed as before, since the input exists in either reading, and they write to the same
places, so that only the text of an echo and the presence of a class can be different.

## Contents
- `Outcome.granted`, what an outcome gets of what it wants, with `Pass.granted_of_finding`.
- `Pass.map_applyAll_of_plain`, an element after a pass that changes no input, under any configuration.
- `Pass.report_applyAll_of_plain`, and `tally_of_change`: **a report tells which inputs exist, not what
  they are**.
- `Pass.lastWord`, what is said last on a class, and `lastText_of_echo`, the text of an echo.
- `Pass.Concerned`, the entries that an input concerns, with what two readings of it make of them.
- `Controller.handleChange_compare`, the two readings after connecting.
-/

namespace ReactiveForm

/-- What an outcome wants, unless it is refused. -/
def Outcome.granted {γ : Type} (want : Outcome → Option γ) (o : Outcome) : Option γ :=
  if o.refused? = none then want o else none

namespace Pass

variable {config : Config} {change : Option Change} {p : Pass} {d : Document}
  {entry : IndexedDirective} {entries rest : List IndexedDirective} {n : NodeId}

/-! ## Passes that change no input -/

/-- The last wish is that of the rest, if the rest has any. -/
theorem lastWish_cons {γ : Type} (want : Outcome → Option γ) :
    lastWish config change d (entry :: rest) n want =
      (lastWish config change d rest n want).or
        (if entry.node = n then (outcome? config change d entry).bind want else none) := by
  unfold lastWish
  rw [List.filter_cons]
  by_cases hn : entry.node = n
  · rw [if_pos (beq_iff_eq.mpr hn), if_pos hn, List.filterMap_cons]
    cases (outcome? config change d entry).bind want with
    | none => exact Option.or_none.symm
    | some x =>
      rw [List.getLast?_cons]
      cases (List.filterMap _ _).getLast? <;> rfl
  · rw [if_neg (fun h => hn (beq_iff_eq.mp h)), if_neg hn, Option.or_none]

/-- Only an outcome that is not refused is granted what it wants. -/
theorem granted_eq_some_iff {γ : Type} {want : Outcome → Option γ} {x : γ} :
    (outcome? config change d entry).bind (·.granted want) = some x ↔
      ∃ o, entry.directive.finding config change d = .ok o ∧ want o = some x := by
  rw [Option.bind_eq_some_iff]
  refine exists_congr fun o => ?_
  rw [outcome?_eq_some_iff, Directive.finding_eq_ok_iff, and_assoc]
  refine and_congr_right fun _ => ?_
  unfold Outcome.granted
  split
  · next hrefused => exact (and_iff_right hrefused).symm
  · next hrefused => exact ⟨fun h => (nomatch h), fun h => absurd h.1 hrefused⟩

/-- An entry that finds something out is granted what it wants. -/
theorem granted_of_finding {γ : Type} {o : Outcome} (h : entry.directive.finding config change d = .ok o)
    (want : Outcome → Option γ) :
    (outcome? config change d entry).bind (·.granted want) = want o := by
  obtain ⟨ho, hrefused⟩ := Directive.finding_eq_ok_iff.mp h
  rw [outcome?_eq_some_iff.mpr ho, Option.bind_some, Outcome.granted, if_pos hrefused]

/-- Where no outcome wants anything, nothing is granted. -/
theorem granted_eq_none {γ : Type} {want : Outcome → Option γ}
    (h : ∀ o, entry.directive.finding config change d = .ok o → want o = none) :
    (outcome? config change d entry).bind (·.granted want) = none := by
  refine Option.eq_none_iff_forall_ne_some.mpr fun x hx => ?_
  obtain ⟨o, ho, hx⟩ := granted_eq_some_iff.mp hx
  rw [h o ho] at hx
  cases hx

/-- An entry that finds nothing out is granted nothing. -/
theorem granted_of_finding_error {γ : Type} {e : EffectError}
    (h : entry.directive.finding config change d = .error e) (want : Outcome → Option γ) :
    (outcome? config change d entry).bind (·.granted want) = none :=
  granted_eq_none fun o ho => by
    rw [h] at ho
    cases ho

/-- One entry is granted what it wants of its element. -/
theorem map_apply_of_plain {γ : Type} {get : Element → Option γ} {want : Outcome → Option γ}
    (config : Config) (change : Option Change) (h : Plain p.document (entry :: rest))
    (hget : ∀ e o, get (o.write e) = (want o).or (get e)) (n : NodeId) :
    ((apply config change p entry).document.element? n).map get =
      (p.document.element? n).map fun e =>
        (if entry.node = n then (outcome? config change p.document entry).bind (·.granted want)
          else none).or (get e) := by
  have hn := h.inTree entry List.mem_cons_self
  cases hfinding : entry.directive.finding config change p.document with
  | error e =>
    rw [apply_of_finding_error hn hfinding, granted_of_finding_error hfinding, ite_self]
    rfl
  | ok o =>
    have hassign := Directive.assignment_mem (Directive.finding_eq_ok_iff.mp hfinding).1
    have hplain : ∀ a ∈ o.assignment, a.name ∉ Document.mirroredAttributes := fun a ha =>
      (h.assignments entry List.mem_cons_self a (hassign a ha)).1
    rw [(apply_of_finding hn hfinding).1.map, granted_of_finding hfinding]
    refine congrArg (Option.map · _) (funext fun e => ?_)
    rw [Outcome.rewriting_of_plain hplain]
    split
    · exact hget e o
    · rfl

/-- **An element after a pass that changes no input:** of the outcomes that are not refused, the last one
that wants something is granted it. -/
theorem map_applyAll_of_plain {γ : Type} {get : Element → Option γ} {want : Outcome → Option γ}
    (h : Plain p.document entries) (hget : ∀ e o, get (o.write e) = (want o).or (get e))
    (n : NodeId) :
    ((applyAll config change p entries).document.element? n).map get =
      (p.document.element? n).map fun e =>
        (lastWish config change p.document entries n (·.granted want)).or (get e) := by
  induction entries generalizing p with
  | nil => rfl
  | cons entry rest ih =>
    have hfirst := congrArg (Option.map (Option.or
      (lastWish config change p.document rest n (·.granted want))))
      (map_apply_of_plain config change h hget n)
    rw [Option.map_map, Option.map_map] at hfirst
    -- the first entry changes no input, so that the rest finds out what it would have found out before
    have hrest := ih (p := apply config change p entry) h.tail
    rw [lastWish_of_inputView h.inputView_apply] at hrest
    refine hrest.trans (hfirst.trans (congrArg (Option.map · _) (funext fun e => ?_)))
    rw [Function.comp_apply, lastWish_cons, Option.or_assoc]

/-! ## Reports -/

/-- A report with what becomes of one more entry, as a document stands. -/
def tally (config : Config) (change : Option Change) (d : Document) (report : Report)
    (entry : IndexedDirective) : Report :=
  match error? (entry.directive.finding config change d) with
  | none => report.succeed
  | some e => report.fail ⟨entry.node, entry.directive.kind, e⟩

theorem report_apply (hn : entry.node.index < p.document.tree.size) :
    (apply config change p entry).report = tally config change p.document p.report entry := by
  unfold tally
  cases hfinding : entry.directive.finding config change p.document with
  | ok o => exact (apply_of_finding hn hfinding).2
  | error e => rw [apply_of_finding_error hn hfinding]; rfl

theorem tally_of_inputView {d' : Document} (h : d.view Element.inputPart = d'.view Element.inputPart) :
    tally config change d = tally config change d' := by
  funext report entry
  unfold tally
  rw [Directive.finding_of_values (Document.values_congr h)]

/-- **The report on a pass that changes no input** is a question of the document that the pass began with. -/
theorem report_applyAll_of_plain (h : Plain p.document entries) :
    (applyAll config change p entries).report =
      entries.foldl (tally config change p.document) p.report := by
  induction entries generalizing p with
  | nil => rfl
  | cons entry rest ih =>
    refine (ih (p := apply config change p entry) h.tail).trans ?_
    rw [tally_of_inputView h.inputView_apply, report_apply (h.inTree entry List.mem_cons_self)]
    rfl

/-! ## Last words -/

/-- The last word of some entries on a class of a node: what the last of them that is applied and writes
the class wants; nothing when none does. -/
def lastWord (config : Config) (change : Option Change) (d : Document)
    (entries : List IndexedDirective) (n : NodeId) (c : String) : Option Bool :=
  lastWish config change d entries n (·.granted fun o => lastSetting o.classes c)

theorem hasClass_applyAll_of_plain (config : Config) (change : Option Change)
    (h : Plain p.document entries) (n : NodeId) (c : String) :
    (applyAll config change p entries).document.hasClass n c =
      (lastWord config change p.document entries n c).getD (p.document.hasClass n c) := by
  refine hasClass_of_map (map_applyAll_of_plain h (fun e o => ?_) n) (lastWish_of_missing h.inTree)
  rw [Outcome.hasClass_write]
  cases lastSetting o.classes c <;> rfl

theorem text_applyAll_of_plain (config : Config) (change : Option Change)
    (h : Plain p.document entries) (n : NodeId) :
    ((applyAll config change p entries).document.element? n).map Element.text =
      (p.document.element? n).map fun e =>
        (lastWish config change p.document entries n (·.granted Outcome.text)).or e.text :=
  map_applyAll_of_plain h (fun _ _ => rfl) n

/-- An entry has nothing to say on a class when it fails or does not write the class at all. -/
theorem granted_setting_eq_none_iff {c : String} :
    (outcome? config change d entry).bind (·.granted fun o => lastSetting o.classes c) = none ↔
      (error? (entry.directive.finding config change d)).isSome = true ∨
        c ∉ entry.directive.classNames config := by
  cases hfinding : entry.directive.finding config change d with
  | error e => exact ⟨fun _ => .inl rfl, fun _ => granted_of_finding_error hfinding _⟩
  | ok o =>
    -- which classes an outcome speaks of does not depend on the inputs
    rw [granted_of_finding hfinding, lastSetting_eq_none_iff,
      Directive.map_fst_classes (Directive.finding_eq_ok_iff.mp hfinding).1]
    simp [error?]

/-! ## An input that exists -/

section Change

variable {name value : String}

/-- **The inputs that exist are the same with a change and without.** -/
theorem coexist_of_change (h : (d.inputSnapshot name).isSome = true) (value : String)
    (policy : UnknownInputPolicy) (names : List String) :
    Context.Coexist names ⟨d.values, some ⟨name, value⟩, policy⟩ ⟨d.values, none, policy⟩ where
  isSome other _ := by
    show (if name = other then some value else d.inputSnapshot other).isSome =
      (d.inputSnapshot other).isSome
    split
    · next he => rw [← he, h]; rfl
    · rfl
  known := rfl
  unknownInput := rfl

theorem tally_of_change (h : (d.inputSnapshot name).isSome = true) :
    tally config (some ⟨name, value⟩) d = tally config none d := by
  funext report entry
  unfold tally
  rw [Directive.error?_finding_congr (coexist_of_change h value _ _)]

/-- Entries that have the last word in one reading of an input have it in the other. -/
theorem lastWord_eq_none_of_change (h : (d.inputSnapshot name).isSome = true) (n : NodeId) (c : String) :
    lastWord config (some ⟨name, value⟩) d entries n c = none ↔ lastWord config none d entries n c = none := by
  unfold lastWord
  rw [lastWish_eq_none_iff, lastWish_eq_none_iff]
  refine forall₃_congr fun entry _ _ => ?_
  rw [granted_setting_eq_none_iff, granted_setting_eq_none_iff,
    Directive.error?_finding_congr (coexist_of_change h value _ _)]

end Change

/-! ## Echoes -/

/-- **The entries that an input concerns,** one of a kind for each node. -/
structure Concerned (name : String) (d : Document) (entries : List IndexedDirective) : Prop
    extends Plain d entries where
  unassigning : ∀ entry ∈ entries, entry.directive.assignments = []
  named : ∀ entry ∈ entries, name ∈ entry.directive.references
  unique : ∀ entry ∈ entries, ∀ other ∈ entries, entry.node = other.node →
    entry.directive.kind = other.directive.kind → entry = other

section Echo

variable {name value : String}

/-- Only an echo gives a text. -/
theorem granted_text_eq_none (h : entry.directive.kind ≠ .echo) :
    (outcome? config change d entry).bind (·.granted Outcome.text) = none :=
  granted_eq_none fun _ => Directive.text_of_finding h

/-- An echo finds its input out. -/
theorem outcome_echo (hvalue :
    Context.resolve ⟨d.values, change, config.evaluation.unknownInput⟩ name = some value) :
    (Directive.echo name).outcome config change d = .ok { text := some value } := by
  unfold Directive.outcome Directive.echoed
  simp only [hvalue]
  rfl

/-- **An echo gives the value that its input is read with.** -/
theorem lastText_of_echo (config : Config) (change : Option Change) (h : Concerned name d entries)
    (hmem : ⟨n, .echo name⟩ ∈ entries)
    (hvalue : Context.resolve ⟨d.values, change, config.evaluation.unknownInput⟩ name = some value) :
    lastWish config change d entries n (·.granted Outcome.text) = some value := by
  refine lastWish_of_unopposed hmem rfl (outcome_echo hvalue) rfl fun other hother hn hne => ?_
  exact granted_text_eq_none fun hkind => hne (h.unique other hother _ hmem hn hkind)

/-- A node without an echo of the input gets no text. -/
theorem lastText_of_no_echo (config : Config) (change : Option Change) (h : Concerned name d entries)
    (hmem : ⟨n, .echo name⟩ ∉ entries) :
    lastWish config change d entries n (·.granted Outcome.text) = none := by
  refine lastWish_eq_none_iff.mpr fun entry hentry hn => granted_text_eq_none fun hkind => hmem ?_
  have hnamed := h.named entry hentry
  obtain ⟨node, directive⟩ := entry
  obtain rfl : node = n := hn
  cases directive with
  | echo input =>
    rw [List.mem_singleton.mp hnamed]
    exact hentry
  | _ => cases hkind

end Echo

/-! ## Two readings -/

/-- Two wishes, of which neither is lacking alone, come out differently when they are different. -/
theorem getD_ne_iff {α : Type} {x y : Option α} (h : x = none ↔ y = none) (z : α) :
    x.getD z ≠ y.getD z ↔ x ≠ y := by
  cases x with
  | none => simp [h.mp rfl]
  | some a =>
    cases y with
    | none => cases h.mpr rfl
    | some b => simp

end Pass

/-- What is left of an element apart from its classes and its text. -/
def Element.lasting (e : Element) : Element := { e with classes := [], text := none }

theorem Outcome.lasting_write {o : Outcome} (h : o.assignment = none) (e : Element) :
    (o.write e).lasting = e.lasting := by
  unfold write Element.lasting
  rw [h]

namespace Pass.Concerned

variable {config : Config} {p : Pass} {entries : List IndexedDirective} {name value : String}

/-- The entries leave everything of an element but its classes and its text. -/
theorem lastingView_applyAll (h : Concerned name p.document entries) (config : Config)
    (change : Option Change) :
    (applyAll config change p entries).document.view Element.lasting =
      p.document.view Element.lasting := by
  refine view_applyAll_of_plain h.inTree (fun entry hentry a ha => (h.assignments entry hentry a ha).1) ?_
  intro entry hentry o ho
  refine Outcome.lasting_write (Option.eq_none_iff_forall_ne_some.mpr fun a ha => ?_)
  have hmem := ho a ha
  rw [h.unassigning entry hentry] at hmem
  cases hmem

/-- **The report does not tell the two readings apart.** -/
theorem report_of_change (h : Concerned name p.document entries)
    (hsome : (p.document.inputSnapshot name).isSome = true) :
    (applyAll config (some ⟨name, value⟩) p entries).report = (applyAll config none p entries).report := by
  rw [report_applyAll_of_plain h.toPlain, report_applyAll_of_plain h.toPlain, tally_of_change hsome]

/-- **Texts tell them apart** where the input is repeated. -/
theorem text_ne_iff (h : Concerned name p.document entries)
    (hsome : (p.document.inputSnapshot name).isSome = true) (n : NodeId) :
    ((applyAll config (some ⟨name, value⟩) p entries).document.element? n).map Element.text ≠
        ((applyAll config none p entries).document.element? n).map Element.text ↔
      ⟨n, .echo name⟩ ∈ entries ∧ p.document.inputSnapshot name ≠ some value := by
  obtain ⟨found, hfound⟩ := Option.isSome_iff_exists.mp hsome
  -- an echo of the input repeats what it was read with, and nothing else gives its node a text
  rw [text_applyAll_of_plain _ _ h.toPlain, text_applyAll_of_plain _ _ h.toPlain, hfound]
  by_cases hmem : ⟨n, .echo name⟩ ∈ entries
  · have hchanged := lastText_of_echo config (some ⟨name, value⟩) h hmem (if_pos rfl)
    have hlooked := lastText_of_echo config none h hmem hfound
    obtain ⟨e, he⟩ := Option.isSome_iff_exists.mp (Document.isSome_element?_iff.mpr (h.inTree _ hmem))
    have he : p.document.element? n = some e := he
    simp [hchanged, hlooked, he, hmem, eq_comm]
  · have hchanged := lastText_of_no_echo config (some ⟨name, value⟩) h hmem
    have hlooked := lastText_of_no_echo config none h hmem
    simp [hchanged, hlooked, hmem]

/-- **Classes tell them apart** where the last words differ. -/
theorem hasClass_ne_iff (h : Concerned name p.document entries)
    (hsome : (p.document.inputSnapshot name).isSome = true) (n : NodeId) (c : String) :
    (applyAll config (some ⟨name, value⟩) p entries).document.hasClass n c ≠
        (applyAll config none p entries).document.hasClass n c ↔
      lastWord config (some ⟨name, value⟩) p.document entries n c ≠
        lastWord config none p.document entries n c := by
  rw [hasClass_applyAll_of_plain _ _ h.toPlain, hasClass_applyAll_of_plain _ _ h.toPlain]
  exact getD_ne_iff (lastWord_eq_none_of_change hsome n c) _

end Pass.Concerned

namespace Controller

variable {c : Controller} {d : Document} {name value : String}

/-- **The entries that an input concerns once a controller has connected.** -/
theorem connect_concerned (c : Controller) (d : Document)
    (hplain : ∀ entry ∈ (d.index c.config).entries, entry.directive.kind ≠ .attributeIf) :
    ∃ u, c.connect d = .ok u ∧ u.controller.index = d.index c.config ∧
      ∀ name, Pass.Concerned name u.document (u.controller.index.dependents name) := by
  obtain ⟨u, hconnect, -, hindex, htree⟩ := c.connect_index d
  have hindex : u.controller.index = d.index c.config := hindex
  refine ⟨u, hconnect, hindex, fun name => ?_⟩
  rw [hindex]
  have hmem : ∀ entry ∈ (d.index c.config).dependents name,
      entry ∈ (d.index c.config).entries ∧ name ∈ entry.directive.references :=
    fun entry h => Index.mem_dependents_build.mp h
  have hnone : ∀ entry ∈ (d.index c.config).dependents name, entry.directive.assignments = [] :=
    fun entry h => Directive.assignments_of_kind (hplain entry (hmem entry h).1)
  refine ⟨⟨fun entry h => ?_, fun entry h a ha => ?_⟩, hnone, fun entry h => (hmem entry h).2,
    fun entry h other h' => Index.eq_of_mem (hmem entry h).1 (hmem other h').1⟩
  · rw [htree]
    exact Index.lt_size_of_mem (hmem entry h).1
  · rw [hnone entry h] at ha
    cases ha

/-- **The two readings agree** on a radio button, and on the first control of a name. -/
theorem inputSnapshot_of_changedValue {node : NodeId} (hvalue : changedValue? d node name = some value)
    (h : d.control? node = some .radio ∨ (d.controlsNamed name).head? = some node) :
    d.inputSnapshot name = some value := by
  unfold changedValue? at hvalue
  split at hvalue
  · exact hvalue
  · next hradio =>
    unfold Document.inputSnapshot
    simp only [h.resolve_left hradio]
    exact (if_neg hradio).trans hvalue

/-- **What two readings of an input have in common:** the same directives fail for the same reasons, and
elements differ in the text of an echo of the input and in classes only, just where the readings differ and
where the last words do. -/
structure Compare (c : Controller) (d : Document) (change : Change) (handled plain : Update) : Prop where
  report : handled.report = plain.report
  lasting : handled.document.view Element.lasting = plain.document.view Element.lasting
  texts : ∀ n, (handled.document.element? n).map Element.text ≠
      (plain.document.element? n).map Element.text ↔
    ⟨n, .echo change.input⟩ ∈ c.index.entries ∧ d.inputSnapshot change.input ≠ some change.value
  classes : ∀ n name, handled.document.hasClass n name ≠ plain.document.hasClass n name ↔
    Pass.lastWord c.config (some change) d (c.index.dependents change.input) n name ≠
      Pass.lastWord c.config none d (c.index.dependents change.input) n name

/-- **Two readings of an input that exists** are compared by what its dependents make of them. -/
theorem compare_of_concerned (h : Pass.Concerned name d (c.index.dependents name))
    (hecho : ∀ n, ⟨n, .echo name⟩ ∈ c.index.dependents name ↔ ⟨n, .echo name⟩ ∈ c.index.entries)
    (hsome : (d.inputSnapshot name).isSome = true) :
    Compare c d ⟨name, value⟩ (c.applyAll d (some ⟨name, value⟩) {} (c.index.dependents name))
      (c.applyAll d none {} (c.index.dependents name)) := by
  have hpass : Pass.Concerned name (Pass.mk d c.states {}).document (c.index.dependents name) := h
  refine ⟨hpass.report_of_change hsome, ?_, fun n => ?_, hpass.hasClass_ne_iff hsome⟩
  · exact (hpass.lastingView_applyAll _ _).trans (hpass.lastingView_applyAll _ _).symm
  · exact (hpass.text_ne_iff hsome n).trans (and_congr_left fun _ => hecho n)

/-- **What the short cut of a handler comes to:** connecting succeeds, and as long as no directive assigns
attributes, a change of any control is handled as a plain pass through the dependents of its name would
handle it, if both read the same value. That they do for a radio button and for the first control of a name;
for another control the handler goes by that control, and the two compare as different readings do. -/
theorem handleChange_compare (c : Controller) (d : Document)
    (hplain : ∀ entry ∈ (d.index c.config).entries, entry.directive.kind ≠ .attributeIf) :
    ∃ u, c.connect d = .ok u ∧ ∀ name, ∀ node ∈ u.document.controlsNamed name,
      ∃ value, changedValue? u.document node name = some value ∧
        (u.document.control? node = some .radio ∨
            (u.document.controlsNamed name).head? = some node →
          u.document.inputSnapshot name = some value) ∧
        (u.document.inputSnapshot name = some value →
          u.controller.handleChange u.document node =
            u.controller.applyAll u.document none {} (u.controller.index.dependents name)) ∧
        Compare u.controller u.document ⟨name, value⟩ (u.controller.handleChange u.document node)
          (u.controller.applyAll u.document none {} (u.controller.index.dependents name)) := by
  obtain ⟨u, hconnect, hindex, hdependents⟩ := c.connect_concerned d hplain
  refine ⟨u, hconnect, fun name node hn => ?_⟩
  obtain ⟨value, hvalue⟩ := Option.isSome_iff_exists.mp (isSome_changedValue? hn)
  refine ⟨value, hvalue, inputSnapshot_of_changedValue hvalue, fun hsame => ?_, ?_⟩
  · rw [handleChange_eq hn hvalue]
    unfold applyAll
    rw [Pass.applyAll_of_change (hdependents name).toPlain hsame]
  · rw [handleChange_eq hn hvalue]
    -- an echo in the index is among the dependents of its only input
    refine compare_of_concerned (hdependents name) (fun n => ?_)
      (Document.isSome_inputSnapshot_iff.mpr (List.ne_nil_of_mem hn))
    rw [hindex]
    exact Index.mem_dependents_build.trans (and_iff_left List.mem_cons_self)

/-- Two controls that share a name, and paragraphs that look at it. -/
def doubled : Document := .form
  [.ofAttributes "input" [("name", "a"), ("value", "0")],
   .ofAttributes "input" [("name", "a"), ("value", "1")],
   .ofAttributes "p" [("data-state", "a")],
   .ofAttributes "p" [("data-show", "a == 1")]]

/-- A change of the first control of the name is handled as a plain pass would handle it; a change of the
second one is not, and compares with it. -/
theorem handleChange_compare_doubled :
    (∀ entry ∈ (doubled.index {}).entries, entry.directive.kind ≠ .attributeIf) ∧
      ∃ u, (ofConfig {}).connect doubled = .ok u ∧
        u.controller.handleChange u.document ⟨1⟩ =
          u.controller.applyAll u.document none {} (u.controller.index.dependents "a") ∧
        Compare u.controller u.document ⟨"a", "1"⟩ (u.controller.handleChange u.document ⟨2⟩)
          (u.controller.applyAll u.document none {} (u.controller.index.dependents "a")) := by
  have hplain : ∀ entry ∈ (doubled.index {}).entries, entry.directive.kind ≠ .attributeIf := by
    decide +kernel
  obtain ⟨u, hconnect, hread⟩ := handleChange_compare (ofConfig {}) doubled hplain
  obtain ⟨u', hconnect', hcontrols, hvalue⟩ := exists_ok_of_any (x := (ofConfig {}).connect doubled)
    (P := fun u => u.document.controlsNamed "a" = [⟨1⟩, ⟨2⟩] ∧ changedValue? u.document ⟨2⟩ "a" = some "1")
    (by decide +kernel)
  obtain rfl : u' = u := Except.ok.inj (hconnect'.symm.trans hconnect)
  refine ⟨hplain, u', hconnect, ?_, ?_⟩
  · obtain ⟨value, -, hsame, hplain, -⟩ := hread "a" ⟨1⟩ (by rw [hcontrols]; decide)
    exact hplain (hsame (.inr (by rw [hcontrols]; rfl)))
  · obtain ⟨value, hvalue', -, -, hcompare⟩ := hread "a" ⟨2⟩ (by rw [hcontrols]; decide)
    obtain rfl : value = "1" := Option.some.inj (hvalue'.symm.trans hvalue)
    exact hcompare

/-- **The short cut can be seen:** a change of the second control is handled with its own value, where a
plain pass would use that of the first one. -/
theorem handleChange_ne_plain :
    (∀ entry ∈ (doubled.index {}).entries, entry.directive.kind ≠ .attributeIf) ∧
      ∃ u, (ofConfig {}).connect doubled = .ok u ∧
        ⟨2⟩ ∈ u.document.controlsNamed "a" ∧ u.controller.index.isRegistered "a" = true ∧
        ((u.controller.handleChange u.document ⟨2⟩).document.element? ⟨3⟩).map Element.text =
          some (some "1") ∧
        ((u.controller.applyAll u.document none {}
          (u.controller.index.dependents "a")).document.element? ⟨3⟩).map Element.text =
            some (some "0") := by
  refine ⟨by decide +kernel, exists_ok_of_any ?_⟩
  decide +kernel

end Controller

end ReactiveForm
