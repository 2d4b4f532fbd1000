import Mathlib.Data.List.Induction
import ReactiveForm.Proofs.Binding.Accounting
import ReactiveForm.Proofs.Binding.Toggling

/-!
# `ReactiveForm.Proofs.Binding.Refusal` — what a valid configuration leaves to be refused

A document refuses an edit for two reasons: the node does not exist, or a class is no class name. Neither
happens to an entry of an index when the configuration has no problems: its node has been read, the classes
of a list have been checked when they were read, and the markers are what the problems are about. What is
left are the classes that elements name for their switches, which nobody checks. They are read when a page
is mounted and kept until it is mounted again, so that a refusal speaks of the document of that time.

Conversely a marker that is no class name is refused whenever it is to be written.

## Contents
- `Index.finding_error`, why an entry of an index fails.
- `Failure.Misnamed`, the refusal of the class of a switch, and `Failure.Excused`.
- `Controller.Reads` and `Reads.handle`, the failures of one call, and `handleEvent_failures`, those of an event.
- `Page.Informed` and `Page.LastMounted`, and `Informed.run`, **what a run leaves the controller with**.
- `Config.Spoiled`, a marker that is refused in every pass.
- `Config.validation_exact`: **the problems of a configuration are what a run can stumble on**.
-/

namespace ReactiveForm

/-! ## Entries of an index -/

section Entries

variable {config : Config} {change : Option Change} {d built : Document} {options : DirectiveOptions}
  {switches : Bool} {entry : IndexedDirective}

/-- **An entry of an index fails for its inputs only,** if the configuration has no problems. -/
theorem Index.finding_error (hconfig : config.problems = [])
    (hmem : entry ∈ (build built options switches).entries) {e : EffectError}
    (h : entry.directive.finding config change d = .error e) : ∃ e', e = .unknownInput e' := by
  rcases Directive.cases_of_finding_error h with ⟨e', -, rfl⟩ | ⟨o, c, ho, hrefused, -⟩
  · exact ⟨e', rfl⟩
  · -- the class would be one that the entry writes, and those are class names
    unfold Outcome.refused? at hrefused
    rw [Directive.map_fst_classes ho] at hrefused
    have hname := isClassName_of_classNames hconfig hmem c (List.mem_of_find?_eq_some hrefused)
    have hnot := List.find?_some hrefused
    rw [hname] at hnot
    cases hnot

namespace Pass

/-- **The failures of a pass through entries of an index** are about missing inputs. -/
theorem failed_of_index (hconfig : config.problems = []) {entries : List IndexedDirective}
    (hmem : ∀ entry ∈ entries, entry ∈ (Index.build built options switches).entries) {p : Pass}
    (htree : p.document.tree = built.tree) :
    ∀ f ∈ p.failed config change entries, ∃ e, f.error = .unknownInput e := by
  induction entries generalizing p with
  | nil => exact fun f hf => nomatch hf
  | cons entry rest ih =>
    obtain ⟨hentry, hrest⟩ := List.forall_mem_cons.mp hmem
    have hrewritten : ∃ g, Document.Rewritten g p.document (apply config change p entry).document :=
      exists_rewritten_applyAll [entry] p
    obtain ⟨g, hg⟩ := hrewritten
    have hnext := ih hrest (p := apply config change p entry) (hg.tree.trans htree)
    cases hfailure : p.failure? config change entry with
    | none =>
      rw [failed_cons_of_none hfailure]
      exact hnext
    | some f =>
      rw [failed_cons_of_some hfailure]
      refine List.forall_mem_cons.mpr ⟨?_, hnext⟩
      obtain ⟨e, he, rfl⟩ := Option.map_eq_some_iff.mp hfailure
      have heffect := error?_eq_some_iff.mp he
      have hn : entry.node.index < p.document.tree.size := by
        rw [htree]
        exact Index.lt_size_of_mem hentry
      cases hfinding : entry.directive.finding config change p.document with
      | ok o =>
        obtain ⟨d', hok, -⟩ := Directive.effect_of_finding hn hfinding
        rw [hok] at heffect
        cases heffect
      | error e' =>
        rw [Directive.effect_of_finding_error hn hfinding] at heffect
        rw [← Except.error.inj heffect]
        exact Index.finding_error hconfig hentry hfinding

end Pass

end Entries

/-! ## Classes of switches -/

/-- **The refusal of the class of a switch:** the class that an element of `built` names for its switch has
white space in it. -/
structure Failure.Misnamed (built : Document) (raw : String) (f : Failure) : Prop where
  kind : f.kind = .switch
  named : built.attribute? f.node switchClassAttribute = some raw
  blank : Text.hasBlank (Text.trim raw) = true
  error : f.error = .document (.invalidClass (Text.trim raw))

/-- A failure that a valid configuration leaves: an edit is refused for the class of a switch only, which is
read from a document that may not be there yet. -/
def Failure.Excused (source? : Option Document) (f : Failure) : Prop :=
  ∀ e, f.error = .document e → ∃ built ∈ source?, ∃ raw, f.Misnamed built raw

theorem Failure.excused_of_unknownInput {source? : Option Document} {f : Failure}
    (h : ∃ e, f.error = .unknownInput e) : f.Excused source? := by
  obtain ⟨e, he⟩ := h
  intro e' he'
  rw [he] at he'
  cases he'

namespace Controller

variable {c : Controller} {d built : Document} {source? : Option Document}

/-- **Toggling fails for classes that are no class names,** if the members exist. -/
theorem toggleMembers_failures {members : List (NodeId × String)} {d : Document}
    (hn : ∀ member ∈ members, member.1.index < d.tree.size) (report : Report) :
    ∀ f ∈ (members.foldl toggleMember (d, report)).2.failures, f ∈ report.failures ∨
      ∃ member ∈ members, Document.isClassName member.2 = false ∧
        f = ⟨member.1, .switch, .document (.invalidClass member.2)⟩ := by
  intro f hf
  rw [report_toggleMembers hn] at hf
  rcases List.mem_append.mp hf with hf | hf
  · exact .inl hf
  · obtain ⟨member, hmember, rfl⟩ := List.mem_map.mp hf
    obtain ⟨hmember, hname⟩ := List.mem_filter.mp hmember
    rw [Bool.not_eq_true'] at hname
    exact .inr ⟨member, hmember, hname, rfl⟩

/-- What the index of a controller says has been read from a document with the tree of the present one, and
an index that has not been built says nothing. -/
structure Reads (source? : Option Document) (c : Controller) (d : Document) : Prop where
  index : c.index = (source?.map (·.index c.config)).getD .empty
  tree : ∀ built ∈ source?, d.tree = built.tree

theorem Reads.follows {c' : Controller} {d' : Document} (h : Reads source? c d)
    (hf : c.Follows d c' d') : Reads source? c' d' where
  index := by rw [hf.index, hf.config, h.index]
  tree built hb := hf.tree.trans (h.tree built hb)

theorem Reads.entries (h : Reads source? c d) {entry : IndexedDirective}
    (hmem : entry ∈ c.index.entries) : ∃ built ∈ source?, entry ∈ (built.index c.config).entries := by
  rw [h.index] at hmem
  cases source? with
  | none => cases hmem
  | some built => exact ⟨built, rfl, hmem⟩

/-- **The class of a member that is no class name** is named by the element itself, and has white space in
it. -/
theorem Reads.misnamed (h : Reads source? c d) (hconfig : c.config.problems = []) {group : String}
    {member : NodeId × String} (hmember : member ∈ c.toggled group) :
    member.1.index < d.tree.size ∧ (Document.isClassName member.2 = false →
      ∃ built ∈ source?, ∃ raw,
        Failure.Misnamed built raw ⟨member.1, .switch, .document (.invalidClass member.2)⟩) := by
  obtain ⟨entry, hentry, hmember⟩ := List.mem_filterMap.mp hmember
  obtain ⟨built, hbuilt, hentry⟩ := h.entries hentry
  obtain ⟨node, directive⟩ := entry
  cases directive with
  | switch g ownClass =>
    simp only [Option.ite_none_right_eq_some] at hmember
    obtain rfl := Option.some.inj hmember.2
    refine ⟨by rw [h.tree built hbuilt]; exact Index.lt_size_of_mem hentry, fun hname => ?_⟩
    have hown : ownClass = built.switchClass? node := by
      obtain ⟨raw, -, hraw⟩ := Option.map_eq_some_iff.mp (Index.directive?_of_mem hentry)
      obtain ⟨parsed, -, hparsed⟩ := map_eq_ok_iff.mp hraw
      cases parsed with
      | switch g' own => exact (Directive.switch.inj hparsed).2.symm
      | _ => cases hparsed
    cases ownClass with
    | none =>
      rw [show Document.isClassName ((none : Option String).getD c.config.classes.hidden) = true from
        (Config.markers_of_problems hconfig).1] at hname
      cases hname
    | some own =>
      obtain ⟨htrimmed, hempty⟩ := Option.filter_eq_some_iff.mp hown.symm
      obtain ⟨raw, hnamed, rfl⟩ := Option.map_eq_some_iff.mp htrimmed
      have hblank : Text.hasBlank (Text.trim raw) = true := by
        have hname : Document.isClassName (Text.trim raw) = false := hname
        unfold Document.isClassName at hname
        rw [hempty, Bool.true_and] at hname
        simpa using hname
      exact ⟨built, hbuilt, raw, rfl, hnamed, hblank, rfl⟩
  | _ => cases hmember

/-- **Whatever a controller handles,** what a valid configuration leaves to fail is excused. -/
theorem Reads.handle (h : Reads source? c d) (hconfig : c.config.problems = []) (node : NodeId)
    (handler : Handler) : ∀ f ∈ (c.handle d node handler).report.failures, f.Excused source? := by
  cases handler with
  | change =>
    show ∀ f ∈ (c.handleChange d node).report.failures, f.Excused source?
    unfold handleChange
    split
    · exact fun f hf => nomatch hf
    · next name _ =>
      split
      · exact fun f hf => nomatch hf
      · -- the dependents are entries of the index, so that inputs are all they can miss
        intro f hf
        refine Failure.excused_of_unknownInput ?_
        have hreport : f ∈ (Pass.applyAll c.config _ ⟨d, c.states, {}⟩
            (c.index.dependents name)).report.failures := hf
        rw [Pass.report_applyAll_eq, List.nil_append] at hreport
        cases source? with
        | none =>
          rw [h.index] at hreport
          cases hreport
        | some built =>
          have hmem : ∀ entry ∈ c.index.dependents name, entry ∈ (built.index c.config).entries := by
            rw [h.index]
            exact fun entry hentry => (Index.mem_dependents_build.mp hentry).1
          exact Pass.failed_of_index hconfig hmem (h.tree built rfl) f hreport
  | toggle =>
    show ∀ f ∈ (c.handleToggle d node).report.failures, f.Excused source?
    unfold handleToggle
    split
    · exact fun f hf => nomatch hf
    · split
      · exact fun f hf => nomatch hf
      · next group _ =>
        intro f hf
        have hmembers : ∀ member ∈ c.toggled (Text.trim group), _ := fun member hm => h.misnamed hconfig hm
        rcases toggleMembers_failures (fun member hm => (hmembers member hm).1) {} f hf with hf | hf
        · cases hf
        · obtain ⟨member, hm, hname, rfl⟩ := hf
          exact fun _ _ => (hmembers member hm).2 hname

/-- **What the failures of every call are, those of an event are,** as long as what the calls rely on is kept
from one to the next. -/
theorem handleEvent_failures {R : Controller → Document → Prop} {P : Failure → Prop} (c : Controller)
    (d : Document) (node : NodeId) (event : Event) (h : R c d)
    (hstep : ∀ c d handler, R c d →
      R (c.handle d node handler).controller (c.handle d node handler).document ∧
        ∀ f ∈ (c.handle d node handler).report.failures, P f) :
    ∀ f ∈ (c.handleEvent d node event).report.failures, P f := by
  have hcalls : ∀ (called : List Registration) (u : Update), R u.controller u.document →
      (∀ f ∈ u.report.failures, P f) → ∀ f ∈ (called.foldl (call node) u).report.failures, P f := by
    intro called
    induction called with
    | nil => exact fun _ _ hu => hu
    | cons r rest ih =>
      intro u hu hfailures
      obtain ⟨hnext, hcall⟩ := hstep u.controller u.document r.handler hu
      exact ih (call node u r) hnext fun f hf => (List.mem_append.mp hf).elim (hfailures f) (hcall f)
  exact hcalls _ _ h fun f hf => nomatch hf

/-- **The failures of an event** are excused. -/
theorem Reads.handleEvent (h : Reads source? c d) (hconfig : c.config.problems = []) (node : NodeId)
    (event : Event) : ∀ f ∈ (c.handleEvent d node event).report.failures, f.Excused source? :=
  handleEvent_failures (R := fun c d => Reads source? c d ∧ c.config.problems = []) c d node event
    ⟨h, hconfig⟩ fun c d handler ⟨h, hconfig⟩ =>
      have hf := follows_handle c d node handler
      ⟨⟨h.follows hf, hf.config ▸ hconfig⟩, h.handle hconfig node handler⟩

/-- **The failures of connecting** are excused by nothing: no edit is refused. -/
theorem connect_failures (hconfig : c.config.problems = []) {u : Update} (h : c.connect d = .ok u) :
    ∀ f ∈ u.report.failures, f.Excused none := by
  obtain ⟨new, d', hconnect, -⟩ := c.connect_eq d
  obtain rfl := Except.ok.inj (hconnect.symm.trans h)
  show ∀ f ∈ ((c.fresh d).1.init (c.fresh d).2).report.failures, f.Excused none
  rw [report_init, Pass.report_applyAll_eq]
  refine List.forall_mem_append.mpr ⟨fun f hf => ?_, fun f hf => Failure.excused_of_unknownInput ?_⟩
  · -- what cannot be read is rejected before anything is written
    obtain ⟨e, -, -, he⟩ := Index.mem_failures.mp hf
    intro e' he'
    rw [he] at he'
    cases he'
  · rw [config_fresh] at hf
    refine Pass.failed_of_index hconfig (fun entry hentry => (List.mem_filter.mp hentry).1) ?_ f hf
    rfl

end Controller

/-! ## Operations -/

namespace Page

variable {p start : Page} {answer : Page × Report} {action : Action} {actions : List Action}
  {source? : Option Document} {config : Config}

/-- An operation that neither mounts nor unmounts fires an event, perhaps with other values in the document. -/
theorem fired_of_attempt (hmount : action ≠ .mount) (hunmount : action ≠ .unmount)
    (h : p.attempt action = .ok answer) :
    ∃ d node event, d.tree = p.document.tree ∧ fire ⟨d, p.controller⟩ node event = answer := by
  rcases attempt_cases h with h | h | ⟨node, event, hq⟩ | ⟨name, node, d, hsets, hq⟩
  · exact absurd h hmount
  · exact absurd h hunmount
  · exact ⟨p.document, node, event, rfl, hq⟩
  · have hd := hsets.entered
    obtain ⟨kind, hkind⟩ := Option.isSome_iff_exists.mp (Document.mem_controlsNamed.mp hsets.1).2.2
    exact ⟨d, node, kind.event, Document.tree_eq_of_view hd.stateless, (fireControl_eq hkind hd).symm.trans hq⟩

/-- A page whose controller has an index of `source?`. -/
structure Informed (config : Config) (source? : Option Document) (p : Page) : Prop where
  config : p.controller.config = config
  reads : Controller.Reads source? p.controller p.document

namespace Informed

/-- **Mounting a page** has its controller read the document as it is. -/
theorem mount (h : p.Informed config source?) : (p.after .mount).Informed config (some p.document) := by
  obtain ⟨u, hconnect, hconfig, hindex, htree⟩ := p.controller.connect_index p.document
  have hmount : p.attempt .mount = .ok (⟨u.document, u.controller⟩, u.report) :=
    map_eq_ok_iff.mpr ⟨u, hconnect, rfl⟩
  rw [after_of_ok hmount]
  refine ⟨hconfig.trans h.config, ?_, ?_⟩
  · rw [show u.controller.index = _ from hindex, show u.controller.config = _ from hconfig]
    rfl
  · rintro built ⟨⟩
    exact htree

/-- **Unmounting a page** has its controller forget what it has read. -/
theorem unmount (h : p.Informed config source?) : (p.after .unmount).Informed config none :=
  ⟨h.config, rfl, nofun⟩

/-- **Every other operation** leaves the controller what it has read. -/
theorem other (h : p.Informed config source?) (hmount : action ≠ .mount) (hunmount : action ≠ .unmount) :
    (p.after action).Informed config source? := by
  cases hresult : p.attempt action with
  | error e => rwa [after_of_error hresult]
  | ok answer =>
    obtain ⟨d, node, event, htree, rfl⟩ := fired_of_attempt hmount hunmount hresult
    have hf := p.controller.follows_handleEvent d node event
    rw [after_of_ok hresult]
    exact ⟨hf.config.trans h.config, Controller.Reads.follows ⟨h.reads.index, fun built hb =>
      htree.trans (h.reads.tree built hb)⟩ hf⟩

/-- **The failures of every operation** are excused by what the controller has read. -/
theorem failures (h : p.Informed config source?) (hconfig : config.problems = []) {report : Report} {q : Page}
    (hresult : p.attempt action = .ok (q, report)) : ∀ f ∈ report.failures, f.Excused source? := by
  rw [← h.config] at hconfig
  rcases eq_or_ne action .mount with rfl | hmount
  · obtain ⟨u, hconnect, hu⟩ := map_eq_ok_iff.mp hresult
    obtain ⟨-, rfl⟩ := Prod.mk.inj hu
    intro f hf e he
    obtain ⟨built, hbuilt, -⟩ := Controller.connect_failures hconfig hconnect f hf e he
    cases hbuilt
  rcases eq_or_ne action .unmount with rfl | hunmount
  · obtain ⟨-, rfl⟩ := Prod.mk.inj (Except.ok.inj hresult)
    exact fun f hf => nomatch hf
  · obtain ⟨d, node, event, htree, hfire⟩ := fired_of_attempt hmount hunmount hresult
    obtain ⟨-, rfl⟩ := Prod.mk.inj hfire
    have hreads : Controller.Reads source? p.controller d :=
      ⟨h.reads.index, fun built hb => htree.trans (h.reads.tree built hb)⟩
    exact hreads.handleEvent hconfig node event

end Informed

/-- **The page was last mounted with the document `built`,** as it was then, and has not been unmounted since. -/
def LastMounted (start : Page) (actions : List Action) (built : Document) : Prop :=
  ∃ earlier later, actions = earlier ++ .mount :: later ∧ .mount ∉ later ∧ .unmount ∉ later ∧
    built = (start.run earlier).document

theorem LastMounted.concat {built : Document} (h : start.LastMounted actions built)
    (hmount : action ≠ .mount) (hunmount : action ≠ .unmount) :
    start.LastMounted (actions ++ [action]) built := by
  obtain ⟨earlier, later, rfl, hm, hu, hbuilt⟩ := h
  refine ⟨earlier, later ++ [action], by rw [List.append_assoc, List.cons_append], ?_, ?_, hbuilt⟩
  · exact fun hmem => (List.mem_append.mp hmem).elim hm fun h => hmount (List.mem_singleton.mp h).symm
  · exact fun hmem => (List.mem_append.mp hmem).elim hu fun h => hunmount (List.mem_singleton.mp h).symm

theorem run_concat (start : Page) (actions : List Action) (action : Action) :
    start.run (actions ++ [action]) = (start.run actions).after action :=
  List.foldl_concat after start action actions

/-- **What a run leaves the controller with:** what it has read from the document that the page was last
mounted with. -/
theorem Informed.run (h : start.Informed config none) (actions : List Action) :
    ∃ source?, (start.run actions).Informed config source? ∧
      ∀ built ∈ source?, start.LastMounted actions built := by
  induction actions using List.reverseRecOn with
  | nil => exact ⟨none, h, nofun⟩
  | append_singleton actions action ih =>
    obtain ⟨source?, hrun, hmounted⟩ := ih
    rw [run_concat]
    rcases eq_or_ne action .mount with rfl | hmount
    · refine ⟨some (start.run actions).document, hrun.mount, ?_⟩
      rintro built ⟨⟩
      exact ⟨actions, [], rfl, nofun, nofun, rfl⟩
    rcases eq_or_ne action .unmount with rfl | hunmount
    · exact ⟨none, hrun.unmount, nofun⟩
    · exact ⟨source?, hrun.other hmount hunmount, fun built hb => (hmounted built hb).concat hmount hunmount⟩

/-- **What a valid configuration leaves to be refused in a run:** the class of a switch, with white space in
it when the page was last mounted. -/
theorem run_failures (hconfig : config.problems = []) (d : Document) (actions : List Action) {q : Page}
    {report : Report}
    (h : ((ofDocument d config).run actions).attempt action = .ok (q, report)) :
    ∀ f ∈ report.failures, ∀ e, f.error = .document e →
      ∃ built, (ofDocument d config).LastMounted actions built ∧ ∃ raw, f.Misnamed built raw := by
  intro f hf e he
  have hstart : (ofDocument d config).Informed config none := ⟨rfl, rfl, nofun⟩
  obtain ⟨source?, hrun, hmounted⟩ := hstart.run actions
  obtain ⟨built, hbuilt, hmisnamed⟩ := hrun.failures hconfig h f hf e he
  exact ⟨built, hmounted built hbuilt, hmisnamed⟩

end Page

/-! ## Markers that are no class names -/

namespace Pass

variable {config : Config} {change : Option Change} {p : Pass} {entry : IndexedDirective} {o : Outcome}

/-- **An entry whose marker is no class name is skipped,** also when the document is edited in place. -/
theorem apply_of_marker {marker : String} (hmarker : Document.isClassName marker = false) {present : Bool}
    (ho : entry.directive.outcome config change p.document = .ok o) (hclasses : o.classes = [(marker, present)])
    (htext : o.text = none) (hassign : o.assignment = none) :
    let skipped : Pass :=
      { p with report := p.report.fail ⟨entry.node, entry.directive.kind, .document (.invalidClass marker)⟩ }
    apply config change p entry = skipped ∧ enact config change p entry = skipped := by
  have hcommit : o.commit p.document entry.node = .error (.invalidClass marker) := by
    rw [Outcome.commit_of_classes htext hassign, hclasses, Document.setClasses_singleton,
      Document.setClass_of_invalid hmarker]
  constructor
  · unfold apply
    rw [Directive.effect_of_commit_error ho hcommit]
  · have hperform : o.perform entry.node p.document = (p.document, some (.invalidClass marker)) :=
      (Outcome.perform_eq (.inr (by rw [hclasses]; exact Nat.le_refl 1))).trans
        (Document.allOrNothing_of_error hcommit)
    unfold enact
    rw [ho]
    simp only [hperform]

end Pass

/-- **A marker that is refused whenever it is to be written:** it is a problem of the configuration, and every
directive that writes it, by one condition that can be evaluated when its turn comes, is skipped and reported. -/
structure Config.Spoiled (config : Config) (key marker : String) (marks : List (Condition → Directive)) :
    Prop where
  problem : ∃ problem ∈ config.problems, classProblem? key marker = some problem
  refused : ∀ mark ∈ marks, ∀ (condition : Condition) (node : NodeId) (change : Option Change) (p : Pass)
    (before after : List IndexedDirective) (active : Bool),
    (Pass.applyAll config change p before).document.evaluate config change condition = .ok active →
      let entry : IndexedDirective := ⟨node, mark condition⟩
      let failure : Failure := ⟨node, (mark condition).kind, .document (.invalidClass marker)⟩
      let turn := Pass.applyAll config change p before
      turn.apply config change entry = { turn with report := turn.report.fail failure } ∧
        turn.enact config change entry = { turn with report := turn.report.fail failure } ∧
        failure ∈ (Pass.applyAll config change p (before ++ entry :: after)).report.failures

/-- The directives that a condition can be made to write a marker with. -/
structure Directive.Marks (config : Config) (marker : String) (mark : Condition → Directive) : Prop where
  conditions : ∀ condition, (mark condition).conditions = [condition]
  echoed : ∀ condition change d, (mark condition).echoed config change d = .ok none
  settle : ∀ condition active, ∃ present, (mark condition).settle config [active] none =
    { classes := [(marker, present)], state := some (.ofBool active) }

theorem Config.spoiled_of_invalid {config : Config} {key marker : String} {marks : List (Condition → Directive)}
    (hmarker : marker.isEmpty = true ∨ Text.hasBlank marker = true)
    (hproblem : ∀ problem, classProblem? key marker = some problem → problem ∈ config.problems)
    (hmarks : ∀ mark ∈ marks, Directive.Marks config marker mark) : config.Spoiled key marker marks := by
  have hname : Document.isClassName marker = false := by
    unfold Document.isClassName
    rcases hmarker with h | h <;> simp [h]
  constructor
  · cases hfound : classProblem? key marker with
    | none =>
      rw [isClassName_of_classProblem? hfound] at hname
      cases hname
    | some problem => exact ⟨problem, hproblem problem hfound, rfl⟩
  · intro mark hmark condition node change p before after active hactive entry failure turn
    have hm := hmarks mark hmark
    obtain ⟨present, hsettle⟩ := hm.settle condition active
    have ho : entry.directive.outcome config change turn.document = .ok
        { classes := [(marker, present)], state := some (.ofBool active) } := by
      rw [Directive.outcome_of_condition (hm.conditions condition) (hm.echoed condition change turn.document),
        hactive, ← hsettle]
      rfl
    obtain ⟨happly, henact⟩ := Pass.apply_of_marker hname ho rfl rfl rfl
    refine ⟨happly, henact, ?_⟩
    have hsplit : Pass.applyAll config change p (before ++ entry :: after) =
        Pass.applyAll config change (turn.apply config change entry) after := by
      unfold Pass.applyAll
      rw [List.foldl_append]
      rfl
    rw [hsplit, happly, Pass.report_applyAll_eq]
    exact List.mem_append_left _ (List.mem_append_right _ (List.mem_singleton_self failure))

/-- **The problems of a configuration are what a run can stumble on.** Without problems no operation, whatever
has been done to the page before, reports that the document has refused anything but the class of a switch,
in which there was white space when the page was last mounted. But with a marker that is empty or has white
space in it, every directive that is to write the marker is skipped. -/
theorem Config.validation_exact (config : Config) :
    (config.problems = [] → ∀ (d : Document) (actions : List Page.Action) (action : Page.Action) (q : Page)
        (report : Report), ((Page.ofDocument d config).run actions).attempt action = .ok (q, report) →
      ∀ f ∈ report.failures, ∀ e, f.error = .document e →
        ∃ built, (Page.ofDocument d config).LastMounted actions built ∧ ∃ raw, f.Misnamed built raw) ∧
    (config.classes.hidden.isEmpty = true ∨ Text.hasBlank config.classes.hidden = true →
      config.Spoiled "classes.hidden" config.classes.hidden [.showIf, .hideIf]) ∧
    (config.classes.disabled.isEmpty = true ∨ Text.hasBlank config.classes.disabled = true →
      config.Spoiled "classes.disabled" config.classes.disabled [.disableIf]) := by
  refine ⟨fun hconfig d actions action q report h => Page.run_failures hconfig d actions h,
    fun h => spoiled_of_invalid h (fun problem hproblem => ?_) ?_,
    fun h => spoiled_of_invalid h (fun problem hproblem => ?_) ?_⟩
  · unfold problems
    simp [hproblem]
  · intro mark hmark
    rcases List.mem_pair.mp hmark with rfl | rfl <;>
      exact ⟨fun _ => rfl, fun _ _ _ => rfl, fun _ active => ⟨_, rfl⟩⟩
  · unfold problems
    simp [hproblem]
  · intro mark hmark
    obtain rfl := List.mem_singleton.mp hmark
    exact ⟨fun _ => rfl, fun _ _ _ => rfl, fun _ active => ⟨_, rfl⟩⟩

/-- A form with a switch whose class cannot be used, and a directive that names another class for it. -/
def Document.renaming : Document :=
  .form [.ofAttributes "div" [("data-switch", "g"), ("target", ""), ("data-switch-class", "a b"),
      ("data-if", "x!=1 ? data-switch-class=c")],
    .ofAttributes "input" [("name", "x")],
    .ofAttributes "p" [("data-show", "x==1")]]

/-- The switch is refused its class, as its element names it when the form is mounted; and a marker with white
space in it has the paragraph skipped. -/
theorem Config.validation_exact_renaming :
    (∃ built, (Page.ofDocument .renaming {}).LastMounted [.mount] built ∧ ∃ raw,
      Failure.Misnamed built raw ⟨⟨1⟩, .switch, .document (.invalidClass "a b")⟩) ∧
    ⟨⟨3⟩, .showIf, .document (.invalidClass "a b")⟩ ∈
      (Pass.applyAll ⟨⟨"a b", ""⟩, {}, {}⟩ none ⟨.renaming, .none, {}⟩
        [⟨⟨3⟩, .showIf (.compare ⟨"x", .equal, "1"⟩)⟩]).report.failures ∧
    Config.Spoiled ⟨⟨"a b", ""⟩, {}, {}⟩ "classes.disabled" "" [.disableIf] := by
  obtain ⟨hvalid, -, -⟩ := Config.validation_exact {}
  obtain ⟨-, hhidden, hdisabled⟩ := Config.validation_exact ⟨⟨"a b", ""⟩, {}, {}⟩
  have hclick : ((Page.ofDocument .renaming {}).run [.mount]).attempt (.click ⟨1⟩) =
      .ok (((Page.ofDocument .renaming {}).run [.mount]).click ⟨1⟩) := rfl
  refine ⟨hvalid (by decide) .renaming [.mount] (.click ⟨1⟩) _ _ hclick _ (by decide +kernel) _ rfl, ?_,
    hdisabled (.inl (by decide))⟩
  obtain ⟨-, -, hreported⟩ := (hhidden (.inr (by decide))).refused .showIf List.mem_cons_self
    (.compare ⟨"x", .equal, "1"⟩) ⟨3⟩ none ⟨.renaming, .none, {}⟩ [] [] false (by decide +kernel)
  exact hreported

/-- **What an element names for its switch now does not matter:** mounting this form has a directive rename the
class of the switch, and a click is refused the old one nevertheless. -/
theorem Config.refused_after_renaming :
    ({} : Config).problems = [] ∧
      ((Page.ofDocument .renaming {}).run [.mount]).document.attribute? ⟨1⟩ switchClassAttribute = some "c" ∧
      Text.hasBlank (Text.trim "c") = false ∧
      ⟨⟨1⟩, .switch, .document (.invalidClass "a b")⟩ ∈
        (((Page.ofDocument .renaming {}).run [.mount]).click ⟨1⟩).2.failures ∧
      (((Page.ofDocument .renaming {}).run [.mount]).click ⟨1⟩).1.document.attribute? ⟨1⟩
        switchClassAttribute = some "c" := by
  decide +kernel

end ReactiveForm
