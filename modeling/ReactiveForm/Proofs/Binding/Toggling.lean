import ReactiveForm.Proofs.Binding.Accounting
import ReactiveForm.Proofs.Binding.Interaction
import ReactiveForm.Proofs.Binding.Listing

/-!
# `ReactiveForm.Proofs.Binding.Toggling` — toggling a switch group is exact and undoes itself

Which elements belong to a switch group, and which class each of them flips, is read when the directives of a
document are read. Which group is toggled is read from the trigger at the moment of the click. As long as the
attributes of switches stay as they are, both speak of the same groups: every member is flipped once, in its
own class, and nothing else changes. Members whose class is no class name are reported one by one.

## Contents
- `Document.toggleClass_of_isClassName` and `hasClass_toggleMembers`, `report_toggleMembers`: **flipping some
  members**, in closed form.
- `Document.switchGroup?`, `Document.groupMembers` and `Config.switchClass`, with `Controller.member?` and
  `Controller.toggled_build`.
- `Controller.Tracks`, an index that still says what the document says about switches, kept by events.
- `Controller.handleToggle_flips`, what toggling a group comes to.
-/

namespace ReactiveForm

/-! ## Flipping one class -/

namespace Document

variable {d : Document} {node : NodeId} {c : String}

theorem setClass_of_invalid (h : isClassName c = false) (d : Document) (node : NodeId) (present : Bool) :
    d.setClass node c present = .error (.invalidClass c) := by
  unfold setClass addClass removeClass editClass
  rw [h]
  split <;> rfl

theorem toggleClass_of_invalid (h : isClassName c = false) (d : Document) (node : NodeId) :
    d.toggleClass node c = .error (.invalidClass c) := by
  unfold toggleClass
  dsimp only
  rw [setClass_of_invalid h]
  rfl

theorem toggleClass_of_isClassName (hn : node.index < d.tree.size) (h : isClassName c = true) :
    d.toggleClass node c =
      .ok (d.modify node (·.withSetting (c, !d.hasClass node c)), !d.hasClass node c) := by
  have hset := setClass_of_isClassName hn (s := (c, !d.hasClass node c)) h
  exact bind_eq_ok_iff.mpr ⟨_, hset, rfl⟩

/-- A class that is set at one node is that class at that node. -/
theorem hasClass_modify_withSetting (hn : node.index < d.tree.size) (present : Bool) (n : NodeId) (name : String) :
    (d.modify node (·.withSetting (c, present))).hasClass n name =
      if (n, name) = (node, c) then present else d.hasClass n name := by
  obtain ⟨e, he⟩ := Option.isSome_iff_exists.mp (isSome_element?_iff.mpr hn)
  unfold hasClass
  rw [element?_modify]
  by_cases hnode : node = n
  · subst hnode
    rw [if_pos rfl, he]
    show (e.withSetting (c, present)).hasClass name = _
    rw [Element.hasClass_withSetting, lastSetting_singleton]
    by_cases hname : c = name
    · simp [hname]
    · have hne : name ≠ c := fun h => hname h.symm
      simp [hname, hne]
  · have hne : (n, name) ≠ (node, c) := fun h => hnode (congrArg Prod.fst h).symm
    rw [if_neg hnode, if_neg hne]

end Document

/-! ## Flipping some members -/

namespace Controller

variable {d : Document} {member : NodeId × String} {members : List (NodeId × String)}

/-- The report on a member whose class is no class name. -/
def misnamed (member : NodeId × String) : Failure := ⟨member.1, .switch, .document (.invalidClass member.2)⟩

/-- **One member is flipped,** or reported. -/
theorem toggleMember_eq (hn : member.1.index < d.tree.size) (report : Report) :
    toggleMember (d, report) member =
      if Document.isClassName member.2 then
        (d.modify member.1 (·.withSetting (member.2, !d.hasClass member.1 member.2)), report.succeed)
      else (d, report.fail (misnamed member)) := by
  unfold toggleMember
  by_cases hname : Document.isClassName member.2 = true
  · rw [Document.toggleClass_of_isClassName hn hname, if_pos hname]
  · rw [Document.toggleClass_of_invalid (Bool.not_eq_true _ ▸ hname), if_neg hname]
    rfl

/-- **The members are flipped, each in its own class.** No member comes twice, so that no flip undoes another
one. -/
theorem hasClass_toggleMembers (hnodup : members.Nodup)
    (hn : ∀ member ∈ members, member.1.index < d.tree.size) (report : Report) (n : NodeId) (name : String) :
    (members.foldl toggleMember (d, report)).1.hasClass n name =
      if (n, name) ∈ members ∧ Document.isClassName name = true then !d.hasClass n name
      else d.hasClass n name := by
  induction members generalizing d report with
  | nil => rfl
  | cons member rest ih =>
    obtain ⟨hmember, hrest⟩ := List.forall_mem_cons.mp hn
    obtain ⟨hnew, hnodup⟩ := List.nodup_cons.mp hnodup
    rw [List.foldl_cons, toggleMember_eq hmember]
    by_cases hname : Document.isClassName member.2 = true
    · rw [if_pos hname, ih hnodup (d := d.modify member.1 _) hrest,
        Document.hasClass_modify_withSetting hmember]
      by_cases hself : (n, name) = member
      · subst hself
        simp [hnew, show Document.isClassName name = true from hname]
      · simp [hself]
    · rw [if_neg hname, ih hnodup hrest]
      by_cases hself : (n, name) = member
      · subst hself
        simp [show ¬Document.isClassName name = true from hname]
      · simp [hself]

/-- **Flipped members are counted, and the others are reported** in their order. -/
theorem report_toggleMembers (hn : ∀ member ∈ members, member.1.index < d.tree.size) (report : Report) :
    (members.foldl toggleMember (d, report)).2 =
      { applied := report.applied + (members.filter (Document.isClassName ·.2)).length
        failures := report.failures ++ (members.filter (!Document.isClassName ·.2)).map misnamed } := by
  induction members generalizing d report with
  | nil => simp
  | cons member rest ih =>
    obtain ⟨hmember, hrest⟩ := List.forall_mem_cons.mp hn
    rw [List.foldl_cons, toggleMember_eq hmember]
    by_cases hname : Document.isClassName member.2 = true
    · rw [if_pos hname, ih (d := d.modify member.1 _) hrest]
      simp [hname, Report.succeed, Nat.add_assoc, Nat.add_comm]
    · rw [if_neg hname, ih hrest]
      simp [hname, Report.fail]

end Controller

/-! ## Switch groups -/

/-- The switch group that an element belongs to, unless its name is blank. -/
def Document.switchGroup? (d : Document) (node : NodeId) : Option String :=
  ((d.attribute? node DirectiveKind.switch.attributeName).map Text.trim).filter (!·.isEmpty)

/-- The members of a switch group, in document order. -/
def Document.groupMembers (d : Document) (group : String) : List NodeId :=
  d.descendants.filter fun node => d.switchGroup? node == some group

/-- The class that an element flips with its group: its own one, and otherwise the one that hides. -/
def Config.switchClass (config : Config) (d : Document) (node : NodeId) : String :=
  (d.switchClass? node).getD config.classes.hidden

/-- A switch can be read unless it is blank. -/
theorem Directive.parse_switch (options : DirectiveOptions) (raw : String) :
    parse options .switch raw =
      if (Text.trim raw).isEmpty then .error (.empty .switch) else .ok (.switch (Text.trim raw) none) := by
  unfold parse
  dsimp only
  split <;> rfl

namespace Document

variable {d : Document} {node : NodeId} {group : String}

theorem mem_groupMembers : node ∈ d.groupMembers group ↔ d.switchGroup? node = some group := by
  unfold groupMembers
  rw [List.mem_filter, beq_iff_eq]
  refine and_iff_right_of_imp fun h => ?_
  obtain ⟨raw, hraw, -⟩ := Option.map_eq_some_iff.mp (Option.filter_eq_some_iff.mp h).1
  exact d.tree.mem_descendants (lt_size_of_attribute? hraw)

theorem lt_size_of_mem_groupMembers (h : node ∈ d.groupMembers group) : node.index < d.tree.size := by
  obtain ⟨raw, hraw, -⟩ := Option.map_eq_some_iff.mp (Option.filter_eq_some_iff.mp (mem_groupMembers.mp h)).1
  exact lt_size_of_attribute? hraw

theorem nodup_groupMembers (d : Document) (group : String) : (d.groupMembers group).Nodup :=
  d.tree.nodup_descendants.filter _

/-- **A switch is read as its group and its class.** -/
theorem entry?_switch (d : Document) (options : DirectiveOptions) (node : NodeId) :
    d.entry? options .switch node =
      (d.switchGroup? node).map fun group => ⟨node, .switch group (d.switchClass? node)⟩ := by
  unfold entry? directive? switchGroup?
  cases d.attribute? node DirectiveKind.switch.attributeName with
  | none => rfl
  | some raw =>
    rw [Option.map_some, Option.map_some, Directive.parse_switch, Option.filter_some]
    cases (Text.trim raw).isEmpty <;> rfl

end Document

namespace Controller

variable {c : Controller} {d built : Document} {group : String}

/-- What an entry contributes to a group: its node, with the class that it flips. -/
def member? (config : Config) (group : String) : IndexedDirective → Option (NodeId × String)
  | ⟨node, .switch own ownClass⟩ =>
    if own = group then some (node, ownClass.getD config.classes.hidden) else none
  | _ => none

theorem toggled_eq (c : Controller) (group : String) :
    c.toggled group = c.index.entries.filterMap (member? c.config group) := by
  unfold toggled
  refine List.filterMap_congr fun entry _ => ?_
  obtain ⟨node, directive⟩ := entry
  cases directive <;> rfl

/-- Entries of other kinds contribute nothing. -/
theorem filterMap_member?_of_ne (config : Config) (group : String) {kind : DirectiveKind} (hkind : kind ≠ .switch) :
    ((d.withAttribute kind.attributeName).filterMap (d.entry? config.directiveOptions kind)).filterMap
      (member? config group) = [] := by
  refine List.filterMap_eq_nil_iff.mpr fun entry hentry => ?_
  obtain ⟨node, -, hnode⟩ := List.mem_filterMap.mp hentry
  have hhere : entry.directive.kind = kind := congrArg Prod.snd (Index.key_of_entry? hnode)
  obtain ⟨node, directive⟩ := entry
  cases directive with
  | switch own ownClass => exact absurd hhere.symm hkind
  | _ => rfl

/-- A switch contributes to its own group. -/
theorem bind_entry?_member? (config : Config) (group : String) (node : NodeId) :
    (d.entry? config.directiveOptions .switch node).bind (member? config group) =
      (Option.guard (fun node => d.switchGroup? node == some group) node).map
        fun node => (node, config.switchClass d node) := by
  rw [Document.entry?_switch]
  cases hgroup : d.switchGroup? node with
  | none => simp [Option.guard, hgroup]
  | some own => by_cases hown : own = group <;> simp [Option.guard, hgroup, member?, hown, Config.switchClass]

/-- **What a controller toggles for a group** are the members that the group had when the index was built, each
with its class of that time. -/
theorem toggled_build (hswitches : c.config.capabilities.switches = true) (hindex : c.index = built.index c.config)
    (group : String) :
    c.toggled group = (built.groupMembers group).map fun node => (node, c.config.switchClass built node) := by
  calc c.toggled group
      = ((Index.indexedKinds true).flatMap fun kind =>
          ((built.withAttribute kind.attributeName).filterMap
            (built.entry? c.config.directiveOptions kind)).filterMap (member? c.config group)) := by
        rw [toggled_eq, hindex, Document.index, hswitches, Index.build_entries, List.filterMap_flatMap]
    _ = ((built.withAttribute DirectiveKind.switch.attributeName).filterMap
          (built.entry? c.config.directiveOptions .switch)).filterMap (member? c.config group) := by
        simp [Index.indexedKinds, DirectiveKind.all, filterMap_member?_of_ne]
    _ = built.descendants.filterMap fun node =>
          (built.entry? c.config.directiveOptions .switch node).bind (member? c.config group) := by
        rw [Index.filterMap_withAttribute fun node entry h =>
          Index.attribute?_of_directive? (Index.entry?_eq_some_iff.mp h).2, List.filterMap_filterMap]
    _ = (built.groupMembers group).map fun node => (node, c.config.switchClass built node) := by
        unfold Document.groupMembers
        rw [← List.filterMap_eq_filter, List.map_filterMap]
        exact congrArg (built.descendants.filterMap ·) (funext (bind_entry?_member? c.config group))

end Controller

/-! ## Indices that are up to date about switches -/

/-- The attributes that switches are read from. -/
def switchAttributes : List String := [DirectiveKind.switch.attributeName, switchClassAttribute]

/-- The part of an element that its switch is read from. -/
def Element.switchPart (e : Element) : Option String × Option String :=
  (e.attribute? DirectiveKind.switch.attributeName, e.attribute? switchClassAttribute)

theorem Element.readFrom_switchPart : ReadFrom switchAttributes switchPart := by
  intro o h d node n e
  have hne : ∀ a ∈ o.assignment, a.name ≠ DirectiveKind.switch.attributeName ∧ a.name ≠ switchClassAttribute := by
    intro a ha
    simpa [switchAttributes] using h a ha
  unfold switchPart
  rw [Outcome.attribute?_rewriting (by decide) fun a ha => (hne a ha).1,
    Outcome.attribute?_rewriting (by decide) fun a ha => (hne a ha).2]

theorem Element.switchPart_of_attributes {e e' : Element} (h : e.attributes = e'.attributes) :
    e.switchPart = e'.switchPart := by
  unfold switchPart attribute?
  rw [h]

namespace Document

variable {d d' : Document} (h : d.view Element.switchPart = d'.view Element.switchPart)

include h

theorem switchGroup?_congr (node : NodeId) : d.switchGroup? node = d'.switchGroup? node := by
  have hnode : d.attribute? node DirectiveKind.switch.attributeName =
      d'.attribute? node DirectiveKind.switch.attributeName :=
    bind_element?_congr (map_element?_of_view h node) fun _ _ => congrArg Prod.fst
  unfold switchGroup?
  rw [hnode]

theorem groupMembers_congr (group : String) : d.groupMembers group = d'.groupMembers group := by
  have htree : d.descendants = d'.descendants := congrArg Tree.descendants (tree_eq_of_view h)
  have hgroup : d.switchGroup? = d'.switchGroup? := funext (switchGroup?_congr h)
  unfold groupMembers
  rw [htree, hgroup]

theorem switchClass_congr (config : Config) : config.switchClass d = config.switchClass d' := by
  funext node
  have hnode : d.attribute? node switchClassAttribute = d'.attribute? node switchClassAttribute :=
    bind_element?_congr (map_element?_of_view h node) fun _ _ => congrArg Prod.snd
  unfold Config.switchClass switchClass?
  rw [hnode]

end Document

namespace Controller

variable {c c' : Controller} {d d' : Document} {group : String}

/-- **A controller that is up to date about switches:** since its index was built, no node has been appended and
no attribute of a switch has been changed. -/
def Tracks (c : Controller) (d : Document) : Prop :=
  ∃ built : Document, c.index = built.index c.config ∧ built.view Element.switchPart = d.view Element.switchPart

theorem Tracks.congr (h : c.Tracks d) (hindex : c'.index = c.index) (hconfig : c'.config = c.config)
    (hview : d'.view Element.switchPart = d.view Element.switchPart) : c'.Tracks d' := by
  obtain ⟨built, hbuilt, hsame⟩ := h
  exact ⟨built, by rw [hindex, hconfig, hbuilt], hsame.trans hview.symm⟩

/-- **Events keep a controller up to date,** if its directives assign no attribute of a switch. -/
theorem Tracks.handleEvent (h : c.Tracks d) (hspares : c.index.Spares switchAttributes) (node : NodeId)
    (event : Event) :
    (c.handleEvent d node event).controller.Tracks (c.handleEvent d node event).document := by
  have hfollows := follows_handleEvent c d node event
  refine h.congr hfollows.index hfollows.config ?_
  refine view_handleEvent_of_spares Element.readFrom_switchPart (fun e e' he => ?_) hspares d node event
  exact Element.switchPart_of_attributes (Element.classless_congr he).2

/-- **Connecting brings a controller up to date,** if the directives of the document assign no attribute of a
switch. -/
theorem connect_tracks (hspares : (d.index c.config).Spares switchAttributes) :
    ∃ u, c.connect d = .ok u ∧ u.controller.connected = true ∧ u.controller.config = c.config ∧
      u.controller.index = d.index c.config ∧ u.document.view Element.switchPart = d.view Element.switchPart := by
  obtain ⟨new, d', hconnect, hnew⟩ := c.connect_eq d
  refine ⟨_, hconnect, rfl, c.config_fresh d, c.build_fresh d, ?_⟩
  have hindex : (c.fresh d).2.index (c.fresh d).1.config = d.index c.config := c.build_fresh d
  have hinit : ((c.fresh d).1.init (c.fresh d).2).document.view Element.switchPart =
      (c.fresh d).2.view Element.switchPart := by
    refine Pass.view_applyAll_of_spares Element.readFrom_switchPart (fun entry hentry => hspares entry ?_) _
    rw [← hindex]
    exact (List.mem_filter.mp hentry).1
  have hlistening : d'.view Element.switchPart = _ :=
    Document.view_of_view hnew.view fun _ _ he => congrArg _ he
  have hfresh : (c.fresh d).2.view Element.switchPart = d.view Element.switchPart :=
    Document.view_of_view (c.view_fresh d) fun _ _ he => congrArg _ he
  exact hlistening.trans (hinit.trans hfresh)

/-- What a controller that is up to date toggles for a group. -/
theorem Tracks.toggled (h : c.Tracks d) (hswitches : c.config.capabilities.switches = true) (group : String) :
    c.toggled group = (d.groupMembers group).map fun node => (node, c.config.switchClass d node) := by
  obtain ⟨built, hbuilt, hsame⟩ := h
  rw [toggled_build hswitches hbuilt, Document.groupMembers_congr hsame, Document.switchClass_congr hsame]

end Controller

namespace Page

variable {p : Page} {d : Document} {config : Config}

/-- **Whatever is done to a page keeps its controller up to date,** but for mounting it anew or unmounting it. -/
theorem tracks_after (h : p.controller.Tracks p.document) (hspares : p.controller.index.Spares switchAttributes)
    {action : Action} (hmount : action ≠ .mount) (hunmount : action ≠ .unmount) :
    (p.after action).controller.Tracks (p.after action).document ∧
      (p.after action).controller.index.Spares switchAttributes := by
  have hfire : ∀ d' node event, d'.view Element.switchPart = p.document.view Element.switchPart →
      (fire ⟨d', p.controller⟩ node event).1.controller.Tracks (fire ⟨d', p.controller⟩ node event).1.document ∧
        (fire ⟨d', p.controller⟩ node event).1.controller.index.Spares switchAttributes := by
    intro d' node event hview
    have hindex : (p.controller.handleEvent d' node event).controller.index = p.controller.index :=
      (Controller.follows_handleEvent _ _ node event).index
    exact ⟨(h.congr rfl rfl hview).handleEvent hspares node event, hindex ▸ hspares⟩
  cases hresult : p.attempt action with
  | error e =>
    rw [after_of_error hresult]
    exact ⟨h, hspares⟩
  | ok answer =>
    have hafter : p.after action = answer.1 := after_of_ok hresult
    rw [hafter]
    rcases attempt_cases hresult with rfl | rfl | ⟨node, event, rfl⟩ | ⟨name, node, d', hset, rfl⟩
    · exact absurd rfl hmount
    · exact absurd rfl hunmount
    · exact hfire p.document node event rfl
    · -- entering an input writes no attribute
      exact hfire d' node _ (hset.entered.view fun e e' he =>
        Element.switchPart_of_attributes (Element.stateless_congr he).2.1)

/-- **The controller of a mounted page is up to date throughout a run,** if the directives of the document assign
no attribute of a switch. -/
theorem run_tracks (hspares : (d.index config).Spares switchAttributes) (actions : List Action)
    (hactions : ∀ action ∈ actions, action ≠ .mount ∧ action ≠ .unmount) :
    ((mounted d config).run actions).controller.Tracks ((mounted d config).run actions).document := by
  have hruns : ∀ (actions : List Action) (p : Page), (∀ action ∈ actions, action ≠ .mount ∧ action ≠ .unmount) →
      p.controller.Tracks p.document ∧ p.controller.index.Spares switchAttributes →
      (p.run actions).controller.Tracks (p.run actions).document := by
    intro actions
    induction actions with
    | nil => exact fun p _ hp => hp.1
    | cons action rest ih =>
      intro p hactions hp
      obtain ⟨hfirst, hrest⟩ := List.forall_mem_cons.mp hactions
      exact ih (p.after action) hrest (tracks_after hp.1 hp.2 hfirst.1 hfirst.2)
  refine hruns actions (mounted d config) hactions ?_
  obtain ⟨u, hconnect, -, hconfig, hindex, hview⟩ :=
    Controller.connect_tracks (c := .ofConfig config) (d := d) hspares
  have hmount : (ofDocument d config).attempt .mount = .ok (ofUpdate u) := map_eq_ok_iff.mpr ⟨u, hconnect, rfl⟩
  have hmounted : mounted d config = (ofUpdate u).1 := after_of_ok hmount
  rw [hmounted]
  refine ⟨⟨d, ?_, hview.symm⟩, ?_⟩
  · show u.controller.index = d.index u.controller.config
    rw [hindex, hconfig]
  · show u.controller.index.Spares switchAttributes
    rw [hindex]
    exact hspares

end Page

/-! ## Toggling -/

namespace Controller

variable {c : Controller} {d : Document} {group : String}

/-- Handling a click on a trigger, once its group is known. -/
theorem handleToggle_of_attribute {raw : String} {trigger : NodeId}
    (hswitches : c.config.capabilities.switches = true)
    (hraw : d.attribute? trigger DirectiveKind.switch.attributeName = some raw) :
    c.handleToggle d trigger =
      ⟨c, ((c.toggled (Text.trim raw)).foldl toggleMember (d, {})).1,
        ((c.toggled (Text.trim raw)).foldl toggleMember (d, {})).2⟩ := by
  unfold handleToggle
  rw [hswitches, hraw]
  rfl

theorem handleToggle_idle {trigger : NodeId} (h : c.config.capabilities.switches = false ∨
    d.attribute? trigger DirectiveKind.switch.attributeName = none) :
    c.handleToggle d trigger = c.unchanged d := by
  unfold handleToggle
  rcases h with h | h
  · rw [h]
    rfl
  · rw [h]
    split <;> rfl

section Group

variable {trigger : NodeId} (h : c.Tracks d) (hswitches : c.config.capabilities.switches = true)
  (hgroup : d.switchGroup? trigger = some group)

include h hswitches hgroup

/-- **Toggling a group flips its members.** -/
theorem Tracks.handleToggle_eq :
    ∃ members, members = (d.groupMembers group).map (fun node => (node, c.config.switchClass d node)) ∧
      members.Nodup ∧ (∀ member ∈ members, member.1.index < d.tree.size) ∧
      c.handleToggle d trigger =
        ⟨c, (members.foldl toggleMember (d, {})).1, (members.foldl toggleMember (d, {})).2⟩ := by
  obtain ⟨hmap, -⟩ := Option.filter_eq_some_iff.mp hgroup
  obtain ⟨raw, hraw, rfl⟩ := Option.map_eq_some_iff.mp hmap
  refine ⟨_, rfl, ?_, ?_, ?_⟩
  · exact (d.nodup_groupMembers (Text.trim raw)).map fun n m heq => congrArg Prod.fst heq
  · intro member hmember
    obtain ⟨node, hnode, rfl⟩ := List.mem_map.mp hmember
    exact Document.lt_size_of_mem_groupMembers hnode
  · rw [handleToggle_of_attribute hswitches hraw, h.toggled hswitches]

theorem Tracks.hasClass_handleToggle (n : NodeId) (name : String) :
    (c.handleToggle d trigger).document.hasClass n name =
      if n ∈ d.groupMembers group ∧ name = c.config.switchClass d n ∧ Document.isClassName name = true then
        !d.hasClass n name
      else d.hasClass n name := by
  obtain ⟨members, hmembers, hnodup, hn, htoggle⟩ := h.handleToggle_eq hswitches hgroup
  have hmem : (n, name) ∈ members ↔ n ∈ d.groupMembers group ∧ name = c.config.switchClass d n := by
    rw [hmembers, List.mem_map]
    constructor
    · rintro ⟨node, hnode, heq⟩
      obtain ⟨rfl, rfl⟩ := Prod.mk.inj heq
      exact ⟨hnode, rfl⟩
    · rintro ⟨hnode, rfl⟩
      exact ⟨n, hnode, rfl⟩
  rw [htoggle, hasClass_toggleMembers hnodup hn]
  simp only [hmem, and_assoc]

theorem Tracks.report_handleToggle :
    (c.handleToggle d trigger).report =
      { applied := ((d.groupMembers group).filter fun node =>
          Document.isClassName (c.config.switchClass d node)).length
        failures := ((d.groupMembers group).filter fun node =>
          !Document.isClassName (c.config.switchClass d node)).map fun node =>
            ⟨node, .switch, .document (.invalidClass (c.config.switchClass d node))⟩ } := by
  obtain ⟨members, hmembers, -, hn, htoggle⟩ := h.handleToggle_eq hswitches hgroup
  rw [htoggle, report_toggleMembers hn, hmembers, List.filter_map, List.filter_map, List.length_map, List.map_map,
    Nat.zero_add, List.nil_append]
  rfl

/-- **Toggling a group twice restores every class,** since it keeps what the group is known from. -/
theorem Tracks.hasClass_handleToggle_twice (n : NodeId) (name : String) :
    (c.handleToggle (c.handleToggle d trigger).document trigger).document.hasClass n name = d.hasClass n name := by
  have hview : (c.handleToggle d trigger).document.view Element.switchPart = d.view Element.switchPart :=
    Document.view_of_view (c.handleToggle_spec d trigger).2.classless fun _ _ he =>
      Element.switchPart_of_attributes (Element.classless_congr he).2
  have hagain := (h.congr rfl rfl hview).hasClass_handleToggle hswitches
    ((Document.switchGroup?_congr hview trigger).trans hgroup) n name
  rw [Document.groupMembers_congr hview, Document.switchClass_congr hview,
    h.hasClass_handleToggle hswitches hgroup] at hagain
  rw [hagain]
  split
  · exact Bool.not_not _
  · rfl

end Group

/-- **Toggling a switch group flips its members and nothing else, and toggling it again undoes it.** A trigger
names its group by its own `data-switch`. Where that is not blank, the trigger is a member, and each member has
its class flipped: the one that it names itself, or the one that hides. Members whose class is no class name are
reported one by one, the others are counted, and nothing but these classes changes. Where it is missing or blank,
or where there are no switches, nothing happens. -/
theorem handleToggle_flips (c : Controller) (d : Document) (trigger : NodeId) :
    (c.config.capabilities.switches = true → c.Tracks d →
      ∀ group, d.switchGroup? trigger = some group →
        trigger ∈ d.groupMembers group ∧
        (∀ n name, (c.handleToggle d trigger).document.hasClass n name =
          if n ∈ d.groupMembers group ∧ name = c.config.switchClass d n ∧ Document.isClassName name = true then
            !d.hasClass n name
          else d.hasClass n name) ∧
        (c.handleToggle d trigger).report =
          { applied := ((d.groupMembers group).filter fun node =>
              Document.isClassName (c.config.switchClass d node)).length
            failures := ((d.groupMembers group).filter fun node =>
              !Document.isClassName (c.config.switchClass d node)).map fun node =>
                ⟨node, .switch, .document (.invalidClass (c.config.switchClass d node))⟩ } ∧
        (c.handleToggle d trigger).document.view Element.classless = d.view Element.classless ∧
        (c.handleToggle d trigger).document.listeners = d.listeners ∧
        (c.handleToggle d trigger).controller = c ∧
        ∀ n name, (c.handleToggle (c.handleToggle d trigger).document trigger).document.hasClass n name =
          d.hasClass n name) ∧
    (c.config.capabilities.switches = false ∨
        d.attribute? trigger DirectiveKind.switch.attributeName = none ∨
        (c.Tracks d ∧ d.switchGroup? trigger = none) →
      c.handleToggle d trigger = c.unchanged d) := by
  constructor
  · intro hswitches h group hgroup
    obtain ⟨hcontroller, hreclassed⟩ := c.handleToggle_spec d trigger
    exact ⟨Document.mem_groupMembers.mpr hgroup, h.hasClass_handleToggle hswitches hgroup,
      h.report_handleToggle hswitches hgroup, hreclassed.classless, hreclassed.listeners, hcontroller,
      h.hasClass_handleToggle_twice hswitches hgroup⟩
  · rintro (hswitches | hraw | ⟨h, hblank⟩)
    · exact handleToggle_idle (.inl hswitches)
    · exact handleToggle_idle (.inr hraw)
    · cases hswitches : c.config.capabilities.switches with
      | false => exact handleToggle_idle (.inl hswitches)
      | true =>
        cases hraw : d.attribute? trigger DirectiveKind.switch.attributeName with
        | none => exact handleToggle_idle (.inr hraw)
        | some raw =>
          -- the trigger has the attribute but no group, so that the attribute is blank
          have hempty : d.groupMembers (Text.trim raw) = [] := by
            refine List.eq_nil_iff_forall_not_mem.mpr fun node hnode => ?_
            obtain ⟨-, hnonblank⟩ := Option.filter_eq_some_iff.mp (Document.mem_groupMembers.mp hnode)
            have hgroup : d.switchGroup? trigger = some (Text.trim raw) := by
              unfold Document.switchGroup?
              rw [hraw]
              exact Option.filter_eq_some_iff.mpr ⟨rfl, hnonblank⟩
            cases hblank.symm.trans hgroup
          rw [handleToggle_of_attribute hswitches hraw, h.toggled hswitches, hempty]
          rfl

/-- A form with a menu of three members, of which one names no class name, another group, and a blank switch. -/
def menu : Document :=
  .form [.ofAttributes "button" [("data-switch", " menu "), ("target", "menu"), ("data-switch-class", "open")],
    .ofAttributes "ul" [("data-switch", "menu"), ("class", "list bs-d-none bs-d-none")],
    .ofAttributes "li" [("data-switch", "menu"), ("data-switch-class", "two words")],
    .ofAttributes "p" [("data-switch", "other")],
    .ofAttributes "div" [("data-switch", " ")]]

/-- The menu after it has been mounted and clicked. -/
def clickedMenu : Page := (Page.mounted menu {}).run [.click ⟨1⟩]

theorem tracks_clickedMenu : clickedMenu.controller.Tracks clickedMenu.document :=
  @Page.run_tracks menu {} (by decide +kernel) [.click ⟨1⟩] (by decide)

/-- Toggling the menu flips two members and reports the third one, and toggling it again undoes that. -/
theorem handleToggle_flips_menu :
    clickedMenu.controller.connected = true ∧ clickedMenu.controller.Tracks clickedMenu.document ∧
      clickedMenu.document.hasClass ⟨2⟩ "bs-d-none" = false ∧
      (clickedMenu.controller.handleToggle clickedMenu.document ⟨1⟩).document.hasClass ⟨2⟩ "bs-d-none" = true ∧
      (clickedMenu.controller.handleToggle clickedMenu.document ⟨1⟩).report =
        ⟨2, [⟨⟨3⟩, .switch, .document (.invalidClass "two words")⟩]⟩ ∧
      ∀ n name, (clickedMenu.controller.handleToggle
          (clickedMenu.controller.handleToggle clickedMenu.document ⟨1⟩).document ⟨1⟩).document.hasClass n name =
        clickedMenu.document.hasClass n name := by
  obtain ⟨-, hclass, hreport, -, -, -, htwice⟩ :=
    (handleToggle_flips clickedMenu.controller clickedMenu.document ⟨1⟩).1 (by decide +kernel) tracks_clickedMenu
      "menu" (by decide +kernel)
  have hmember : (⟨2⟩ : NodeId) ∈ clickedMenu.document.groupMembers "menu" := by decide +kernel
  have hhidden : "bs-d-none" = clickedMenu.controller.config.switchClass clickedMenu.document ⟨2⟩ := by
    decide +kernel
  have hbefore : clickedMenu.document.hasClass ⟨2⟩ "bs-d-none" = false := by decide +kernel
  refine ⟨by decide +kernel, tracks_clickedMenu, hbefore, ?_, ?_, htwice⟩
  · rw [hclass, if_pos ⟨hmember, hhidden, by decide⟩, hbefore]
    rfl
  · rw [hreport]
    decide +kernel

/-- **A blank switch is no trigger:** the directive has been refused, so that the element is a member of no group,
and nothing is flipped, not even the element itself. -/
theorem handleToggle_blank :
    clickedMenu.controller.connected = true ∧ clickedMenu.controller.config.capabilities.switches = true ∧
      clickedMenu.controller.Tracks clickedMenu.document ∧
      clickedMenu.document.attribute? ⟨5⟩ DirectiveKind.switch.attributeName = some " " ∧
      Document.isClassName (clickedMenu.controller.config.switchClass clickedMenu.document ⟨5⟩) = true ∧
      ¬ ((clickedMenu.controller.handleToggle clickedMenu.document ⟨5⟩).document.hasClass ⟨5⟩
          (clickedMenu.controller.config.switchClass clickedMenu.document ⟨5⟩) =
        !clickedMenu.document.hasClass ⟨5⟩
          (clickedMenu.controller.config.switchClass clickedMenu.document ⟨5⟩)) :=
  ⟨by decide +kernel, by decide +kernel, tracks_clickedMenu, by decide +kernel, by decide +kernel,
    by decide +kernel⟩

end Controller

end ReactiveForm
