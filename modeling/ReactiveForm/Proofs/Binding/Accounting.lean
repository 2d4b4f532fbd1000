import ReactiveForm.Proofs.Binding.InPlace
import ReactiveForm.Proofs.Binding.Listing
import ReactiveForm.Proofs.Binding.Ownership
import ReactiveForm.Proofs.Binding.Repetition

/-!
# `ReactiveForm.Proofs.Binding.Accounting` — what becomes of every directive

A pass goes through its directives in order, and each of them is applied or skipped. Whatever is skipped
might as well not be there: it leaves the document and the states as they were, even when the document is
edited in place, and the pass through the others alone ends where the whole pass ends. And nothing is
forgotten: every directive that a pass is responsible for is counted once, as applied or as failed.

## Contents
- `Pass.verdicts`, what becomes of the entries of a run, with `succeeded` and `failed`.
- `Pass.Accounted` and `Pass.accounted`: **a run is accounted for**.
- `Document.Due` and `Document.Examined`, the attributes that an initialization is responsible for.
- `Controller.init_accounted` and `connect_accounted`.
- `Shared.Indexed`, what the index of a controller is an index of, and `Indexed.run`.
- `Shared.Accounts` and `run_accounts`: **whatever has happened before, every pass is accounted for**.
-/

namespace ReactiveForm

namespace Pass

variable {config : Config} {change : Option Change} {p : Pass} {entry : IndexedDirective}
  {entries : List IndexedDirective}

/-! ## Verdicts -/

/-- How an entry fails when its turn comes, if it does. -/
def failure? (config : Config) (change : Option Change) (p : Pass) (entry : IndexedDirective) :
    Option Failure :=
  (error? (entry.directive.effect config change p.document entry.node)).map fun e =>
    ⟨entry.node, entry.directive.kind, e⟩

/-- What becomes of the entries of a run, each in its turn. -/
def verdicts (config : Config) (change : Option Change) :
    Pass → List IndexedDirective → List (IndexedDirective × Option Failure)
  | _, [] => []
  | p, entry :: rest =>
    (entry, p.failure? config change entry) :: verdicts config change (apply config change p entry) rest

/-- The entries that succeed in a run. -/
def succeeded (config : Config) (change : Option Change) (p : Pass) (entries : List IndexedDirective) :
    List IndexedDirective :=
  ((p.verdicts config change entries).filter (·.2.isNone)).map Prod.fst

/-- The failures of a run. -/
def failed (config : Config) (change : Option Change) (p : Pass) (entries : List IndexedDirective) :
    List Failure :=
  (p.verdicts config change entries).filterMap Prod.snd

theorem failure?_of_error {e : EffectError}
    (h : entry.directive.effect config change p.document entry.node = .error e) :
    p.failure? config change entry = some ⟨entry.node, entry.directive.kind, e⟩ := by
  unfold failure?
  rw [h]
  rfl

section Cons

variable {rest : List IndexedDirective} {f : Failure}

theorem succeeded_cons_of_none (h : p.failure? config change entry = none) :
    p.succeeded config change (entry :: rest) =
      entry :: (apply config change p entry).succeeded config change rest := by
  simp [succeeded, verdicts, h]

theorem succeeded_cons_of_some (h : p.failure? config change entry = some f) :
    p.succeeded config change (entry :: rest) =
      (apply config change p entry).succeeded config change rest := by
  simp [succeeded, verdicts, h]

theorem failed_cons_of_none (h : p.failure? config change entry = none) :
    p.failed config change (entry :: rest) = (apply config change p entry).failed config change rest := by
  simp [failed, verdicts, h]

theorem failed_cons_of_some (h : p.failure? config change entry = some f) :
    p.failed config change (entry :: rest) =
      f :: (apply config change p entry).failed config change rest := by
  simp [failed, verdicts, h]

end Cons

/-- An entry that fails is skipped. -/
theorem apply_of_failure {f : Failure} (h : p.failure? config change entry = some f) :
    f.key = entry.key ∧ apply config change p entry = { p with report := p.report.fail f } := by
  obtain ⟨e, he, rfl⟩ := Option.map_eq_some_iff.mp h
  refine ⟨rfl, ?_⟩
  unfold apply
  cases heffect : entry.directive.effect config change p.document entry.node with
  | ok result =>
    rw [heffect] at he
    cases he
  | error e' =>
    rw [heffect] at he
    rw [← Option.some.inj he]

/-- An entry that succeeds is counted, and does the same whatever has been reported before. -/
theorem apply_of_success (h : p.failure? config change entry = none) (r : Report) :
    apply config change { p with report := r } entry =
      { apply config change p entry with report := r.succeed } := by
  unfold apply
  cases heffect : entry.directive.effect config change p.document entry.node with
  | ok result => rfl
  | error e =>
    rw [failure?_of_error heffect] at h
    cases h

/-- **What is counted in a run:** the entries that succeed, and every failure of another. -/
theorem report_applyAll_eq :
    (applyAll config change p entries).report =
      ⟨p.report.applied + (p.succeeded config change entries).length,
        p.report.failures ++ p.failed config change entries⟩ := by
  induction entries generalizing p with
  | nil => simp [applyAll, succeeded, failed, verdicts]
  | cons entry rest ih =>
    refine (ih (p := apply config change p entry)).trans ?_
    cases hfailure : p.failure? config change entry with
    | none =>
      have hreport : (apply config change p entry).report = p.report.succeed :=
        congrArg Pass.report (apply_of_success hfailure p.report)
      rw [succeeded_cons_of_none hfailure, failed_cons_of_none hfailure, hreport, List.length_cons]
      simp [Report.succeed, Nat.add_assoc, Nat.add_comm 1]
    | some f =>
      have hreport : (apply config change p entry).report = p.report.fail f :=
        congrArg Pass.report (apply_of_failure hfailure).2
      rw [succeeded_cons_of_some hfailure, failed_cons_of_some hfailure, hreport]
      simp [Report.fail]

theorem map_fst_verdicts : (p.verdicts config change entries).map Prod.fst = entries := by
  induction entries generalizing p with
  | nil => rfl
  | cons entry rest ih => exact congrArg (entry :: ·) ih

theorem map_key_verdicts :
    (p.verdicts config change entries).map (·.1.key) = entries.map IndexedDirective.key := by
  have hfst : (p.verdicts config change entries).map Prod.fst = entries := map_fst_verdicts
  have hmap := congrArg (List.map IndexedDirective.key) hfst
  rwa [List.map_map] at hmap

/-- A failure tells whose it is. -/
theorem key_of_verdict {f : Failure} (h : (entry, some f) ∈ p.verdicts config change entries) :
    f.key = entry.key := by
  induction entries generalizing p with
  | nil => cases h
  | cons first rest ih =>
    rcases List.mem_cons.mp h with h | h
    · obtain ⟨rfl, hfailure⟩ := Prod.mk.inj h
      exact (apply_of_failure hfailure.symm).1
    · exact ih h

theorem map_key_failed :
    (p.failed config change entries).map Failure.key =
      ((p.verdicts config change entries).filter (!·.2.isNone)).map (·.1.key) := by
  have hkey : ∀ v ∈ p.verdicts config change entries, ∀ f, v.2 = some f → f.key = v.1.key := by
    rintro ⟨entry, _⟩ hv f rfl
    exact key_of_verdict hv
  unfold failed
  revert hkey
  induction p.verdicts config change entries with
  | nil => exact fun _ => rfl
  | cons v rest ih =>
    intro hkey
    obtain ⟨hv, hrest⟩ := List.forall_mem_cons.mp hkey
    obtain ⟨entry, _ | f⟩ := v
    · exact ih hrest
    · exact congrArg₂ List.cons (hv f rfl) (ih hrest)

/-- **No entry is lost, and none is counted twice.** -/
theorem perm_succeeded_failed :
    ((p.succeeded config change entries).map IndexedDirective.key ++
      (p.failed config change entries).map Failure.key).Perm (entries.map IndexedDirective.key) := by
  have hsplit := (List.filter_append_perm (fun v : IndexedDirective × Option Failure => v.2.isNone)
    (p.verdicts config change entries)).map (·.1.key)
  rw [List.map_append] at hsplit
  rw [map_key_failed, succeeded, List.map_map]
  rwa [map_key_verdicts] at hsplit

theorem succeeded_sublist : (p.succeeded config change entries).Sublist entries := by
  have hsub := (List.filter_sublist (p := fun v : IndexedDirective × Option Failure => v.2.isNone)
    (l := p.verdicts config change entries)).map Prod.fst
  rwa [map_fst_verdicts] at hsub

theorem failed_sublist :
    ((p.failed config change entries).map Failure.key).Sublist (entries.map IndexedDirective.key) := by
  rw [map_key_failed]
  have hsub := (List.filter_sublist (p := fun v : IndexedDirective × Option Failure => !v.2.isNone)
    (l := p.verdicts config change entries)).map (·.1.key)
  rwa [map_key_verdicts] at hsub

/-- **Whatever fails might as well not be there:** the entries that succeed do so again without the others,
and end with the same document and the same states. -/
theorem applyAll_succeeded (r : Report) :
    applyAll config change { p with report := r } (p.succeeded config change entries) =
      { applyAll config change p entries with
        report := ⟨r.applied + (p.succeeded config change entries).length, r.failures⟩ } := by
  induction entries generalizing p r with
  | nil => rfl
  | cons entry rest ih =>
    cases hfailure : p.failure? config change entry with
    | none =>
      rw [succeeded_cons_of_none hfailure]
      unfold applyAll
      rw [List.foldl_cons, List.foldl_cons, apply_of_success hfailure]
      refine (ih r.succeed).trans ?_
      simp [applyAll, Report.succeed, Nat.add_assoc, Nat.add_comm 1]
    | some f =>
      rw [succeeded_cons_of_some hfailure]
      have hskip := (apply_of_failure hfailure).2
      have hrest := ih (p := apply config change p entry) r
      rw [show ({ apply config change p entry with report := r } : Pass) = { p with report := r } by
        rw [hskip]] at hrest
      exact hrest

/-! ## Accounts -/

/-- **A run through some entries that is accounted for.** -/
structure Accounted (config : Config) (change : Option Change) (p q : Pass)
    (entries : List IndexedDirective) : Prop where
  /-- It is a run in place. -/
  enacted : enactAll config change p entries = q
  /-- What is counted are the entries that succeed, and every failure of another, -/
  report : q.report = ⟨p.report.applied + (p.succeeded config change entries).length,
    p.report.failures ++ p.failed config change entries⟩
  /-- so that each entry is counted once, -/
  once : ((p.succeeded config change entries).map IndexedDirective.key ++
    (p.failed config change entries).map Failure.key).Perm (entries.map IndexedDirective.key)
  /-- and in its order. -/
  inOrder : (p.succeeded config change entries).Sublist entries ∧
    ((p.failed config change entries).map Failure.key).Sublist (entries.map IndexedDirective.key)
  /-- An entry that fails when its turn comes changes nothing but the report. -/
  untouched : ∀ before entry after, entries = before ++ entry :: after →
    ∀ f, (enactAll config change p before).failure? config change entry = some f →
      enact config change (enactAll config change p before) entry =
        { enactAll config change p before with report := (enactAll config change p before).report.fail f }
  /-- The entries that succeed do so without the others, and end where the whole run ends. -/
  sieved : enactAll config change { p with report := {} } (p.succeeded config change entries) =
    { q with report := ⟨(p.succeeded config change entries).length, []⟩ }

/-- **Every run through entries of an index is accounted for.** -/
theorem accounted {built : Document} {options : DirectiveOptions} {switches : Bool}
    (hmem : ∀ entry ∈ entries, entry ∈ (Index.build built options switches).entries)
    (config : Config) (change : Option Change) (p : Pass) :
    Accounted config change p (applyAll config change p entries) entries where
  enacted := enactAll_eq_applyAll hmem config change p
  report := report_applyAll_eq
  once := perm_succeeded_failed
  inOrder := ⟨succeeded_sublist, failed_sublist⟩
  untouched before entry after hsplit f hf := by
    have hentry : entry ∈ entries := by
      rw [hsplit]
      exact List.mem_append_right _ List.mem_cons_self
    rw [enact_eq_apply (hmem entry hentry)]
    exact (apply_of_failure hf).2
  sieved := by
    rw [enactAll_eq_applyAll fun entry hentry => hmem entry (succeeded_sublist.subset hentry),
      applyAll_succeeded]
    simp

end Pass

/-! ## Initializing -/

/-- The attributes that an initialization is responsible for: those of directives, save that of a switch
only the ones that cannot be read are its business. -/
def Document.Due (d : Document) (config : Config) (key : NodeId × DirectiveKind) : Prop :=
  ∃ spelled, d.spelled? config.directiveOptions config.capabilities.switches key.1 key.2 = some spelled ∧
    (key.2 = .switch → ∃ e, spelled = .error e)

/-- **The attributes of a document have been examined:** those that an initialization is responsible for
are rejected or are to be applied, each once and in order. -/
structure Document.Examined (d : Document) (config : Config) (rejected : List Failure)
    (entries : List IndexedDirective) : Prop where
  due : ∀ key, key ∈ rejected.map Failure.key ++ entries.map IndexedDirective.key ↔ d.Due config key
  once : (rejected.map Failure.key ++ entries.map IndexedDirective.key).Nodup
  rejected : rejected.Pairwise fun f g => d.Precedes f.key g.key
  entries : entries.Pairwise fun a b => d.Precedes a.key b.key

theorem Document.examined (d : Document) (config : Config) :
    d.Examined config (d.index config).failures (Controller.initial (d.index config)) := by
  have hmem : ∀ key, key ∈ (Controller.initial (d.index config)).map IndexedDirective.key ↔
      key ∈ (d.index config).entries.map IndexedDirective.key ∧ key.2 ≠ .switch := by
    intro key
    simp only [Controller.initial, List.mem_map, List.mem_filter, bne_iff_ne]
    constructor
    · rintro ⟨entry, ⟨hentry, hkind⟩, rfl⟩
      exact ⟨⟨entry, hentry, rfl⟩, hkind⟩
    · rintro ⟨⟨entry, hentry, rfl⟩, hkind⟩
      exact ⟨entry, ⟨hentry, hkind⟩, rfl⟩
  refine ⟨fun key => ?_, List.nodup_append.mpr ⟨?_, ?_, fun key hf key' he heq => ?_⟩,
    Index.ordered_failures, Index.ordered_entries.filter _⟩
  · obtain ⟨node, kind⟩ := key
    rw [List.mem_append, hmem]
    constructor
    · rintro (hf | ⟨he, hkind⟩)
      · obtain ⟨e, he⟩ := Index.mem_map_key_failures.mp hf
        exact ⟨_, he, fun _ => ⟨e, rfl⟩⟩
      · obtain ⟨parsed, hparsed⟩ := Index.mem_map_key_entries.mp he
        exact ⟨_, hparsed, fun hswitch => absurd hswitch hkind⟩
    · rintro ⟨spelled, hspelled, hswitch⟩
      cases spelled with
      | error e => exact .inl (Index.mem_map_key_failures.mpr ⟨e, hspelled⟩)
      | ok parsed =>
        refine .inr ⟨Index.mem_map_key_entries.mpr ⟨parsed, hspelled⟩, fun hkind => ?_⟩
        obtain ⟨e, he⟩ := hswitch hkind
        cases he
  · exact List.pairwise_map.mpr (Index.ordered_failures.imp Document.Precedes.ne)
  · exact List.pairwise_map.mpr ((Index.ordered_entries.filter _).imp Document.Precedes.ne)
  · -- what spells a directive is no failure
    subst heq
    obtain ⟨e, he'⟩ := Index.mem_map_key_failures.mp hf
    obtain ⟨parsed, hparsed⟩ := Index.mem_map_key_entries.mp ((hmem key).mp he).1
    rw [he'] at hparsed
    cases Option.some.inj hparsed

/-- An update as the end of a run. -/
def Update.pass (u : Update) : Pass := ⟨u.document, u.controller.states, u.report⟩

namespace Controller

theorem init_accounted (c : Controller) (d : Document) :
    Pass.Accounted c.config none (c.start d) (c.init d).pass (initial (d.index c.config)) :=
  Pass.accounted (fun _ hentry => (List.mem_filter.mp hentry).1) c.config none (c.start d)

/-- **Initializing and connecting are accounted for:** both examine the document as it is, and connecting
leaves what the run leaves, but for listeners. -/
structure Initializes (c : Controller) (d : Document) : Prop where
  examined : d.Examined c.config (c.start d).report.failures (initial (d.index c.config))
  uncounted : (c.start d).report.applied = 0
  init : Pass.Accounted c.config none (c.start d) (c.init d).pass (initial (d.index c.config))
  connect : ∃ u p q, c.connect d = .ok u ∧ p.document.view id = d.view id ∧
    p.states = (if c.connected then .none else c.states) ∧ p.report = (c.start d).report ∧
    Pass.Accounted c.config none p q (initial (d.index c.config)) ∧
    u.document.view id = q.document.view id ∧ u.controller.states = q.states ∧ u.report = q.report

theorem initializes (c : Controller) (d : Document) : c.Initializes d where
  examined := d.examined c.config
  uncounted := rfl
  init := c.init_accounted d
  connect := by
    obtain ⟨new, d', hconnect, hnew⟩ := c.connect_eq d
    have haccounted := (c.fresh d).1.init_accounted (c.fresh d).2
    have hindex : (c.fresh d).2.index (c.fresh d).1.config = d.index c.config := c.build_fresh d
    have hreport : ((c.fresh d).1.start (c.fresh d).2).report = (c.start d).report := by
      unfold start
      rw [hindex]
    have hstates : (c.fresh d).1.states = if c.connected then .none else c.states := by
      unfold fresh disconnect ofConfig
      split <;> rfl
    rw [hindex, config_fresh] at haccounted
    exact ⟨_, _, _, hconnect, c.view_fresh d, hstates, hreport, haccounted, hnew.view, rfl, rfl⟩

/-! ## Indices of controllers -/

/-- **What the index of a controller is an index of:** of nothing, or of a document that the present one has
grown from. -/
def Indexes (c : Controller) (d : Document) : Prop :=
  c.index = .empty ∨ ∃ built : Document, c.index = built.index c.config ∧
    built.descendants.Sublist d.descendants

theorem Indexes.grown {c c' : Controller} {d d' : Document} (h : c.Indexes d)
    (hindex : c'.index = c.index) (hconfig : c'.config = c.config)
    (hd : d.descendants.Sublist d'.descendants) : c'.Indexes d' := by
  unfold Indexes
  rw [hindex, hconfig]
  exact h.imp_right fun ⟨built, hbuilt, hsub⟩ => ⟨built, hbuilt, hsub.trans hd⟩

/-- What an event leaves as it is. -/
structure Follows (c : Controller) (d : Document) (c' : Controller) (d' : Document) : Prop where
  index : c'.index = c.index
  config : c'.config = c.config
  tree : d'.tree = d.tree

theorem Follows.indexes {c c' : Controller} {d d' : Document} (hf : c.Follows d c' d')
    (h : c.Indexes d) : c'.Indexes d' := by
  refine h.grown hf.index hf.config ?_
  unfold Document.descendants
  rw [hf.tree]

theorem follows_handle (c : Controller) (d : Document) (node : NodeId) (handler : Handler) :
    c.Follows d (c.handle d node handler).controller (c.handle d node handler).document := by
  cases handler with
  | change =>
    show c.Follows d (c.handleChange d node).controller (c.handleChange d node).document
    unfold Controller.handleChange
    split
    · exact ⟨rfl, rfl, rfl⟩
    · split
      · exact ⟨rfl, rfl, rfl⟩
      · obtain ⟨f, hf⟩ := Pass.exists_rewritten_applyAll _ _
        exact ⟨rfl, rfl, hf.tree⟩
  | toggle =>
    show c.Follows d (c.handleToggle d node).controller (c.handleToggle d node).document
    obtain ⟨hc, hd⟩ := c.handleToggle_spec d node
    rw [hc]
    exact ⟨rfl, rfl, Document.tree_eq_of_view hd.classless⟩

theorem follows_handleEvent (c : Controller) (d : Document) (node : NodeId) (event : Event) :
    c.Follows d (c.handleEvent d node event).controller (c.handleEvent d node event).document :=
  handleEvent_induction (R := fun c' d' => c.Follows d c' d') c d node event ⟨rfl, rfl, rfl⟩
    fun c' d' handler h => by
      have hstep := follows_handle c' d' node handler
      exact ⟨hstep.index.trans h.index, hstep.config.trans h.config, hstep.tree.trans h.tree⟩

/-- **What is read from some attributes and not from classes, an event does not change** where directives leave
those attributes alone. -/
theorem view_handleEvent_of_spares {α : Type} {π : Element → α} {names : List String}
    (hπ : Element.ReadFrom names π) (hclassless : ∀ e e', e.classless = e'.classless → π e = π e')
    {c : Controller} (hspares : c.index.Spares names) (d : Document) (node : NodeId) (event : Event) :
    (c.handleEvent d node event).document.view π = d.view π := by
  have hhandle : ∀ (c : Controller) (d : Document) (handler : Handler), c.index.Spares names →
      (c.handle d node handler).document.view π = d.view π := by
    intro c d handler hspares
    cases handler with
    | change =>
      show (c.handleChange d node).document.view π = d.view π
      unfold handleChange
      split
      · rfl
      · split
        · rfl
        · refine Pass.view_applyAll_of_spares hπ (fun entry hentry => ?_) ⟨d, c.states, {}⟩
          obtain ⟨place, -, hplace⟩ := List.mem_filterMap.mp hentry
          exact hspares entry (List.mem_of_getElem? hplace)
    | toggle => exact Document.view_of_view (c.handleToggle_spec d node).2.classless hclassless
  exact (handleEvent_induction (R := fun c' d' => c'.index = c.index ∧ d'.view π = d.view π) c d node event
    ⟨rfl, rfl⟩ fun c' d' handler ⟨hindex, hview⟩ =>
      ⟨(follows_handle c' d' node handler).index.trans hindex,
        (hhandle c' d' handler (hindex ▸ hspares)).trans hview⟩).2

/-- The dependents of an input stand in the order of the document. -/
theorem Indexes.dependents {c : Controller} {d : Document} (h : c.Indexes d) (name : String) :
    ∃ built : Document, (∀ entry ∈ c.index.dependents name, entry ∈ (built.index c.config).entries) ∧
      c.index.dependents name =
        c.index.entries.filter (fun entry => entry.directive.references.contains name) ∧
      (c.index.dependents name).Pairwise fun a b => d.Precedes a.key b.key := by
  rcases h with h | ⟨built, h, hsub⟩
  · refine ⟨d, ?_⟩
    rw [h]
    exact ⟨fun entry hentry => (nomatch hentry), rfl, List.Pairwise.nil⟩
  · refine ⟨built, ?_⟩
    rw [h]
    refine ⟨fun entry hentry => (Index.mem_dependents_build.mp hentry).1, Index.dependents_build name, ?_⟩
    show (Index.dependents (Index.build built _ _) name).Pairwise _
    rw [Index.dependents_build]
    exact (Index.ordered_entries.filter _).imp fun hab => hab.imp_right fun ⟨hkind, hnode⟩ =>
      ⟨hkind, hnode.trans hsub⟩

/-- **Handling a change of a control is accounted for:** its run goes through the directives of the index
that reference the name of the control. -/
theorem Indexes.handleChange {c : Controller} {d : Document} {node : NodeId} {name : String}
    (h : c.Indexes d) (hname : d.attribute? node "name" = some name)
    (hcontrol : (d.control? node).isSome = true) :
    ∃ value, changedValue? d node name = some value ∧
      Pass.Accounted c.config (some ⟨name, value⟩) ⟨d, c.states, {}⟩ (c.handleChange d node).pass
        (c.index.entries.filter fun entry => entry.directive.references.contains name) ∧
      (c.index.entries.filter fun entry => entry.directive.references.contains name).Pairwise
        fun a b => d.Precedes a.key b.key := by
  have hn : node ∈ d.controlsNamed name := Document.mem_controlsNamed.mpr
    ⟨d.tree.mem_descendants (Document.lt_size_of_attribute? hname), hname, hcontrol⟩
  obtain ⟨value, hvalue⟩ := Option.isSome_iff_exists.mp (isSome_changedValue? hn)
  obtain ⟨built, hmem, hdependents, hordered⟩ := h.dependents name
  refine ⟨value, hvalue, ?_, hdependents ▸ hordered⟩
  rw [handleChange_eq hn hvalue, ← hdependents]
  exact Pass.accounted hmem c.config _ _

end Controller

/-! ## Shared documents -/

/-- An edit leaves the nodes that are there in their order. -/
theorem Document.Edit.descendants_apply_sublist {d d' : Document} (edit : Edit)
    (h : edit.apply d = .ok d') : d.descendants.Sublist d'.descendants := by
  rcases edit.cases_apply h with ⟨parent, e, happend⟩ | ⟨g, hg⟩
  · unfold Document.append at happend
    split at happend
    · next hparent =>
      rw [← Except.ok.inj happend]
      exact d.tree.descendants_append_sublist hparent
    · cases happend
  · unfold Document.descendants
    rw [hg.tree]

namespace Shared

variable {ι : Type} {s : Shared ι} {i : ι}

/-- Every controller has an index of the document as it has been, or none. -/
def Indexed (s : Shared ι) : Prop := ∀ i, (s.controllers i).Indexes s.document

variable [DecidableEq ι]

/-- A document that grows while one controller acts. -/
theorem Indexed.act (h : s.Indexed) {d : Document} {c : Controller} (hc : c.Indexes d)
    (hd : s.document.descendants.Sublist d.descendants) (j : ι) :
    (Function.update s.controllers i c j).Indexes d := by
  by_cases hj : j = i
  · rw [hj, Function.update_self]
    exact hc
  · rw [Function.update_of_ne hj]
    exact (h j).grown rfl rfl hd

theorem Indexed.follow (h : s.Indexed) {u : Update}
    (hf : (s.controllers i).Follows s.document u.controller u.document) (j : ι) :
    (Function.update s.controllers i u.controller j).Indexes u.document := by
  refine h.act (hf.indexes (h i)) ?_ j
  unfold Document.descendants
  rw [hf.tree]

/-- **Every action leaves every controller its index.** -/
theorem Indexed.after (h : s.Indexed) (action : Action ι) : (s.after action).Indexed := by
  intro j
  cases action with
  | connect i =>
    obtain ⟨u, hconnect, hconfig, hindex, htree⟩ := (s.controllers i).connect_index s.document
    rw [after_connect_of_ok hconnect]
    have hsub : s.document.descendants.Sublist u.document.descendants := by
      unfold Document.descendants
      rw [htree]
    refine h.act (.inr ⟨s.document, ?_, hsub⟩) hsub j
    rw [hindex, hconfig]
    rfl
  | disconnect i =>
    rw [after_disconnect]
    refine h.act (.inl rfl) ?_ j
    have hview := Controller.view_removeAll (s.controllers i).registrations s.document
    show s.document.tree.descendants.Sublist
      ((s.controllers i).disconnect s.document).2.tree.descendants
    rw [show ((s.controllers i).disconnect s.document).2.tree = s.document.tree from
      Document.tree_eq_of_view hview]
  | init i =>
    have hsub : s.document.descendants.Sublist ((s.controllers i).init s.document).document.descendants := by
      unfold Document.descendants
      rw [Controller.tree_init]
    exact h.act (.inr ⟨s.document, rfl, hsub⟩) hsub j
  | handleEvent i node event => exact h.follow (Controller.follows_handleEvent _ _ node event) j
  | handleChange i node => exact h.follow (Controller.follows_handle _ _ node .change) j
  | handleToggle i node => exact h.follow (Controller.follows_handle _ _ node .toggle) j
  | edit edit =>
    refine (h j).grown rfl rfl ?_
    show s.document.descendants.Sublist ((edit.apply s.document).toOption.getD s.document).descendants
    cases hedit : edit.apply s.document with
    | error e => exact .refl _
    | ok d => exact edit.descendants_apply_sublist hedit
  | addListener node event =>
    refine (h j).grown rfl rfl ?_
    show s.document.descendants.Sublist
      (((s.document.addListener node event).toOption.map Prod.fst).getD s.document).descendants
    unfold Document.addListener
    split <;> exact .refl _
  | removeListener id => exact (h j).grown rfl rfl (.refl _)

theorem Indexed.run (h : s.Indexed) (actions : List (Action ι)) : (s.run actions).Indexed := by
  induction actions generalizing s with
  | nil => exact h
  | cons action rest ih => exact ih (h.after action)

/-! ## Accounting -/

/-- **Every pass of a controller is accounted for:** that of an initialization or a connection, on whatever
document, and that of a change. -/
structure Accounts (s : Shared ι) (i : ι) : Prop where
  initializes : ∀ d, (s.controllers i).Initializes d
  /-- The change of a control with a name is handled by a run through the directives of the index that
  reference the name, each of which comes once and in order. -/
  handles : ∀ node name, s.document.attribute? node "name" = some name →
    (s.document.control? node).isSome = true →
      ∃ value, Controller.changedValue? s.document node name = some value ∧
        Pass.Accounted (s.controllers i).config (some ⟨name, value⟩) ⟨s.document, (s.controllers i).states, {}⟩
          ((s.controllers i).handleChange s.document node).pass
          ((s.controllers i).index.entries.filter fun entry => entry.directive.references.contains name) ∧
        ((s.controllers i).index.entries.filter fun entry =>
            entry.directive.references.contains name).Pairwise
          fun a b => s.document.Precedes a.key b.key

/-- However controllers and others act on a document in turns, every controller accounts for its passes. -/
theorem run_accounts (d : Document) (configs : ι → Config) (actions : List (Action ι)) (i : ι) :
    ((began d configs).run actions).Accounts i := by
  have hindexed : ((began d configs).run actions).Indexed := Indexed.run (fun _ => .inl rfl) actions
  exact ⟨fun d => Controller.initializes _ d, fun _ _ hname hcontrol => (hindexed i).handleChange hname hcontrol⟩

end Shared

end ReactiveForm
