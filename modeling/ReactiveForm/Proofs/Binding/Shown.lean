import ReactiveForm.Proofs.Binding.Interaction

/-!
# `ReactiveForm.Proofs.Binding.Shown` — what a directive has found out is there to see

A directive that marks an element or assigns an attribute is *shown* when its state, its class and its
attribute are those of its outcome. Applying it shows it, and other directives leave it shown as long as
none of them writes the same class or the same attribute of the element.

## Contents
- `Directive.condition?`, the condition that decides a directive alone.
- `Index.Undisputed`, directives that do not write what another one shows.
- `IndexedDirective.Shown`, with `Pass.shown_of_mem` and `Pass.shown_of_not_mem`.
- `Controller.InSync`, every directive is shown, and `Controller.inSync_applyAll`.
-/

namespace ReactiveForm

/-! ## Disputes -/

namespace Directive

/-- The condition that decides a directive alone. -/
def condition? : Directive → Option Condition
  | showIf c => some c
  | hideIf c => some c
  | disableIf c => some c
  | attributeIf rule => some rule.condition
  | _ => none

/-- Whether a directive marks its element as hidden or as disabled. -/
def marks : Directive → Bool
  | showIf _ => true
  | hideIf _ => true
  | disableIf _ => true
  | _ => false

/-- Whether a directive writes a marker class. -/
def writesMarker (config : Config) (directive : Directive) : Bool :=
  (directive.classNames config).contains config.classes.hidden ||
    (directive.classNames config).contains config.classes.disabled

theorem not_mem_of_writesMarker {config : Config} {directive : Directive}
    (h : directive.writesMarker config = false) :
    config.classes.hidden ∉ directive.classNames config ∧
      config.classes.disabled ∉ directive.classNames config := by
  simpa [writesMarker] using h

end Directive

/-- **Directives that leave the marker classes to those that mark:** where an element is marked, it is no
member of a switch group, none of its class rules names a marker class, and it is not both shown and
hidden. -/
structure Index.Undisputed (i : Index) (config : Config) : Prop where
  switches : ∀ entry ∈ i.entries, entry.directive.marks = true →
    ∀ other ∈ i.entries, other.node = entry.node → other.directive.kind ≠ .switch
  rules : ∀ entry ∈ i.entries, entry.directive.marks = true →
    ∀ other ∈ i.entries, other.node = entry.node → other.directive.kind = .classIf →
      other.directive.writesMarker config = false
  sides : ∀ entry ∈ i.entries, entry.directive.kind = .showIf →
    ∀ other ∈ i.entries, other.node = entry.node → other.directive.kind ≠ .hideIf

/-- **Entries that do not write the same,** neither a state nor a class nor an attribute. -/
structure IndexedDirective.Apart (config : Config) (entry other : IndexedDirective) : Prop where
  kinds : other.directive.kind ≠ entry.directive.kind
  classes : ∀ c ∈ entry.directive.classNames config, c ∉ other.directive.classNames config
  assignments : ∀ a ∈ entry.directive.assignments, other.directive.assignments = []

instance (i : Index) (config : Config) : Decidable (i.Undisputed config) :=
  decidable_of_iff (_ ∧ _ ∧ _) ⟨fun ⟨hs, hr, hd⟩ => ⟨hs, hr, hd⟩, fun h => ⟨h.switches, h.rules, h.sides⟩⟩

namespace Index.Undisputed

variable {config : Config} {entry other : IndexedDirective}

/-- **The entries of one element are apart,** seen from one that is decided by a condition. -/
theorem apart {d : Document} {options : DirectiveOptions} {switches : Bool}
    (h : (build d options switches).Undisputed config) (hconfig : config.problems = [])
    (hmem : entry ∈ (build d options switches).entries)
    (hother : other ∈ (build d options switches).entries) (hn : other.node = entry.node)
    (hne : other ≠ entry) (hcondition : entry.directive.condition?.isSome = true) :
    entry.Apart config other := by
  obtain ⟨-, -, hmarkers⟩ := Config.markers_of_problems hconfig
  have hkinds : other.directive.kind ≠ entry.directive.kind :=
    fun hk => hne (eq_of_mem hother hmem hn hk)
  refine ⟨hkinds, fun c hc => ?_, fun a ha => ?_⟩
  · have hrules := fun hmarks hclass =>
      Directive.not_mem_of_writesMarker (h.rules entry hmem hmarks other hother hn hclass)
    have hsides := h.sides entry hmem
    have hsides' := h.sides other hother
    obtain ⟨node, directive⟩ := entry
    obtain ⟨node', directive'⟩ := other
    -- the classes of two directives meet only in a marker class, and only where this is disputed
    cases directive with
    | showIf _ =>
      rw [List.mem_singleton.mp hc]
      cases directive' with
      | showIf _ => exact absurd rfl hkinds
      | hideIf _ => exact absurd rfl (hsides rfl _ hother hn)
      | disableIf _ => exact fun hd => hmarkers (List.mem_singleton.mp hd)
      | classIf _ => exact (hrules rfl rfl).1
      | attributeIf _ | echo _ | switch _ _ => exact List.not_mem_nil
    | hideIf _ =>
      rw [List.mem_singleton.mp hc]
      cases directive' with
      | showIf _ => exact absurd rfl (hsides' rfl _ hmem hn.symm)
      | hideIf _ => exact absurd rfl hkinds
      | disableIf _ => exact fun hd => hmarkers (List.mem_singleton.mp hd)
      | classIf _ => exact (hrules rfl rfl).1
      | attributeIf _ | echo _ | switch _ _ => exact List.not_mem_nil
    | disableIf _ =>
      rw [List.mem_singleton.mp hc]
      cases directive' with
      | showIf _ | hideIf _ => exact fun hd => hmarkers (List.mem_singleton.mp hd).symm
      | disableIf _ => exact absurd rfl hkinds
      | classIf _ => exact (hrules rfl rfl).2
      | attributeIf _ | echo _ | switch _ _ => exact List.not_mem_nil
    | classIf _ | echo _ | switch _ _ => cases hcondition
    | attributeIf _ => cases hc
  · refine Directive.assignments_of_kind fun hk => hkinds (hk.trans ?_)
    by_contra hentry
    rw [Directive.assignments_of_kind fun he => hentry he.symm] at ha
    cases ha

end Index.Undisputed

/-! ## Shown directives -/

/-- **What a directive has found out is shown:** the classes that it wants are there and those that it
does not want are not, the attribute has the value that it assigns, and the state is known. -/
structure IndexedDirective.Shown (entry : IndexedDirective) (states : EffectStates) (d : Document)
    (o : Outcome) : Prop where
  classes : ∀ c x, lastSetting o.classes c = some x → d.hasClass entry.node c = x
  assigned : ∀ a ∈ o.assignment, d.attribute? entry.node a.name = some a.value
  state : ∀ state ∈ o.state, states.get? entry.node entry.directive.kind = some state

namespace Pass

variable {config : Config} {p : Pass} {entry other : IndexedDirective}
  {entries : List IndexedDirective} {o : Outcome}

/-- An entry that is apart has no say on a class that is wanted. -/
theorem no_setting_of_apart (h : entry.Apart config other) {d d' : Document}
    (ho : entry.directive.outcome config none d = .ok o) {c : String} {x : Bool}
    (hc : lastSetting o.classes c = some x) :
    ((outcome? config none d' other).bind fun o => lastSetting o.classes c) = none := by
  refine setting_eq_none_iff.mpr (.inr (h.classes c ?_))
  rw [← Directive.map_fst_classes ho]
  by_contra hnot
  rw [lastSetting_eq_none_iff.mpr hnot] at hc
  cases hc

theorem no_assignment_of_apart (h : entry.Apart config other) {d d' : Document}
    (ho : entry.directive.outcome config none d = .ok o) {a : Assignment} (ha : a ∈ o.assignment) :
    ((outcome? config none d' other).bind fun o => o.assigned a.name) = none :=
  assigned_eq_none (h.assignments a (Directive.assignment_mem ho a ha)) a.name

variable (hs : ∀ entry ∈ entries, entry.Sound config p.document)
  (hapart : ∀ other ∈ entries, other.node = entry.node → other ≠ entry → entry.Apart config other)

include hs hapart

/-- **Applying a directive shows it.** -/
theorem shown_of_mem (hmem : entry ∈ entries)
    (ho : entry.directive.outcome config none p.document = .ok o) :
    entry.Shown (applyAll config none p entries).states (applyAll config none p entries).document o where
  classes c x hc := by
    have hverdict : verdict config none p.document entries entry.node c = some x :=
      lastWish_of_unopposed hmem rfl ho hc fun other hother hn hne =>
        no_setting_of_apart (hapart other hother hn hne) ho hc
    rw [hasClass_applyAll hs, hverdict]
    rfl
  assigned a ha := by
    have hwish : lastWish config none p.document entries entry.node (fun o => o.assigned a.name) =
        some a.value := by
      refine lastWish_of_unopposed hmem rfl ho ?_ fun other hother hn hne =>
        no_assignment_of_apart (hapart other hother hn hne) ho ha
      rw [Outcome.assigned, Option.mem_def.mp ha]
      simp
    rw [attribute?_applyAll hs, hwish]
    rfl
  state state hstate := by
    refine get?_states_applyAll hs hmem ho hstate fun other hother hkey => ?_
    obtain ⟨hn, hk⟩ := Prod.ext_iff.mp hkey
    by_contra hne
    exact (hapart other hother hn hne).kinds hk

/-- **Other directives leave it shown.** -/
theorem shown_of_not_mem (h : entry.Shown p.states p.document o) (hnot : entry ∉ entries)
    (ho : entry.directive.outcome config none p.document = .ok o) :
    entry.Shown (applyAll config none p entries).states (applyAll config none p entries).document o := by
  have hapart : ∀ other ∈ entries, other.node = entry.node → entry.Apart config other :=
    fun other hother hn => hapart other hother hn fun he => hnot (he ▸ hother)
  refine ⟨fun c x hc => ?_, fun a ha => ?_, fun state hstate => ?_⟩
  · have hverdict : verdict config none p.document entries entry.node c = none :=
      lastWish_eq_none_iff.mpr fun other hother hn => no_setting_of_apart (hapart other hother hn) ho hc
    rw [hasClass_applyAll hs, hverdict]
    exact h.classes c x hc
  · have hwish : lastWish config none p.document entries entry.node (fun o => o.assigned a.name) =
        none :=
      lastWish_eq_none_iff.mpr fun other hother hn =>
        no_assignment_of_apart (hapart other hother hn) ho ha
    rw [attribute?_applyAll hs, hwish]
    exact h.assigned a ha
  · rw [get?_states_applyAll_of_ne]
    · exact h.state state hstate
    · intro other hother hkey
      obtain ⟨hn, hk⟩ := Prod.ext_iff.mp hkey
      exact (hapart other hother hn).kinds hk

end Pass

/-! ## Being in sync -/

namespace Controller

variable {c : Controller} {d : Document}

/-- **A controller in sync with a document:** whatever a directive with a condition of its own finds out
in the document as it is, is shown. -/
def InSync (c : Controller) (d : Document) : Prop :=
  ∀ entry ∈ c.index.entries, entry.directive.condition?.isSome = true →
    ∀ o, entry.directive.outcome c.config none d = .ok o → entry.Shown c.states d o

/-- **Applying all directives that are not shown brings a controller in sync.** -/
theorem inSync_applyAll {entries : List IndexedDirective} {report : Report}
    (hindex : c.index = Index.build d c.config.directiveOptions c.config.capabilities.switches)
    (hconfig : c.config.problems = []) (hinert : c.index.Inert)
    (hundisputed : c.index.Undisputed c.config) (hsub : ∀ entry ∈ entries, entry ∈ c.index.entries)
    (hshown : ∀ entry ∈ c.index.entries, entry ∉ entries → entry.directive.condition?.isSome = true →
      ∀ o, entry.directive.outcome c.config none d = .ok o → entry.Shown c.states d o) :
    (c.applyAll d none report entries).controller.InSync
      (c.applyAll d none report entries).document := by
  rw [hindex] at hinert hundisputed
  have hs : ∀ entry ∈ entries, entry.Sound c.config d :=
    fun entry hentry => hinert.sound hconfig (hindex ▸ hsub entry hentry)
  intro entry hmem hcondition o ho
  have hmem : entry ∈ c.index.entries := hmem
  have hview : (c.applyAll d none report entries).document.view Element.inputPart =
      d.view Element.inputPart := Pass.inputView_applyAll hs
  have ho : entry.directive.outcome c.config none d = .ok o :=
    (Directive.outcome_of_values (Document.values_congr hview)).symm.trans ho
  have hapart : ∀ other ∈ entries, other.node = entry.node → other ≠ entry →
      entry.Apart c.config other := fun other hother hn hne =>
    hundisputed.apart hconfig (hindex ▸ hmem) (hindex ▸ hsub other hother) hn hne hcondition
  by_cases hentry : entry ∈ entries
  · exact Pass.shown_of_mem hs hapart hentry ho
  · exact Pass.shown_of_not_mem hs hapart (hshown entry hmem hentry hcondition o ho) hentry ho

end Controller

end ReactiveForm
