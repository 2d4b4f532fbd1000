import ReactiveForm.Proofs.Binding.Synchrony

/-!
# `ReactiveForm.Proofs.Binding.Repetition` — initializing a document twice

A second initialization does what the first one did, as long as it finds the same directives and the same
values of inputs. It begins, though, in another document, the one that the first has left, so that on the
way the two are not in the same state. Beside each other they are kept by three observations: the data and
the text of an element are final from the beginning; a class is either final or what it was at this point
of the first run; and so are the marks of a group of radio buttons, all of them together.

## Contents
- `Pass.Retraces`, a second run beside the first one, with `Retraces.inputSnapshot`.
- `Retraces.apply` and `Retraces.applyAll`: **the second run keeps beside the first one**.
- `Pass.ReadsAhead` and `Controller.Settles`, documents that a second run reads as the first one did.
- `Controller.settles_of_inert`, for directives that assign nothing reserved.
- `Controller.init_init_of_settles`, **initializing twice**.
-/

namespace ReactiveForm

namespace Pass

variable {config : Config} {change : Option Change} {p q : Pass} {entry : IndexedDirective}
  {entries rest : List IndexedDirective} {n : NodeId}

/-! ## Retracing -/

/-- **The marks of a group of radio buttons in a second run:** they are final, or those that the first
run had at this point. A button that has the mark then has its final value too. -/
def GroupRetraced (final : Document) (rest : List IndexedDirective) (d d' : Document)
    (group : String) : Prop :=
  (∀ n, final.role? n = some (.radio, some group) → d'.isChecked n = final.isChecked n) ∨
    ∀ n, final.role? n = some (.radio, some group) →
      d'.isChecked n = d.isChecked n ∧
        (d.isChecked n = true → (n, DirectiveKind.attributeIf) ∉ rest.map IndexedDirective.key)

/-- **A second run beside the first one,** which ends in `final`. The second run began where the first one
ends, so that most of its document is final all along; only classes and the marks of radio buttons go
through what they went through before. -/
structure Retraces (config : Config) (final : Document) (rest : List IndexedDirective) (p q : Pass) :
    Prop where
  ends : (applyAll config none p rest).document = final
  tree : p.document.tree = final.tree
  reports : q.report = p.report
  roles : ∀ n, (n, DirectiveKind.attributeIf) ∈ rest.map IndexedDirective.key →
    p.document.role? n = final.role? n
  own : q.document.view Element.ownPart = final.view Element.ownPart
  classes : ∀ n c, q.document.hasClass n c = p.document.hasClass n c ∨
    q.document.hasClass n c = final.hasClass n c
  marks : ∀ n, (∀ group, final.role? n ≠ some (.radio, some group)) →
    q.document.isChecked n = final.isChecked n
  groups : ∀ group, GroupRetraced final rest p.document q.document group

/-- Entries of existing nodes, no two of them for one attribute. -/
structure Lined (final : Document) (entries : List IndexedDirective) : Prop where
  inTree : ∀ entry ∈ entries, entry.node.index < final.tree.size
  apart : entries.Pairwise fun a b => a.key ≠ b.key

theorem Lined.tail {final : Document} (h : Lined final (entry :: rest)) : Lined final rest :=
  ⟨fun other ho => h.inTree other (List.mem_cons_of_mem _ ho), (List.pairwise_cons.mp h.apart).2⟩

theorem Lined.key_notMem {final : Document} (h : Lined final (entry :: rest)) :
    entry.key ∉ rest.map IndexedDirective.key := by
  intro hmem
  obtain ⟨other, hother, hkey⟩ := List.mem_map.mp hmem
  exact (List.pairwise_cons.mp h.apart).1 other hother hkey.symm

namespace Retraces

variable {final : Document}

theorem inTree (h : Retraces config final rest p q) (hl : Lined final rest) :
    ∀ entry ∈ rest, entry.node.index < p.document.tree.size := by
  rw [h.tree]
  exact hl.inTree

theorem inTree' (h : Retraces config final rest p q) (hl : Lined final rest) :
    ∀ entry ∈ rest, entry.node.index < q.document.tree.size := by
  rw [Document.tree_eq_of_view h.own]
  exact hl.inTree

/-- A node to which nothing will be assigned has its data already. -/
theorem spared (h : Retraces config final rest p q) (hl : Lined final rest)
    (hkey : (n, DirectiveKind.attributeIf) ∉ rest.map IndexedDirective.key) :
    Document.Spared n p.document final := by
  rw [← h.ends]
  refine spared_applyAll (h.inTree hl) fun entry hentry he => hkey ?_
  rw [← he]
  exact List.mem_map_of_mem hentry

theorem roleView (h : Retraces config final rest p q) (hl : Lined final rest) :
    p.document.view Element.role? = final.view Element.role? := by
  refine Document.roleView_of_role? h.tree fun n => ?_
  by_cases hkey : (n, DirectiveKind.attributeIf) ∈ rest.map IndexedDirective.key
  · exact h.roles n hkey
  · exact (h.spared hl hkey).role?.symm

theorem roleView' (h : Retraces config final rest p q) :
    q.document.view Element.role? = final.view Element.role? :=
  Document.view_of_view h.own fun _ _ he => Element.role?_of_dataPart (Element.dataPart_of_ownPart he)

theorem value (h : Retraces config final rest p q) (n : NodeId) :
    (q.document.element? n).map Element.value = (final.element? n).map Element.value := by
  have hown := congrArg (Option.map fun part : String × StringMap String × Option String × String =>
    part.2.2.2) (Document.map_element?_of_view h.own n)
  rwa [Option.map_map, Option.map_map] at hown

/-- The marked button of a group has its final value in the second run, or that of the first run at this
point. -/
theorem checkedRadioValue (h : Retraces config final rest p q) (hl : Lined final rest) (name : String) :
    let group := q.document.controlsNamed name
    q.document.checkedRadioValue group = final.checkedRadioValue group ∨
      q.document.checkedRadioValue group = p.document.checkedRadioValue group := by
  have hq := h.roleView'
  have hqp := hq.trans (h.roleView hl).symm
  have hrole : ∀ node ∈ q.document.controlsNamed name, q.document.control? node = some .radio →
      final.role? node = some (.radio, some name) := by
    intro node hnode hradio
    rw [← Document.role?_congr hq]
    exact Document.role?_eq_some_iff.mpr ⟨hradio, (Document.mem_controlsNamed.mp hnode).2.1⟩
  refine (h.groups name).imp (fun hfinal => ?_) fun hpast => ?_
  · exact Document.checkedRadioValue_of_roles hq
      (fun node hnode hr => hfinal node (hrole node hnode hr)) fun node _ _ _ => h.value node
  · refine Document.checkedRadioValue_of_roles hqp
      (fun node hnode hr => (hpast node (hrole node hnode hr)).1) fun node hnode hr hc => ?_
    -- nothing will be assigned to the marked button, so that the first run has its final value here
    obtain ⟨hsame, hkey⟩ := hpast node (hrole node hnode hr)
    have hspared := h.spared hl (hkey (hsame.symm.trans hc))
    have hdata := congrArg (Option.map fun part : String × StringMap String × String => part.2.2)
      hspared.data
    rw [Option.map_map, Option.map_map] at hdata
    exact (h.value node).trans hdata

/-- A control that is no radio button has its final state in the second run. -/
theorem controlSnapshot (h : Retraces config final rest p q)
    (hradio : q.document.control? n ≠ some .radio) :
    q.document.controlSnapshot n = final.controlSnapshot n := by
  refine Document.controlSnapshot_of_roles h.roleView' (h.value n) (h.marks n fun group hgroup => ?_)
  rw [← Document.role?_congr h.roleView'] at hgroup
  exact hradio (Document.role?_eq_some_iff.mp hgroup).1

/-- **An input that the first run has read as it is in the end** is read like that by the second. -/
theorem inputSnapshot (h : Retraces config final rest p q) (hl : Lined final rest) {name : String}
    (hread : p.document.inputSnapshot name = final.inputSnapshot name) :
    q.document.inputSnapshot name = final.inputSnapshot name := by
  have hq := h.roleView'
  have hqp := hq.trans (h.roleView hl).symm
  rcases h.checkedRadioValue hl name with hfinal | hpast
  · exact Document.inputSnapshot_of_roles hq fun first _ => ⟨fun _ => hfinal, h.controlSnapshot⟩
  · by_cases hradio : ∃ first, (q.document.controlsNamed name).head? = some first ∧
        q.document.control? first = some .radio
    · -- the input is the group, and the first run has read it as it is in the end
      obtain ⟨first, hfirst, hradio⟩ := hradio
      refine (Document.inputSnapshot_of_roles hqp fun first' hfirst' =>
        ⟨fun _ => hpast, fun hother => ?_⟩).trans hread
      rw [hfirst] at hfirst'
      exact absurd (Option.some.inj hfirst' ▸ hradio) hother
    · exact Document.inputSnapshot_of_roles hq fun first hfirst =>
        ⟨fun hr => absurd ⟨first, hfirst, hr⟩ hradio, h.controlSnapshot⟩

/-- **Both runs find out the same.** -/
theorem finding (h : Retraces config final (entry :: rest) p q) (hl : Lined final (entry :: rest))
    (hread : ∀ name ∈ entry.directive.references,
      p.document.inputSnapshot name = final.inputSnapshot name) :
    entry.directive.finding config none p.document = entry.directive.finding config none q.document := by
  refine Directive.finding_congr ⟨fun name hname => ?_, ?_, rfl⟩
  · exact (hread name hname).trans (h.inputSnapshot hl (hread name hname)).symm
  · exact Document.inputNames_of_roles ((h.roleView hl).trans h.roleView'.symm)

/-! ### One entry -/

section Step

variable {o : Outcome} (h : Retraces config final (entry :: rest) p q) (hl : Lined final (entry :: rest))
  (ho : entry.directive.finding config none p.document = .ok o)

include h hl ho

omit h hl in
theorem key_of_assignment (hassign : o.assignment ≠ none) :
    entry.key = (entry.node, .attributeIf) :=
  congrArg (Prod.mk entry.node) <|
    Decidable.byContradiction fun hkind => hassign (Directive.assignment_of_finding hkind ho)

/-- After an assignment the first run spares the element. -/
theorem spared_of_assignment (hassign : o.assignment ≠ none) :
    Document.Spared entry.node (apply config none p entry).document final := by
  have hentry := h.inTree hl entry List.mem_cons_self
  have hends : (applyAll config none (apply config none p entry) rest).document = final := h.ends
  rw [← hends]
  refine spared_applyAll (fun other hother => ?_) fun other hother hkey => hl.key_notMem ?_
  · rw [tree_apply_of_inTree hentry]
    exact h.inTree hl other (List.mem_cons_of_mem _ hother)
  · rw [key_of_assignment ho hassign, ← hkey]
    exact List.mem_map_of_mem hother

theorem text_of_text (htext : o.text ≠ none) :
    (final.element? entry.node).map Element.text =
      ((apply config none p entry).document.element? entry.node).map Element.text := by
  have hkind : entry.directive.kind = .echo :=
    Decidable.byContradiction fun hkind => htext (Directive.text_of_finding hkind ho)
  have hentry := h.inTree hl entry List.mem_cons_self
  have hends : (applyAll config none (apply config none p entry) rest).document = final := h.ends
  rw [← hends]
  refine text_applyAll_of_key (fun other hother => ?_) fun other hother hkey => hl.key_notMem ?_
  · rw [tree_apply_of_inTree hentry]
    exact h.inTree hl other (List.mem_cons_of_mem _ hother)
  · have he : entry.key = other.key := by rw [hkey, IndexedDirective.key, hkind]
    rw [he]
    exact List.mem_map_of_mem hother

/-- **What the first run writes to its element is there in the end.** -/
theorem ownPart_final {e : Element} (he : final.element? entry.node = some e) :
    (o.rewrite e).ownPart = e.ownPart := by
  have hentry := h.inTree hl entry List.mem_cons_self
  obtain ⟨e₀, he₀⟩ := Option.isSome_iff_exists.mp (Document.isSome_element?_iff.mpr hentry)
  -- nothing later writes to the same part of the element, so that `final` shows what is written here
  have hwritten : (apply config none p entry).document.element? entry.node = some (o.rewrite e₀) := by
    rw [(apply_of_finding hentry ho).1.element?, he₀, Option.map_some, Outcome.rewriting, if_pos rfl]
  refine Outcome.ownPart_rewrite_of_written (f := e₀) (fun hassign => ?_) fun htext => ?_
  · have hdata := (h.spared_of_assignment hl ho hassign).data
    rw [he, hwritten] at hdata
    exact Option.some.inj hdata
  · have htext := h.text_of_text hl ho htext
    rw [he, hwritten] at htext
    exact Option.some.inj htext

/-- A mark that the first run takes away or gives to a button without a group is final. -/
theorem mark_final {checked : Bool} (hmark : o.markWish = some checked)
    (halone : checked = true → ∀ group, final.role? entry.node ≠ some (.radio, some group)) :
    final.isChecked entry.node = checked := by
  have hspared := h.spared_of_assignment hl ho (Outcome.assignment_of_markWish hmark)
  have hentry := h.inTree hl entry List.mem_cons_self
  have hwritten := Outcome.isChecked_self (apply_of_finding hentry ho).1 hentry
  rw [hmark, Option.getD_some] at hwritten
  cases checked with
  | false =>
    refine eq_false_of_ne_true fun hc => ?_
    rw [hspared.unmarked hc] at hwritten
    cases hwritten
  | true =>
    rw [hspared.mark fun group hgroup => halone rfl group (hspared.role?.trans hgroup), hwritten]

omit ho in
/-- The buttons that lose the mark are known from the roles that controls have in the end. -/
theorem mem_unmarked_final :
    n ∈ o.unmarked p.document entry.node ↔ o.markWish = some true ∧ n ≠ entry.node ∧
      n ∈ final.descendants ∧ ∃ group, final.role? entry.node = some (.radio, some group) ∧
        final.role? n = some (.radio, some group) := by
  have hroles := h.roleView hl
  rw [Outcome.mem_unmarked, Document.descendants_congr hroles, Document.role?_congr hroles,
    Document.role?_congr hroles]

/-- **Both runs write the same outcome,** and take the mark from the same buttons. -/
theorem written (ho' : entry.directive.finding config none q.document = .ok o) :
    Document.Rewritten (o.rewriting p.document entry.node) p.document
        (apply config none p entry).document ∧
      Document.Rewritten (o.rewriting q.document entry.node) q.document
        (apply config none q entry).document ∧
      ∀ n, n ∈ o.unmarked q.document entry.node ↔ n ∈ o.unmarked p.document entry.node := by
  have hp := h.inTree hl entry List.mem_cons_self
  have hq := h.inTree' hl entry List.mem_cons_self
  refine ⟨(apply_of_finding hp ho).1, (apply_of_finding hq ho').1, fun n => ?_⟩
  rw [h.mem_unmarked_final hl, Outcome.mem_unmarked, Document.descendants_congr h.roleView',
    Document.role?_congr h.roleView', Document.role?_congr h.roleView']

/-- **The button of an entry takes the mark** from all others of its group, in both runs. -/
theorem groupRetraced_of_taken (ho' : entry.directive.finding config none q.document = .ok o)
    {group : String} (hmark : o.markWish = some true)
    (hgroup : final.role? entry.node = some (.radio, some group)) :
    GroupRetraced final rest (apply config none p entry).document (apply config none q entry).document
      group := by
  obtain ⟨hfirst, hsecond, hsame⟩ := h.written hl ho ho'
  refine .inr fun n hn => ?_
  by_cases he : entry.node = n
  · subst he
    have hself := Outcome.isChecked_self hfirst (h.inTree hl entry List.mem_cons_self)
    have hself' := Outcome.isChecked_self hsecond (h.inTree' hl entry List.mem_cons_self)
    refine ⟨by rw [hself, hself', hmark, Option.getD_some, Option.getD_some], fun _ => ?_⟩
    rw [← key_of_assignment ho (Outcome.assignment_of_markWish hmark)]
    exact hl.key_notMem
  · have hin : n ∈ final.descendants := by
      obtain ⟨e, hes, -⟩ := Option.bind_eq_some_iff.mp hn
      exact Tree.mem_descendants (Document.lt_size_of_element? hes)
    have hloses : n ∈ o.unmarked p.document entry.node :=
      (h.mem_unmarked_final hl).mpr ⟨hmark, fun heq => he heq.symm, hin, group, hgroup, hn⟩
    have hpast := Outcome.isChecked_of_unmarked hfirst hloses
    refine ⟨(Outcome.isChecked_of_unmarked hsecond ((hsame n).mpr hloses)).trans hpast.symm,
      fun hc => ?_⟩
    rw [hpast] at hc
    cases hc

/-- **An entry that takes no mark in a group** leaves a button of it alone in both runs, or the button
loses its mark for good. -/
theorem mark_of_not_taken (ho' : entry.directive.finding config none q.document = .ok o)
    {group : String}
    (hnot : ¬ (o.markWish = some true ∧ final.role? entry.node = some (.radio, some group)))
    (hn : final.role? n = some (.radio, some group)) :
    ((apply config none p entry).document.isChecked n = p.document.isChecked n ∧
        (apply config none q entry).document.isChecked n = q.document.isChecked n) ∨
      ((apply config none p entry).document.isChecked n = false ∧
        (apply config none q entry).document.isChecked n = false ∧ final.isChecked n = false) := by
  obtain ⟨hfirst, hsecond, hsame⟩ := h.written hl ho ho'
  by_cases he : entry.node = n
  · subst he
    have hself := Outcome.isChecked_self hfirst (h.inTree hl entry List.mem_cons_self)
    have hself' := Outcome.isChecked_self hsecond (h.inTree' hl entry List.mem_cons_self)
    rw [hself, hself']
    cases hmark : o.markWish with
    | none => exact .inl ⟨rfl, rfl⟩
    | some checked =>
      cases checked with
      | true => exact absurd ⟨hmark, hn⟩ hnot
      | false => exact .inr ⟨rfl, rfl, h.mark_final hl ho hmark fun hc => nomatch hc⟩
  · have hkeeps : n ∉ o.unmarked p.document entry.node := by
      intro hloses
      obtain ⟨hmark, -, -, group', hgroup, hgroup'⟩ := (h.mem_unmarked_final hl).mp hloses
      rw [hn] at hgroup'
      obtain rfl : group = group' := by simpa using hgroup'
      exact hnot ⟨hmark, hgroup⟩
    exact .inl ⟨Outcome.isChecked_other hfirst he hkeeps,
      Outcome.isChecked_other hsecond he fun hmem => hkeeps ((hsame n).mp hmem)⟩

/-- The marks of a group after one more entry. -/
theorem groupRetraced (ho' : entry.directive.finding config none q.document = .ok o) (group : String) :
    GroupRetraced final rest (apply config none p entry).document (apply config none q entry).document
      group := by
  by_cases htaken : o.markWish = some true ∧ final.role? entry.node = some (.radio, some group)
  · exact h.groupRetraced_of_taken hl ho ho' htaken.1 htaken.2
  · refine (h.groups group).imp (fun hfinal n hn => ?_) fun hpast n hn => ?_
    · rcases h.mark_of_not_taken hl ho ho' htaken hn with ⟨-, hq⟩ | ⟨-, hq, hf⟩
      · rw [hq, hfinal n hn]
      · rw [hq, hf]
    · obtain ⟨hsame, hkey⟩ := hpast n hn
      rcases h.mark_of_not_taken hl ho ho' htaken hn with ⟨hp, hq⟩ | ⟨hp, hq, -⟩
      · rw [hp, hq]
        exact ⟨hsame, fun hc hlater => hkey hc (List.mem_cons_of_mem _ hlater)⟩
      · rw [hp, hq]
        refine ⟨rfl, fun hc => ?_⟩
        cases hc

/-- **What the second run writes is there already.** -/
theorem ownView_apply (ho' : entry.directive.finding config none q.document = .ok o) :
    (apply config none q entry).document.view Element.ownPart = final.view Element.ownPart := by
  obtain ⟨-, hsecond, -⟩ := h.written hl ho ho'
  refine Document.view_eq_iff.mpr ⟨hsecond.tree.trans (Document.tree_eq_of_view h.own), fun n => ?_⟩
  have hown := Document.map_element?_of_view h.own n
  rw [hsecond.map]
  by_cases he : entry.node = n
  · subst he
    cases hf : final.element? entry.node with
    | none =>
      rw [hf, Option.map_none, Option.map_eq_none_iff] at hown
      rw [hown]
      rfl
    | some f =>
      rw [hf, Option.map_some, Option.map_eq_some_iff] at hown
      obtain ⟨e, he, hef⟩ := hown
      rw [he, Option.map_some, Option.map_some, Outcome.rewriting, if_pos rfl,
        Outcome.ownPart_rewrite_congr hef, h.ownPart_final hl ho hf]
  · simp only [Outcome.ownPart_rewriting_of_ne he]
    exact hown

/-- The mark of a control that is in no group of radio buttons is final after the entry as well. -/
theorem mark_apply (ho' : entry.directive.finding config none q.document = .ok o)
    (hn : ∀ group, final.role? n ≠ some (.radio, some group)) :
    (apply config none q entry).document.isChecked n = final.isChecked n := by
  obtain ⟨-, hsecond, -⟩ := h.written hl ho ho'
  by_cases he : entry.node = n
  · subst he
    rw [Outcome.isChecked_self hsecond (h.inTree' hl entry List.mem_cons_self)]
    cases hmark : o.markWish with
    | none => exact h.marks _ hn
    | some checked => exact (h.mark_final hl ho hmark fun _ => hn).symm
  · have hkeeps : n ∉ o.unmarked q.document entry.node := by
      intro hloses
      obtain ⟨-, -, -, group, -, hgroup⟩ := Outcome.mem_unmarked.mp hloses
      rw [Document.role?_congr h.roleView'] at hgroup
      exact hn group hgroup
    rw [Outcome.isChecked_other hsecond he hkeeps]
    exact h.marks n hn

/-- **The second run keeps beside the first one,** entry by entry. -/
theorem apply_of_ok (ho' : entry.directive.finding config none q.document = .ok o) :
    Retraces config final rest (apply config none p entry) (apply config none q entry) := by
  obtain ⟨hfirst, hsecond, hsame⟩ := h.written hl ho ho'
  have hp := h.inTree hl entry List.mem_cons_self
  have hq := h.inTree' hl entry List.mem_cons_self
  refine ⟨h.ends, hfirst.tree.trans h.tree, ?_, fun n hn => ?_, h.ownView_apply hl ho ho', fun n c => ?_,
    fun n hn => h.mark_apply hl ho ho' hn, h.groupRetraced hl ho ho'⟩
  · rw [(apply_of_finding hp ho).2, (apply_of_finding hq ho').2, h.reports]
  · have hne : entry.key ≠ (n, .attributeIf) := fun he => hl.key_notMem (he ▸ hn)
    exact (spared_apply hp hne).role?.trans (h.roles n (List.mem_cons_of_mem _ hn))
  · -- a class that the outcome speaks of is from now on the same in both runs
    rw [Outcome.hasClass_rewriting hfirst hp, Outcome.hasClass_rewriting hsecond hq]
    split
    · cases o.classWish c with
      | none => exact h.classes n c
      | some present => exact .inl rfl
    · exact h.classes n c

end Step

/-- An entry that is skipped is skipped in both runs. -/
theorem apply_of_error (h : Retraces config final (entry :: rest) p q)
    (hl : Lined final (entry :: rest)) {e : EffectError}
    (he : entry.directive.finding config none p.document = .error e)
    (he' : entry.directive.finding config none q.document = .error e) :
    Retraces config final rest (apply config none p entry) (apply config none q entry) := by
  have hp := h.inTree hl entry List.mem_cons_self
  have hq := h.inTree' hl entry List.mem_cons_self
  have hends : (applyAll config none (apply config none p entry) rest).document = final := h.ends
  rw [apply_of_finding_error hp he] at hends ⊢
  rw [apply_of_finding_error hq he']
  refine ⟨hends, h.tree, ?_, fun n hn => h.roles n (List.mem_cons_of_mem _ hn), h.own, h.classes,
    h.marks, fun group => ?_⟩
  · rw [h.reports]
  · refine (h.groups group).imp_right fun hpast n hn => ?_
    obtain ⟨hsame, hkey⟩ := hpast n hn
    exact ⟨hsame, fun hc hlater => hkey hc (List.mem_cons_of_mem _ hlater)⟩

/-- **The second run keeps beside the first one.** -/
theorem apply (h : Retraces config final (entry :: rest) p q) (hl : Lined final (entry :: rest))
    (hread : ∀ name ∈ entry.directive.references,
      p.document.inputSnapshot name = final.inputSnapshot name) :
    Retraces config final rest (apply config none p entry) (apply config none q entry) := by
  have hsame := h.finding hl hread
  cases ho : entry.directive.finding config none p.document with
  | error e => exact h.apply_of_error hl ho (hsame ▸ ho)
  | ok o => exact h.apply_of_ok hl ho (hsame ▸ ho)

end Retraces

/-- **Entries that read ahead:** when its turn comes, each finds its inputs as they are in the end. -/
def ReadsAhead (config : Config) (final : Document) : Pass → List IndexedDirective → Prop
  | _, [] => True
  | p, entry :: rest =>
    (∀ name ∈ entry.directive.references,
        p.document.inputSnapshot name = final.inputSnapshot name) ∧
      ReadsAhead config final (apply config none p entry) rest

/-- **The second run ends where the first one did.** -/
theorem Retraces.applyAll {final : Document} (h : Retraces config final entries p q)
    (hl : Lined final entries) (hread : ReadsAhead config final p entries) :
    Retraces config final [] (applyAll config none p entries) (applyAll config none q entries) := by
  induction entries generalizing p q with
  | nil => exact h
  | cons entry rest ih => exact ih (h.apply hl hread.1) hl.tail hread.2

instance ReadsAhead.decidable (config : Config) (final : Document) :
    (p : Pass) → (entries : List IndexedDirective) → Decidable (ReadsAhead config final p entries)
  | _, [] => .isTrue trivial
  | p, entry :: rest =>
    have := ReadsAhead.decidable config final (Pass.apply config none p entry) rest
    inferInstanceAs (Decidable (_ ∧ _))

/-- Where the second run ends, every element is what it is where the first one ends. -/
theorem Retraces.end_eq {final : Document} (h : Retraces config final [] p q) :
    q.document.view Element.classless = final.view Element.classless ∧
      (∀ n c, q.document.hasClass n c = final.hasClass n c) ∧ q.report = p.report := by
  obtain rfl : p.document = final := h.ends
  have hmark : ∀ n, q.document.isChecked n = p.document.isChecked n := by
    intro n
    by_cases hgroup : ∃ group, p.document.role? n = some (.radio, some group)
    · obtain ⟨group, hn⟩ := hgroup
      rcases h.groups group with hfinal | hpast
      · exact hfinal n hn
      · exact (hpast n hn).1
    · exact h.marks n fun group hn => hgroup ⟨group, hn⟩
  refine ⟨Document.view_eq_iff.mpr ⟨Document.tree_eq_of_view h.own, fun n => ?_⟩, fun n c => ?_, h.reports⟩
  · have hown := Document.map_element?_of_view h.own n
    have hn := hmark n
    unfold Document.isChecked at hn
    cases he : p.document.element? n with
    | none =>
      rw [he, Option.map_none, Option.map_eq_none_iff] at hown
      rw [hown]
    | some e =>
      rw [he, Option.map_some, Option.map_eq_some_iff] at hown
      obtain ⟨e', he', hee⟩ := hown
      rw [he, he'] at hn
      have hchecked : e'.checked = e.checked := hn
      obtain ⟨htag, hattributes, htext, hvalue⟩ :
          e'.tag = e.tag ∧ e'.attributes = e.attributes ∧ e'.text = e.text ∧ e'.value = e.value := by
        simpa [Element.ownPart] using hee
      rw [he', Option.map_some, Option.map_some]
      unfold Element.classless
      rw [htag, hattributes, htext, hvalue, hchecked]
  · exact (h.classes n c).elim id id

end Pass

/-! ## Initializing -/

namespace Controller

variable {c : Controller} {d : Document}

/-- Where the pass of an initialization begins. -/
def start (c : Controller) (d : Document) : Pass :=
  ⟨d, c.states, { failures := (d.index c.config).failures }⟩

theorem document_init (c : Controller) (d : Document) :
    (c.init d).document =
      (Pass.applyAll c.config none (c.start d) (initial (d.index c.config))).document := rfl

theorem report_init (c : Controller) (d : Document) :
    (c.init d).report =
      (Pass.applyAll c.config none (c.start d) (initial (d.index c.config))).report := rfl

theorem lined_initial (c : Controller) (d : Document) :
    Pass.Lined (c.init d).document (initial (d.index c.config)) where
  inTree entry hentry := by
    rw [tree_init]
    exact Index.lt_size_of_mem (List.mem_filter.mp hentry).1
  apart := Index.pairwise_key.filter _

/-- **A document that settles:** its initialization leaves the directives, the attributes that are none
and the controls as they are, and every directive finds its inputs as they are in the end. -/
structure Settles (c : Controller) (d : Document) : Prop where
  directives : initial ((c.init d).document.index c.config) = initial (d.index c.config)
  failures : ((c.init d).document.index c.config).failures = (d.index c.config).failures
  controls : ∀ node ∈ d.descendants, (c.init d).document.role? node = d.role? node
  inputs : Pass.ReadsAhead c.config (c.init d).document (c.start d) (initial (d.index c.config))

instance (c : Controller) (d : Document) : Decidable (c.Settles d) :=
  decidable_of_iff (_ ∧ _ ∧ _ ∧ _)
    ⟨fun ⟨hd, hf, hc, hi⟩ => ⟨hd, hf, hc, hi⟩,
      fun h => ⟨h.directives, h.failures, h.controls, h.inputs⟩⟩

theorem Settles.retraces (h : c.Settles d) :
    Pass.Retraces c.config (c.init d).document (initial (d.index c.config)) (c.start d)
      ((c.init d).controller.start (c.init d).document) where
  -- the second run begins where the first one ends, so that everything but the controls is final by itself
  ends := rfl
  tree := (tree_init c d).symm
  reports := congrArg (fun failures => ({ failures } : Report)) h.failures
  roles n hn := by
    obtain ⟨entry, hentry, hkey⟩ := List.mem_map.mp hn
    obtain rfl : entry.node = n := congrArg Prod.fst hkey
    have hlt := Index.lt_size_of_mem (List.mem_filter.mp hentry).1
    exact (h.controls _ (Tree.mem_descendants hlt)).symm
  own := rfl
  classes _ _ := .inr rfl
  marks _ _ := rfl
  groups _ := .inl fun _ _ => rfl

/-- Entries that change no input read ahead. -/
theorem readsAhead_of_plain {entries : List IndexedDirective} {final : Document} {p : Pass}
    (h : Pass.Plain p.document entries)
    (hview : p.document.view Element.inputPart = final.view Element.inputPart) :
    Pass.ReadsAhead c.config final p entries := by
  induction entries generalizing p with
  | nil => trivial
  | cons entry rest ih =>
    refine ⟨fun name _ => ?_, ih h.tail (h.inputView_apply.trans hview)⟩
    exact congrArg (fun values : ValueSource => values.valueOf name) (Document.values_congr hview)

/-- **A document settles when its directives assign nothing that is reserved.** -/
theorem settles_of_inert (h : (d.index c.config).Inert) : c.Settles d := by
  have hinitial : ∀ entry ∈ initial (d.index c.config), entry ∈ (d.index c.config).entries :=
    fun entry hentry => (List.mem_filter.mp hentry).1
  have hplain : Pass.Plain (c.start d).document (initial (d.index c.config)) :=
    ⟨fun entry hentry => Index.lt_size_of_mem (hinitial entry hentry),
      fun entry hentry a ha => plain_of_not_reserved (h entry (hinitial entry hentry) a ha)⟩
  have hinput : (c.init d).document.view Element.inputPart = d.view Element.inputPart :=
    hplain.inputView_applyAll
  have hdirective : (c.init d).document.view Element.directivePart = d.view Element.directivePart :=
    Pass.view_applyAll_of_plain (p := c.start d) hplain.inTree
      (fun entry hentry a ha => (hplain.assignments entry hentry a ha).1)
      fun entry hentry _ ho => h.directivePart_write (hinitial entry hentry) ho
  have hindex : (c.init d).document.index c.config = d.index c.config :=
    Document.index_congr hdirective c.config
  refine ⟨by rw [hindex], by rw [hindex], fun node _ => ?_, readsAhead_of_plain hplain hinput.symm⟩
  exact Document.role?_congr (Document.roleView_of_controlView (Document.controlView_of_inputView hinput)) node

/-- **Initializing twice is initializing once,** for a document that settles; and every document does whose
directives assign nothing that is reserved. -/
theorem init_init_of_settles (c : Controller) (d : Document) :
    ((d.index c.config).Inert → c.Settles d) ∧
      (c.Settles d →
        let once := c.init d
        let twice := once.controller.init once.document
        twice.document.view Element.classless = once.document.view Element.classless ∧
          (∀ node name, twice.document.hasClass node name = once.document.hasClass node name) ∧
          twice.report = once.report) := by
  refine ⟨settles_of_inert, fun h => ?_⟩
  intro once twice
  -- the second run applies the same entries, so that the two can be compared entry by entry
  have hend := (h.retraces.applyAll (lined_initial c d) h.inputs).end_eq
  rw [← report_init] at hend
  have hdocument : twice.document = (Pass.applyAll c.config none (once.controller.start once.document)
      (initial (once.document.index c.config))).document := document_init once.controller once.document
  have hreport : twice.report = (Pass.applyAll c.config none (once.controller.start once.document)
      (initial (once.document.index c.config))).report := report_init once.controller once.document
  rw [h.directives] at hdocument hreport
  rw [hdocument, hreport]
  exact hend

/-- A form that settles although its directives assign a class, values and marks: a hidden input loses its
marker to a new class, an echo repeats a value that has just been assigned, and of two radio buttons the
one takes the mark from the other. -/
def settling : Document := .form
  [.ofAttributes "input"
    [("name", "a"), ("value", "1"), ("data-hide", "a == 1"), ("data-if", "a == 1 ? class=m n")],
   .ofAttributes "input" [("name", "b"), ("data-if", "a == 1 ? value=x : value=y")],
   .ofAttributes "input"
    [("name", "g"), ("type", "radio"), ("value", "u"), ("data-if", "a == 1 ? checked=yes")],
   .ofAttributes "input"
    [("name", "g"), ("type", "radio"), ("value", "v"), ("checked", ""), ("data-if", "c == 1 ? checked=no")],
   .ofAttributes "p" [("data-state", "b")],
   .ofAttributes "p" [("data-state", "g")]]

/-- The form settles, and the second initialization finds what the first has left. -/
theorem init_init_of_settles_settling :
    (ofConfig {}).Settles settling ∧ ¬ (settling.index {}).Inert ∧
      let once := (ofConfig {}).init settling
      let twice := once.controller.init once.document
      once.document.view Element.classless ≠ settling.view Element.classless ∧
        once.report.applied = 6 ∧ once.report.failures.length = 1 ∧
        twice.document.view Element.classless = once.document.view Element.classless ∧
        (∀ node name, twice.document.hasClass node name = once.document.hasClass node name) ∧
        twice.report = once.report := by
  have hsettles : (ofConfig {}).Settles settling := by decide +kernel
  refine ⟨hsettles, by decide +kernel, fun hview => ?_, by decide +kernel, by decide +kernel,
    (init_init_of_settles (ofConfig {}) settling).2 hsettles⟩
  -- the second input has got its value from the first initialization
  have hvalue := congrArg (Option.map Element.value) (Document.map_element?_of_view hview ⟨2⟩)
  revert hvalue
  decide +kernel

/-- An input whose own directive changes it back and forth. -/
def wavering : Document := .form
  [.ofAttributes "input" [("name", "a"), ("value", "0"), ("data-if", "a == 0 ? value=1 : value=0")]]

/-- **Not every document settles:** an assignment that is undone by its own effect is made and undone in
turns. -/
theorem init_init_ne_init :
    let once := (ofConfig {}).init wavering
    let twice := once.controller.init once.document
    (once.document.element? ⟨1⟩).map Element.value = some "1" ∧
      (twice.document.element? ⟨1⟩).map Element.value = some "0" ∧
      twice.document.view Element.classless ≠ once.document.view Element.classless := by
  intro once twice
  have honce : (once.document.element? ⟨1⟩).map Element.value = some "1" := by decide +kernel
  have htwice : (twice.document.element? ⟨1⟩).map Element.value = some "0" := by decide +kernel
  refine ⟨honce, htwice, fun hview => ?_⟩
  have hvalue := congrArg (Option.map Element.value) (Document.map_element?_of_view hview ⟨1⟩)
  rw [Option.map_map, Option.map_map] at hvalue
  have hvalue : (twice.document.element? ⟨1⟩).map Element.value =
      (once.document.element? ⟨1⟩).map Element.value := hvalue
  rw [honce, htwice] at hvalue
  exact absurd hvalue (by decide)

end Controller

end ReactiveForm
