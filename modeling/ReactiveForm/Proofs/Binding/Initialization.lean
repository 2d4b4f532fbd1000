import ReactiveForm.Proofs.Binding.Accounting
import ReactiveForm.Proofs.Binding.Lookup

/-!
# `ReactiveForm.Proofs.Binding.Initialization` — what an initialization computes

An initialization changes the document that it reads. As long as no directive assigns what is read with an
input, none of this is noticed by a later directive, so that all of them can be taken to read the document
as it was. Then the result has a closed form: of all that is said on a class of an element the last word
counts, an echo repeats its input, a choice sets its attribute, and nothing else is new.

## Contents
- `Document.holds`, `Directive.wordsOn` and `Document.writers`, what the directives of an element say on a class.
- `Directive.error?_effect` and `Directive.lastSetting_of_finding`, what becomes of one directive.
- `Document.granted?`, what the directive of a kind at a node gets, with `granted?_words`, `granted?_text` and
  `granted?_assigned`.
- `Controller.initial_at` and `lastWish_initial`, the directives of an element in the order of application.
- `Pass.filter_classes_applyAll_of_plain` and `Pass.succeeded_of_plain`, passes that change no input.
- `Controller.Computes` and `init_computes`: **the last successful writer wins**.
-/

namespace ReactiveForm

/-! ## What is said -/

/-- Whether a condition is true in a document; one without a truth is not. -/
def Document.holds (d : Document) (config : Config) (c : Condition) : Bool :=
  (d.evaluate config none c).toOption == some true

/-- What a directive says on a class of its element, rule by rule: whether it is to be present. -/
def Directive.wordsOn (config : Config) (d : Document) (c : String) : Directive → List Bool
  | showIf condition => if config.classes.hidden = c then [!d.holds config condition] else []
  | hideIf condition => if config.classes.hidden = c then [d.holds config condition] else []
  | disableIf condition => if config.classes.disabled = c then [d.holds config condition] else []
  | classIf rules =>
    (rules.filter fun rule => rule.classes.contains c).map fun rule => d.holds config rule.condition
  | _ => []

/-- The directive of a kind at a node, if it succeeds in a document. -/
def Document.successful? (d : Document) (config : Config) (node : NodeId) (kind : DirectiveKind) :
    Option Directive :=
  match d.directive? config.directiveOptions node kind with
  | some (.ok directive) =>
    if (error? (directive.effect config none d node)).isNone then some directive else none
  | _ => none

/-- What the directive of a kind at a node says on a class, if it succeeds. -/
def Document.wordsAt (d : Document) (config : Config) (node : NodeId) (c : String)
    (kind : DirectiveKind) : List Bool :=
  match d.successful? config node kind with
  | some directive => directive.wordsOn config d c
  | none => []

/-- **All that is said on a class of an element,** in the order of application. -/
def Document.writers (d : Document) (config : Config) (node : NodeId) (c : String) : List Bool :=
  [.showIf, .hideIf, .disableIf, .classIf].flatMap (d.wordsAt config node c)

/-- The text that is repeated at a node. -/
def Document.echoedAt? (d : Document) (config : Config) (node : NodeId) : Option String :=
  match d.directive? config.directiveOptions node .echo with
  | some (.ok (.echo input)) => d.inputSnapshot input
  | _ => none

/-- The assignment that is chosen at a node. -/
def Document.chosenAt? (d : Document) (config : Config) (node : NodeId) : Option Assignment :=
  match d.successful? config node .attributeIf with
  | some (.attributeIf rule) => if d.holds config rule.condition then some rule.whenTrue else rule.whenFalse
  | _ => none

/-! ## One directive -/

namespace Directive

variable {config : Config} {change : Option Change} {d : Document} {node : NodeId}
  {directive : Directive} {o : Outcome}

/-- A directive of an element fails when it finds nothing out. -/
theorem error?_effect (hn : node.index < d.tree.size) :
    error? (directive.effect config change d node) = error? (directive.finding config change d) := by
  cases hfinding : directive.finding config change d with
  | error e => exact congrArg error? (effect_of_finding_error hn hfinding)
  | ok o =>
    obtain ⟨d', heffect, -⟩ := effect_of_finding hn hfinding
    rw [heffect]
    rfl

/-- The conditions of a directive that finds something out are known. -/
theorem settled_of_finding (h : directive.finding config none d = .ok o) :
    ∃ text, directive.echoed config none d = .ok text ∧
      o = directive.settle config (directive.conditions.map (d.holds config)) text := by
  obtain ⟨truths, htruths, text, htext, ho⟩ := outcome_eq_ok_iff.mp (finding_eq_ok_iff.mp h).1
  refine ⟨text, htext, ?_⟩
  have hknown : truths = directive.conditions.map (d.holds config) := by
    refine eq_map_of_mapM_eq_ok (fun c b hb => ?_) htruths
    unfold Document.holds
    rw [hb]
    cases b <;> rfl
  rw [ho, hknown]

/-- What an echo repeats is its input. -/
theorem text_of_echoed {input : String} {text : Option String}
    (h : (echo input).echoed config none d = .ok text) : text = d.inputSnapshot input := by
  unfold echoed at h
  have hresolve : Context.resolve ⟨d.values, none, config.evaluation.unknownInput⟩ input =
      d.inputSnapshot input := rfl
  simp only [hresolve] at h
  cases hvalue : d.inputSnapshot input with
  | some value =>
    rw [hvalue] at h
    exact (Except.ok.inj h).symm
  | none =>
    rw [hvalue] at h
    cases hpolicy : config.evaluation.unknownInput <;> rw [hpolicy] at h
    · cases h
    · exact (Except.ok.inj h).symm

theorem lastSetting_map (classes : List String) (present : Bool) (c : String) :
    lastSetting (classes.map fun name => (name, present)) c =
      if classes.contains c then some present else none := by
  induction classes with
  | nil => rfl
  | cons name rest ih =>
    have hcons : lastSetting ((name, present) :: rest.map fun name => (name, present)) c =
        (lastSetting (rest.map fun name => (name, present)) c).or (lastSetting [(name, present)] c) :=
      lastSetting_append [(name, present)] _ c
    rw [List.map_cons, hcons, ih, lastSetting_singleton]
    by_cases hname : name = c
    · by_cases hrest : c ∈ rest <;> simp [hname, hrest]
    · have hne : c ≠ name := fun he => hname he.symm
      simp [hname, hne]

/-- What the rules of a class directive say last on a class. -/
theorem lastSetting_rules (rules : List ClassRule) (holds : Condition → Bool) (c : String) :
    lastSetting ((rules.zip (rules.map fun rule => holds rule.condition)).flatMap fun (rule, present) =>
        rule.classes.map fun name => (name, present)) c =
      ((rules.filter fun rule => rule.classes.contains c).map fun rule => holds rule.condition).getLast? := by
  induction rules with
  | nil => rfl
  | cons rule rest ih =>
    rw [List.map_cons, List.zip_cons_cons, List.flatMap_cons, lastSetting_append, ih, lastSetting_map,
      List.filter_cons]
    split
    · rw [List.map_cons, List.getLast?_cons]
      cases List.getLast? _ <;> rfl
    · exact Option.or_none

/-- **What a directive writes last on a class is what it says last on it.** -/
theorem lastSetting_of_finding (h : directive.finding config none d = .ok o) (c : String) :
    lastSetting o.classes c = (directive.wordsOn config d c).getLast? := by
  obtain ⟨text, -, rfl⟩ := settled_of_finding h
  cases directive with
  | showIf condition | hideIf condition | disableIf condition =>
    refine (lastSetting_singleton _ _ c).trans ?_
    unfold wordsOn
    split <;> rfl
  | classIf rules =>
    have hmap : (classIf rules).conditions.map (d.holds config) =
        rules.map fun rule => d.holds config rule.condition := List.map_map
    rw [hmap]
    exact lastSetting_rules rules (d.holds config) c
  | attributeIf _ | echo _ | switch _ _ => rfl

end Directive

/-! ## Lists -/

/-- Where one member of a list yields all that the list yields. -/
theorem filterMap_of_unique {α β : Type} {l : List α} (hl : l.Nodup) {a : α} {f : α → Option β}
    (ha : f a ≠ none → a ∈ l) (hf : ∀ b, b ≠ a → f b = none) : l.filterMap f = (f a).toList := by
  by_cases hmem : a ∈ l
  · obtain ⟨before, after, rfl⟩ := List.append_of_mem hmem
    obtain ⟨-, hafter, happart⟩ := List.nodup_append.mp hl
    have hnone : before.filterMap f = [] := List.filterMap_eq_nil_iff.mpr fun b hb =>
      hf b (happart b hb a List.mem_cons_self)
    have hnone' : after.filterMap f = [] := List.filterMap_eq_nil_iff.mpr fun b hb =>
      hf b fun he => (List.nodup_cons.mp hafter).1 (he ▸ hb)
    rw [List.filterMap_append, List.filterMap_cons, hnone, hnone']
    cases f a <;> rfl
  · have hnone : f a = none := Decidable.byContradiction fun h => hmem (ha h)
    rw [hnone]
    refine List.filterMap_eq_nil_iff.mpr fun b hb => hf b fun he => hmem (he ▸ hb)

/-- The last of the last words is the last word of all. -/
theorem getLast?_filterMap_getLast? {α β : Type} (l : List α) (g : α → List β) :
    (l.filterMap fun a => (g a).getLast?).getLast? = (l.flatMap g).getLast? := by
  rw [List.getLast?_filterMap, List.getLast?_flatMap]

/-! ## The directives of an element -/

namespace Document

variable {config : Config} {d : Document} {node : NodeId} {kind : DirectiveKind} {directive : Directive}

theorem successful?_eq_some_iff :
    d.successful? config node kind = some directive ↔
      d.directive? config.directiveOptions node kind = some (.ok directive) ∧
        ∃ o, directive.finding config none d = .ok o := by
  unfold successful?
  split
  · next found hd =>
    obtain ⟨raw, hraw⟩ := Index.attribute?_of_directive? hd
    rw [Option.ite_none_right_eq_some, hd, Directive.error?_effect (lt_size_of_attribute? hraw)]
    constructor
    · rintro ⟨hnone, hfound⟩
      obtain rfl : found = directive := Option.some.inj hfound
      exact ⟨rfl, isNone_error?_iff.mp hnone⟩
    · rintro ⟨hfound, hok⟩
      obtain rfl : found = directive := Except.ok.inj (Option.some.inj hfound)
      exact ⟨isNone_error?_iff.mpr hok, rfl⟩
  · next hd => exact ⟨fun h => (nomatch h), fun h => absurd h.1 (hd directive)⟩

/-- What the directive of a kind at a node is granted of what it wants. -/
def granted? {γ : Type} (d : Document) (config : Config) (node : NodeId) (want : Outcome → Option γ)
    (kind : DirectiveKind) : Option γ :=
  (d.entry? config.directiveOptions kind node).bind fun entry =>
    (Pass.outcome? config none d entry).bind (·.granted want)

/-- A directive that succeeds is granted what it wants, -/
theorem granted?_of_successful (h : d.successful? config node kind = some directive) :
    directive.kind = kind ∧ ∃ o, directive.finding config none d = .ok o ∧
      ∀ {γ : Type} (want : Outcome → Option γ), d.granted? config node want kind = want o := by
  obtain ⟨hd, o, ho⟩ := successful?_eq_some_iff.mp h
  refine ⟨Index.kind_of_directive? hd, o, ho, fun want => ?_⟩
  have hentry : d.entry? config.directiveOptions kind node = some ⟨node, directive⟩ :=
    Index.entry?_eq_some_iff.mpr ⟨rfl, hd⟩
  unfold granted?
  rw [hentry, Option.bind_some]
  exact Pass.granted_of_finding ho want

/-- and nobody else is granted anything. -/
theorem granted?_of_unsuccessful (h : d.successful? config node kind = none) {γ : Type}
    (want : Outcome → Option γ) : d.granted? config node want kind = none := by
  refine Option.bind_eq_none_iff.mpr fun entry hentry => Pass.granted_eq_none fun o ho => ?_
  have hsome := successful?_eq_some_iff.mpr ⟨(Index.entry?_eq_some_iff.mp hentry).2, o, ho⟩
  rw [h] at hsome
  cases hsome

/-- What a directive is granted to write last on a class is what it says last on it. -/
theorem granted?_words (k : String) :
    d.granted? config node (fun o => lastSetting o.classes k) kind =
      (d.wordsAt config node k kind).getLast? := by
  unfold wordsAt
  cases h : d.successful? config node kind with
  | none => exact granted?_of_unsuccessful h _
  | some directive =>
    obtain ⟨-, o, ho, hgranted⟩ := granted?_of_successful h
    rw [hgranted, Directive.lastSetting_of_finding ho]

/-- Only directives of four kinds say anything on classes. -/
theorem wordsAt_eq_nil (h : kind ∉ [DirectiveKind.showIf, .hideIf, .disableIf, .classIf]) (k : String) :
    d.wordsAt config node k kind = [] := by
  unfold wordsAt
  cases hs : d.successful? config node kind with
  | none => rfl
  | some directive =>
    obtain ⟨rfl, -⟩ := granted?_of_successful hs
    cases directive with
    | showIf _ | hideIf _ | disableIf _ | classIf _ => exact absurd (by simp [Directive.kind]) h
    | attributeIf _ | echo _ | switch _ _ => rfl

/-- **An echo is granted the text of its input.** -/
theorem granted?_text : d.granted? config node Outcome.text .echo = d.echoedAt? config node := by
  unfold echoedAt?
  cases h : d.successful? config node .echo with
  | some directive =>
    obtain ⟨hkind, o, ho, hgranted⟩ := granted?_of_successful h
    obtain ⟨text, htext, rfl⟩ := Directive.settled_of_finding ho
    rw [hgranted, (successful?_eq_some_iff.mp h).1]
    cases directive with
    | echo input => exact Directive.text_of_echoed htext
    | _ => cases hkind
  | none =>
    -- an echo fails only if its input does not exist
    rw [granted?_of_unsuccessful h]
    split
    · next input hd =>
      refine (Option.eq_none_iff_forall_ne_some.mpr fun value hvalue => ?_).symm
      have ho : (Directive.echo input).finding config none d = .ok { text := some value } :=
        Directive.finding_eq_ok_iff.mpr ⟨Pass.outcome_echo hvalue, rfl⟩
      rw [successful?_eq_some_iff.mpr ⟨hd, _, ho⟩] at h
      cases h
    · rfl

/-- **A choice is granted its assignment.** -/
theorem granted?_assigned (key : String) :
    d.granted? config node (·.assigned key) .attributeIf =
      (d.chosenAt? config node).bind fun a => if key = a.name then some a.value else none := by
  unfold chosenAt?
  cases h : d.successful? config node .attributeIf with
  | none => exact granted?_of_unsuccessful h _
  | some directive =>
    obtain ⟨hkind, o, ho, hgranted⟩ := granted?_of_successful h
    obtain ⟨text, -, rfl⟩ := Directive.settled_of_finding ho
    rw [hgranted]
    cases directive with
    | attributeIf rule => rfl
    | _ => cases hkind

end Document

namespace Controller

variable {c : Controller} {d : Document} {config : Config} {node : NodeId}

/-- Without switches, the entries of an index are those that an initialization applies. -/
theorem initial_eq (d : Document) (config : Config) :
    initial (d.index config) = (Index.build d config.directiveOptions false).entries := by
  have hkeep : ∀ entry ∈ (Index.build d config.directiveOptions false).entries,
      (entry.directive.kind != .switch) = true := fun entry hentry =>
    bne_iff_ne.mpr fun hkind => (Index.mem_entries.mp hentry).1 ⟨hkind, rfl⟩
  show (Index.build d config.directiveOptions config.capabilities.switches).entries.filter _ = _
  cases config.capabilities.switches with
  | false => exact List.filter_eq_self.mpr hkeep
  | true =>
    have hkinds : Index.indexedKinds true = Index.indexedKinds false ++ [.switch] := rfl
    rw [Index.build_entries, hkinds, List.flatMap_append, ← Index.build_entries, List.filter_append,
      List.filter_eq_self.mpr hkeep, List.flatMap_singleton, List.append_right_eq_self]
    refine List.filter_eq_nil_iff.mpr fun entry hentry hkind => bne_iff_ne.mp hkind ?_
    obtain ⟨node, -, hentry⟩ := List.mem_filterMap.mp hentry
    exact congrArg Prod.snd (Index.key_of_entry? hentry)

/-- **The directives of an element in the order of application.** -/
theorem initial_at (d : Document) (config : Config) (node : NodeId) :
    (initial (d.index config)).filter (·.node == node) =
      (Index.indexedKinds false).filterMap fun kind => d.entry? config.directiveOptions kind node := by
  rw [initial_eq, Index.build_entries, List.filter_flatMap, List.filterMap_eq_flatMap_toList]
  refine congrArg (List.flatMap · _) (funext fun kind => ?_)
  have hread : ∀ n entry, d.entry? config.directiveOptions kind n = some entry →
      entry.node = n ∧ ∃ raw, d.attribute? n kind.attributeName = some raw := fun n entry h =>
    have hentry := Index.entry?_eq_some_iff.mp h
    ⟨hentry.1, Index.attribute?_of_directive? hentry.2⟩
  rw [Index.filterMap_withAttribute fun n entry h => (hread n entry h).2, List.filter_filterMap]
  -- among all nodes, only this one has entries of its own
  have hself : (d.entry? config.directiveOptions kind node).filter (·.node == node) =
      d.entry? config.directiveOptions kind node := by
    cases h : d.entry? config.directiveOptions kind node with
    | none => rfl
    | some entry => exact Option.filter_some_pos (beq_iff_eq.mpr (hread node entry h).1)
  refine (filterMap_of_unique (a := node) d.tree.nodup_descendants (fun hfound => ?_) fun n hne => ?_).trans
    (congrArg Option.toList hself)
  · rw [hself] at hfound
    obtain ⟨entry, h⟩ := Option.ne_none_iff_exists'.mp hfound
    obtain ⟨raw, hraw⟩ := (hread node entry h).2
    exact d.tree.mem_descendants (Document.lt_size_of_attribute? hraw)
  · refine Option.eq_none_iff_forall_ne_some.mpr fun entry h => ?_
    obtain ⟨h, hnode⟩ := Option.filter_eq_some_iff.mp h
    exact hne ((hread n entry h).1.symm.trans (eq_of_beq hnode))

/-- **What is wished last at an element** is wished by the last of its directives that is granted it. -/
theorem lastWish_initial {γ : Type} (want : Outcome → Option γ) :
    Pass.lastWish config none d (initial (d.index config)) node (·.granted want) =
      ((Index.indexedKinds false).filterMap (d.granted? config node want)).getLast? := by
  unfold Pass.lastWish
  rw [initial_at, List.filterMap_filterMap]
  rfl

/-- What only directives of one kind wish for is wished by the one of this kind. -/
theorem lastWish_initial_of_kind {γ : Type} {want : Outcome → Option γ} (kind : DirectiveKind)
    (hkind : kind ≠ .switch)
    (hother : ∀ entry : IndexedDirective, entry.directive.kind ≠ kind →
      (Pass.outcome? config none d entry).bind (·.granted want) = none) :
    Pass.lastWish config none d (initial (d.index config)) node (·.granted want) =
      d.granted? config node want kind := by
  have hmem : kind ∈ Index.indexedKinds false := Index.mem_indexedKinds.mpr fun h => hkind h.1
  rw [lastWish_initial, filterMap_of_unique (by decide) (fun _ => hmem) fun other hne => ?_]
  · cases d.granted? config node want kind <;> rfl
  · refine Option.bind_eq_none_iff.mpr fun entry hentry => hother entry ?_
    have hkey : entry.directive.kind = other := congrArg Prod.snd (Index.key_of_entry? hentry)
    rwa [hkey]

/-- **The last word on a class of an element** is that of its last successful writer. -/
theorem lastWord_initial (k : String) :
    Pass.lastWord config none d (initial (d.index config)) node k =
      (d.writers config node k).getLast? := by
  have hwords : d.granted? config node (fun o => lastSetting o.classes k) =
      fun kind => (d.wordsAt config node k kind).getLast? := funext fun _ => Document.granted?_words k
  have hkinds : Index.indexedKinds false =
      [.showIf, .hideIf, .disableIf, .classIf] ++ [.attributeIf, .echo] := rfl
  unfold Pass.lastWord
  -- choices and echoes have nothing to say
  have hsilent : [DirectiveKind.attributeIf, .echo].flatMap (d.wordsAt config node k) = [] := by
    rw [List.flatMap_cons, List.flatMap_singleton, Document.wordsAt_eq_nil (by decide),
      Document.wordsAt_eq_nil (by decide), List.append_nil]
  rw [lastWish_initial, hwords, getLast?_filterMap_getLast?, hkinds, List.flatMap_append, hsilent,
    List.append_nil]
  rfl

end Controller

/-! ## Passes that change no input -/

section Keep

variable {keep : String → Bool}

/-- A setting of one class leaves the others as they are, and in their order. -/
theorem Element.filter_classes_withSetting {s : String × Bool} (h : keep s.1 = false) (e : Element) :
    (e.withSetting s).classes.filter keep = e.classes.filter keep := by
  unfold withSetting withClass withoutClass
  split
  · split
    · rfl
    · simp [h]
  · rw [List.filter_filter]
    refine List.filter_congr fun k _ => ?_
    by_cases hk : k = s.1
    · simp [hk, h]
    · simp [hk]

theorem Outcome.filter_classes_write {o : Outcome} (h : ∀ s ∈ o.classes, keep s.1 = false)
    (e : Element) : (o.write e).classes.filter keep = e.classes.filter keep := by
  show (o.classes.foldl Element.withSetting e).classes.filter keep = _
  refine List.foldlRecOn (motive := fun e' => e'.classes.filter keep = e.classes.filter keep) o.classes
    Element.withSetting rfl fun e' he' s hs => ?_
  exact (Element.filter_classes_withSetting (h s hs) e').trans he'

end Keep

namespace Pass

variable {config : Config} {change : Option Change} {p : Pass} {entry : IndexedDirective}
  {entries rest : List IndexedDirective} {n : NodeId}

/-- **Classes without a word on them keep their order.** -/
theorem filter_classes_applyAll_of_plain (h : Plain p.document entries) (keep : String → Bool)
    (hkeep : ∀ k, keep k = true → lastWord config change p.document entries n k = none) :
    ((applyAll config change p entries).document.element? n).map (·.classes.filter keep) =
      (p.document.element? n).map (·.classes.filter keep) := by
  induction entries generalizing p with
  | nil => rfl
  | cons entry rest ih =>
    have hcons : ∀ k, keep k = true → lastWord config change p.document rest n k = none ∧
        (entry.node = n → (outcome? config change p.document entry).bind
          (·.granted fun o => lastSetting o.classes k) = none) := by
      intro k hk
      have hnone := lastWish_eq_none_iff.mp (hkeep k hk)
      exact ⟨lastWish_eq_none_iff.mpr fun other hother => hnone other (List.mem_cons_of_mem _ hother),
        hnone entry List.mem_cons_self⟩
    have hrest := ih (p := apply config change p entry) h.tail fun k hk => by
      unfold lastWord
      rw [lastWish_of_inputView h.inputView_apply]
      exact (hcons k hk).1
    refine hrest.trans ?_
    rcases apply_cases (h.inTree entry List.mem_cons_self) with hskip | ⟨o, ho, hrewritten⟩
    · rw [hskip]
    · have hassign := Directive.assignment_mem (Directive.finding_eq_ok_iff.mp ho).1
      rw [hrewritten.map]
      refine congrArg (Option.map · _) (funext fun e => ?_)
      rw [Outcome.rewriting_of_plain fun a ha =>
        (h.assignments entry List.mem_cons_self a (hassign a ha)).1]
      split
      · next hn =>
        refine Outcome.filter_classes_write (fun s hs => eq_false_of_ne_true fun hk => ?_) e
        have hnone := (hcons s.1 hk).2 hn
        rw [granted_of_finding ho, lastSetting_eq_none_iff] at hnone
        exact hnone (List.mem_map_of_mem hs)
      · rfl

/-- Only a choice gives an attribute. -/
theorem granted_assigned_eq_none {d : Document} {key : String} (h : entry.directive.kind ≠ .attributeIf) :
    (outcome? config change d entry).bind (·.granted (·.assigned key)) = none :=
  granted_eq_none fun o ho => by rw [Outcome.assigned, Directive.assignment_of_finding h ho, Option.bind_none]

/-- **Who succeeds in a pass that changes no input** is a question of the document that it began with. -/
theorem succeeded_of_plain (h : Plain p.document entries) :
    p.succeeded config change entries = entries.filter fun entry =>
      (error? (entry.directive.finding config change p.document)).isNone := by
  induction entries generalizing p with
  | nil => rfl
  | cons entry rest ih =>
    have hrest := ih (p := apply config change p entry) h.tail
    have hsame : ∀ other : IndexedDirective,
        other.directive.finding config change (apply config change p entry).document =
          other.directive.finding config change p.document := fun other =>
      Directive.finding_of_values (Document.values_congr h.inputView_apply)
    simp only [hsame] at hrest
    have hfailure : p.failure? config change entry =
        (error? (entry.directive.finding config change p.document)).map fun e =>
          ⟨entry.node, entry.directive.kind, e⟩ := by
      unfold failure?
      rw [Directive.error?_effect (h.inTree entry List.mem_cons_self)]
    rw [List.filter_cons, ← hrest]
    cases he : error? (entry.directive.finding config change p.document) with
    | none =>
      rw [he] at hfailure
      exact succeeded_cons_of_none hfailure
    | some e =>
      rw [he] at hfailure
      exact succeeded_cons_of_some hfailure

end Pass

/-! ## Initializing -/

/-- The attributes from which classes are read, and what controls are and hold. -/
def controlAttributes : List String := ["class", "value", "checked", "name", "type"]

/-- **Directives that assign neither classes nor anything that controls are or hold.** -/
def Index.Neutral (i : Index) : Prop :=
  ∀ entry ∈ i.entries, ∀ a ∈ entry.directive.assignments, a.name ∉ controlAttributes

instance (i : Index) : Decidable i.Neutral :=
  inferInstanceAs (Decidable (∀ entry ∈ i.entries, ∀ a ∈ entry.directive.assignments,
    a.name ∉ controlAttributes))

namespace Controller

variable {c : Controller} {d : Document}

theorem plain_of_neutral (h : (d.index c.config).Neutral) :
    Pass.Plain (c.start d).document (initial (d.index c.config)) where
  inTree _ hentry := Index.lt_size_of_mem (List.mem_filter.mp hentry).1
  assignments entry hentry a ha := by
    have hname := h entry (List.mem_filter.mp hentry).1 a ha
    simp only [controlAttributes, List.mem_cons, List.not_mem_nil, or_false, not_or] at hname
    obtain ⟨hclass, hvalue, hchecked, hname, htype⟩ := hname
    refine ⟨fun hmem => ?_, hname, htype⟩
    simp only [Document.mirroredAttributes, List.mem_cons, List.not_mem_nil, or_false] at hmem
    rcases hmem with he | he | he <;> contradiction

/-- **What an initialization computes,** from what is said in the document as it was. -/
structure Computes (c : Controller) (d : Document) : Prop where
  /-- The directives that succeed are those that succeed in the document as it was. -/
  succeeded : (c.start d).succeeded c.config none (initial (d.index c.config)) =
    (initial (d.index c.config)).filter fun entry =>
      (d.successful? c.config entry.node entry.directive.kind).isSome
  /-- Of all that is said on a class the last word counts, and without one the class stays as it was, -/
  classes : ∀ node k, (c.init d).document.hasClass node k =
    ((d.writers c.config node k).getLast?).getD (d.hasClass node k)
  /-- also in the order of the classes. -/
  unwritten : ∀ node,
    ((c.init d).document.element? node).map
        (·.classes.filter fun k => (d.writers c.config node k).isEmpty) =
      (d.element? node).map (·.classes.filter fun k => (d.writers c.config node k).isEmpty)
  /-- An echo of an input that exists repeats it, and other texts stay. -/
  texts : ∀ node, ((c.init d).document.element? node).map Element.text =
    (d.element? node).map fun e => (d.echoedAt? c.config node).or e.text
  /-- A choice sets its attribute, and other attributes stay. -/
  attributes : ∀ node key, (c.init d).document.attribute? node key =
    ((d.chosenAt? c.config node).bind fun a => if key = a.name then some a.value else none).or
      (d.attribute? node key)
  /-- Nothing else is changed. -/
  others : (c.init d).document.view (fun e => (e.tag, e.value, e.checked)) =
    d.view fun e => (e.tag, e.value, e.checked)
  listeners : (c.init d).document.listeners = d.listeners

/-- Unless directives assign classes or what controls are and hold, an initialization computes this. -/
theorem init_computes (c : Controller) (d : Document) (h : (d.index c.config).Neutral) :
    c.Computes d := by
  have hplain := plain_of_neutral h
  have hstart : (c.start d).document = d := rfl
  have hmissing : ∀ {γ : Type} {want : Outcome → Option γ} {node : NodeId}, d.element? node = none →
      Pass.lastWish c.config none d (initial (d.index c.config)) node want = none :=
    Pass.lastWish_of_missing hplain.inTree
  refine ⟨?_, fun node k => ?_, fun node => ?_, fun node => ?_, fun node key => ?_, ?_, ?_⟩
  · refine (Pass.succeeded_of_plain hplain).trans (List.filter_congr fun entry hentry => ?_)
    have hd := Index.directive?_of_mem (List.mem_filter.mp hentry).1
    rw [Bool.eq_iff_iff, isNone_error?_iff, Option.isSome_iff_exists]
    constructor
    · exact fun hok => ⟨entry.directive, Document.successful?_eq_some_iff.mpr ⟨hd, hok⟩⟩
    · rintro ⟨directive, hsome⟩
      obtain ⟨hd', hok⟩ := Document.successful?_eq_some_iff.mp hsome
      obtain rfl : entry.directive = directive := Except.ok.inj (Option.some.inj (hd.symm.trans hd'))
      exact hok
  · have hclass := Pass.hasClass_applyAll_of_plain c.config none hplain node k
    rw [hstart, lastWord_initial] at hclass
    exact hclass
  · refine Pass.filter_classes_applyAll_of_plain hplain _ fun k hk => ?_
    rw [hstart, lastWord_initial, List.isEmpty_iff.mp hk]
    rfl
  · have htext := Pass.text_applyAll_of_plain c.config none hplain node
    rw [hstart, lastWish_initial_of_kind .echo (by decide) fun _ => Pass.granted_text_eq_none,
      Document.granted?_text] at htext
    exact htext
  · refine (Pass.attribute?_of_map (Pass.map_applyAll_of_plain hplain
      (fun e o => o.attribute?_write e key) node) hmissing).trans ?_
    rw [hstart, lastWish_initial_of_kind .attributeIf (by decide) fun _ => Pass.granted_assigned_eq_none,
      Document.granted?_assigned]
  · exact Pass.view_applyAll_of_plain (p := c.start d) hplain.inTree
      (fun entry hentry a ha => (hplain.assignments entry hentry a ha).1) fun _ _ _ _ _ => rfl
  · exact Pass.listeners_applyAll _ _

/-- A paragraph whose directives contradict each other, and one whose first directive fails. -/
def overlapping : Document := .form
  [.ofAttributes "input" [("name", "a"), ("value", "1")],
   .ofAttributes "p" [("class", "m n"), ("data-show", "a == 1"), ("data-hide", "a == 1"),
    ("data-classname", "m bs-d-none: a == 2, m: a == 1"), ("data-if", "a == 2 ? title=x : title=y")],
   .ofAttributes "p" [("class", "n"), ("data-show", "b == 1"), ("data-state", "a")]]

/-- Of three words on the marker and of two words on another class the last ones count, and the directive
that fails has no word. -/
theorem init_computes_overlapping :
    (overlapping.index {}).Neutral ∧ (ofConfig {}).Computes overlapping ∧
      overlapping.writers {} ⟨2⟩ "bs-d-none" = [false, true, false] ∧
      overlapping.writers {} ⟨2⟩ "m" = [false, true] ∧
      overlapping.chosenAt? {} ⟨2⟩ = some ⟨"title", "y"⟩ ∧
      overlapping.writers {} ⟨3⟩ "bs-d-none" = [] ∧ overlapping.echoedAt? {} ⟨3⟩ = some "1" := by
  have hneutral : (overlapping.index {}).Neutral := by decide +kernel
  refine ⟨hneutral, init_computes (ofConfig {}) overlapping hneutral, ?_⟩
  decide +kernel

end Controller

end ReactiveForm
