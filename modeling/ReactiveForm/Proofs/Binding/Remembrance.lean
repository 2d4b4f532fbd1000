import Mathlib.Data.List.Induction
import ReactiveForm.Proofs.Binding.Accounting

/-!
# `ReactiveForm.Proofs.Binding.Remembrance` — what a controller knows of directives that are gone

A controller lists the directives of its document in an index, and remembers the last truth of those that are
driven by a condition. The two are kept apart: a pass records the truth of directives that are listed, but the
index is read anew as a whole. Disconnecting forgets the truths along with the directives. Initializing again
does not, so that the truth of a directive that is no longer there stays behind until the controller forgets
everything.

## Contents
- `Controller.Lists`, the directives of an index, and `Controller.Learned`, what passes through them add to what
  was known before.
- `Shared.Forgets` and `Shared.Rereads`, what actions do to both, and `Shared.Advances`, **the step**.
- `Shared.Outlives`, runs in which a directive is gone and not forgotten, and `effectState?_run_iff`.
- `run_remembers`: **where a truth without a directive comes from**, and that there is none if the controller is
  initialized only in connecting.
-/

namespace ReactiveForm

/-! ## What a pass adds -/

namespace Controller

variable {c c' : Controller} {d : Document} {node : NodeId} {kind : DirectiveKind}

/-- The index of a controller lists a directive of a kind at a node. -/
def Lists (c : Controller) (node : NodeId) (kind : DirectiveKind) : Prop :=
  (node, kind) ∈ c.index.entries.map IndexedDirective.key

instance (c : Controller) (node : NodeId) (kind : DirectiveKind) : Decidable (c.Lists node kind) :=
  inferInstanceAs (Decidable (_ ∈ _))

/-- **What a controller knows beside some states that it has known before:** the truths of directives that it
lists and that are driven by a condition. -/
def Learned (c : Controller) (states : EffectStates) : Prop :=
  ∀ node kind, c.effectState? node kind ≠ states.get? node kind →
    c.Lists node kind ∧ kind ∈ DirectiveKind.driven

theorem learned_refl (c : Controller) : c.Learned c.states := fun _ _ h => absurd rfl h

theorem Learned.trans {states : EffectStates} (h : c.Learned states) (h' : c'.Learned c.states)
    (hindex : c'.index = c.index) : c'.Learned states := by
  intro node kind hne
  by_cases hsame : c'.effectState? node kind = c.effectState? node kind
  · rw [hsame] at hne
    unfold Lists
    rw [hindex]
    exact h node kind hne
  · exact h' node kind hsame

theorem learned_applyAll {entries : List IndexedDirective}
    (hmem : ∀ entry ∈ entries, entry ∈ c.index.entries) (change : Option Change) (report : Report) :
    (c.applyAll d change report entries).controller.Learned c.states := by
  intro node kind hne
  refine (Pass.exists_key_of_get?_states_applyAll_ne hne).imp_left fun hkey => ?_
  obtain ⟨entry, hentry, hkey⟩ := List.mem_map.mp hkey
  exact List.mem_map.mpr ⟨entry, hmem entry hentry, hkey⟩

theorem learned_init (c : Controller) (d : Document) : (c.init d).controller.Learned c.states :=
  learned_applyAll (c := { c with index := _ }) (fun _ hentry => (List.mem_filter.mp hentry).1) none _

theorem learned_handle (c : Controller) (d : Document) (node : NodeId) (handler : Handler) :
    (c.handle d node handler).controller.Learned c.states := by
  cases handler with
  | change =>
    show (c.handleChange d node).controller.Learned c.states
    unfold handleChange
    split
    · exact c.learned_refl
    · split
      · exact c.learned_refl
      · refine learned_applyAll (fun entry hentry => ?_) _ _
        obtain ⟨place, -, hplace⟩ := List.mem_filterMap.mp hentry
        exact List.mem_of_getElem? hplace
  | toggle =>
    show (c.handleToggle d node).controller.Learned c.states
    rw [(c.handleToggle_spec d node).1]
    exact c.learned_refl

theorem learned_handleEvent (c : Controller) (d : Document) (node : NodeId) (event : Event) :
    (c.handleEvent d node event).controller.Learned c.states :=
  (handleEvent_induction (R := fun c' _ => c'.index = c.index ∧ c'.Learned c.states) c d node event
    ⟨rfl, c.learned_refl⟩ fun c' d' handler h => by
      have hindex := (follows_handle c' d' node handler).index
      exact ⟨hindex.trans h.1, h.2.trans (learned_handle c' d' node handler) hindex⟩).2

end Controller

/-! ## What an action does -/

namespace Shared

variable {ι : Type} {s : Shared ι} {i : ι} {node : NodeId} {kind : DirectiveKind}

/-- An action that has a controller forget every truth: it disconnects, or it connects while it is connected. -/
def Forgets (s : Shared ι) (i : ι) : Action ι → Prop
  | .disconnect j => j = i
  | .connect j => j = i ∧ (s.controllers i).connected = true
  | _ => False

/-- An action that has a controller read the directives anew and forget nothing: it initializes, or it connects
while it is not connected. -/
def Rereads (s : Shared ι) (i : ι) : Action ι → Prop
  | .init j => j = i
  | .connect j => j = i ∧ (s.controllers i).connected = false
  | _ => False

instance [DecidableEq ι] (s : Shared ι) (i : ι) : (action : Action ι) → Decidable (s.Forgets i action)
  | .disconnect j => inferInstanceAs (Decidable (j = i))
  | .connect j => inferInstanceAs (Decidable (j = i ∧ _))
  | .init _ => inferInstanceAs (Decidable False)
  | .handleEvent _ _ _ => inferInstanceAs (Decidable False)
  | .handleChange _ _ => inferInstanceAs (Decidable False)
  | .handleToggle _ _ => inferInstanceAs (Decidable False)
  | .edit _ => inferInstanceAs (Decidable False)
  | .addListener _ _ => inferInstanceAs (Decidable False)
  | .removeListener _ => inferInstanceAs (Decidable False)

theorem actor_of_forgets {action : Action ι} (h : s.Forgets i action) : action.actor = some i := by
  cases action with
  | connect j => exact congrArg some h.1
  | disconnect j => exact congrArg some h
  | init _ | handleEvent _ _ _ | handleChange _ _ | handleToggle _ _ => exact h.elim
  | edit _ | addListener _ _ | removeListener _ => exact h.elim

variable [DecidableEq ι]

/-- **The step:** what an action does to what a controller knows and to what it lists. -/
structure Advances (s : Shared ι) (i : ι) (action : Action ι) : Prop where
  learned : ((s.after action).controllers i).Learned
    (if s.Forgets i action then .none else (s.controllers i).states)
  index : ¬s.Forgets i action → ¬s.Rereads i action →
    ((s.after action).controllers i).index = (s.controllers i).index
  /-- Nothing is listed by a controller that is not connected, unless it is initialized. -/
  idle : action ≠ .init i → ((s.controllers i).connected = false → (s.controllers i).index = .empty) →
    ((s.after action).controllers i).connected = false → ((s.after action).controllers i).index = .empty

/-- An action that forgets nothing and leaves the index as it is. -/
theorem Advances.of_index {action : Action ι} {c : Controller}
    (hafter : (s.after action).controllers i = c) (hforgets : ¬s.Forgets i action)
    (hlearned : c.Learned (s.controllers i).states) (hindex : c.index = (s.controllers i).index)
    (hconnected : c.connected = (s.controllers i).connected) : s.Advances i action where
  learned := by rwa [hafter, if_neg hforgets]
  index _ _ := by rw [hafter, hindex]
  idle _ hidle hc := by
    rw [hafter] at hc ⊢
    rw [hindex]
    exact hidle (hconnected.symm.trans hc)

/-- A controller that does not act stays as it is. -/
theorem controllers_after_of_ne {action : Action ι} (h : action.actor ≠ some i) :
    (s.after action).controllers i = s.controllers i := by
  have hupdate : ∀ {j : ι} (c : Controller), some j ≠ some i →
      Function.update s.controllers j c i = s.controllers i := fun c hj =>
    Function.update_of_ne (fun he => hj (congrArg some he.symm)) c s.controllers
  cases action with
  | connect j =>
    obtain ⟨_, _, hconnect, -⟩ := (s.controllers j).connect_eq s.document
    rw [after_connect_of_ok hconnect]
    exact hupdate _ h
  | disconnect j | init j | handleEvent j _ _ | handleChange j _ | handleToggle j _ => exact hupdate _ h
  | edit _ | addListener _ _ | removeListener _ => rfl

theorem advances_connect (s : Shared ι) (i : ι) : s.Advances i (.connect i) := by
  obtain ⟨new, d', hconnect, -⟩ := (s.controllers i).connect_eq s.document
  have hafter : (s.after (.connect i)).controllers i = _ :=
    (congrArg (fun s : Shared ι => s.controllers i) (after_connect_of_ok hconnect)).trans
      (Function.update_self _ _ _)
  have hstates : ((s.controllers i).fresh s.document).1.states =
      if s.Forgets i (.connect i) then .none else (s.controllers i).states := by
    unfold Controller.fresh
    split
    · next hc => exact (if_pos ⟨rfl, hc⟩).symm
    · next hc => exact (if_neg fun hforgets => hc hforgets.2).symm
  refine ⟨?_, fun hforgets hrereads => ?_, fun _ _ hc => ?_⟩
  · rw [hafter, ← hstates]
    exact Controller.learned_init ((s.controllers i).fresh s.document).1 _
  · cases hc : (s.controllers i).connected with
    | true => exact absurd ⟨rfl, hc⟩ hforgets
    | false => exact absurd ⟨rfl, hc⟩ hrereads
  · rw [hafter] at hc
    cases hc

theorem advances (s : Shared ι) (i : ι) (action : Action ι) : s.Advances i action := by
  by_cases hactor : action.actor = some i
  · have hupdate : ∀ c, Function.update s.controllers i c i = c := fun c =>
      Function.update_self i c s.controllers
    cases action with
    | connect j =>
      obtain rfl := Option.some.inj hactor
      exact s.advances_connect j
    | disconnect j =>
      obtain rfl := Option.some.inj hactor
      have hafter : (s.after (.disconnect j)).controllers j = .ofConfig (s.controllers j).config := hupdate _
      refine ⟨?_, fun hforgets => absurd rfl hforgets, fun _ _ _ => ?_⟩
      · rw [hafter, if_pos (show s.Forgets j (.disconnect j) from rfl)]
        exact Controller.learned_refl _
      · rw [hafter]
        rfl
    | init j =>
      obtain rfl := Option.some.inj hactor
      have hafter : (s.after (.init j)).controllers j = ((s.controllers j).init s.document).controller :=
        hupdate _
      refine ⟨?_, fun _ hrereads => absurd rfl hrereads, fun hinit => absurd rfl hinit⟩
      rw [hafter, if_neg (show ¬s.Forgets j (.init j) from id)]
      exact Controller.learned_init _ _
    | handleEvent j node event =>
      obtain rfl := Option.some.inj hactor
      exact .of_index (hupdate _) id (Controller.learned_handleEvent _ _ node event)
        (Controller.follows_handleEvent _ _ node event).index
        (Controller.keeps_handleEvent _ _ node event).connected
    | handleChange j node =>
      obtain rfl := Option.some.inj hactor
      exact .of_index (hupdate _) id (Controller.learned_handle _ _ node .change)
        (Controller.follows_handle _ _ node .change).index (Controller.keeps_handle _ _ node .change).connected
    | handleToggle j node =>
      obtain rfl := Option.some.inj hactor
      exact .of_index (hupdate _) id (Controller.learned_handle _ _ node .toggle)
        (Controller.follows_handle _ _ node .toggle).index (Controller.keeps_handle _ _ node .toggle).connected
    | edit _ | addListener _ _ | removeListener _ => cases hactor
  · exact .of_index (controllers_after_of_ne hactor) (fun hforgets => hactor (actor_of_forgets hforgets))
      (Controller.learned_refl _) rfl rfl

/-! ## What a run leaves -/

theorem run_append (s : Shared ι) (before after : List (Action ι)) :
    s.run (before ++ after) = (s.run before).run after := List.foldl_append

theorem run_concat (s : Shared ι) (actions : List (Action ι)) (action : Action ι) :
    s.run (actions ++ [action]) = (s.run actions).after action := List.foldl_concat _ _ _ _

/-- **A run that a truth outlives its directive in:** from the first action on the directive is not listed, and
nothing is forgotten. -/
def Outlives (i : ι) (node : NodeId) (kind : DirectiveKind) : Shared ι → List (Action ι) → Prop
  | _, [] => True
  | s, action :: rest =>
    ¬s.Forgets i action ∧ ¬((s.after action).controllers i).Lists node kind ∧
      Outlives i node kind (s.after action) rest

theorem outlives_concat {actions : List (Action ι)} {action : Action ι} :
    Outlives i node kind s (actions ++ [action]) ↔
      Outlives i node kind s actions ∧ ¬(s.run actions).Forgets i action ∧
        ¬(((s.run actions).after action).controllers i).Lists node kind := by
  induction actions generalizing s with
  | nil =>
    show _ ∧ _ ∧ True ↔ True ∧ _ ∧ _
    rw [and_true, true_and]
    rfl
  | cons first rest ih =>
    show _ ∧ _ ∧ Outlives i node kind (s.after first) (rest ++ [action]) ↔ _
    rw [ih]
    show _ ↔ (_ ∧ _ ∧ _) ∧ _
    rw [and_assoc, and_assoc]
    rfl

/-- A truth without a directive is not found out, so that it is as it was. -/
theorem effectState?_after {action : Action ι} (hforgets : ¬s.Forgets i action)
    (hnot : ¬((s.after action).controllers i).Lists node kind) :
    ((s.after action).controllers i).effectState? node kind = (s.controllers i).effectState? node kind := by
  have hlearned := (s.advances i action).learned
  rw [if_neg hforgets] at hlearned
  by_contra hne
  exact hnot (hlearned node kind hne).1

theorem Outlives.effectState?_run {actions : List (Action ι)} (h : Outlives i node kind s actions) :
    ((s.run actions).controllers i).effectState? node kind = (s.controllers i).effectState? node kind := by
  induction actions generalizing s with
  | nil => rfl
  | cons action rest ih =>
    obtain ⟨hforgets, hnot, hrest⟩ := h
    exact (ih hrest).trans (effectState?_after hforgets hnot)

theorem Outlives.not_lists {action : Action ι} {rest : List (Action ι)}
    (h : Outlives i node kind s (action :: rest)) :
    ¬((s.run (action :: rest)).controllers i).Lists node kind := by
  induction rest generalizing s action with
  | nil => exact h.2.1
  | cons next rest ih => exact ih h.2.2

variable {d : Document} {configs : ι → Config}

/-- **Only directives that are driven by a condition are remembered.** -/
theorem driven_of_effectState?_run {actions : List (Action ι)}
    (h : (((began d configs).run actions).controllers i).effectState? node kind ≠ none) :
    kind ∈ DirectiveKind.driven := by
  induction actions using List.reverseRecOn with
  | nil => exact absurd rfl h
  | append_singleton actions action ih =>
    rw [run_concat] at h
    have hlearned := (((began d configs).run actions).advances i action).learned
    split at hlearned
    · exact (hlearned node kind h).2
    · by_cases hsame : ((((began d configs).run actions).after action).controllers i).effectState? node kind =
          (((began d configs).run actions).controllers i).effectState? node kind
      · exact ih (hsame ▸ h)
      · exact (hlearned node kind hsame).2

/-- **Where a truth without a directive comes from:** the directive was listed until it was read anew without
being forgotten, and its truth is that of then. The induction is on the last action, which has dropped the
directive or comes after the one that has. -/
theorem effectState?_run_iff {actions : List (Action ι)} {state : EffectState} :
    (((began d configs).run actions).controllers i).effectState? node kind = some state ∧
        ¬(((began d configs).run actions).controllers i).Lists node kind ↔
      ∃ before action after, actions = before ++ action :: after ∧
        (((began d configs).run before).controllers i).Lists node kind ∧
        (((began d configs).run before).controllers i).effectState? node kind = some state ∧
        ((began d configs).run before).Rereads i action ∧
        Outlives i node kind ((began d configs).run before) (action :: after) := by
  constructor
  · rintro ⟨hstate, hnot⟩
    induction actions using List.reverseRecOn with
    | nil => cases hstate
    | append_singleton actions action ih =>
      rw [run_concat] at hstate hnot
      have hstep := ((began d configs).run actions).advances i action
      have hforgets : ¬((began d configs).run actions).Forgets i action := by
        intro hforgets
        have hlearned := hstep.learned
        rw [if_pos hforgets] at hlearned
        exact hnot (hlearned node kind (by rw [hstate]; nofun)).1
      have hbefore := (effectState?_after hforgets hnot).symm.trans hstate
      by_cases hlisted : (((began d configs).run actions).controllers i).Lists node kind
      · refine ⟨actions, action, [], rfl, hlisted, hbefore, ?_, hforgets, hnot, trivial⟩
        by_contra hrereads
        unfold Controller.Lists at hnot
        rw [hstep.index hforgets hrereads] at hnot
        exact hnot hlisted
      · obtain ⟨before, dropping, after, rfl, hlists, hknown, hrereads, houtlives⟩ := ih hbefore hlisted
        refine ⟨before, dropping, after ++ [action], by rw [List.append_assoc, List.cons_append], hlists,
          hknown, hrereads, ?_⟩
        rw [← List.cons_append, outlives_concat, ← run_append]
        exact ⟨houtlives, hforgets, hnot⟩
  · rintro ⟨before, action, after, rfl, -, hstate, -, houtlives⟩
    rw [run_append]
    exact ⟨houtlives.effectState?_run.trans hstate, houtlives.not_lists⟩

/-- A controller that is initialized only in connecting lists nothing while it is not connected. -/
theorem index_run_of_idle {actions : List (Action ι)} (hinit : ∀ action ∈ actions, action ≠ .init i)
    (hc : (((began d configs).run actions).controllers i).connected = false) :
    (((began d configs).run actions).controllers i).index = .empty := by
  induction actions using List.reverseRecOn with
  | nil => rfl
  | append_singleton actions action ih =>
    rw [run_concat] at hc ⊢
    refine (((began d configs).run actions).advances i action).idle ?_ (ih ?_) hc
    · exact hinit action (List.mem_append_right _ List.mem_cons_self)
    · exact fun other hother => hinit other (List.mem_append_left _ hother)

/-- **What a controller remembers of directives,** whatever has happened to a document that it shares: the last
truths of directives that are driven by a condition. A truth without a directive in the index is one of a
directive that was listed until the controller read the directives anew without forgetting, and that has neither
been listed nor forgotten since. There is none if the controller is initialized only in connecting. -/
theorem run_remembers (d : Document) (configs : ι → Config) (actions : List (Action ι)) (i : ι)
    (node : NodeId) (kind : DirectiveKind) :
    let past := (began d configs).run
    let c := (past actions).controllers i
    (c.effectState? node kind ≠ none → kind ∈ DirectiveKind.driven) ∧
      (∀ state, c.effectState? node kind = some state ∧ ¬c.Lists node kind ↔
        ∃ before action after, actions = before ++ action :: after ∧
          ((past before).controllers i).Lists node kind ∧
          ((past before).controllers i).effectState? node kind = some state ∧
          (past before).Rereads i action ∧ Outlives i node kind (past before) (action :: after)) ∧
      ((∀ action ∈ actions, action ≠ .init i) →
        c.effectState? node kind ≠ none → c.Lists node kind) := by
  intro past c
  refine ⟨driven_of_effectState?_run, fun _ => effectState?_run_iff, fun hinit hknown => ?_⟩
  obtain ⟨state, hstate⟩ := Option.ne_none_iff_exists'.mp hknown
  by_contra hnot
  obtain ⟨before, action, after, rfl, hlists, -, hrereads, -⟩ := effectState?_run_iff.mp ⟨hstate, hnot⟩
  cases action with
  | init j => exact hinit _ (List.mem_append_right _ List.mem_cons_self) (congrArg Action.init hrereads)
  | connect j =>
    -- such a connection drops nothing, since nothing has been listed before it
    have hempty := index_run_of_idle (fun other hother => hinit other (List.mem_append_left _ hother))
      hrereads.2
    unfold Controller.Lists at hlists
    rw [hempty] at hlists
    cases hlists
  | disconnect _ | handleEvent _ _ _ | handleChange _ _ | handleToggle _ _ => exact hrereads.elim
  | edit _ | addListener _ _ | removeListener _ => exact hrereads.elim

/-- A paragraph that is shown to administrators. -/
def notice : Document := .form
  [.ofAttributes "input" [("name", "role"), ("value", "admin")],
    .ofAttributes "p" [("data-show", "role==admin")]]

/-- Takes its condition away from the paragraph. -/
def withdrawal : Action Unit := .edit (.setAttribute ⟨2⟩ "data-show" "")

/-- A truth that is left behind by an initialization, and one that is not by a connection. -/
theorem run_remembers_withdrawal :
    let past := (began notice fun _ => {}).run
    ((past [.init (), withdrawal, .init ()]).controllers ()).effectState? ⟨2⟩ .showIf = some .active ∧
      .showIf ∈ DirectiveKind.driven ∧
      ((past [.connect (), withdrawal]).controllers ()).Lists ⟨2⟩ .showIf := by
  have hleft :=
    (run_remembers notice (fun _ => {}) [.init (), withdrawal, .init ()] () ⟨2⟩ .showIf).2.1 .active
  have hknown := (hleft.mpr ⟨[.init (), withdrawal], .init (), [], rfl, by decide +kernel, by decide +kernel,
    rfl, id, by decide +kernel, trivial⟩).1
  refine ⟨hknown, ?_, ?_⟩
  · refine (run_remembers notice (fun _ => {}) [.init (), withdrawal, .init ()] () ⟨2⟩ .showIf).1 ?_
    rw [hknown]
    nofun
  · refine (run_remembers notice (fun _ => {}) [.connect (), withdrawal] () ⟨2⟩ .showIf).2.2 ?_
      (by decide +kernel)
    intro action haction
    simp only [List.mem_cons, List.not_mem_nil, or_false] at haction
    rcases haction with rfl | rfl <;> nofun

/-- **Initializing again does not forget:** a directive that has been taken away is known to be active, though
it is not listed. -/
theorem run_remembers_unlisted :
    let c := ((began notice fun _ : Unit => {}).run [.init (), withdrawal, .init ()]).controllers ()
    c.effectState? ⟨2⟩ .showIf = some .active ∧ ¬c.Lists ⟨2⟩ .showIf ∧ c.index.entries = [] := by
  decide +kernel

end Shared

end ReactiveForm
