import ReactiveForm.CommandLine.Run
import ReactiveForm.Proofs.Binding.Listening
import ReactiveForm.Proofs.Condition.Dependence
import ReactiveForm.Proofs.Json.Spelling

/-!
# `ReactiveForm.Proofs.CommandLine.Answering` — how evaluations and simulations end

A command that answers a question goes through stages, and the first one that fails decides how it ends. The
stages are told here once more, as rules that do not mention the order of evaluation: each rule says which
stages have succeeded before. There is a rule for every case and never more than one, and whatever the end
is, it is written on one line, and no file is changed.

## Contents
- `supplied`, the value that an input has for an evaluation.
- `Environment.Prepared` and `judge`, an evaluation that is left to its condition.
- `Environment.Evaluates` and `evaluates_iff`: **how an evaluation ends**.
- `Environment.Replays`, steps taken one after the other, and `replay_eq_ok_iff`, `replay_eq_error_iff`.
- `Environment.Simulates` and `simulates_iff`: **how a simulation ends**.
- `Environment.Writes`, `Environment.tellReport` and `Environment.Reports`, what is written about an end, member
  by member.
- `run_reports`: **evaluations and simulations in JSON**.
-/

namespace ReactiveForm

namespace CommandLine

/-! ## Values of inputs -/

/-- The value that an input has for an evaluation: the one that is given for it last, or else that of its
controls in the fixture. -/
def supplied (given : List InputValue) (fixture? : Option Document) (name : String) : Option String :=
  (given.filterMap fun v => if v.name = name then some v.value else none).getLast?.or
    (fixture?.bind (·.inputSnapshot name))

namespace Environment

/-- Of two values for one input the later counts. -/
theorem get?_given (given : List InputValue) (name : String) :
    (StringMap.ofList (given.map fun v => (v.name, v.value))).get? name =
      (given.filterMap fun v => if v.name = name then some v.value else none).getLast? := by
  unfold StringMap.ofList
  rw [List.foldl_map]
  have hinsert : ∀ (m : StringMap String) (v : InputValue), (m.insert v.name v.value).get? name =
      (if v.name = name then some v.value else none).or (m.get? name) := by
    intro m v
    rw [StringMap.get?_insert]
    by_cases hname : v.name = name
    · rw [if_pos hname, if_pos hname.symm]
      rfl
    · rw [if_neg hname, if_neg (Ne.symm hname)]
      rfl
  have hlast := @Pass.get_foldl_of_step (StringMap String) InputValue String (·.get? name)
    (fun m v => m.insert v.name v.value)
    (fun v => if v.name = name then some v.value else none) hinsert given .empty
  rwa [StringMap.get?_empty, Option.or_none] at hlast

theorem readValues_eq (texts : List String) :
    readValues texts = ((texts.mapM InputValue.parse).mapError .value).map fun given =>
      .ofList (given.map fun v => (v.name, v.value)) := by
  unfold readValues
  rw [mapM_mapError]
  cases texts.mapM InputValue.parse <;> rfl

/-! ## Evaluations -/

variable {env : Environment} {s : Settings} {r : EvalRequest} {c : Config} {given : List InputValue}
  {fixture? : Option Document} {ending : Except Nat Answer}

/-- An evaluation to which nothing is missing but the condition: the configuration, the values and the
fixture are there. -/
structure Prepared (env : Environment) (s : Settings) (r : EvalRequest) (c : Config) (given : List InputValue)
    (fixture? : Option Document) : Prop where
  loads : env.loadConfig s = .ok c
  reads : List.Forall₂ (fun text v => InputValue.parse text = .ok v) r.values given
  opens : Option.Rel (fun path d => env.loadDocument path = .ok d) r.fixture fixture?

/-- **How an evaluation ends,** with a code or with an answer: the configuration is loaded, the values are
read, the fixture is opened, the condition is read, and then it has a truth, or one of its inputs has no
value and the configuration does not tolerate that. -/
inductive Evaluates (env : Environment) (s : Settings) (r : EvalRequest) : Except Nat Answer → Prop
  | config {e : ConfigFileError} (fails : env.loadConfig s = .error e) : Evaluates env s r (.error 5)
  | value {c : Config} {e : InputValueError} (loads : env.loadConfig s = .ok c)
      (fails : FailsFirst InputValue.parse r.values e) : Evaluates env s r (.error 4)
  | fixture {c : Config} {given : List InputValue} {path : Path} {e : FixtureFileError}
      (loads : env.loadConfig s = .ok c)
      (reads : List.Forall₂ (fun text v => InputValue.parse text = .ok v) r.values given)
      (names : r.fixture = some path) (fails : env.loadDocument path = .error e) :
      Evaluates env s r (.error 6)
  | parse {c : Config} {given : List InputValue} {fixture? : Option Document} {e : Condition.ParseError}
      (prepared : Prepared env s r c given fixture?)
      (fails : Condition.parse (r.precedence.getD c.evaluation.precedence) r.condition = .error e) :
      Evaluates env s r (.error 2)
  | unknownInput {c : Config} {given : List InputValue} {fixture? : Option Document} {condition : Condition}
      {name : String} (prepared : Prepared env s r c given fixture?)
      (parses : Condition.parse (r.precedence.getD c.evaluation.precedence) r.condition = .ok condition)
      (strict : c.evaluation.unknownInput = .fail) (references : name ∈ condition.references)
      (missing : supplied given fixture? name = none) : Evaluates env s r (.error 3)
  | truth {c : Config} {given : List InputValue} {fixture? : Option Document} {condition : Condition}
      {value : Bool} (prepared : Prepared env s r c given fixture?)
      (parses : Condition.parse (r.precedence.getD c.evaluation.precedence) r.condition = .ok condition)
      (evaluates : condition.evaluate ⟨⟨supplied given fixture?, []⟩, none, c.evaluation.unknownInput⟩ =
        .ok value) : Evaluates env s r (.ok (.truth condition value))

/-- What is left of an evaluation once the configuration, the values and the inputs of the fixture are there. -/
def judge (r : EvalRequest) (c : Config) (source : ValueSource) : Except QueryError Answer := do
  let condition ← readCondition (r.precedence.getD c.evaluation.precedence) r.condition
  let value ← (condition.evaluate ⟨source, none, c.evaluation.unknownInput⟩).mapError .unknownInput
  return .truth condition value

/-- Once the values have been read, the fixture is opened. -/
theorem eval_of_values (hload : env.loadConfig s = .ok c) (hread : r.values.mapM InputValue.parse = .ok given) :
    env.eval s r = (do
      let inputs ← env.fixtureValues r.fixture
      judge r c (.layered (.ofMap (.ofList (given.map fun v => (v.name, v.value)))) inputs)) := by
  unfold eval
  rw [hload, readValues_eq, hread]
  rfl

theorem fixtureValues_some (env : Environment) (path : Path) :
    env.fixtureValues (some path) = ((env.loadDocument path).mapError .fixture).map Document.values := by
  show ((env.loadDocument path).mapError QueryError.fixture >>= fun d => Except.ok d.values) = _
  cases env.loadDocument path <;> rfl

/-- **A prepared evaluation is left to its condition,** with the values that are supplied. -/
theorem Prepared.eval_eq (h : Prepared env s r c given fixture?) :
    ∃ source : ValueSource, source.valueOf = supplied given fixture? ∧ env.eval s r = judge r c source := by
  have heval := eval_of_values h.loads (mapM_eq_ok_iff.mpr h.reads)
  have hopens := h.opens
  generalize r.fixture = fixture at hopens heval
  cases hopens with
  | none =>
    refine ⟨_, funext fun name => ?_, heval⟩
    exact congrArg (Option.or · none) (get?_given given name)
  | @some path d hopen =>
    rw [fixtureValues_some, hopen] at heval
    refine ⟨_, funext fun name => ?_, heval⟩
    exact congrArg (Option.or · (d.inputSnapshot name)) (get?_given given name)

section Judging

variable {condition : Condition} {source : ValueSource} {valueOf : String → Option String} {value : Bool}

/-- A condition that has been read has the truth that it has with the same values, whatever names might be
suggested. -/
theorem judge_of_truth (hsource : source.valueOf = valueOf)
    (hparse : Condition.parse (r.precedence.getD c.evaluation.precedence) r.condition = .ok condition)
    (hvalue : condition.evaluate ⟨⟨valueOf, []⟩, none, c.evaluation.unknownInput⟩ = .ok value) :
    judge r c source = .ok (.truth condition value) := by
  have hconcur : (condition.evaluate ⟨source, none, c.evaluation.unknownInput⟩).mapError UnknownInput.name =
      (condition.evaluate ⟨⟨valueOf, []⟩, none, c.evaluation.unknownInput⟩).mapError UnknownInput.name :=
    Condition.name_evaluate_congr ⟨fun name _ => congrFun hsource name, rfl⟩
  rw [hvalue] at hconcur
  unfold judge readCondition
  rw [hparse]
  have htruth := mapError_eq_ok_iff.mp hconcur
  exact bind_eq_ok_iff.mpr ⟨condition, rfl, bind_eq_ok_iff.mpr ⟨value, mapError_eq_ok_iff.mpr htruth, rfl⟩⟩

/-- A condition of which an input has no value has no truth, if that is not tolerated. -/
theorem judge_of_missing {name : String}
    (hparse : Condition.parse (r.precedence.getD c.evaluation.precedence) r.condition = .ok condition)
    (hstrict : c.evaluation.unknownInput = .fail) (hname : name ∈ condition.references)
    (hmissing : source.valueOf name = none) : ∃ e, judge r c source = .error (.unknownInput e) := by
  cases hvalue : condition.evaluate ⟨source, none, c.evaluation.unknownInput⟩ with
  | ok value =>
    rcases Condition.evaluate_ok_iff.mp ⟨value, hvalue⟩ with h | h
    · cases hstrict.symm.trans h
    · have hsome := h name hname
      rw [show Context.resolve ⟨source, none, c.evaluation.unknownInput⟩ name = none from hmissing] at hsome
      cases hsome
  | error e =>
    refine ⟨e, ?_⟩
    unfold judge readCondition
    rw [hparse]
    show ((condition.evaluate ⟨source, none, c.evaluation.unknownInput⟩).mapError QueryError.unknownInput >>=
      fun value => Except.ok (Answer.truth condition value)) = _
    rw [hvalue]
    rfl

end Judging

/-- **Every rule tells how the evaluation ends.** -/
theorem Evaluates.eval_eq (h : Evaluates env s r ending) : (env.eval s r).mapError (·.status.code) = ending := by
  cases h with
  | config fails =>
    unfold eval
    rw [fails]
    rfl
  | value loads fails =>
    unfold eval
    rw [loads, readValues_eq, mapM_eq_error_iff.mpr fails]
    rfl
  | fixture loads reads names fails =>
    rw [eval_of_values loads (mapM_eq_ok_iff.mpr reads), names, fixtureValues_some, fails]
    rfl
  | parse prepared fails =>
    obtain ⟨source, -, heval⟩ := prepared.eval_eq
    rw [heval]
    unfold judge readCondition
    rw [fails]
    rfl
  | @unknownInput _ _ _ _ name prepared parses strict references missing =>
    obtain ⟨source, hsource, heval⟩ := prepared.eval_eq
    obtain ⟨e, he⟩ := judge_of_missing parses strict references ((congrFun hsource name).trans missing)
    rw [heval, he]
    rfl
  | truth prepared parses evaluates =>
    obtain ⟨source, hsource, heval⟩ := prepared.eval_eq
    rw [heval, judge_of_truth hsource parses evaluates]
    rfl

/-- **There is a rule for every evaluation.** -/
theorem exists_evaluates (env : Environment) (s : Settings) (r : EvalRequest) :
    ∃ ending, Evaluates env s r ending := by
  cases hload : env.loadConfig s with
  | error e => exact ⟨_, .config hload⟩
  | ok c =>
  cases hread : r.values.mapM InputValue.parse with
  | error e => exact ⟨_, .value hload (mapM_eq_error_iff.mp hread)⟩
  | ok given =>
  have hreads := mapM_eq_ok_iff.mp hread
  have hopen : (∃ path e, r.fixture = some path ∧ env.loadDocument path = .error e) ∨
      ∃ fixture?, Option.Rel (fun path d => env.loadDocument path = .ok d) r.fixture fixture? := by
    cases r.fixture with
    | none => exact .inr ⟨none, .none⟩
    | some path =>
      cases hopen : env.loadDocument path with
      | error e => exact .inl ⟨path, e, rfl, hopen⟩
      | ok d => exact .inr ⟨some d, .some hopen⟩
  rcases hopen with ⟨path, e, hpath, he⟩ | ⟨fixture?, hopens⟩
  · exact ⟨_, .fixture hload hreads hpath he⟩
  have hprepared : Prepared env s r c given fixture? := ⟨hload, hreads, hopens⟩
  cases hparse : Condition.parse (r.precedence.getD c.evaluation.precedence) r.condition with
  | error e => exact ⟨_, .parse hprepared hparse⟩
  | ok condition =>
  cases hvalue : condition.evaluate ⟨⟨supplied given fixture?, []⟩, none, c.evaluation.unknownInput⟩ with
  | ok value => exact ⟨_, .truth hprepared hparse hvalue⟩
  | error e =>
    -- a condition without a truth misses an input that it needs
    have hnot := mt Condition.evaluate_ok_iff.mpr fun ⟨b, hb⟩ => nomatch hvalue.symm.trans hb
    rw [not_or] at hnot
    obtain ⟨hpolicy, hnot⟩ := hnot
    have hstrict : c.evaluation.unknownInput = .fail := by
      cases hp : c.evaluation.unknownInput with
      | fail => rfl
      | assumeFalse => exact absurd hp hpolicy
    simp only [not_forall, exists_prop] at hnot
    obtain ⟨name, hname, hmissing⟩ := hnot
    exact ⟨_, .unknownInput hprepared hparse hstrict hname (Option.not_isSome_iff_eq_none.mp hmissing)⟩

/-- **How an evaluation ends:** as one of the rules says, and no two of them say different things. -/
theorem evaluates_iff : Evaluates env s r ending ↔ (env.eval s r).mapError (·.status.code) = ending := by
  refine ⟨Evaluates.eval_eq, ?_⟩
  rintro rfl
  obtain ⟨ending, h⟩ := exists_evaluates env s r
  rwa [h.eval_eq]

/-! ## Simulations -/

/-- **Steps that are taken one after the other,** with the report on each. -/
inductive Replays : Page → List Step → Page → List Replayed → Prop
  | nil (p : Page) : Replays p [] p []
  | cons {p q end_ : Page} {step : Step} {report : Report} {rest : List Step} {replayed : List Replayed}
      (takes : step.apply p = .ok (q, report)) (others : Replays q rest end_ replayed) :
      Replays p (step :: rest) end_ (⟨step, report⟩ :: replayed)

section Replaying

variable {p q : Page} {step : Step} {steps rest : List Step} {report : Report} {replayed : List Replayed}

theorem replay_cons_of_ok (h : step.apply p = .ok (q, report)) :
    replay p (step :: rest) =
      (replay q rest).map fun others => (others.1, ⟨step, report⟩ :: others.2) := by
  rw [replay, h]
  show (replay q rest >>= fun others => Except.ok (others.1, ⟨step, report⟩ :: others.2)) = _
  cases replay q rest <;> rfl

theorem replay_cons_of_error {e : DocumentError} (h : step.apply p = .error e) :
    replay p (step :: rest) = .error (.interaction step e) := by
  rw [replay, h]
  rfl

theorem replay_eq_ok_iff : replay p steps = .ok (q, replayed) ↔ Replays p steps q replayed := by
  induction steps generalizing p replayed with
  | nil =>
    constructor
    · intro h
      obtain ⟨rfl, rfl⟩ := Prod.mk.inj (Except.ok.inj h)
      exact .nil p
    · rintro ⟨⟩
      rfl
  | cons step rest ih =>
    constructor
    · intro h
      cases htakes : step.apply p with
      | error e =>
        rw [replay_cons_of_error htakes] at h
        cases h
      | ok answer =>
        obtain ⟨next, report⟩ := answer
        rw [replay_cons_of_ok htakes] at h
        obtain ⟨⟨last, others⟩, hothers, h⟩ := map_eq_ok_iff.mp h
        obtain ⟨rfl, rfl⟩ := Prod.mk.inj h
        exact .cons htakes (ih.mp hothers)
    · rintro ⟨⟩
      next next report others htakes hothers =>
      rw [replay_cons_of_ok htakes, ih.mpr hothers]
      rfl

/-- **Replaying fails at the first step that cannot be taken.** -/
theorem replay_eq_error_iff {e : QueryError} : replay p steps = .error e ↔
    ∃ taken step rest q replayed e', steps = taken ++ step :: rest ∧ Replays p taken q replayed ∧
      step.apply q = .error e' ∧ e = .interaction step e' := by
  induction steps generalizing p with
  | nil => exact ⟨nofun, fun ⟨taken, _, _, _, _, _, h, _⟩ => by cases taken <;> cases h⟩
  | cons step rest ih =>
    cases hstep : step.apply p with
    | error e' =>
      rw [replay_cons_of_error hstep]
      constructor
      · intro h
        exact ⟨[], step, rest, p, [], e', rfl, .nil p, hstep, (Except.error.inj h).symm⟩
      · rintro ⟨taken, bad, after, q, replayed, e', hsplit, hreplays, hbad, rfl⟩
        cases hreplays with
        | nil =>
          obtain ⟨rfl, -⟩ := List.cons.inj hsplit
          obtain rfl := Except.error.inj (hstep.symm.trans hbad)
          rfl
        | cons htakes hothers =>
          obtain ⟨rfl, -⟩ := List.cons.inj hsplit
          cases hstep.symm.trans htakes
    | ok answer =>
      obtain ⟨next, report⟩ := answer
      rw [replay_cons_of_ok hstep, map_eq_error_iff, ih]
      constructor
      · rintro ⟨taken, bad, after, q, replayed, e', rfl, hreplays, hbad⟩
        exact ⟨step :: taken, bad, after, q, _, e', rfl, .cons hstep hreplays, hbad⟩
      · rintro ⟨taken, bad, after, q, replayed, e', hsplit, hreplays, hbad⟩
        cases hreplays with
        | nil =>
          obtain ⟨rfl, -⟩ := List.cons.inj hsplit
          cases hstep.symm.trans hbad.1
        | cons htakes hothers =>
          obtain ⟨rfl, rfl⟩ := List.cons.inj hsplit
          obtain ⟨rfl, -⟩ := Prod.mk.inj (Except.ok.inj (hstep.symm.trans htakes))
          exact ⟨_, bad, after, q, _, e', rfl, hothers, hbad⟩

end Replaying

variable {fixture : Path} {texts : List String}

/-- **How a simulation ends,** with a code or with an answer: the steps are read, the configuration is loaded,
the fixture is opened and mounted, and then the steps are taken one after the other. -/
inductive Simulates (env : Environment) (s : Settings) (fixture : Path) (texts : List String) :
    Except Nat Answer → Prop
  | step {e : StepError} (fails : FailsFirst Step.parse texts e) : Simulates env s fixture texts (.error 4)
  | config {steps : List Step} {e : ConfigFileError}
      (reads : List.Forall₂ (fun text step => Step.parse text = .ok step) texts steps)
      (fails : env.loadConfig s = .error e) : Simulates env s fixture texts (.error 5)
  | fixture {steps : List Step} {c : Config} {e : FixtureFileError}
      (reads : List.Forall₂ (fun text step => Step.parse text = .ok step) texts steps)
      (loads : env.loadConfig s = .ok c) (fails : env.loadDocument fixture = .error e) :
      Simulates env s fixture texts (.error 6)
  | interaction {taken rest : List Step} {step : Step} {c : Config} {d : Document} {p q : Page} {report : Report}
      {replayed : List Replayed} {e : DocumentError}
      (reads : List.Forall₂ (fun text step => Step.parse text = .ok step) texts (taken ++ step :: rest))
      (loads : env.loadConfig s = .ok c) (opens : env.loadDocument fixture = .ok d)
      (mounts : (Page.ofDocument d c).mount = .ok (p, report)) (replays : Replays p taken q replayed)
      (fails : step.apply q = .error e) : Simulates env s fixture texts (.error 4)
  | answer {steps : List Step} {c : Config} {d : Document} {p q : Page} {report : Report}
      {replayed : List Replayed}
      (reads : List.Forall₂ (fun text step => Step.parse text = .ok step) texts steps)
      (loads : env.loadConfig s = .ok c) (opens : env.loadDocument fixture = .ok d)
      (mounts : (Page.ofDocument d c).mount = .ok (p, report)) (replays : Replays p steps q replayed) :
      Simulates env s fixture texts (.ok (.simulated report replayed q.document.html))

theorem simulate_eq (env : Environment) (s : Settings) (fixture : Path) (texts : List String) :
    env.simulate s fixture texts = (do
      let steps ← (texts.mapM Step.parse).mapError .step
      let c ← (env.loadConfig s).mapError .config
      let d ← (env.loadDocument fixture).mapError .fixture
      let (page, report) ← (Page.ofDocument d c).mount.mapError .mount
      let (page, replayed) ← replay page steps
      return .simulated report replayed page.document.html) := by
  unfold simulate mountPage
  rw [mapM_mapError]
  simp only [bind_assoc]

/-- **Every rule tells how the simulation ends.** -/
theorem Simulates.simulate_eq (h : Simulates env s fixture texts ending) :
    (env.simulate s fixture texts).mapError (·.status.code) = ending := by
  rw [Environment.simulate_eq]
  cases h with
  | step fails =>
    rw [mapM_eq_error_iff.mpr fails]
    rfl
  | config reads fails =>
    rw [mapM_eq_ok_iff.mpr reads, fails]
    rfl
  | fixture reads loads fails =>
    rw [mapM_eq_ok_iff.mpr reads, loads, fails]
    rfl
  | @interaction taken rest step c d p q report replayed e reads loads opens mounts replays fails =>
    have hreplay : replay p (taken ++ step :: rest) = .error (.interaction step e) :=
      replay_eq_error_iff.mpr ⟨taken, step, rest, q, replayed, e, rfl, replays, fails, rfl⟩
    rw [mapM_eq_ok_iff.mpr reads, loads, opens]
    simp only [Except.mapError, bind, Except.bind, mounts, hreplay]
    rfl
  | answer reads loads opens mounts replays =>
    rw [mapM_eq_ok_iff.mpr reads, loads, opens]
    simp only [Except.mapError, bind, Except.bind, mounts, replay_eq_ok_iff.mpr replays]
    rfl

/-- Mounting a page never fails. -/
theorem exists_mount (d : Document) (c : Config) :
    ∃ p report, (Page.ofDocument d c).mount = .ok (p, report) := by
  obtain ⟨new, d', hconnect, -⟩ := (Controller.ofConfig c).connect_eq d
  exact ⟨_, _, map_eq_ok_iff.mpr ⟨_, hconnect, rfl⟩⟩

/-- **There is a rule for every simulation.** -/
theorem exists_simulates (env : Environment) (s : Settings) (fixture : Path) (texts : List String) :
    ∃ ending, Simulates env s fixture texts ending := by
  cases hread : texts.mapM Step.parse with
  | error e => exact ⟨_, .step (mapM_eq_error_iff.mp hread)⟩
  | ok steps =>
  have hreads := mapM_eq_ok_iff.mp hread
  cases hload : env.loadConfig s with
  | error e => exact ⟨_, .config hreads hload⟩
  | ok c =>
  cases hopen : env.loadDocument fixture with
  | error e => exact ⟨_, .fixture hreads hload hopen⟩
  | ok d =>
  obtain ⟨p, report, hmount⟩ := exists_mount d c
  cases hreplay : replay p steps with
  | error e =>
    obtain ⟨taken, step, rest, q, replayed, e', rfl, hreplays, hfails, -⟩ := replay_eq_error_iff.mp hreplay
    exact ⟨_, .interaction hreads hload hopen hmount hreplays hfails⟩
  | ok answer => exact ⟨_, .answer hreads hload hopen hmount (replay_eq_ok_iff.mp hreplay)⟩

/-- **How a simulation ends:** as one of the rules says, and no two of them say different things. -/
theorem simulates_iff :
    Simulates env s fixture texts ending ↔ (env.simulate s fixture texts).mapError (·.status.code) = ending := by
  refine ⟨Simulates.simulate_eq, ?_⟩
  rintro rfl
  obtain ⟨ending, h⟩ := exists_simulates env s fixture texts
  rwa [h.simulate_eq]

/-! ## Reports -/

/-- **One line is all that is written,** a response of JSON-RPC 2.0 to a call without a number, and nothing else
happens. -/
structure Writes (env : Environment) (code : Nat) (key : String) (value : Json) (o : CommandLine.Outcome) :
    Prop where
  code : o.response.code = code
  output : ∃ line, (Json.object [("jsonrpc", .string "2.0"), (key, value), ("id", .null)]).Spelled line ∧
    '\n' ∉ line ∧ o.response.output = String.ofList line ++ "\n"
  errors : o.response.errors = ""
  files : o.files = env.files

/-- What is told of a report: how many effects were applied, and for each that failed its node, the attribute
that it was read from, and the reason. -/
def tellReport (r : Report) : Json :=
  .object [
    ("applied", .number r.applied),
    ("failures", .array (r.failures.map fun f => .object [
      ("node", .number f.node.index),
      ("directive", .string f.kind.attributeName),
      ("message", .string f.error.message)]))]

/-- **What is written about an end:** an answer with the code 0, or an error with its code in two forms, and
perhaps with data about it. -/
def Reports (env : Environment) (o : CommandLine.Outcome) : Except Nat Answer → Prop
  | .ok (.truth condition value) => env.Writes 0 "result" (.object [
      ("condition", .string condition.text),
      ("result", .bool value),
      ("references", .array (condition.references.map .string))]) o
  | .ok (.references condition) => env.Writes 0 "result" (.object [
      ("condition", .string condition.text),
      ("references", .array (condition.references.map .string))]) o
  | .ok (.mounted report listeners html) => env.Writes 0 "result" (.object [
      ("report", tellReport report),
      ("listeners", .number listeners),
      ("html", .string html)]) o
  | .ok (.simulated mount steps html) => env.Writes 0 "result" (.object [
      ("mount", tellReport mount),
      ("steps", .array (steps.map fun replayed => .object [
        ("step", .string replayed.step.text),
        ("report", tellReport replayed.report)])),
      ("html", .string html)]) o
  | .error code => ∃ (message : String) (data? : Option (List (String × Json))),
      env.Writes code "error" (.object ([
        ("code", .number (-32000 - code)),
        ("message", .string message)] ++
        (data?.map fun data => ("data", Json.object data)).toList)) o

/-- What is written of a value on one line is its spelling. -/
theorem writes_compact (env : Environment) (code : Nat) (key : String) (value : Json) :
    env.Writes code key value ⟨{ output := (rpc key value).compact ++ "\n", code := code }, env.files⟩ :=
  ⟨rfl, ⟨_, Json.spelled_iff.mpr rfl, Json.newline_not_mem_compact _, rfl⟩, rfl, rfl⟩

/-- The members of an error: there are data about it if there is something in them. -/
theorem errorJson_eq (e : QueryError) : e.json = .object ([
    ("code", .number (-32000 - e.status.code)),
    ("message", .string e.message)] ++
    ((if e.dataMembers.isEmpty then none else some e.dataMembers).map fun data =>
      ("data", Json.object data)).toList) := by
  unfold QueryError.json
  split <;> rfl

/-- A query is answered, and the files stay as they are. -/
theorem run_eq_of_query {args : List String} {q : Query} (hparse : Invocation.parse args = .ok ⟨s, .query q⟩) :
    run env args = ⟨.ofQuery (s.mode env.terminal) (env.answer s q), env.files⟩ := by
  unfold run
  rw [hparse]
  rfl

/-- **A query in JSON reports how it ends.** -/
theorem run_query {args : List String} {q : Query}
    (hparse : Invocation.parse args = .ok ⟨s, .query q⟩) (hmode : s.mode env.terminal = .json) :
    env.Reports (run env args) ((env.answer s q).mapError (·.status.code)) := by
  rw [run_eq_of_query hparse, hmode]
  cases env.answer s q with
  | ok a => cases a <;> exact writes_compact env 0 "result" _
  | error e =>
    refine ⟨e.message, if e.dataMembers.isEmpty then none else some e.dataMembers, ?_⟩
    rw [← errorJson_eq]
    exact writes_compact env e.status.code "error" e.json

end Environment

open Environment

/-- **How evaluations and simulations end in JSON.** Whatever the files and the arguments are, there is one end
that the rules allow, and it is reported on one line: an answer with the code 0, or the first failure with its
code. No file is changed. -/
theorem run_reports (env : Environment) (args : List String) (s : Settings)
    (hmode : s.mode env.terminal = .json) :
    (∀ r, Invocation.parse args = .ok ⟨s, .query (.eval r)⟩ →
      ∃ ending, (∀ other, env.Evaluates s r other ↔ other = ending) ∧ env.Reports (run env args) ending) ∧
    (∀ fixture steps, Invocation.parse args = .ok ⟨s, .query (.simulate fixture steps)⟩ →
      ∃ ending, (∀ other, env.Simulates s fixture steps other ↔ other = ending) ∧
        env.Reports (run env args) ending) := by
  refine ⟨fun r hparse => ?_, fun fixture steps hparse => ?_⟩
  · exact ⟨_, fun other => evaluates_iff.trans eq_comm, run_query hparse hmode⟩
  · exact ⟨_, fun other => simulates_iff.trans eq_comm, run_query hparse hmode⟩

/-- Of two values for an input the later counts, and a step that cannot be read is reported before a fixture
that is not there. -/
theorem run_reports_without_files :
    let env : Environment := { home := some "home" }
    let evaluated := run env ["eval", "a==1", "--value", "a=0", "--value", "a=1"]
    let simulated := run env ["simulate", "form.json5", "--step", "check:a", "-s", "jump"]
    env.Reports evaluated (.ok (.truth (.compare ⟨"a", .equal, "1"⟩) true)) ∧
    evaluated.response.output = "\x7b\"jsonrpc\":\"2.0\",\"result\":\x7b\"condition\":\"a == '1'\"," ++
      "\"result\":true,\"references\":[\"a\"]\x7d,\"id\":null\x7d\n" ∧
    env.Reports simulated (.error 4) ∧
    simulated.response.output = "\x7b\"jsonrpc\":\"2.0\",\"error\":\x7b\"code\":-32004," ++
      "\"message\":\"invalid step 'jump': expected action:argument\"\x7d,\"id\":null\x7d\n" := by
  intro env evaluated simulated
  let request : EvalRequest := { condition := "a==1", values := ["a=0", "a=1"] }
  have heval : Invocation.parse ["eval", "a==1", "--value", "a=0", "--value", "a=1"] =
      .ok ⟨{}, .query (.eval request)⟩ := by decide +kernel
  have hsimulate : Invocation.parse ["simulate", "form.json5", "--step", "check:a", "-s", "jump"] =
      .ok ⟨{}, .query (.simulate ⟨"form.json5"⟩ ["check:a", "jump"])⟩ := by decide +kernel
  have hprepared : Prepared env {} request {} [⟨"a", "0"⟩, ⟨"a", "1"⟩] none :=
    ⟨by decide +kernel, .cons (by decide +kernel) (.cons (by decide +kernel) .nil), .none⟩
  refine ⟨?_, by decide +kernel, ?_, by decide +kernel⟩
  · obtain ⟨ending, hends, hreports⟩ :=
      (run_reports env ["eval", "a==1", "--value", "a=0", "--value", "a=1"] {} rfl).1 request heval
    have htruth : env.Evaluates {} request (.ok (.truth (.compare ⟨"a", .equal, "1"⟩) true)) :=
      .truth hprepared (by decide +kernel) (by decide +kernel)
    rwa [(hends _).mp htruth]
  · obtain ⟨ending, hends, hreports⟩ :=
      (run_reports env ["simulate", "form.json5", "--step", "check:a", "-s", "jump"] {} rfl).2 _ _ hsimulate
    have hstep : FailsFirst Step.parse ["check:a", "jump"] (.missingColon "jump") :=
      ⟨["check:a"], "jump", [], rfl, fun text htext => ⟨.check "a", by
        rw [List.mem_singleton.mp htext]
        decide +kernel⟩, by decide +kernel⟩
    rwa [(hends _).mp (.step hstep)]

end CommandLine

end ReactiveForm
