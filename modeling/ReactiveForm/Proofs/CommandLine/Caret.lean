import ReactiveForm.Proofs.CommandLine.Answering
import ReactiveForm.Proofs.Condition.Pointing

/-!
# `ReactiveForm.Proofs.CommandLine.Caret` — the caret below a condition

A condition that cannot be read is printed once more, and on the line below it stands a caret. It is meant to
point at what the error is about, but it is placed by the position of the error: behind one blank for each byte
that stands before it. A reader counts characters. The two agree exactly as long as those characters are ASCII;
after any other one the caret is too far right, and it is never too far left.

## Contents
- `Query.condition?` and `Environment.parse_of_answer_eq_error`: only what a command reads is refused.
- `Response.refusing`, what is written about a condition that is refused, with `ofQuery_parse_error`.
- `CaretAt` and `caret_points`: **where the caret stands**.
- `caret_beside`, a caret that does not point at the error.
-/

namespace ReactiveForm

namespace CommandLine

/-! ## Conditions that are refused -/

/-- The condition that a command reads. -/
def Query.condition? : Query → Option String
  | eval request => some request.condition
  | refs condition => some condition
  | _ => none

namespace Environment

variable {env : Environment} {s : Settings} {q : Query} {condition : String} {e : Condition.ParseError}

/-- Of the rules for an evaluation only the one for its condition ends with this code. -/
theorem parse_of_eval_eq_error {r : EvalRequest} (h : env.eval s r = .error (.parse condition e)) :
    r.condition = condition ∧ ∃ p, Condition.parse p condition = .error e := by
  have hends : env.Evaluates s r (.error 2) := evaluates_iff.mpr (by rw [h]; rfl)
  cases hends with
  | parse prepared fails =>
    obtain ⟨source, -, heval⟩ := prepared.eval_eq
    rw [heval, judge, readCondition, fails] at h
    obtain ⟨rfl, rfl⟩ := QueryError.parse.inj (Except.error.inj h)
    exact ⟨rfl, _, fails⟩

theorem parse_of_refs_eq_error {text : String} (h : env.refs s text = .error (.parse condition e)) :
    text = condition ∧ ∃ p, Condition.parse p condition = .error e := by
  rcases bind_eq_error_iff.mp h with h | ⟨c, -, h⟩
  · exact absurd h (mapError_ne_error nofun)
  rcases bind_eq_error_iff.mp h with h | ⟨_, -, h⟩
  · obtain ⟨e', hfails, h⟩ := mapError_eq_error_iff.mp h
    obtain ⟨rfl, rfl⟩ := QueryError.parse.inj h
    exact ⟨rfl, _, hfails⟩
  · cases h

theorem mount_ne_parse_error {fixture : Path} : env.mount s fixture ≠ .error (.parse condition e) := by
  intro h
  rcases bind_eq_error_iff.mp h with h | ⟨_, -, h⟩
  · rcases bind_eq_error_iff.mp h with h | ⟨_, -, h⟩
    · exact mapError_ne_error nofun h
    rcases bind_eq_error_iff.mp h with h | ⟨_, -, h⟩
    · exact mapError_ne_error nofun h
    · exact mapError_ne_error nofun h
  · cases h

/-- A simulation reads no condition of its own: no rule for it ends with this code. -/
theorem simulate_ne_parse_error {fixture : Path} {steps : List String} :
    env.simulate s fixture steps ≠ .error (.parse condition e) := by
  intro h
  have hends : env.Simulates s fixture steps (.error 2) := simulates_iff.mpr (by rw [h]; rfl)
  cases hends

/-- **What is refused as a condition is the condition of the command,** and it is none. -/
theorem parse_of_answer_eq_error (h : env.answer s q = .error (.parse condition e)) :
    q.condition? = some condition ∧ ∃ p, Condition.parse p condition = .error e := by
  cases q with
  | eval request =>
    obtain ⟨hcondition, hparse⟩ := parse_of_eval_eq_error h
    exact ⟨congrArg some hcondition, hparse⟩
  | refs text =>
    obtain ⟨hcondition, hparse⟩ := parse_of_refs_eq_error h
    exact ⟨congrArg some hcondition, hparse⟩
  | mount fixture => exact absurd h mount_ne_parse_error
  | simulate fixture steps => exact absurd h simulate_ne_parse_error

end Environment

/-! ## The caret -/

/-- **What is written about a condition that is refused,** with a line that points into it: in JSON the two lines
are a member of the error, and otherwise they stand below the message, indented. A carriage return at the end of
the condition is part of the end of its line. -/
def Response.refusing (mode : OutputMode) (message condition pointer : String) : Response :=
  match mode with
  | .json => {
      output := (Json.object [
        ("jsonrpc", .string "2.0"),
        ("error", .object [
          ("code", .number (-32002)),
          ("message", .string message),
          ("data", .object [("details", .string (condition ++ "\n" ++ pointer))])]),
        ("id", .null)]).compact ++ "\n"
      code := 2 }
  | _ => {
      errors := "Error: " ++ message ++ "\n" ++
        "  " ++ String.ofList (if condition.toList.getLast? = some '\r' then condition.toList.dropLast
          else condition.toList) ++ "\n" ++
        "  " ++ pointer ++ "\n"
      code := 2 }

/-- A caret on the second line, behind some blanks. -/
def CaretAt (details : String) (column : Nat) : Prop :=
  (Text.lines details.toList)[1]? = some (List.replicate column ' ' ++ ['^'])

instance (details : String) (column : Nat) : Decidable (CaretAt details column) :=
  inferInstanceAs (Decidable (_ = _))

variable {condition : String} {e : Condition.ParseError}

theorem toList_caretLine (e : Condition.ParseError) :
    (QueryError.caretLine e).toList = List.replicate e.position ' ' ++ ['^'] := by
  simp [QueryError.caretLine]

/-- The condition is on a line of its own, and the caret below it. -/
theorem lines_details (hline : '\n' ∉ condition.toList) :
    Text.lines (condition ++ "\n" ++ QueryError.caretLine e).toList =
      [Text.dropReturn condition.toList, List.replicate e.position ' ' ++ ['^']] := by
  have hdetails : (condition ++ "\n" ++ QueryError.caretLine e).toList =
      condition.toList ++ '\n' :: (List.replicate e.position ' ' ++ ['^']) := by
    simp [toList_caretLine]
  rw [hdetails]
  refine Text.lines_pair hline ?_ (List.append_ne_nil_of_right_ne_nil _ (List.cons_ne_nil _ _))
  simp [List.mem_replicate]

/-- Below the message stand the two lines, indented. -/
theorem text_parse_error (hline : '\n' ∉ condition.toList) :
    (QueryError.parse condition e).text = "Error: " ++ e.text ++ "\n" ++
      "  " ++ String.ofList (Text.dropReturn condition.toList) ++ "\n" ++
      "  " ++ QueryError.caretLine e ++ "\n" := by
  show "Error: " ++ e.text ++ "\n" ++ detailLines (condition ++ "\n" ++ QueryError.caretLine e) = _
  unfold detailLines
  rw [lines_details hline, ← toList_caretLine]
  simp only [List.map_cons, List.map_nil, String.join_cons, String.join_nil, String.ofList_toList,
    String.append_empty, String.append_assoc]

theorem ofQuery_parse_error (mode : OutputMode) (hline : '\n' ∉ condition.toList) :
    Response.ofQuery mode (.error (.parse condition e)) =
      .refusing mode e.text condition (QueryError.caretLine e) := by
  have hresponse : ({ errors := (QueryError.parse condition e).text, code := 2 } : Response) =
      .refusing .text e.text condition (QueryError.caretLine e) := by
    rw [text_parse_error hline]
    rfl
  cases mode with
  | json => rfl
  | text | quiet => exact hresponse

/-- **Where the caret stands.** When an evaluation or a listing ends because its condition cannot be read, and
the condition is on one line, that line is printed and below it a caret, behind as many blanks as there are
bytes before what the error is about. There are at least as many of them as characters; the caret is in the
column of what the error is about exactly if all characters before it are ASCII. -/
theorem caret_points {env : Environment} {args : List String} {s : Settings} {q : Query}
    (hparse : Invocation.parse args = .ok ⟨s, .query q⟩)
    (hanswer : env.answer s q = .error (.parse condition e)) (hline : '\n' ∉ condition.toList) :
    q.condition? = some condition ∧
    (∃ before after, condition.toList = before ++ after ∧ Text.width before = e.position) ∧
    ∃ pointer, (run env args).response = .refusing (s.mode env.terminal) e.text condition pointer ∧
      pointer.toList = List.replicate e.position ' ' ++ ['^'] ∧
      Text.lines (condition ++ "\n" ++ pointer).toList =
        [Text.dropReturn condition.toList, List.replicate e.position ' ' ++ ['^']] ∧
      ∀ before after, condition.toList = before ++ after → Text.width before = e.position →
        (Text.isBlankText condition = false → after ≠ [] → Condition.Blames condition.toList e after) ∧
        before.length ≤ e.position ∧
        (CaretAt (condition ++ "\n" ++ pointer) before.length ↔ ∀ c ∈ before, c.toNat < 128) := by
  obtain ⟨hcondition, p, hrefused⟩ := Environment.parse_of_answer_eq_error hanswer
  have hlocated := (Condition.refused_of_parse hrefused).located
  have hlines := lines_details (e := e) hline
  refine ⟨hcondition, hlocated.exists_split, _, ?_, toList_caretLine e, hlines,
    fun before after hsplit hw => ⟨fun hblank hne => ?_, ?_, ?_⟩⟩
  · rw [Environment.run_eq_of_query hparse, hanswer, ofQuery_parse_error _ hline]
  · obtain ⟨c, rest, rfl⟩ := List.exists_cons_of_ne_nil hne
    refine (hlocated.blames (fun hall => ?_) hsplit hw).2
    rw [Text.isBlankText, List.all_eq_true.mpr hall] at hblank
    cases hblank
  · rw [← hw]
    exact Text.length_le_width before
  · rw [← Text.width_eq_length_iff, hw, CaretAt, hlines]
    simp [List.replicate_inj]

/-- A letter of two bytes does not matter behind the error. -/
theorem caret_points_plain :
    let env : Environment := { home := some "home" }
    ∃ pointer, (run env ["--no-json", "refs", "plan=é"]).response =
      .refusing .text "unknown operator '=', use '==' at position 4" "plan=é" pointer ∧
      CaretAt ("plan=é" ++ "\n" ++ pointer) "plan".toList.length := by
  intro env
  have hparse : Invocation.parse ["--no-json", "refs", "plan=é"] =
      .ok ⟨{ noJson := true }, .query (.refs "plan=é")⟩ := by decide +kernel
  have hanswer : env.answer { noJson := true } (.refs "plan=é") =
      .error (.parse "plan=é" ⟨.halfEquality, 4⟩) := by decide +kernel
  obtain ⟨-, -, pointer, hrun, -, -, hcaret⟩ := caret_points hparse hanswer (by decide)
  have hascii := (hcaret "plan".toList "=é".toList (by decide) (by decide)).2.2
  exact ⟨pointer, hrun, hascii.mpr (Text.width_eq_length_iff.mp (by decide))⟩

/-- **Behind letters of two bytes the caret does not point at the error:** nine characters are before it, and the
caret is behind eleven blanks. -/
theorem caret_beside :
    let env : Environment := { home := some "home" }
    env.answer {} (.eval { condition := "é==1 && ü=2" }) =
      .error (.parse "é==1 && ü=2" ⟨.halfEquality, 11⟩) ∧
    "é==1 && ü=2".toList = "é==1 && ü".toList ++ "=2".toList ∧ Text.width "é==1 && ü".toList = 11 ∧
    "é==1 && ü".toList.length = 9 ∧
    (run env ["eval", "é==1 && ü=2"]).response = .refusing .json "unknown operator '=', use '==' at position 11"
      "é==1 && ü=2" "           ^" ∧
    CaretAt "é==1 && ü=2\n           ^" 11 ∧ ¬CaretAt "é==1 && ü=2\n           ^" 9 := by
  decide +kernel

end CommandLine

end ReactiveForm
