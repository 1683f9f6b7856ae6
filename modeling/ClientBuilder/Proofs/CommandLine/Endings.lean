import ClientBuilder.Proofs.CommandLine.Verbosity
import ClientBuilder.Proofs.Json.RoundTrip
import ClientBuilder.Proofs.ModelFile.Faults

/-!
How runs on a model file end. What loading answers for ends in the command's own report and exit
code one; a fault ends the run without a word on the output. A file that may not be read is refused
before any command, if it is named.
-/

namespace ClientBuilder.CommandLine

open ModelFile

/-- Output without surrogates is written in full. -/
theorem ofOutput_of_whole {output : List Print} (h : ∀ q ∈ output, q.text.isWhole = true)
    (log : Text) (code : Nat) :
    Outcome.ofOutput log output code = { output := output, log := log, ending := .exit code } := by
  have ht : (output.takeWhile fun q => q.text.isWhole) = output := List.takeWhile_eq_self_iff.mpr h
  rw [Outcome.ofOutput]
  simp only [ht, if_true]

/-- A report without surrogates is printed in full and decides the exit code. -/
theorem ofReport_of_ok {α : Type} {logger : Logging.Logger} {x : Logged Fault α}
    {print : α → List Print} {isGood : α → Bool} {r : α} (hx : x.outcome = .ok r)
    (h : ∀ q ∈ print r, q.text.isWhole = true) :
    ofReport logger x print isGood =
      { output := print r, log := logger.writeAll x.records,
        ending := .exit (if isGood r then 0 else 1) } := by
  rw [ofReport, hx]
  exact ofOutput_of_whole h _ _

/-- A fault ends the run, and nothing is printed but the log. -/
theorem ofReport_of_error {α : Type} {logger : Logging.Logger} {x : Logged Fault α}
    {print : α → List Print} {isGood : α → Bool} {f : Fault} (hx : x.outcome = .error f) :
    ofReport logger x print isGood =
      { log := logger.writeAll x.records, ending := .crash (.loading f) } := by
  rw [ofReport, hx]

/-- JSON is written without surrogates. -/
theorem isWhole_printJson (j : Json) : ∀ q ∈ printJson j, q.text.isWhole = true := by
  intro q hq
  obtain rfl := List.mem_singleton.mp hq
  exact Text.isWhole_ofString _

/-! ### The report on a failure -/

namespace Command

/-- What a command prints as text about a model file that it cannot load. -/
def failureText : Command → Text → List Print
  | catalog, _ => []
  | check, message =>
    [{ text := "❌ Service model errors:", color := some .red, bold := true },
      { text := "   • " ++ message }, { text := [] }]
  | synthesize, message => [{ text := "❌ " ++ message, color := some .red }]

def failureJson (c : Command) (path : Text) (message : Text) : Json :=
  match c with
  | check =>
    .object [("valid", .bool false), ("model_path", .string path),
      ("errors", .array [.string message]), ("warnings", .array []), ("service_name", .null),
      ("context_param_count", .int 0)]
  | _ => .object [("error", .string message)]

theorem isWhole_failureText (c : Command) {message : Text} (h : message.isWhole = true) :
    ∀ q ∈ c.failureText message, q.text.isWhole = true := by
  intro q hq
  cases c with
  | catalog => cases hq
  | check =>
    have hcases : q = { text := "❌ Service model errors:", color := some .red, bold := true } ∨
        q = { text := Text.ofString "   • " ++ message } ∨ q = { text := [] } := by
      simpa [failureText] using hq
    rcases hcases with rfl | rfl | rfl
    · exact Text.isWhole_ofString _
    · rw [Text.isWhole_append, Text.isWhole_ofString, h]
      rfl
    · rfl
  | synthesize =>
    obtain rfl := List.mem_singleton.mp hq
    rw [Text.isWhole_append, Text.isWhole_ofString, h]
    rfl

end Command

theorem checkText_of_load_error (p : Path) (e : LoadError) :
    checkText { modelPath := p, errors := [.load e] } = Command.check.failureText e.message := by
  simp [checkText, verdict, warningList, Command.failureText, CheckError.message, itemLine,
    Print.line, Print.blank]

variable {w : World} {plan : Plan} {p : Path}

/-- A load error ends in the command's own report and exit code one. -/
theorem run_of_reported {e : LoadError} (hm : plan.settings.model = some p)
    (hc : plan.command ≠ .catalog) (hl : (load w.tree (some p)).outcome = .error (.reported e))
    (he : e.message.isWhole = true) :
    (plan.run w).ending = .exit 1 ∧
      (plan.run w).output =
        if plan.json then
          [{ text := Json.render (.indented 2) (plan.command.failureJson p.text e.message) }]
        else plan.command.failureText e.message := by
  rw [Plan.run, hm]
  cases hcmd : plan.command with
  | catalog => exact absurd hcmd hc
  | check =>
    -- The check turns a load error into one of its own errors, synthesis into its result.
    have hr : (check w.tree (some p)).outcome = .ok { modelPath := p, errors := [.load e] } := by
      rw [load_of_choose rfl] at hl
      rw [outcome_check_of_choose rfl, hl]
    dsimp only
    cases plan.json with
    | true =>
      rw [ofReport_of_ok hr (isWhole_printJson _)]
      exact ⟨rfl, rfl⟩
    | false =>
      have htext := checkText_of_load_error p e
      rw [ofReport_of_ok hr]
      · exact ⟨rfl, htext⟩
      · exact fun q hq => Command.isWhole_failureText .check he q (htext ▸ hq)
  | synthesize =>
    have hr : (ModelFile.synthesize w.tree (some p)).outcome = .ok ⟨.error e, some p⟩ := by
      rw [outcome_synthesize, hl]
    dsimp only
    cases plan.json with
    | true =>
      rw [ofReport_of_ok hr (isWhole_printJson _)]
      exact ⟨rfl, rfl⟩
    | false =>
      rw [ofReport_of_ok hr]
      · exact ⟨rfl, rfl⟩
      · exact Command.isWhole_failureText .synthesize he

/-- A fault ends the run before anything is printed. -/
theorem run_of_fault {f : Fault} (hm : plan.settings.model = some p)
    (hc : plan.command ≠ .catalog) (hl : (load w.tree (some p)).outcome = .error (.fault f)) :
    (plan.run w).ending = .crash (.loading f) ∧ (plan.run w).output = [] := by
  rw [Plan.run, hm]
  cases hcmd : plan.command with
  | catalog => exact absurd hcmd hc
  | check =>
    have hr : (check w.tree (some p)).outcome = .error f := by
      rw [load_of_choose rfl] at hl
      rw [outcome_check_of_choose rfl, hl]
    dsimp only
    rw [ofReport_of_error hr]
    exact ⟨rfl, rfl⟩
  | synthesize =>
    have hr : (ModelFile.synthesize w.tree (some p)).outcome = .error f := by
      rw [outcome_synthesize, hl]
    dsimp only
    rw [ofReport_of_error hr]
    exact ⟨rfl, rfl⟩

/-! ### Files that may not be read -/

theorem modelPath_of_fault {t : FileTree} {text : Text} {e : PathError}
    (hf : (Path.ofText text).fault? = some e) :
    Plan.modelPath t (some text) = .error (.badPath e) := by
  rw [Plan.modelPath]
  simp only [hf]

theorem modelPath_of_refuses {t : FileTree} {text : Text}
    (hf : (Path.ofText text).fault? = none) (hr : t.refuses text = true) :
    Plan.modelPath t (some text) = .error (.usage none (.unreadableModel text)) := by
  rw [Plan.modelPath]
  simp only [hf, hr, if_true]

theorem modelPath_of_not_refuses {t : FileTree} {text : Text} (hne : text ≠ [])
    (hf : (Path.ofText text).fault? = none) (hr : t.refuses text = false) :
    Plan.modelPath t (some text) = .ok (some (Path.ofText text)) := by
  rw [Plan.modelPath]
  simp only [hf, hr, Bool.false_eq_true, if_false, if_neg hne]

/-- What a run prints, on the error stream, that names a file or directory which may not be read. -/
def refusalPrints (text : Text) : List Print :=
  [{ text := "Usage: contractgen [OPTIONS] COMMAND [ARGS]..." },
    { text := "Try 'contractgen --help' for help." }, { text := [] },
    { text := "Error: Invalid value for '--model' / '-m': Path " ++
        Text.ofString (Text.quoted (Path.displayed text)) ++ " is not readable." }]

theorem outcome_unreadableModel (text : Text) :
    (Stop.usage none (.unreadableModel text)).outcome =
      { complaints := refusalPrints text, ending := .exit 2 } := by
  have hline : Text.ofString "Error: " ++ (UsageError.unreadableModel text).message =
      Text.ofString "Error: Invalid value for '--model' / '-m': Path " ++
        Text.ofString (Text.quoted (Path.displayed text)) ++ Text.ofString " is not readable." := by
    rw [UsageError.message, ← List.append_assoc, ← List.append_assoc]
    rfl
  rw [Stop.outcome, hline]
  rfl

/-- Loading comes to a model or a load error exactly where the path leads to no fault. The commands
then answer a load error by their own report, and end without one on a fault; a file that is named
and may not be read is answered by the program itself. -/
theorem loading_answered_iff (w : World) (p : Path) :
    (((∃ m, (load w.tree (some p)).outcome = .ok m) ∨
        ∃ e, (load w.tree (some p)).outcome = .error (.reported e)) ↔
      ∀ f, ¬ Faulty w.tree p f) ∧
    (∀ arguments plan, Plan.ofArguments w.tree arguments = .ok plan →
      plan.settings.model = some p → plan.command ≠ .catalog →
      (∀ e, (load w.tree (some p)).outcome = .error (.reported e) → e.message.isWhole = true →
        let j := plan.command.failureJson p.text e.message
        (run w arguments).ending = .exit 1 ∧
        (plan.json = false → (run w arguments).output = plan.command.failureText e.message) ∧
        (plan.json = true →
          (run w arguments).output = [{ text := Json.render (.indented 2) j }] ∧
          Json.ofText (Json.render (.indented 2) j) = some j.paired)) ∧
      ∀ f, Faulty w.tree p f →
        (run w arguments).ending = .crash (.loading f) ∧ (run w arguments).output = []) ∧
    ∀ options c json text, lastModel options = some text → text ≠ [] →
      (∀ e, (Path.ofText text).fault? = some e →
        run w (argumentRow options c json) = { ending := .crash (.loading (.path e)) }) ∧
      ((Path.ofText text).fault? = none → w.tree.refuses text = true →
        run w (argumentRow options c json) =
          { complaints := refusalPrints text, ending := .exit 2 }) ∧
      ((Path.ofText text).fault? = none → w.tree.refuses text = false →
        Plan.ofArguments w.tree (argumentRow options c json) =
          .ok ⟨⟨wishOf options, some (Path.ofText text)⟩, c, json⟩) := by
  refine ⟨?_, fun arguments plan harguments hm hc => ?_, fun options c json text ht hne => ?_⟩
  · simp only [← outcome_load_eq_fault_iff]
    rcases (load w.tree (some p)).outcome with (e | f) | m <;> simp
  · have hrun : run w arguments = plan.run w := by rw [run, harguments]
    rw [hrun]
    refine ⟨fun e hl he => ?_, fun f hf => ?_⟩
    · obtain ⟨hending, houtput⟩ := run_of_reported hm hc hl he
      refine ⟨hending, fun hj => ?_, fun hj => ⟨?_, Json.ofText_render _ _⟩⟩
      · rw [houtput, hj]
        rfl
      · rw [houtput, hj]
        rfl
    · exact run_of_fault hm hc (outcome_load_eq_fault_iff.mpr hf)
  · refine ⟨fun e hf => ?_, fun hf hr => ?_, fun hf hr => ?_⟩
    · rw [run_argumentRow, ht, modelPath_of_fault hf]
      rfl
    · rw [run_argumentRow, ht, modelPath_of_refuses hf hr]
      exact outcome_unreadableModel text
    · rw [ofArguments_argumentRow, ht, modelPath_of_not_refuses hne hf hr]
      rfl

def strayByteWorld : World where
  tree := { nodes := [([Text.ofString ModelFile.fileName], .file [0xFF])], workingDirectory := [] }

def emptyWorld : World where
  tree := { nodes := [], workingDirectory := [] }

def strayName : Text :=
  -- A byte that is no character.
  [.surrogate ⟨0x4FF, by decide⟩]

def guardedWorld : World where
  tree :=
    { nodes := [([Text.ofString ModelFile.fileName], .file []), ([strayName], .file [])]
      workingDirectory := []
      unreadable := [[Text.ofString ModelFile.fileName], [strayName]] }

/-- The arguments for checking a file in the working directory. -/
def checkArguments : List Text :=
  argumentRow [.model false ModelFile.fileName] .check false

/-- A stray byte crashes the check of a file, a missing file is reported, and one that may not be
read is refused. -/
theorem checkArguments_endings :
    Faulty strayByteWorld.tree (Path.ofText ModelFile.fileName) .notUnicode ∧
      (run strayByteWorld checkArguments).ending = .crash (.loading .notUnicode) ∧
      (load emptyWorld.tree (some (Path.ofText ModelFile.fileName))).outcome =
        .error (.reported (.fileNotFound (Text.ofString ModelFile.fileName))) ∧
      (run emptyWorld checkArguments).ending = .exit 1 ∧
      (run emptyWorld checkArguments).output.map (·.text) =
        [Text.ofString "❌ Service model errors:",
          Text.ofString "   • Model file not found: service.yml", []] ∧
      guardedWorld.tree.refuses ModelFile.fileName = true ∧
      (run guardedWorld checkArguments).ending = .exit 2 ∧
      (run guardedWorld checkArguments).output = [] ∧
      guardedWorld.tree.refuses "service.yml/" = false ∧
      (load guardedWorld.tree (some (Path.ofText ModelFile.fileName))).outcome =
        .error (.reported (.unreadable ModelFile.fileName 13 "Permission denied")) ∧
      (run guardedWorld (argumentRow [.model false strayName] .check true)).complaints.map
          (·.text) =
        [Text.ofString "Usage: contractgen [OPTIONS] COMMAND [ARGS]...",
          Text.ofString "Try 'contractgen --help' for help.", [],
          Text.ofString
            "Error: Invalid value for '--model' / '-m': Path '\uFFFD' is not readable."] := by
  have hne : Text.ofString ModelFile.fileName ≠ [] := by decide
  have hf : (Path.ofText ModelFile.fileName).fault? = none := by decide
  have hplan (w : World) (hr : w.tree.refuses ModelFile.fileName = false) :
      Plan.ofArguments w.tree checkArguments = .ok
        ⟨⟨wishOf [.model false ModelFile.fileName], some (Path.ofText ModelFile.fileName)⟩,
          .check, false⟩ :=
    ((loading_answered_iff w (Path.ofText ModelFile.fileName)).2.2
      _ .check false _ rfl hne).2.2 hf hr
  have hs : Faulty strayByteWorld.tree (Path.ofText ModelFile.fileName) .notUnicode :=
    .notUnicode rfl rfl
  have he : (load emptyWorld.tree (some (Path.ofText ModelFile.fileName))).outcome =
      .error (.reported (.fileNotFound (Text.ofString ModelFile.fileName))) := by decide
  have hg : guardedWorld.tree.refuses ModelFile.fileName = true := by decide
  have hstray := (loading_answered_iff strayByteWorld _).2.1 _ _
    (hplan strayByteWorld (by decide)) rfl (by decide)
  obtain ⟨hending, htext, -⟩ := ((loading_answered_iff emptyWorld _).2.1 _ _
    (hplan emptyWorld (by decide)) rfl (by decide)).1 _ he (by decide)
  have hguarded : run guardedWorld checkArguments = _ :=
    ((loading_answered_iff guardedWorld (Path.ofText ModelFile.fileName)).2.2
      _ .check false _ rfl hne).2.1 hf hg
  have hstrayName : run guardedWorld (argumentRow [.model false strayName] .check true) = _ :=
    ((loading_answered_iff guardedWorld (Path.ofText strayName)).2.2
      _ .check true _ rfl (by decide)).2.1 (by decide) (by decide)
  rw [hguarded, hstrayName, htext rfl]
  exact ⟨hs, (hstray.2 _ hs).1, he, hending, rfl, hg, rfl, rfl, by decide, by decide,
    by decide +kernel⟩

/-- A stray byte is answered for neither by loading nor by a command. -/
theorem strayByteWorld_unanswered :
    (load strayByteWorld.tree (some (Path.ofText ModelFile.fileName))).outcome =
        .error (.fault .notUnicode) ∧
      (run strayByteWorld ["--model", "service.yml", "check"]).ending =
        .crash (.loading .notUnicode) ∧
      (run strayByteWorld ["--model", "service.yml", "check"]).output = [] :=
  ⟨rfl, by decide +kernel, by decide +kernel⟩

end ClientBuilder.CommandLine
