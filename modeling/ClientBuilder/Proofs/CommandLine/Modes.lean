import ClientBuilder.Proofs.CommandLine.Endings
import ClientBuilder.Proofs.CommandLine.Verbosity
import ClientBuilder.Proofs.Contract.HandOver
import ClientBuilder.Proofs.Issues.Clean

/-!
The two modes of the commands. What a command prints as text is what a reader of its JSON can make
of it, and both runs exit with the same code, as long as the text can be written. Where it holds a
surrogate only the JSON comes out: the run as text crashes.
-/

namespace ClientBuilder.CommandLine

open ModelFile

/-! ### Reading the JSON of a check -/

namespace CheckSummary

def bool? : Json → Option Bool
  | .bool b => some b
  | _ => none

def int? : Json → Option Int
  | .int n => some n
  | _ => none

def text? : Json → Option Text
  | .string s => some s
  | _ => none

def texts? : Json → Option (List Text)
  | .array items => items.mapM text?
  | _ => none

def nullable? : Json → Option (Option Text)
  | .null => some none
  | j => (text? j).map some

end CheckSummary

/-- What a reader of the JSON of a check learns from it. -/
structure CheckSummary where
  valid : Bool
  errors : List Text
  warnings : List Text
  serviceName : Option Text
  contextParamCount : Int

namespace CheckSummary

def ofJson? (j : Json) : Option CheckSummary := do
  return {
    valid := ← (j.field? "valid").bind bool?
    errors := ← (j.field? "errors").bind texts?
    warnings := ← (j.field? "warnings").bind texts?
    serviceName := ← (j.field? "service_name").bind nullable?
    contextParamCount := ← (j.field? "context_param_count").bind int? }

def item (t : Text) : Text :=
  "   • " ++ t

/-- The pieces of the text of a check: the name of the service and the number of its parameters for
a valid model, or else the errors; and the warnings, if there are any. -/
def pieces (s : CheckSummary) : List Text :=
  let first : List Text :=
    if s.valid then
      ["✅ Service model is valid", "   Service: " ++ s.serviceName.getD [],
        "   Context params: " ++ Text.intText s.contextParamCount]
    else "❌ Service model errors:" :: s.errors.map item
  let second : List Text :=
    if s.warnings = [] then [] else [] :: "⚠️  Warnings:" :: s.warnings.map item
  first ++ second ++ [[]]

theorem texts?_ofTexts (texts : List Text) : texts? (Json.ofTexts texts) = some texts := by
  rw [Json.ofTexts, texts?]
  induction texts with
  | nil => rfl
  | cons t r ih =>
    rw [List.map_cons, List.mapM_cons, ih]
    rfl

theorem nullable?_ofText? (t : Option Text) : nullable? (Json.ofText? t) = some t := by
  cases t <;> rfl

def ofReport (r : CheckReport) : CheckSummary where
  valid := r.valid
  errors := r.errors.map CheckError.message
  warnings := r.warnings.map fun w => Text.ofString w.message
  serviceName := r.serviceName
  contextParamCount := r.contextParamCount

def ofModel (m : Capability) : CheckSummary where
  valid := m.errors.isEmpty
  errors := m.errors.map ModelError.message
  warnings := m.warnings.map fun w => Text.ofString w.message
  serviceName := some m.serviceName
  contextParamCount := m.clientContextParams.size + m.customClientContextParams.size

theorem ofReport_ofModel (p : Path) (m : Capability) : ofReport (.ofModel p m) = ofModel m := by
  simp [ofReport, ofModel, CheckReport.ofModel, CheckReport.serviceName,
    CheckReport.contextParamCount, paramCount, CheckError.message, Function.comp_def]

/-- The JSON of a check says what its report says. -/
theorem ofJson?_toJson (r : CheckReport) : ofJson? r.toJson = some (ofReport r) := by
  have herrors : (r.toJson.field? "errors").bind texts? = some (r.errors.map CheckError.message) :=
    texts?_ofTexts _
  have hwarnings : (r.toJson.field? "warnings").bind texts? =
      some (r.warnings.map fun w => Text.ofString w.message) := texts?_ofTexts _
  have hname : (r.toJson.field? "service_name").bind nullable? = some r.serviceName :=
    nullable?_ofText? _
  rw [ofJson?, herrors, hwarnings, hname]
  rfl

/-- The text of a check says what is learned from its JSON. -/
theorem map_text_checkText (r : CheckReport) :
    (checkText r).map (·.text) = (ofReport r).pieces := by
  have hitem (t : Text) : (itemLine t).text = item t := rfl
  rw [checkText, verdict, warningList, pieces, ofReport]
  cases r.valid <;> cases hw : r.warnings <;>
    simp [hitem, Function.comp_def, Print.line, Print.blank, Text.intText, Text.natText,
      Text.signedDecimal]

end CheckSummary

/-- The pieces of the header of a contract, which a quiet run leaves out. -/
def headPieces (c : Contract) : List Text :=
  let package : List Text := if c.package = [] then [] else ["   📦 " ++ c.package]
  ("\n📐 " ++ c.interfaceName) :: package
    ++ ["   <" ++ Text.join ", " c.typeVariables ++ ">", "   extends " ++ c.superInterface, []]

/-- The header of a contract has the pieces that it should have. -/
theorem map_text_contractHead (c : Contract) :
    (contractHead c).map (·.text) = headPieces c := by
  rw [contractHead, headPieces]
  split <;> rfl

/-- The pieces of the listing of a contract: the number of its methods, then the signature and the
policy of each. -/
def listingPieces (c : Contract) : List Text :=
  let signature (e : Method) : Text :=
    e.name ++ "(" ++ Text.join ", " (e.parameters.map fun p => p.type ++ " " ++ p.name) ++ ")"
  let line (e : Method) : List Text := ["     • " ++ signature e ++ "  ", e.overridePolicy.text]
  let count : Text := "   Methods: " ++ Text.natText c.methods.length
  count :: c.methods.flatMap line ++ [[]]

/-- The listing of a contract has the pieces that it should have. -/
theorem map_text_methodList (c : Contract) :
    (methodList c).map (·.text) = listingPieces c := by
  simp [methodList, listingPieces, List.map_flatMap, methodLine, Method.signature, Print.blank,
    Print.line]

/-! ### Both modes of a run -/

/-- What the two runs of a command come to: the one prints a JSON value, the other one some pieces
of text, and both exit with the same code. Text with a surrogate cannot be written. -/
structure BothModes (w : World) (options : List FrontOption) (c : Command) (j : Json)
    (prints : List Print) (code : Nat) : Prop where
  json_output : (run w (argumentRow options c true)).output =
    [{ text := Json.render (.indented 2) j }]
  json_read : Json.ofText (Json.render (.indented 2) j) = some j.paired
  json_ending : (run w (argumentRow options c true)).ending = .exit code
  text_of_whole : (∀ q ∈ prints, q.text.isWhole = true) →
    (run w (argumentRow options c false)).output = prints ∧
      (run w (argumentRow options c false)).ending = .exit code
  text_of_stray : ∀ q ∈ prints, q.text.isWhole = false →
    (run w (argumentRow options c false)).ending = .crash .unwritable

section Runs

variable {w : World} {f : List FrontOption} {model : Option Path}

/-- One report printed both ways: the modes of a command differ in nothing else. -/
theorem bothModes_of_report {α : Type} {c : Command} (logger : Logging.Logger)
    {x : Logged Fault α} {r : α} (toJson : α → Json) (print : α → List Print) (isGood : α → Bool)
    (hx : x.outcome = .ok r)
    (hjson : run w (argumentRow f c true) =
      ofReport logger x (fun r => printJson (toJson r)) isGood)
    (htext : run w (argumentRow f c false) = ofReport logger x print isGood) :
    BothModes w f c (toJson r) (print r) (if isGood r then 0 else 1) := by
  -- JSON is plain ASCII, so that it can always be written.
  have hj : ofReport logger x (fun r => printJson (toJson r)) isGood = _ :=
    ofReport_of_ok hx (isWhole_printJson (toJson r))
  refine ⟨?_, Json.ofText_render _ _, ?_, fun hwhole => ?_, fun q hq hstray => ?_⟩
  · rw [hjson, hj]
    rfl
  · rw [hjson, hj]
  · rw [htext, ofReport_of_ok hx hwhole]
    exact ⟨rfl, rfl⟩
  · rw [htext, ofReport, hx]
    exact ofOutput_of_stray hq hstray _ _

theorem bothModes_synthesize (hm : Plan.modelPath w.tree (lastModel f) = .ok model)
    {r : SynthesisReport} (hr : (ModelFile.synthesize w.tree model).outcome = .ok r) :
    BothModes w f .synthesize r.toJson (synthesisText (f.any FrontOption.isQuiet) r)
      (if r.contract?.isSome then 0 else 1) := by
  have hquiet : (wishOf f).quiet = f.any FrontOption.isQuiet := has_quiet f
  refine bothModes_of_report (Settings.logger ⟨wishOf f, model⟩ w.levelName)
    SynthesisReport.toJson (synthesisText (f.any FrontOption.isQuiet)) (fun r => r.contract?.isSome)
    hr ?_ ?_
  · rw [run_argumentRow, hm]
    rfl
  · rw [run_argumentRow, hm, ← hquiet]
    rfl

theorem bothModes_check (hm : Plan.modelPath w.tree (lastModel f) = .ok model) {r : CheckReport}
    (hr : (check w.tree model).outcome = .ok r) :
    BothModes w f .check r.toJson (checkText r) (if r.valid then 0 else 1) := by
  refine bothModes_of_report (Settings.logger ⟨wishOf f, model⟩ w.levelName)
    CheckReport.toJson checkText (fun r => r.valid) hr ?_ ?_
  · rw [run_argumentRow, hm]
    rfl
  · rw [run_argumentRow, hm]
    rfl

/-- Where loading comes to no fault, both commands come to reports, which agree. -/
theorem reports_of_no_fault (hl : ∀ e, (load w.tree model).outcome ≠ .error (.fault e)) :
    ∃ r s, (check w.tree model).outcome = .ok r ∧
      (ModelFile.synthesize w.tree model).outcome = .ok s ∧ ReportsAgree w.tree model r s := by
  have hs : ∃ s, (ModelFile.synthesize w.tree model).outcome = .ok s := by
    rw [outcome_synthesize]
    cases h : (load w.tree model).outcome with
    | ok m => exact ⟨_, rfl⟩
    | error e =>
      cases e with
      | reported e => exact ⟨_, rfl⟩
      | fault e => exact absurd h (hl e)
  obtain ⟨s, hs⟩ := hs
  have hagree := check_synthesize_agree w.tree model
  rw [hs] at hagree
  cases hr : (check w.tree model).outcome with
  | ok r =>
    rw [hr] at hagree
    cases hagree with
    | ok h => exact ⟨r, s, rfl, hs, h⟩
  | error e =>
    rw [hr] at hagree
    cases hagree

theorem contractBuilt?_of_report (hm : Plan.modelPath w.tree (lastModel f) = .ok model)
    {s : SynthesisReport} (hs : (ModelFile.synthesize w.tree model).outcome = .ok s) :
    contractBuilt? w.tree f = s.contract? := by
  rw [contractBuilt?, hm]
  simp only [hs]

/-- The JSON and the text of a synthesis that came to a contract. -/
theorem synthesis_of_contract {s : SynthesisReport} {c : Contract} (h : s.contract? = some c)
    (quiet : Bool) :
    Contract.decode (Value.ofJson s.toJson) = .ok c ∧
      s.toJson.field? "method_count" = some (.int c.methods.length) ∧
      (synthesisText quiet s).map (·.text) =
        (if quiet then [] else headPieces c) ++ listingPieces c := by
  obtain ⟨result, path⟩ := s
  cases result with
  | error e => cases h
  | ok c' =>
    obtain rfl : c' = c := Option.some.inj h
    refine ⟨SynthesisReport.decode_toJson_ok c' path, rfl, ?_⟩
    rw [synthesisText, List.map_append, map_text_methodList, ← map_text_contractHead]
    cases quiet <;> rfl

/-- The JSON and the text of a synthesis that came to no contract. -/
theorem synthesis_of_no_contract {s : SynthesisReport} (h : s.contract? = none) (quiet : Bool) :
    ∃ message, s.toJson.field? "error" = some (.string message) ∧
      (synthesisText quiet s).map (·.text) = [Text.ofString "❌ " ++ message] := by
  obtain ⟨result, path⟩ := s
  cases result with
  | error e => exact ⟨e.message, rfl, rfl⟩
  | ok c => cases h

/-- A check comes to a report on the model that loading comes to. -/
theorem check_of_load_ok {m : Capability} (hl : (load w.tree model).outcome = .ok m) :
    ∃ p, (check w.tree model).outcome = .ok (.ofModel p m) := by
  cases hc : choose w.tree model with
  | error e =>
    rw [load, hc] at hl
    cases hl
  | ok found =>
    cases found with
    | none =>
      rw [load, hc] at hl
      cases hl
    | some p =>
      rw [load_of_choose hc] at hl
      exact ⟨p, by rw [outcome_check_of_choose hc, hl]⟩

/-- A path of the model that is not accepted ends the run before any command, without output. -/
theorem outcome_of_modelPath_error {text : Option Text} {stop : Stop}
    (h : Plan.modelPath w.tree text = .error stop) :
    stop.outcome.output = [] ∧ stop.outcome.exitCode ≠ 0 := by
  cases text with
  | none => cases h
  | some s =>
    rw [Plan.modelPath] at h
    split at h
    · obtain rfl := Except.error.inj h
      exact ⟨rfl, Nat.one_ne_zero⟩
    · split at h
      · obtain rfl := Except.error.inj h
        exact ⟨rfl, Nat.succ_ne_zero 1⟩
      · cases h

/-- Where loading comes to no fault, each command prints one JSON value and, as text, what that
value says: a contract with the same methods, their signatures and policies and their number, or the
reason why there is none; whether the model is valid, with its errors or else the name of the
service and the number of its parameters, and the warnings. Both runs exit with the same code,
nought for a contract and for a valid model, unless the text holds a surrogate. Where the path of
the model is not accepted, all runs are one. -/
theorem modes_agree (w : World) (f : List FrontOption) :
    (∀ stop, Plan.modelPath w.tree (lastModel f) = .error stop →
      contractBuilt? w.tree f = none ∧ stop.outcome.output = [] ∧ stop.outcome.exitCode ≠ 0 ∧
        ∀ c json, run w (argumentRow f c json) = stop.outcome) ∧
    ∀ model, Plan.modelPath w.tree (lastModel f) = .ok model →
      (∀ e, (load w.tree model).outcome ≠ .error (.fault e)) →
      (∃ j prints code, BothModes w f .synthesize j prints code ∧
        (code = 0 ∨ code = 1) ∧ (code = 0 ↔ ∃ c, contractBuilt? w.tree f = some c) ∧
        (∀ c, contractBuilt? w.tree f = some c → Contract.decode (Value.ofJson j) = .ok c ∧
          j.field? "method_count" = some (.int c.methods.length) ∧
          prints.map (·.text) =
            (if f.any FrontOption.isQuiet then [] else headPieces c) ++ listingPieces c) ∧
        (contractBuilt? w.tree f = none → ∃ message, j.field? "error" = some (.string message) ∧
          prints.map (·.text) = [Text.ofString "❌ " ++ message])) ∧
      ∃ j prints code s, BothModes w f .check j prints code ∧
        (code = 0 ∨ code = 1) ∧ (code = 0 ↔ s.valid = true) ∧ CheckSummary.ofJson? j = some s ∧
        prints.map (·.text) = s.pieces ∧ (s.valid = true ↔ s.errors = []) ∧
        (s.valid = true → s.serviceName.isSome = true) ∧
        ∀ m, (load w.tree model).outcome = .ok m → s = CheckSummary.ofModel m := by
  refine ⟨fun stop hstop => ?_, fun model hm hl => ?_⟩
  · obtain ⟨houtput, hcode⟩ := outcome_of_modelPath_error hstop
    refine ⟨?_, houtput, hcode, fun c json => ?_⟩
    · rw [contractBuilt?, hstop]
    · rw [run_argumentRow, hstop]
  · obtain ⟨r, s, hr, hs, hagree⟩ := reports_of_no_fault hl
    have hcode (b : Bool) : ((if b then 0 else 1) = 0 ∨ (if b then 0 else 1) = 1) ∧
        ((if b then 0 else 1) = 0 ↔ b = true) := by
      cases b <;> simp
    rw [contractBuilt?_of_report hm hs]
    refine ⟨⟨s.toJson, _, _, bothModes_synthesize hm hs, (hcode _).1, ?_,
        fun c hc => synthesis_of_contract hc _, fun hn => synthesis_of_no_contract hn _⟩,
      ⟨r.toJson, _, _, CheckSummary.ofReport r, bothModes_check hm hr, (hcode _).1, (hcode _).2,
        CheckSummary.ofJson?_toJson r, CheckSummary.map_text_checkText r, ?_, fun hv => ?_,
        fun m hload => ?_⟩⟩
    · rw [(hcode _).2, Option.isSome_iff_exists]
    · exact hagree.valid_iff.trans List.map_eq_nil_iff.symm
    · rw [CheckSummary.ofReport, CheckReport.serviceName, Option.isSome_map]
      exact hagree.model_of_valid hv
    · obtain ⟨p, hp⟩ := check_of_load_ok hload
      obtain rfl : r = .ofModel p m := Except.ok.inj (hr.symm.trans hp)
      exact CheckSummary.ofReport_ofModel p m

end Runs

/-- Where a contract is built nothing is at fault with the file. -/
theorem no_fault_of_contract {w : World} {f : List FrontOption} {model : Option Path}
    (hm : Plan.modelPath w.tree (lastModel f) = .ok model)
    (hc : (contractBuilt? w.tree f).isSome = true) :
    ∀ e, (load w.tree model).outcome ≠ .error (.fault e) := by
  intro e he
  have hs : (ModelFile.synthesize w.tree model).outcome = .error e := by
    rw [outcome_synthesize, he]
  rw [contractBuilt?, hm] at hc
  simp only [hs] at hc
  cases hc

/-- Both modes of both commands on a file that can be loaded and written, and on one that may not be
read. -/
theorem oneFileWorld_modes :
    (∀ e, (load (oneFileWorld (packageText "p")).tree none).outcome ≠ .error (.fault e)) ∧
      (∃ j prints c, BothModes (oneFileWorld (packageText "p")) [] .synthesize j prints 0 ∧
        Contract.decode (Value.ofJson j) = .ok c ∧ c.package = Text.ofString "p") ∧
      (∃ j prints, BothModes (oneFileWorld (packageText "p")) [] .check j prints 0 ∧
        prints.map (·.text) = [Text.ofString "✅ Service model is valid",
          Text.ofString "   Service: A", Text.ofString "   Context params: 0", []]) ∧
      ∀ c json, (run guardedWorld
        (argumentRow [.model false ModelFile.fileName] c json)).exitCode ≠ 0 := by
  have hload : (load (oneFileWorld (packageText "p")).tree none).outcome =
      .ok { serviceName := "A", basePackage := "p" } := by
    decide +kernel
  have hl : ∀ e, (load (oneFileWorld (packageText "p")).tree none).outcome ≠
      .error (.fault e) := by
    rw [hload]
    exact fun e => nofun
  have hnone : Plan.modelPath (oneFileWorld (packageText "p")).tree (lastModel []) = .ok none := rfl
  have he : (Capability.errors { serviceName := "A", basePackage := "p" }) = [] :=
    (Capability.errors_eq_nil_iff _).mpr (by decide)
  obtain ⟨c, hc⟩ : ∃ c, contractBuilt? (oneFileWorld (packageText "p")).tree [] = some c := by
    apply Option.isSome_iff_exists.mp
    decide +kernel
  have hpackage : c.package = Text.ofString "p" := by
    have hall : (contractBuilt? (oneFileWorld (packageText "p")).tree []).all
        (fun c => c.package = Text.ofString "p") = true := by
      decide +kernel
    rw [hc] at hall
    exact of_decide_eq_true hall
  obtain ⟨⟨j, prints, code, hboth, -, hcode, hbuilt, -⟩,
    ⟨j', prints', code', s, hboth', -, hcode', -, htexts, -, -, hmodel⟩⟩ :=
    (modes_agree (oneFileWorld (packageText "p")) []).2 none hnone hl
  obtain rfl := hcode.mpr ⟨c, hc⟩
  obtain rfl := hmodel _ hload
  obtain rfl := hcode'.mpr (by rw [CheckSummary.ofModel, he]; rfl)
  refine ⟨hl, ⟨j, prints, c, hboth, (hbuilt c hc).1, hpackage⟩, ⟨j', prints', hboth', ?_⟩,
    fun c json => ?_⟩
  · rw [htexts, CheckSummary.pieces, CheckSummary.ofModel, he]
    rfl
  · have hrefused : Plan.modelPath guardedWorld.tree
        (lastModel [.model false ModelFile.fileName]) =
          .error (.usage none (.unreadableModel ModelFile.fileName)) := by
      decide
    obtain ⟨-, -, hne, hrun⟩ := (modes_agree guardedWorld _).1 _ hrefused
    rw [hrun]
    exact hne

def strayNameWorld : World :=
  oneFileWorld "service: \x7bname: \"\\uD800\"\x7d\n"

/-- A surrogate in the name of the service makes the exit code depend on the mode, although the file
is loaded. -/
theorem strayNameWorld_modes :
    (∀ e, (load strayNameWorld.tree none).outcome ≠ .error (.fault e)) ∧
      (run strayNameWorld (argumentRow [] .synthesize true)).exitCode = 0 ∧
      (run strayNameWorld (argumentRow [] .synthesize false)).exitCode = 1 := by
  have hsome : (contractBuilt? strayNameWorld.tree []).isSome = true := by
    decide +kernel
  have hl := no_fault_of_contract (f := []) rfl hsome
  obtain ⟨_, s, _, hs, _⟩ := reports_of_no_fault hl
  rw [contractBuilt?_of_report rfl hs] at hsome
  -- The JSON is too long to be evaluated here; its run ends as every run with a contract does.
  have hjson := (bothModes_synthesize (f := []) rfl hs).json_ending
  rw [if_pos hsome] at hjson
  refine ⟨hl, ?_, by decide +kernel⟩
  rw [Outcome.exitCode, hjson]

end ClientBuilder.CommandLine
