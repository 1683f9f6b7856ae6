import ClientBuilder.CommandLine.Run
import Mathlib.Data.List.TakeWhile

/-!
How much a run is asked to log, by its options and by the environment, and what that changes. All
outputs and endings are the same but those of synthesis as text, from which a quiet run leaves out
the head. Where the head holds a surrogate, only the quiet run comes to the methods.
-/

namespace ClientBuilder.CommandLine

inductive FrontOption where
  | debug
  | verbose (short : Bool)
  | quiet (short : Bool)
  | model (short : Bool) (path : Text)

namespace FrontOption

def arguments : FrontOption → List Text
  | debug => ["--debug"]
  | verbose short => [if short then "-v" else "--verbose"]
  | quiet short => [if short then "-q" else "--quiet"]
  | model short path => [if short then "-m" else "--model", path]

def given : FrontOption → Given ProgramOption
  | debug => ⟨.debug, none⟩
  | verbose _ => ⟨.verbose, none⟩
  | quiet _ => ⟨.quiet, none⟩
  | model _ path => ⟨.model, some path⟩

def model? : FrontOption → Option Text
  | model _ path => some path
  | _ => none

def isQuiet : FrontOption → Bool
  | quiet _ => true
  | _ => false

end FrontOption

def argumentRow (options : List FrontOption) (c : Command) (json : Bool) : List Text :=
  options.flatMap FrontOption.arguments ++ Text.ofString c.name :: if json then ["--json"] else []

section Options

variable {ι : Type} {flags : List (Flag ι)} {mixed : Bool} {a : Text}

theorem read_flag {given : List (Given ι)} (hm : a ≠ Options.endMark)
    (ho : Options.isOption a = true) (ha : Options.readArgument flags a = .ok ⟨given, none⟩)
    (r : List Text) :
    Options.read flags mixed (a :: r) =
      (Options.read flags mixed r).map (Arguments.behindOptions given) := by
  rw [Options.read, if_neg hm, if_pos ho, ha]

theorem read_value {given : List (Given ι)} {id : ι} {name : Text} (hm : a ≠ Options.endMark)
    (ho : Options.isOption a = true)
    (ha : Options.readArgument flags a = .ok ⟨given, some (id, name)⟩) (v : Text) (r : List Text) :
    Options.read flags mixed (a :: v :: r) =
      (Options.read flags mixed r).map (Arguments.behindOptions (given.concat ⟨id, some v⟩)) := by
  rw [Options.read, if_neg hm, if_pos ho, ha]

theorem read_other (hm : a ≠ Options.endMark) (ho : Options.isOption a = false) (r : List Text) :
    Options.read flags false (a :: r) = .ok ⟨[], a :: r⟩ := by
  rw [Options.read, if_neg hm, ho]
  rfl

end Options

/-- Reading an option in front takes its own arguments and goes on behind them. -/
theorem read_frontOption (o : FrontOption) (r : List Text) :
    Options.read programFlags false (o.arguments ++ r) =
      (Options.read programFlags false r).map (Arguments.behindOptions [o.given]) := by
  cases o with
  | debug => exact read_flag (by decide) (by decide) rfl r
  | verbose short => cases short <;> exact read_flag (by decide) (by decide) rfl r
  | quiet short => cases short <;> exact read_flag (by decide) (by decide) rfl r
  | model short path =>
    have hlong : Options.readArgument programFlags "--model" =
        .ok ⟨[], some (.model, "--model")⟩ := rfl
    have hshort : Options.readArgument programFlags "-m" = .ok ⟨[], some (.model, "-m")⟩ := rfl
    cases short with
    | false => exact read_value (by decide) (by decide) hlong path r
    | true => exact read_value (by decide) (by decide) hshort path r

theorem read_argumentRow (options : List FrontOption) (c : Command) (json : Bool) :
    Options.read programFlags false (argumentRow options c json) =
      .ok ⟨options.map FrontOption.given, argumentRow [] c json⟩ := by
  induction options with
  -- The name of a command is no option, and what is behind it is left for the command.
  | nil => cases c <;> exact read_other (by decide) (by decide) _
  | cons o options ih =>
    have hrow : argumentRow (o :: options) c json =
        o.arguments ++ argumentRow options c json := by
      rw [argumentRow, List.flatMap_cons, List.append_assoc]
      rfl
    rw [hrow, read_frontOption, ih]
    rfl

def lastModel (options : List FrontOption) : Option Text :=
  (options.filterMap FrontOption.model?).getLast?

theorem lastValue_model (options : List FrontOption) :
    Plan.lastValue (options.map FrontOption.given) .model = lastModel options := by
  have hfilter : (options.map FrontOption.given).filter (fun g => g.id = .model) =
      (options.filterMap FrontOption.model?).map fun path => ⟨.model, some path⟩ := by
    induction options with
    | nil => rfl
    | cons o options ih =>
      rw [List.map_cons, List.filter_cons, ih, List.filterMap_cons]
      cases o <;> rfl
  rw [Plan.lastValue, hfilter, List.getLast?_map, lastModel]
  cases (options.filterMap FrontOption.model?).getLast? <;> rfl

theorem has_quiet (options : List FrontOption) :
    Plan.has (options.map FrontOption.given) .quiet = options.any FrontOption.isQuiet := by
  rw [Plan.has, List.any_map]
  refine congrArg (List.any options) (funext fun o => ?_)
  cases o <;> rfl

def wishOf (options : List FrontOption) : Logging.Level.Wish :=
  let given := options.map FrontOption.given
  ⟨Plan.has given .debug, Plan.has given .verbose, Plan.has given .quiet⟩

/-- What a row of arguments asks for: the last model counts, and the options for the log go into the
wish. -/
theorem ofArguments_argumentRow (t : FileTree) (options : List FrontOption) (c : Command)
    (json : Bool) :
    Plan.ofArguments t (argumentRow options c json) =
      (Plan.modelPath t (lastModel options)).map fun model =>
        ⟨⟨wishOf options, model⟩, c, json⟩ := by
  have hne : (argumentRow options c json).isEmpty = false := by
    cases hr : argumentRow options c json with
    | nil => simp [argumentRow] at hr
    | cons a r => rfl
  -- None of the options ends the run at once, as a wish for help would.
  have hstop : (options.map FrontOption.given).findSome? Plan.programStop? = none := by
    rw [List.findSome?_eq_none_iff]
    intro g hg
    obtain ⟨o, _, rfl⟩ := List.mem_map.mp hg
    cases o <;> rfl
  have hread : Plan.readProgram t (argumentRow options c json) =
      (Plan.modelPath t (lastModel options)).map fun model =>
        (⟨wishOf options, model⟩, argumentRow [] c json) := by
    rw [Plan.readProgram, read_argumentRow]
    simp only [hstop, lastValue_model]
    cases Plan.modelPath t (lastModel options) <;> rfl
  have hname : Command.ofName? (Text.ofString c.name) = some c := by
    cases c <;> rfl
  have hcommand : Plan.readCommand c (if json then ["--json"] else []) = .ok json := by
    cases json with
    | false => rfl
    | true =>
      have hargument : Options.readArgument commandFlags "--json" =
          .ok ⟨[⟨.json, none⟩], none⟩ := rfl
      have hflag : Options.read commandFlags true ["--json"] = .ok ⟨[⟨.json, none⟩], []⟩ :=
        read_flag (by decide) (by decide) hargument []
      rw [Plan.readCommand, if_pos rfl, hflag]
      rfl
  rw [Plan.ofArguments, hread, hne]
  cases Plan.modelPath t (lastModel options) with
  | error stop => rfl
  | ok model =>
    have hrow : argumentRow [] c json =
        Text.ofString c.name :: if json then ["--json"] else [] := rfl
    simp only [Except.map, bind, Except.bind, hrow, hname, hcommand, Bool.false_eq_true, if_false]
    rfl

theorem run_argumentRow (w : World) (options : List FrontOption) (c : Command) (json : Bool) :
    run w (argumentRow options c json) =
      match Plan.modelPath w.tree (lastModel options) with
      | .ok model => Plan.run w ⟨⟨wishOf options, model⟩, c, json⟩
      | .error stop => stop.outcome := by
  rw [run, ofArguments_argumentRow]
  cases Plan.modelPath w.tree (lastModel options) <;> rfl

/-- Two runs with one answer: what they write besides the log, and how they end. -/
structure SameAnswer (o o' : Outcome) : Prop where
  stdout_eq : ∀ colors, o.stdout colors = o'.stdout colors
  ending_eq : o.ending = o'.ending
  exitCode_eq : o.exitCode = o'.exitCode

theorem sameAnswer_of_eq {o o' : Outcome} (ho : o.output = o'.output) (he : o.ending = o'.ending) :
    SameAnswer o o' where
  stdout_eq colors := by rw [Outcome.stdout, Outcome.stdout, ho]
  ending_eq := he
  exitCode_eq := by rw [Outcome.exitCode, Outcome.exitCode, he]

/-- The log of a step has no part in its answer. -/
theorem ofReport_sameAnswer {α : Type} (logger logger' : Logging.Logger) (x : Logged Fault α)
    (print : α → List Print) (isGood : α → Bool) :
    SameAnswer (ofReport logger x print isGood) (ofReport logger' x print isGood) := by
  rw [ofReport, ofReport]
  cases x.outcome with
  | ok r => exact sameAnswer_of_eq rfl rfl
  | error f => exact sameAnswer_of_eq rfl rfl

/-- Plans for one command and one model have the same answer, unless it is a contract as text: that
also depends on whether the run is quiet. -/
theorem Plan.run_sameAnswer (t : FileTree) (n n' : Option String) {wish wish' : Logging.Level.Wish}
    {model : Option Path} {c : Command} {json : Bool}
    (hquiet : c = .synthesize → json = false → wish.quiet = wish'.quiet) :
    SameAnswer (Plan.run ⟨t, n⟩ ⟨⟨wish, model⟩, c, json⟩)
      (Plan.run ⟨t, n'⟩ ⟨⟨wish', model⟩, c, json⟩) := by
  cases c with
  | catalog => exact sameAnswer_of_eq rfl rfl
  | check => exact ofReport_sameAnswer _ _ _ _ _
  | synthesize =>
    cases json with
    | true => exact ofReport_sameAnswer _ _ _ _ _
    | false =>
      -- The one place where the wish is looked at again.
      have hq := hquiet rfl rfl
      rw [Plan.run, Plan.run]
      simp only [Bool.false_eq_true, if_false, hq]
      exact ofReport_sameAnswer _ _ _ _ _

theorem shown_renderAll_append (colors : Bool) (a b : List Print) :
    (renderAll colors (a ++ b)).shown =
      (renderAll colors a).shown ++ (renderAll colors b).shown := by
  rw [renderAll, List.flatMap_append, Text.shown, Text.chars, List.flatMap_append,
    String.ofList_append]
  rfl

/-- Output behind a head without surrogates comes out, and ends, as it does alone. -/
theorem ofOutput_append_of_whole {head : List Print} (h : ∀ q ∈ head, q.text.isWhole = true)
    (log log' : Text) (rest : List Print) (code : Nat) :
    (Outcome.ofOutput log (head ++ rest) code).output =
        head ++ (Outcome.ofOutput log' rest code).output ∧
      (Outcome.ofOutput log (head ++ rest) code).ending =
        (Outcome.ofOutput log' rest code).ending := by
  have ht : (head ++ rest).takeWhile (fun q => q.text.isWhole) =
      head ++ rest.takeWhile fun q => q.text.isWhole := List.takeWhile_append_of_pos h
  have hlength : (head ++ rest.takeWhile fun q => q.text.isWhole).length =
      (head ++ rest).length ↔ (rest.takeWhile fun q => q.text.isWhole).length = rest.length := by
    rw [List.length_append, List.length_append]
    omega
  rw [Outcome.ofOutput, Outcome.ofOutput]
  simp only [ht, hlength, and_self]

/-- Output with a surrogate anywhere cannot be written to its end. -/
theorem ofOutput_of_stray {output : List Print} {q : Print} (hq : q ∈ output)
    (h : q.text.isWhole = false) (log : Text) (code : Nat) :
    (Outcome.ofOutput log output code).ending = .crash .unwritable := by
  have hne : (output.takeWhile fun q => q.text.isWhole).length ≠ output.length := by
    intro hl
    -- Output that is not cut is whole at every place.
    have hfront := List.takeWhile_prefix (fun q : Print => q.text.isWhole) (l := output)
    have hsame := hfront.eq_of_length hl
    have hw := List.takeWhile_eq_self_iff.mp hsame q hq
    rw [h] at hw
    cases hw
  rw [Outcome.ofOutput]
  simp only [if_neg hne]

/-- The contract that synthesis comes to under some options, if it comes to one. -/
def contractBuilt? (t : FileTree) (options : List FrontOption) : Option Contract :=
  match Plan.modelPath t (lastModel options) with
  | .error _ => none
  | .ok model =>
    match (ModelFile.synthesize t model).outcome with
    | .error _ => none
    | .ok r => r.contract?

/-- Where a contract is built, both the path and the synthesis behind it are known. -/
theorem contractBuilt?_eq_some {t : FileTree} {options : List FrontOption} {c : Contract}
    (h : contractBuilt? t options = some c) :
    ∃ model path, Plan.modelPath t (lastModel options) = .ok model ∧
      (ModelFile.synthesize t model).outcome = .ok ⟨.ok c, path⟩ := by
  rw [contractBuilt?] at h
  cases hm : Plan.modelPath t (lastModel options) with
  | error stop =>
    rw [hm] at h
    cases h
  | ok model =>
    rw [hm] at h
    dsimp only at h
    cases hr : (ModelFile.synthesize t model).outcome with
    | error e =>
      rw [hr] at h
      cases h
    | ok r =>
      rw [hr] at h
      obtain ⟨result, path⟩ := r
      cases result with
      | error e => cases h
      | ok c' =>
        obtain rfl : c' = c := Option.some.inj h
        exact ⟨model, path, rfl, hr⟩

section Runs

variable {t : FileTree} {f g : List FrontOption}

/-- The contract as text: a quiet run writes its methods alone. -/
theorem run_of_contract {c : Contract} (hc : contractBuilt? t f = some c) (n : Option String) :
    ∃ log, run ⟨t, n⟩ (argumentRow f .synthesize false) =
      .ofOutput log ((if f.any FrontOption.isQuiet then [] else contractHead c)
        ++ methodList c) 0 := by
  obtain ⟨model, path, hm, hr⟩ := contractBuilt?_eq_some hc
  have hquiet : (wishOf f).quiet = f.any FrontOption.isQuiet := has_quiet f
  let logger := Settings.logger ⟨wishOf f, model⟩ n
  refine ⟨logger.writeAll (ModelFile.synthesize t model).records, ?_⟩
  rw [run_argumentRow, hm]
  dsimp only
  rw [Plan.run]
  simp only [Bool.false_eq_true, if_false, ofReport, hr, hquiet]
  rfl

theorem run_sameAnswer_of_no_contract (h : lastModel f = lastModel g)
    (hc : contractBuilt? t f = none) (n n' : Option String) :
    SameAnswer (run ⟨t, n⟩ (argumentRow f .synthesize false))
      (run ⟨t, n'⟩ (argumentRow g .synthesize false)) := by
  rw [run_argumentRow, run_argumentRow, ← h]
  rw [contractBuilt?] at hc
  cases hm : Plan.modelPath t (lastModel f) with
  | error stop => exact sameAnswer_of_eq rfl rfl
  | ok model =>
    rw [hm] at hc
    dsimp only at hc ⊢
    rw [Plan.run, Plan.run]
    simp only [Bool.false_eq_true, if_false, ofReport]
    cases hr : (ModelFile.synthesize t model).outcome with
    | error e => exact sameAnswer_of_eq rfl rfl
    | ok r =>
      rw [hr] at hc
      obtain ⟨result, path⟩ := r
      cases result with
      | error e => exact sameAnswer_of_eq rfl rfl
      | ok c => cases hc

/-- Rows for one model have the same answer, unless it is a contract as text and only one of them is
quiet. -/
theorem run_sameAnswer (h : lastModel f = lastModel g) {c : Command} {json : Bool}
    (hquiet : c = .synthesize → json = false →
      f.any FrontOption.isQuiet = g.any FrontOption.isQuiet) (n n' : Option String) :
    SameAnswer (run ⟨t, n⟩ (argumentRow f c json)) (run ⟨t, n'⟩ (argumentRow g c json)) := by
  rw [run_argumentRow, run_argumentRow, ← h]
  cases Plan.modelPath t (lastModel f) with
  | error stop => exact sameAnswer_of_eq rfl rfl
  | ok model =>
    refine Plan.run_sameAnswer t n n' fun hc hj => ?_
    exact (has_quiet f).trans ((hquiet hc hj).trans (has_quiet g).symm)

end Runs

/-- How much is logged changes nothing of what a run answers, but for a contract as text. There a
quiet run leaves the head out and is otherwise the same, as long as the head can be written; a head
with a surrogate ends the other run before it comes to the methods. -/
theorem sameAnswer_of_lastModel_eq (t : FileTree) {f g : List FrontOption}
    (h : lastModel f = lastModel g) (n n' : Option String) :
    (∀ c json, (c = .synthesize → json = true) →
      SameAnswer (run ⟨t, n⟩ (argumentRow f c json)) (run ⟨t, n'⟩ (argumentRow g c json))) ∧
    (f.any FrontOption.isQuiet = g.any FrontOption.isQuiet ∨ contractBuilt? t f = none →
      SameAnswer (run ⟨t, n⟩ (argumentRow f .synthesize false))
        (run ⟨t, n'⟩ (argumentRow g .synthesize false))) ∧
    (f.any FrontOption.isQuiet = false → g.any FrontOption.isQuiet = true →
      ∀ c, contractBuilt? t f = some c →
        let full := run ⟨t, n⟩ (argumentRow f .synthesize false)
        let quiet := run ⟨t, n'⟩ (argumentRow g .synthesize false)
        ((∀ q ∈ contractHead c, q.text.isWhole = true) →
          full.ending = quiet.ending ∧ full.exitCode = quiet.exitCode ∧
          ∀ colors, full.stdout colors =
            (renderAll colors (contractHead c)).shown ++ quiet.stdout colors) ∧
        ∀ q ∈ contractHead c, q.text.isWhole = false →
          full.ending = .crash .unwritable ∧ full.exitCode = 1) := by
  refine ⟨fun c json hjson => run_sameAnswer h (fun hc hj => ?_) n n', ?_, ?_⟩
  · rw [hjson hc] at hj
    cases hj
  · rintro (hquiet | hnone)
    · exact run_sameAnswer h (fun _ _ => hquiet) n n'
    · exact run_sameAnswer_of_no_contract h hnone n n'
  · intro hf hg c hc full quiet
    have hc' : contractBuilt? t g = some c := by
      rw [contractBuilt?, ← h]
      exact hc
    obtain ⟨log, hfull⟩ := run_of_contract hc n
    obtain ⟨log', hquiet⟩ := run_of_contract hc' n'
    rw [hf, if_neg Bool.false_ne_true] at hfull
    rw [hg, if_pos rfl, List.nil_append] at hquiet
    constructor
    · intro hwhole
      obtain ⟨hoe, hee⟩ := ofOutput_append_of_whole hwhole log log' (methodList c) 0
      rw [← hfull, ← hquiet] at hoe hee
      refine ⟨hee, ?_, fun colors => ?_⟩
      · rw [Outcome.exitCode, Outcome.exitCode, hee]
      · rw [Outcome.stdout, Outcome.stdout, hoe, shown_renderAll_append]
    · intro q hq hstray
      have hend := ofOutput_of_stray (List.mem_append_left (methodList c) hq) hstray log 0
      rw [← hfull] at hend
      exact ⟨hend, by rw [Outcome.exitCode, hend]⟩

def oneFileWorld (text : String) : World where
  tree :=
    { nodes := [([Text.ofString ModelFile.fileName], .file text.toUTF8.toList)]
      workingDirectory := [] }

def packageText (package : String) : String :=
  "service: \x7bname: A, package: \"" ++ package ++ "\"\x7d\n"

/-- Debugging shows in no answer, and being quiet leaves the head out. -/
theorem oneFileWorld_answers :
    lastModel [.debug, .verbose true] = lastModel [.quiet false] ∧
      SameAnswer
        (run ⟨(oneFileWorld (packageText "p")).tree, none⟩
          (argumentRow [.debug, .verbose true] .check true))
        (run ⟨(oneFileWorld (packageText "p")).tree, some "DEBUG"⟩
          (argumentRow [.quiet false] .check true)) ∧
      ∃ c, contractBuilt? (oneFileWorld (packageText "p")).tree [.debug, .verbose true] = some c ∧
        ∀ colors,
          (run ⟨(oneFileWorld (packageText "p")).tree, none⟩
            (argumentRow [.debug, .verbose true] .synthesize false)).stdout colors =
          (renderAll colors (contractHead c)).shown ++
            (run ⟨(oneFileWorld (packageText "p")).tree, some "DEBUG"⟩
              (argumentRow [.quiet false] .synthesize false)).stdout colors := by
  have hmodel : lastModel [.debug, .verbose true] = lastModel [.quiet false] := rfl
  obtain ⟨hsame, _, hhead⟩ :=
    sameAnswer_of_lastModel_eq (oneFileWorld (packageText "p")).tree hmodel none (some "DEBUG")
  obtain ⟨c, hc⟩ : ∃ c, contractBuilt? (oneFileWorld (packageText "p")).tree
      [.debug, .verbose true] = some c := by
    apply Option.isSome_iff_exists.mp
    decide +kernel
  have hwhole : ∀ q ∈ contractHead c, q.text.isWhole = true := by
    have hall : (contractBuilt? (oneFileWorld (packageText "p")).tree
        [.debug, .verbose true]).all (fun c => (contractHead c).all (·.text.isWhole)) = true := by
      decide +kernel
    rw [hc] at hall
    exact List.all_eq_true.mp hall
  obtain ⟨hfull, _⟩ := hhead rfl rfl c hc
  exact ⟨hmodel, hsame .check true (by decide), c, hc, (hfull hwhole).2.2⟩

/-- A surrogate in the package makes being quiet show in the exit code. -/
theorem exitCode_of_stray_package :
    (run (oneFileWorld (packageText "\\uD800")) (argumentRow [] .synthesize false)).exitCode = 1 ∧
      (run (oneFileWorld (packageText "\\uD800"))
        (argumentRow [.quiet false] .synthesize false)).exitCode = 0 := by
  decide +kernel

end ClientBuilder.CommandLine
