import ClientBuilder.Logging.Logger
import Mathlib.Data.List.Induction

/-!
Setups of the logger. What is written for the records behind a setup depends on the level of the
last setup alone: a machine whose only state is that level writes the same.
-/

namespace ClientBuilder.Logging

def Event.setupLevel? : Event → Option Level
  | .setup level => some level
  | .record _ => none

/-- The level of the last setup in a row of events. -/
def lastSetup? (events : List Event) : Option Level :=
  (events.filterMap Event.setupLevel?).getLast?

def threshold (level : Level) : Level :=
  if level = 0 then 30 else level

/-- What the line of a record says after a setup for a level. -/
def recordText (level : Level) (r : Record) : Text :=
  let name := r.level.name
  let blanks : Text := List.replicate (5 - name.length) (.char ' ')
  let number := (r.line.map Text.intText).getD "N"
  if level = 10 then
    name ++ blanks ++ " " ++ component r.logger ++ ":" ++ number ++ " - " ++ r.message
  else if level = 20 then "[" ++ component r.logger ++ "] " ++ r.message
  else r.message

def lineAfter (level : Level) (r : Record) : Text :=
  -- A record below the threshold has no line.
  if 0 < r.level ∧ threshold level ≤ r.level then recordText level r ++ [.char '\n'] else []

/-- What is written for each event of a row after a setup for a level. -/
def transcript (level : Level) : List Event → List Text
  | [] => []
  | .setup next :: rest => [] :: transcript next rest
  | .record r :: rest => lineAfter level r :: transcript level rest

theorem lastSetup?_concat (events : List Event) (e : Event) :
    lastSetup? (events ++ [e]) = e.setupLevel?.or (lastSetup? events) := by
  rw [lastSetup?, lastSetup?, List.filterMap_append, List.getLast?_append]
  cases e <;> rfl

namespace Logger

def after (l : Logger) (events : List Event) : Logger :=
  events.foldl (fun l e => (l.step e).1) l

theorem drop_run (l : Logger) (past later : List Event) :
    (l.run (past ++ later)).drop past.length = (l.after past).run later := by
  induction past generalizing l with
  | nil => rfl
  | cons e past ih =>
    rw [List.cons_append, run, List.length_cons, List.drop_succ_cons, ih]
    rfl

/-- Handlers that are taken off in their order leave those behind them. -/
theorem foldl_removeHandler {l : Logger} {off kept : List Handler} (h : l.handlers = off ++ kept) :
    off.foldl removeHandler l = { l with handlers := kept } := by
  induction off generalizing l with
  | nil =>
    rw [← List.nil_append kept, ← h]
    rfl
  | cons x off ih =>
    have hx : (l.removeHandler x).handlers = off ++ kept := by
      rw [removeHandler, h, List.cons_append, List.erase_cons_head]
    rw [List.foldl_cons, ih hx]
    rfl

/-- What a logger looks like once it is set up for a level. -/
structure SetUpFor (level : Level) (l : Logger) : Prop where
  level_eq : l.level = level
  handlers_eq : l.handlers = [⟨level, .ofLevel level⟩]
  propagates_eq : l.propagates = false

/-- Whatever was set up before, a setup leaves one handler, the one of its level. -/
theorem setUpFor_setup (l : Logger) (level : Level) : SetUpFor level (l.setup level) := by
  have hclear : l.handlers.foldl removeHandler l = { l with handlers := [] } :=
    foldl_removeHandler (List.append_nil _).symm
  refine ⟨rfl, ?_, rfl⟩
  rw [setup, hclear]
  rfl

theorem ofString_padRight (width : Nat) (s : String) :
    Text.ofString (Format.padRight width s) =
      Text.ofString s ++ List.replicate (width - s.length) (.char ' ') := by
  rw [Format.padRight, Text.ofString, String.toList_append, String.toList_ofList, Text.ofChars,
    List.map_append, List.map_replicate]
  rfl

/-- The format of a level writes the text of the record, and ends the line. -/
theorem render_ofLevel (level : Level) (r : Record) :
    (Format.ofLevel level).render r = recordText level r ++ [.char '\n'] := by
  have hline : Format.lineText r.line = (r.line.map Text.intText).getD "N" := by
    cases r.line <;> rfl
  rw [Format.ofLevel, recordText, Level.debug, Level.info]
  by_cases hd : level = 10
  · rw [if_pos hd, if_pos hd, Format.render, ofString_padRight, hline]
    rfl
  · rw [if_neg hd, if_neg hd]
    by_cases hi : level = 20
    · rw [if_pos hi, if_pos hi]
      rfl
    · rw [if_neg hi, if_neg hi]
      rfl

/-- A logger that is set up writes a record at most once, by the handler of its level: a record that
counts also passes the handler, whose level is not above the one that counts. -/
theorem SetUpFor.write {level : Level} {l : Logger} (h : SetUpFor level l) (r : Record) :
    l.write r = lineAfter level r := by
  have hreached : l.reached = [⟨level, .ofLevel level⟩] := by
    rw [reached, h.handlers_eq, h.propagates_eq]
    rfl
  have heffective : l.effectiveLevel = threshold level := by
    rw [effectiveLevel, h.level_eq]
    rfl
  have hle : 0 < r.level → threshold level ≤ r.level → level ≤ r.level := by
    intro hpos ht
    by_cases hu : level = 0
    · rw [hu]
      exact Int.le_of_lt hpos
    · rwa [threshold, if_neg hu] at ht
  have henabled : l.isEnabled r.level = true ↔ 0 < r.level ∧ threshold level ≤ r.level := by
    rw [isEnabled, heffective, Bool.and_eq_true, decide_eq_true_eq, decide_eq_true_eq]
  rw [Logger.write, lineAfter, hreached]
  by_cases hc : 0 < r.level ∧ threshold level ≤ r.level
  · rw [if_pos (henabled.mpr hc), if_pos hc, ← render_ofLevel]
    simp [Handler.write, hle hc.1 hc.2]
  · rw [if_neg (fun he => hc (henabled.mp he)), if_neg hc]

/-- After any events a logger is set up for the level of the last setup. -/
theorem setUpFor_after (l : Logger) {past : List Event} {level : Level}
    (h : lastSetup? past = some level) : SetUpFor level (l.after past) := by
  -- From the last event back: a setup decides, and a record leaves the logger as it is.
  induction past using List.reverseRecOn with
  | nil => cases h
  | append_singleton past e ih =>
    rw [lastSetup?_concat] at h
    rw [after, List.foldl_append]
    cases e with
    | setup next =>
      obtain rfl : next = level := by simpa [Event.setupLevel?] using h
      exact setUpFor_setup _ next
    | record r => exact ih (by simpa [Event.setupLevel?] using h)

/-- A logger that is set up for a level writes the transcript of that level. -/
theorem SetUpFor.run {level : Level} {l : Logger} (h : SetUpFor level l) (later : List Event) :
    (l.run later).map Prod.snd = transcript level later := by
  -- A setup on the way changes the level that the rest is written for.
  induction later generalizing l level with
  | nil => rfl
  | cons e later ih =>
    rw [Logger.run, List.map_cons]
    cases e with
    | setup next =>
      have hnext := ih (setUpFor_setup l next)
      simp only [step, transcript, hnext]
    | record r =>
      have hsame := ih h
      simp only [step, transcript, hsame, h.write]

/-- From the first setup on the logger has one handler and hands nothing on, and what it writes for
all later events is what the level of the last setup says, so that two histories with the same last
setup write the same. -/
theorem log_of_lastSetup (l : Logger) {past : List Event} {level : Level}
    (h : lastSetup? past = some level) :
    (l.after past).handlers.length = 1 ∧ (l.after past).propagates = false ∧
      (∀ later, ((l.run (past ++ later)).drop past.length).map Prod.snd = transcript level later) ∧
      ∀ (l' : Logger) (past' : List Event), lastSetup? past' = some level → ∀ later,
        ((l'.run (past' ++ later)).drop past'.length).map Prod.snd =
          ((l.run (past ++ later)).drop past.length).map Prod.snd := by
  have hset := setUpFor_after l h
  have htext : ∀ (l : Logger) (past : List Event), lastSetup? past = some level → ∀ later,
      ((l.run (past ++ later)).drop past.length).map Prod.snd = transcript level later := by
    intro l past hp later
    rw [drop_run, (setUpFor_after l hp).run]
  refine ⟨?_, hset.propagates_eq, htext l past h, ?_⟩
  · rw [hset.handlers_eq]
    rfl
  · intro l' past' h' later
    rw [htext l' past' h', htext l past h]

def loaderRecord (level : Level) : Record where
  logger := coreLogger "config.loader"
  level := level
  message := "Loading"
  line := some 12

/-- Earlier setups leave nothing behind: after one for debugging a record is written once and in
full, and what is written next is as the next setups say. -/
theorem log_of_debug_setup :
    lastSetup? [.setup 20, .record (loaderRecord 20), .setup 10] = some 10 ∧
      ((({} : Logger).run ([.setup 20, .record (loaderRecord 20), .setup 10] ++
        [.record (loaderRecord 10), .record (loaderRecord 20),
          .setup 20, .record (loaderRecord 10), .record (loaderRecord 40),
          .setup 40, .record (loaderRecord 30), .record (loaderRecord 50),
          .setup 0, .record (loaderRecord 20), .record (loaderRecord 30),
          .setup 20, .record { loaderRecord 30 with logger := "contractgen.cli" },
          .record { loaderRecord 30 with logger := "contractgen" }])).drop 3).map Prod.snd =
        [Text.ofString "DEBUG config.loader:12 - Loading\n",
          Text.ofString "INFO  config.loader:12 - Loading\n",
          [], [], Text.ofString "[config.loader] Loading\n",
          [], [], Text.ofString "Loading\n",
          [], [], Text.ofString "Loading\n",
          [], Text.ofString "[cli] Loading\n", Text.ofString "[contractgen] Loading\n"] := by
  have hlast : lastSetup? [.setup 20, .record (loaderRecord 20), .setup 10] = some 10 := by decide
  obtain ⟨_, _, htext, _⟩ := log_of_lastSetup {} hlast
  refine ⟨hlast, (htext _).trans ?_⟩
  decide

end Logger

end ClientBuilder.Logging
