import ClientBuilder.ModelFile.Check
import ClientBuilder.ModelFile.Synthesize

/-!
Checking and synthesizing agree on a model file. One of them searches before it loads and the other
one loads what it searches for, but both come to the same model, the same load error or the same
fault.
-/

namespace ClientBuilder.ModelFile

/-- Two outcomes that are the same failure, or results that stand in a relation. -/
inductive SameOutcome {ε α β : Type} (R : α → β → Prop) : Except ε α → Except ε β → Prop where
  | error (e : ε) : SameOutcome R (.error e) (.error e)
  | ok {a : α} {b : β} (h : R a b) : SameOutcome R (.ok a) (.ok b)

/-- What the reports of a check and of a synthesis on the same file have to do with each other. -/
structure ReportsAgree (t : FileTree) (path : Option Path) (c : CheckReport)
    (s : SynthesisReport) : Prop where
  error_iff : s.errorText?.isSome = true ↔ c.model = none
  error_eq : c.model = none → (∃ p, choose t path = .ok (some p)) →
    ∃ message, s.errorText? = some message ∧ c.errors.map CheckError.message = [message]
  contract_eq : ∀ m, c.model = some m → s.contract? = some (synthesizeContract m)
  contract_iff : s.contract?.isSome = true ↔ s.errorText? = none
  error_ne_nil : ∀ message, s.errorText? = some message → message ≠ []
  valid_iff : c.valid = true ↔ c.errors = []
  model_of_valid : c.valid = true → c.model.isSome = true

theorem message_ne_nil (e : LoadError) : e.message ≠ [] := by
  have happ {front : String} (hp : Text.ofString front ≠ []) (r : Text) :
      Text.ofString front ++ r ≠ [] := List.append_ne_nil_of_left_ne_nil hp r
  cases e with
  | noModelFile => decide
  | unreadable path code reason =>
    simp only [LoadError.message, List.append_assoc]
    exact happ (by decide) _
  | notMapping path found =>
    simp only [LoadError.message, List.append_assoc]
    exact happ (by decide) _
  | _ => exact happ (by decide) _

/-- On a failure both reports agree. -/
theorem reportsAgree_error (t : FileTree) (path : Option Path) (e : LoadError)
    {c : CheckReport} {f : CheckError} (hm : c.model = none) (hv : c.valid = false)
    (he : c.errors = [f])
    (hf : (∃ p, choose t path = .ok (some p)) → f = .load e) :
    ReportsAgree t path c ⟨.error e, path⟩ where
  error_iff := by simp [SynthesisReport.errorText?, hm]
  error_eq _ hp := ⟨e.message, rfl, by rw [he, hf hp]; rfl⟩
  contract_eq m h := by rw [hm] at h; cases h
  contract_iff := by simp [SynthesisReport.contract?, SynthesisReport.errorText?, Except.toOption]
  error_ne_nil message h := by
    obtain rfl := Option.some.inj h
    exact message_ne_nil e
  valid_iff := by simp [hv, he]
  model_of_valid h := by rw [hv] at h; cases h

/-- On a model both reports agree. -/
theorem reportsAgree_ok (t : FileTree) (path : Option Path) (p : Path) (m : Capability) :
    ReportsAgree t path (.ofModel p m) ⟨.ok (synthesizeContract m), path⟩ where
  error_iff := by simp [SynthesisReport.errorText?, CheckReport.ofModel]
  error_eq h := by simp [CheckReport.ofModel] at h
  contract_eq k h := by
    obtain rfl := Option.some.inj h
    rfl
  contract_iff := by simp [SynthesisReport.contract?, SynthesisReport.errorText?, Except.toOption]
  error_ne_nil message h := by cases h
  valid_iff := by simp [CheckReport.ofModel]
  model_of_valid _ := rfl

theorem load_of_choose {t : FileTree} {path : Option Path} {p : Path}
    (h : choose t path = .ok (some p)) : load t path = loadFrom t p := by
  rw [load, h]
  exact Logged.pure_bind _ _

/-- A synthesis comes to a report unless loading comes to a fault. -/
theorem outcome_synthesize (t : FileTree) (path : Option Path) :
    (synthesize t path).outcome =
      match (load t path).outcome with
      | .ok m => .ok ⟨.ok (synthesizeContract m), path⟩
      | .error (.reported e) => .ok ⟨.error e, path⟩
      | .error (.fault f) => .error f := by
  rw [synthesize, Logged.outcome_bind, Logged.attempt]
  rcases (load t path).outcome with (e | f) | m
  · rfl
  · rfl
  · simp only [Except.bind, Logged.outcome_bind, Logged.logAll, Logged.outcome_pure]

/-- A check of a file comes to a report unless loading the file comes to a fault. -/
theorem outcome_check_of_choose {t : FileTree} {path : Option Path} {p : Path}
    (h : choose t path = .ok (some p)) :
    (check t path).outcome =
      match (loadFrom t p).outcome with
      | .ok m => .ok (.ofModel p m)
      | .error (.reported e) => .ok { modelPath := p, errors := [.load e] }
      | .error (.fault f) => .error f := by
  have hp : Logged.ofExcept ((Except.ok (some p)).mapError Fault.path) = pure (some p) := rfl
  rw [check, h, hp, Logged.pure_bind]
  dsimp only
  rw [Logged.outcome_bind, Logged.attempt]
  rcases (loadFrom t p).outcome with (e | f) | m <;> rfl

/-- On every tree of files, checking and synthesizing come to the same fault or to reports that
agree. -/
theorem check_synthesize_agree (t : FileTree) (path : Option Path) :
    SameOutcome (ReportsAgree t path) (check t path).outcome (synthesize t path).outcome := by
  cases hc : choose t path with
  | error e =>
    -- The search itself fails, before either of them reads anything.
    have hcheck : (check t path).outcome = .error (.path e) := by rw [check, hc]; rfl
    have hload : (load t path).outcome = .error (.fault (.path e)) := by rw [load, hc]; rfl
    rw [outcome_synthesize, hload, hcheck]
    exact .error _
  | ok found =>
    cases found with
    | none =>
      have hcheck : (check t path).outcome = .ok { errors := [.noModelFile] } := by
        rw [check, hc]
        rfl
      have hload : (load t path).outcome = .error (.reported .noModelFile) := by
        rw [load, hc]
        rfl
      rw [outcome_synthesize, hload, hcheck]
      refine .ok (reportsAgree_error t path _ rfl rfl rfl ?_)
      rintro ⟨p, hp⟩
      rw [hc] at hp
      cases hp
    | some p =>
      rw [outcome_synthesize, load_of_choose hc, outcome_check_of_choose hc]
      rcases (loadFrom t p).outcome with (e | f) | m
      · exact .ok (reportsAgree_error t path e rfl rfl rfl fun _ => rfl)
      · exact .error f
      · exact .ok (reportsAgree_ok t path p m)

end ClientBuilder.ModelFile
