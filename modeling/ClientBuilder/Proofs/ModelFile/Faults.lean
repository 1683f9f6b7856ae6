import ClientBuilder.CommandLine.Run
import ClientBuilder.Proofs.ModelFile.Agreement
import ClientBuilder.Proofs.ModelFile.Documents

namespace ClientBuilder

namespace ModelFile

/-- What a path leads to that loading does not answer for. -/
inductive Faulty (t : FileTree) (p : Path) : Fault → Prop where
  | path {e : PathError} (h : t.find? p = .error e) : Faulty t p (.path e)
  | notUnicode {content : List UInt8} (hf : t.find? p = .ok (some (.file content)))
      (hu : Text.ofUtf8? content = none) : Faulty t p .notUnicode
  | scalar {content : List UInt8} {text : String} {fault : Yaml.ScalarFault}
      (hf : t.find? p = .ok (some (.file content))) (ht : decodeText content = .ok text)
      (hy : Value.ofYaml text = .error (.scalar fault)) : Faulty t p (.scalar fault)
  | tooDeep {content : List UInt8} {text : String}
      (hf : t.find? p = .ok (some (.file content))) (ht : decodeText content = .ok text)
      (hy : Value.ofYaml text = .error .tooDeep) : Faulty t p .tooDeep

theorem decodeText_cases (content : List UInt8) :
    (Text.ofUtf8? content = none ∧ decodeText content = .error (.fault .notUnicode)) ∨
      ∃ text, decodeText content = .ok text := by
  rw [decodeText]
  cases Text.ofUtf8? content with
  | none => exact Or.inl ⟨rfl, rfl⟩
  | some s => exact Or.inr ⟨_, rfl⟩

/-- A text is read as a mapping or not at all. -/
theorem mapping_of_parseText {p : Path} {text : String} {v : Value}
    (h : parseText p text = .ok v) : ∃ pairs, v = .mapping pairs := by
  rw [parseText] at h
  split at h
  case h_4 pairs _ => exact ⟨pairs, (Except.ok.inj h).symm⟩
  all_goals cases h

theorem parseText_eq_fault_iff {p : Path} {text : String} {f : Fault} :
    parseText p text = .error (.fault f) ↔
      (∃ fault, f = .scalar fault ∧ Value.ofYaml text = .error (.scalar fault)) ∨
        (f = .tooDeep ∧ Value.ofYaml text = .error .tooDeep) := by
  rw [parseText]
  rcases Value.ofYaml text with (_ | _ | fault) | v
  · simp
  · simp [eq_comm]
  · simp [eq_comm]
  · cases v <;> simp

/-- Reading a document by cases of what the path leads to. -/
theorem outcome_readDocument (t : FileTree) (p : Path) :
    (readDocument t p).outcome =
      match t.find? p with
      | .error e => .error (.fault (.path e))
      | .ok (some (.file content)) => (decodeText content).bind (parseText p)
      | .ok (some (.unreadable code reason)) => .error (.reported (.unreadable p.text code reason))
      | .ok _ => .error (.reported (.fileNotFound p.text)) := by
  rw [readDocument, Logged.outcome_bind, followed]
  rcases t.find? p with e | _ | content | ⟨code, reason⟩ | _ <;> rfl

theorem mapping_of_readDocument {t : FileTree} {p : Path} {v : Value}
    (h : (readDocument t p).outcome = .ok v) : ∃ pairs, v = .mapping pairs := by
  rw [outcome_readDocument] at h
  split at h
  case h_2 content _ =>
    rcases decodeText_cases content with ⟨_, hd⟩ | ⟨text, hd⟩
    · rw [hd] at h
      cases h
    · rw [hd] at h
      exact mapping_of_parseText h
  all_goals cases h

/-- Reading ends in a fault exactly for the reasons listed. -/
theorem outcome_readDocument_eq_fault_iff {t : FileTree} {p : Path} {f : Fault} :
    (readDocument t p).outcome = .error (.fault f) ↔ Faulty t p f := by
  rw [outcome_readDocument]
  constructor
  · intro h
    split at h
    case h_1 e hf =>
      obtain rfl : Fault.path e = f := by simpa using h
      exact .path hf
    case h_2 content hf =>
      rcases decodeText_cases content with ⟨hu, hd⟩ | ⟨text, ht⟩
      · rw [hd] at h
        obtain rfl : Fault.notUnicode = f := by simpa [Except.bind] using h
        exact .notUnicode hf hu
      · rw [ht] at h
        rcases parseText_eq_fault_iff.mp h with ⟨fault, rfl, hy⟩ | ⟨rfl, hy⟩
        · exact .scalar hf ht hy
        · exact .tooDeep hf ht hy
    all_goals cases h
  · intro h
    cases h with
    | path hf => rw [hf]
    | notUnicode hf hu =>
      rw [hf]
      simp only [decodeText, hu, Except.bind]
    | scalar hf ht hy =>
      rw [hf]
      simp only [ht, Except.bind]
      exact parseText_eq_fault_iff.mpr (Or.inl ⟨_, rfl, hy⟩)
    | tooDeep hf ht hy =>
      rw [hf]
      simp only [ht, Except.bind]
      exact parseText_eq_fault_iff.mpr (Or.inr ⟨rfl, hy⟩)

theorem outcome_loadFrom (t : FileTree) (p : Path) :
    (loadFrom t p).outcome =
      (readDocument t p).outcome.bind fun v => (ModelDocument.toCapability v).outcome := by
  rw [loadFrom, Logged.outcome_bind]
  refine congrArg _ (funext fun v => ?_)
  rw [Logged.outcome_bind]
  cases (ModelDocument.toCapability v).outcome <;> rfl

/-- Validation and derivation have no faults of their own, so loading has those of reading. -/
theorem outcome_load_eq_fault_iff {t : FileTree} {p : Path} {f : Fault} :
    (load t (some p)).outcome = .error (.fault f) ↔ Faulty t p f := by
  rw [load_of_choose rfl, outcome_loadFrom, ← outcome_readDocument_eq_fault_iff]
  cases hr : (readDocument t p).outcome with
  | error e => simp only [Except.bind, Except.error.injEq]
  | ok v =>
    -- What was read is a mapping, and that comes to a model or to a report.
    obtain ⟨pairs, rfl⟩ := mapping_of_readDocument hr
    rcases ModelDocument.outcome_toCapability_cases pairs with ⟨m, hm⟩ | ⟨report, hm⟩ <;>
      simp [Except.bind, hm]

end ModelFile

end ClientBuilder
