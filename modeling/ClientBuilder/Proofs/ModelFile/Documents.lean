import ClientBuilder.ModelFile.Document
import ClientBuilder.ModelIssues
import ClientBuilder.Proofs.Capability.Written
import ClientBuilder.Synthesis

namespace ClientBuilder.ModelDocument

open Validation

def ofCapabilities (pairs : Pairs) : Value :=
  .mapping [(.text capabilitiesKey, .mapping pairs)]

def contract (document : Value) : Except Failure Contract :=
  (toCapability document).outcome.map fun m => synthesizeContract m

def issues (document : Value) : Except Failure (List ModelError × List ModelWarning) :=
  (toCapability document).outcome.map fun m => (m.errors, m.warnings)

theorem outcome_checked {α : Type} (shape : Shape) (x : Checked α) :
    (checked shape x).outcome =
      (x.toExcept shape).mapError fun report => .reported (.invalidModel report) := by
  cases x <;> rfl

/-- A mapping gives capabilities if it has the key for them. -/
theorem outcome_toCapability_mapping (pairs : Pairs) :
    (toCapability (.mapping pairs)).outcome =
      match Value.lookup pairs capabilitiesKey with
      | some given => (checked .capability
          (Capability.decode (if given.isTruthy then given else .mapping []))).outcome
      | none =>
        (checked .service (Service.decode (.mapping pairs))).outcome.map Service.toCapability := by
  have hc : Logged.ofExcept (capabilities? (.mapping pairs)) =
      (pure (Value.lookup pairs capabilitiesKey) : Logged Failure (Option Value)) := rfl
  rw [toCapability, hc, Logged.pure_bind]
  cases Value.lookup pairs capabilitiesKey with
  | some given => rfl
  | none =>
    dsimp only
    rw [Logged.outcome_bind]
    cases (checked .service (Service.decode (.mapping pairs))).outcome <;> rfl

/-- A mapping comes to a model or to a report. -/
theorem outcome_toCapability_cases (pairs : Pairs) :
    (∃ m, (toCapability (.mapping pairs)).outcome = .ok m) ∨
      ∃ report, (toCapability (.mapping pairs)).outcome =
        .error (.reported (.invalidModel report)) := by
  rw [outcome_toCapability_mapping]
  cases Value.lookup pairs capabilitiesKey with
  | some given =>
    simp only [outcome_checked]
    cases (Capability.decode (if given.isTruthy then given else .mapping [])).toExcept _ with
    | ok m => exact Or.inl ⟨m, rfl⟩
    | error report => exact Or.inr ⟨report, rfl⟩
  | none =>
    simp only [outcome_checked]
    cases (Service.decode (.mapping pairs)).toExcept _ with
    | ok d => exact Or.inl ⟨d.toCapability, rfl⟩
    | error report => exact Or.inr ⟨report, rfl⟩

/-- A document that gives what a model writes comes to that model. -/
theorem outcome_ofCapabilities {m : Capability} {pairs : Pairs} (h : m.WrittenIn pairs) :
    (toCapability (ofCapabilities pairs)).outcome = .ok m := by
  have hl : Value.lookup [(.text capabilitiesKey, .mapping pairs)] capabilitiesKey =
      some (.mapping pairs) := by
    simp only [Value.lookup, List.find?_cons, Value.isText, beq_self_eq_true, Option.map_some]
  -- A mapping without pairs counts as not given, and then stands for itself.
  have hg : (if (Value.mapping pairs).isTruthy then Value.mapping pairs else .mapping []) =
      .mapping pairs := by
    cases pairs <;> rfl
  rw [ofCapabilities, outcome_toCapability_mapping, hl]
  dsimp only
  rw [hg, h.decode_eq]
  rfl

/-- All fields of a model, in any order and with or without its configuration flag, make a document
that comes to the model, and to the contract and issues of every document that does. -/
theorem toCapability_written {m : Capability} {flags pairs : Pairs}
    (hf : flags.Sublist m.levelFlagPairs) (hp : pairs.Perm (m.toPairs ++ flags)) :
    (toCapability (ofCapabilities pairs)).outcome = .ok m ∧
      ∀ document, (toCapability document).outcome = .ok m →
        contract (ofCapabilities pairs) = contract document ∧
          issues (ofCapabilities pairs) = issues document := by
  have hw := outcome_ofCapabilities (Capability.writtenIn_of_perm hf hp)
  refine ⟨hw, fun document hd => ⟨?_, ?_⟩⟩
  · rw [contract, contract, hw, hd]
  · rw [issues, issues, hw, hd]

def queueDocument : Value :=
  let param (type : Text) : Value := .mapping [(.text "type", .text type)]
  .mapping [
    (.text "service", .mapping [(.text "name", .text "Queue"),
      (.text "auth", .list [.text "aws.auth#sigv4a"])]),
    (.text "client_context_params", .mapping [(.text "UseArnRegion", param "Boolean"),
      (.text "Accelerate", param "Boolean")]),
    (.text "customization", .mapping [(.text "service_config", .text "QueueConfiguration"),
      (.text "custom_client_context_params", .mapping [(.text "Stage", param "String")])]),
    (.text "operations", .mapping [(.text "Send", .mapping [(.text "http_checksum",
      .mapping [(.text "request_algorithm_member", .text "algorithm")])])])]

def queueCapability : Capability where
  serviceName := "Queue"
  serviceConfigType := some "QueueConfiguration"
  clientContextParams :=
    .ofList [("UseArnRegion", ⟨"Boolean", []⟩), ("Accelerate", ⟨"Boolean", []⟩)]
  customClientContextParams := .ofList [("Stage", ⟨"String", []⟩)]
  hasRequestChecksumCapability := true
  supportsSigv4aRegionSet := true

theorem queueDocument_written :
    let flag : Value × Value := (.text "has_service_level_config", .bool true)
    (toCapability queueDocument).outcome = .ok queueCapability ∧
      [flag].Sublist queueCapability.levelFlagPairs ∧
        (flag :: queueCapability.toPairs).Perm (queueCapability.toPairs ++ [flag]) ∧
          (toCapability (ofCapabilities (flag :: queueCapability.toPairs))).outcome =
            (toCapability queueDocument).outcome ∧
          contract (ofCapabilities (flag :: queueCapability.toPairs)) = contract queueDocument := by
  intro flag
  have hd : (toCapability queueDocument).outcome = .ok queueCapability := by
    rfl
  have hf : [flag].Sublist queueCapability.levelFlagPairs :=
    List.singleton_sublist.mpr (List.mem_cons_of_mem _ List.mem_cons_self)
  have hp := (List.perm_append_singleton flag queueCapability.toPairs).symm
  have h := toCapability_written hf hp
  exact ⟨hd, hf, hp, h.1.trans hd.symm, (h.2 queueDocument hd).1⟩

end ClientBuilder.ModelDocument
