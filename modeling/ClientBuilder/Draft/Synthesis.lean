import ClientBuilder.Draft.Basic
import ClientBuilder.ModelIssues
import ClientBuilder.Synthesis

namespace ClientBuilder.Draft

open Capability (Field)
open Validation

def typeField? : Slot → Option Field
  | .serviceConfiguration => some .serviceConfigType
  | .endpointProvider => some .endpointProviderType
  | .authSchemeProvider => some .authSchemeProviderType
  | _ => none

def textIssue? (name : String) (v : Value) : Option Issue :=
  match v with
  | .text _ => none
  | v => some ⟨[.key name], .notText, v.kind⟩

def typeReport? (d : Draft) (field : Field) : Option Report :=
  if d.given field then
    (textIssue? "type" (d.value field)).map fun i => ⟨.parameter, [i]⟩
  else none

def slotReport? (d : Draft) (supplies : Supplies) (slot : Slot) : Option Report :=
  if slot.applies d.toCapability then
    match supplies.supply slot with
    | .given _ => none
    | .slot s => (typeField? s).bind d.typeReport?
  else none

def synthesize (d : Draft) (supplies : Supplies := .empty) : Except Report (List Method) :=
  match Slot.all.findSome? (d.slotReport? supplies) with
  | some r => .error r
  | none => .ok (ClientBuilder.synthesize d.toCapability supplies.providers)

def interfaceIssues (d : Draft) : List Issue :=
  (textIssue? "interface_name" (d.property .baseBuilderInterfaceName)).toList
    ++ (textIssue? "package" (d.value .basePackage)).toList

def contract (d : Draft) : Except Report Contract := do
  let _ ← d.synthesize
  match d.interfaceIssues with
  | [] => return synthesizeContract d.toCapability
  | issues => throw ⟨.contract, issues⟩

def warnings (d : Draft) : List ModelWarning :=
  -- A service name that does not count as given is none.
  ModelWarning.of (d.given .endpointDiscoveryRequired) (d.given .hasEndpointDiscoveryOperation)
    (d.given .serviceName)

end ClientBuilder.Draft
