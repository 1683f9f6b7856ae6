import ClientBuilder.Catalog.Methods
import ClientBuilder.Contract.Basic
import ClientBuilder.Logging.Record

/-!
Synthesis of builder contracts: each slot that applies to a model contributes its methods, in the
order of the slots. The methods of a slot can be supplied from outside, by a provider under the
slot's key.
-/

namespace ClientBuilder

abbrev Expander :=
  Capability → List Method

abbrev Providers :=
  OrderedMap Expander

def Providers.expander (providers : Providers) (slot : Slot) : Expander :=
  (providers.get? slot.key).getD slot.methods

/-- What the methods of a slot are supplied from. -/
inductive Supply where
  -- The rules of a slot, this one or another one.
  | slot (s : Slot)
  -- Methods that do not depend on the model.
  | given (methods : List Method)
  deriving Repr, DecidableEq

def Supply.expander : Supply → Expander
  | slot s => s.methods
  | given methods => fun _ => methods

abbrev Supplies :=
  OrderedMap Supply

namespace Supplies

def providers (supplies : Supplies) : Providers :=
  .ofList (supplies.pairs.map fun p => (p.1, p.2.expander))

def supply (supplies : Supplies) (slot : Slot) : Supply :=
  (supplies.get? slot.key).getD (.slot slot)

end Supplies

def slotBlock (m : Capability) (providers : Providers) (slot : Slot) : List Method :=
  if slot.applies m then providers.expander slot m else []

/-- The methods of the contract of a model. -/
def synthesize (m : Capability) (providers : Providers := .empty) : List Method :=
  Slot.all.flatMap (slotBlock m providers)

def slotRecord (m : Capability) (providers : Providers) (slot : Slot) : Logging.Record :=
  let block := slotBlock m providers slot
  .debug "services.generators.synthesizer" <|
    slot.key ++ ": +" ++ Text.natText block.length ++ " ("
      ++ Text.join ", " (block.map (·.name)) ++ ")"

def synthesisRecords (m : Capability) (providers : Providers := .empty) : List Logging.Record :=
  (Slot.all.filter fun s => s.applies m).map (slotRecord m providers)
    ++ [.debug "services.generators.synthesizer" <|
      "Synthesized " ++ Text.natText (synthesize m providers).length ++ " methods for '"
        ++ m.serviceName ++ "'"]

def synthesizeContract (m : Capability) (providers : Providers := .empty) : Contract where
  interfaceName := m.baseBuilderInterfaceName
  package := m.basePackage
  typeVariables := ["B extends " ++ m.baseBuilderInterfaceName ++ "<B, C>", "C"]
  superInterface := "AwsClientBuilder<B, C>"
  annotations := ["SdkPublicApi"]
  documentation := "This includes configuration specific to " ++ m.displayName
    ++ " that is supported by both " ++ link m.syncBuilderInterfaceName ++ " and "
    ++ link m.asyncBuilderInterfaceName ++ "."
  methods := synthesize m providers

end ClientBuilder
