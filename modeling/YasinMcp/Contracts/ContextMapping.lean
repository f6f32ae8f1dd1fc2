import YasinMcp.Governance.Lossless

/-!
# The mapping of a context

A context is shown as a mapping of its identifiers, its metadata and its trust, with the
version of the contract.  Without the version the mapping is validated to the context it
shows; with it the mapping is rejected, for the version is no field of a context.
-/

namespace YasinMcp

open Foundation

def integrationContractVersion : String := "1.0.0"

namespace IntegrationContext

def mapping (c : IntegrationContext) : List (Key × Value) :=
  c.toGovernanceContext.asDict ++ [(.str "trust", .str c.trust.value)]

def asDict (c : IntegrationContext) : List (Key × Value) :=
  c.mapping ++ [(.str "integration_contract_version", .str integrationContractVersion)]

/-!
## Its fields
-/

end IntegrationContext

end YasinMcp
