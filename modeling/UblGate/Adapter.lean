import UblGate.Json

/-!
# WASM adapter declarations

`AdapterRuntimeInfo.parseOptional` reads the `adapter` member of a chip body: the module
hash and ABI version it must declare, the optional module source, budgets and attestation,
and the two lists the transition stage enforces, the declared capabilities and the receipt
claims the adapter must bind.  The hash must be 64 hexadecimal digits and the ABI version
`1.0`; anything else in the object is read leniently, and a list member that is not an
array, or an element that is not a string, is left out rather than refused.
-/

namespace UblGate

/-- `PipelineError`, with the variant the adapter parser raises. -/
inductive PipelineError where
  | invalidChip (message : String)
  deriving DecidableEq, Repr

section

variable {p : String → Bool} {k : String}

end

section

variable {adapter : List (String × Json)} {k : String}

end

end UblGate
