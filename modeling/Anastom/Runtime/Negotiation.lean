import Anastom.Engine.EventValidation

/-! The capability decision a worker run records before it starts. -/
namespace Anastom

def assertRuntimeCapabilities (capabilities : RuntimeCapabilities) : Except Failure Unit :=
  require capabilities.valid
    (.preflight .runtimeUnavailable "Runtime returned an invalid capability snapshot")

/-- Check recorded requirements against the selected adapter and the filesystem mode. -/
def assertRuntimeNegotiation (value : RuntimeNegotiation) (runtimeId : String)
    (workspaceMode : MutationMode) : Except Failure Unit := do
  assertRuntimeCapabilities value.capabilities
  require (value.runtimeId == runtimeId && value.workspaceMode == workspaceMode)
    (.preflight .policyViolation
      "Runtime negotiation does not match the selected worker and workspace")
  let mode := match workspaceMode with
    | .readonly => WorkspaceMode.readonly
    | .isolated => .isolated
  require (value.capabilities.workspaceModes.any (·.contains mode))
    (.preflight .policyViolation ("Selected runtime does not declare support for the requested " ++
      workspaceMode.text ++ " workspace"))
  require (value.capabilities.cancellation && value.capabilities.structuredOutput != .none)
    (.preflight .policyViolation
      "Selected runtime requires confirmed cancellation and validated structured output support")

/-- The decision about capabilities a probe has answered. -/
def probeRuntime (capabilities : Except Failure RuntimeCapabilities) (runtimeId : String)
    (workspaceMode : MutationMode) : Except Failure RuntimeNegotiation := do
  let capabilities ← match capabilities with
    | .ok capabilities => .ok capabilities
    | .error (.preflight category message) => .error (.preflight category message)
    | .error _ => .error (.preflight .runtimeUnavailable
        "Runtime capability probe failed; check installation and authentication readiness")
  assertRuntimeCapabilities capabilities
  let decision : RuntimeNegotiation := { runtimeId, workspaceMode, capabilities }
  assertRuntimeNegotiation decision runtimeId workspaceMode
  pure decision

theorem assertRuntimeNegotiation_valid {value : RuntimeNegotiation} {runtimeId : String}
    {workspaceMode : MutationMode} {u : Unit}
    (accepted : assertRuntimeNegotiation value runtimeId workspaceMode = .ok u) :
    value.capabilities.valid = true := by
  unfold assertRuntimeNegotiation at accepted
  obtain ⟨_, capabilities, _⟩ := bind_ok.mp accepted
  exact require_ok.mp capabilities

end Anastom
