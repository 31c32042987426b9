/-
What an agent learns of the agents it may not call (`mcp/tools.rs`): the list
shows the visible ones only, and a refused call tells the name that its target
resolved to and nothing else.
-/
import IlinkHub.AclAlgebra
import IlinkHub.Alias
import IlinkHub.CallAgent

namespace IlinkHub

open Sample ClientInfo

variable {first second : KeyedRegistry} {names : List String}

namespace CallAgent

variable (call : CallAgent)

/-- The name of the caller as the gate reads it. -/
def callerName (registry : ClientRegistry) : String :=
  ((registry.getByVtoken call.ctx.callerVtoken).map name).getD "unknown"

/-- The answer to a call whose target is not among those the caller may call. -/
def refusal (callerName : String) : Option String → CallResult
  | none => errorContent ("Agent '" ++ call.params.targetName ++
      "' not found or not registered.")
  | some targetName => errorContent ("403: agent '" ++ targetName ++
      "' is not authorized for A2A calls from '" ++ callerName ++ "'")

variable {call} {registry : ClientRegistry}

/-- A call of a target that is not visible ends with its refusal. -/
theorem next_of_not_visible
    (hvisible : call.acl.visibleTargetsForAgent (call.callerName registry) = some names)
    (hhidden : ∀ target,
      registry.getByAlias call.params.targetName = some target →
        target.name ∉ names) {world later : World} {env after : Env}
    (henv : env.registry = registry) (hafter : after.registry = registry) :
    call.next later after (call.next world env start) =
      .finished (call.refusal (call.callerName registry)
        ((registry.getByAlias call.params.targetName).map name)) := by
  subst henv
  unfold start next
  cases htarget : env.registry.getByAlias call.params.targetName with
  | none => rfl
  | some target =>
    have hdenied : ¬ call.acl.allowsA2a (call.callerName env.registry) target.name = true := by
      rw [AgentAcl.allowsA2a_iff_all_visible, hvisible, Option.all_some, decide_eq_true_iff]
      exact hhidden target htarget
    simp only [hafter]
    exact if_neg hdenied

/-- Registries that agree on the caller and resolve the target to the same name,
or both to none, give a refused call the same answer. -/
theorem refused_answer_eq
    (hcaller : first.getByVtoken call.ctx.callerVtoken = second.getByVtoken call.ctx.callerVtoken)
    (hvisible : call.acl.visibleTargetsForAgent
      (call.callerName first.toClientRegistry) = some names)
    (hfirst : ∀ target, first.getByAlias call.params.targetName = some target → target.name ∉ names)
    (hnames : (first.getByAlias call.params.targetName).map name =
      (second.getByAlias call.params.targetName).map name) :
    ∃ result : CallResult, ∀ registry : KeyedRegistry,
      registry = first ∨ registry = second →
      ∀ world later env after, env.registry = registry.toClientRegistry → after.registry =
        registry.toClientRegistry → call.next later after (call.next world env start) =
          .finished result := by
  have hsame : call.callerName first.toClientRegistry =
      call.callerName second.toClientRegistry := by
    unfold callerName
    rw [hcaller]
  have hsecond : ∀ target,
      second.getByAlias call.params.targetName = some target → target.name ∉ names := by
    intro target htarget
    rw [htarget, Option.map_some, Option.map_eq_some_iff] at hnames
    obtain ⟨own, hown, hname⟩ := hnames
    rw [← hname]
    exact hfirst own hown
  refine ⟨call.refusal (call.callerName first.toClientRegistry)
    ((first.getByAlias call.params.targetName).map name), ?_⟩
  rintro registry (rfl | rfl) world later env after henv hafter
  · exact next_of_not_visible hvisible hfirst henv hafter
  · rw [hsame] at hvisible ⊢
    rw [hnames]
    exact next_of_not_visible hvisible hsecond henv hafter

end CallAgent

namespace Sample

/-- An agent that may call `pal` only asks for `secret`. -/
def askSecret : CallAgent where
  ctx := ⟨"c", "vctx", "ctx", "alice", 0⟩
  params := { targetName := "secret", message := "hello" }
  acl := (ParsedAcl.parse "caller->pal").toAgentAcl
  callId := "id"

def callerOnly : KeyedRegistry :=
  KeyedRegistry.new.insertClient { name := "caller", vtoken := "c" } rfl rfl

def callerAndSecret : KeyedRegistry :=
  callerOnly.insertClient { name := "secret", vtoken := "s" } rfl rfl

/-- The text of a finished call. -/
def answerText (call : CallAgent) (registry : KeyedRegistry) : Option String :=
  let env : Env := { now := 0, registry := registry.toClientRegistry }
  let world : World := ⟨⟨∅, ∅, ∅, 86400⟩, .new, .withLimit 10, []⟩
  match call.next world env (call.next world env CallAgent.start) with
  | .finished result => some result.text
  | _ => none

end Sample

/-- The refused agent is in both registries, online in one of them. -/
theorem CallAgent.refused_answer_secret : ∃ result : CallResult, ∀ registry : KeyedRegistry,
      registry = callerAndSecret ∨ registry = callerAndSecret.markOnline "s" →
      ∀ world later env after, env.registry = registry.toClientRegistry →
        after.registry = registry.toClientRegistry →
        askSecret.next later after (askSecret.next world env start) = .finished result := by
  have hvisible : askSecret.acl.visibleTargetsForAgent
      (askSecret.callerName callerAndSecret.toClientRegistry) = some ["pal"] := by
    decide +kernel
  exact refused_answer_eq (by decide +kernel) hvisible (by decide +kernel) (by decide +kernel)

/-- The answer tells a hidden agent from an absent one. -/
theorem CallAgent.refused_answer_discloses :
    callerOnly.getByVtoken "c" = callerAndSecret.getByVtoken "c" ∧
    ClientRegistry.AgreeOn ["pal"] callerOnly.toClientRegistry callerAndSecret.toClientRegistry ∧
    askSecret.acl.visibleTargetsForAgent "caller" = some ["pal"] ∧
    answerText askSecret callerOnly = some "Agent 'secret' not found or not registered." ∧
    answerText askSecret callerAndSecret =
      some "403: agent 'secret' is not authorized for A2A calls from 'caller'" := by
  refine ⟨by decide +kernel, ?_, by decide +kernel, by decide +kernel, by decide +kernel⟩
  exact KeyedRegistry.agreeOn_of_values [{ name := "secret", vtoken := "s" }] rfl (by decide)

end IlinkHub
