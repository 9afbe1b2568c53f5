/-
# The Chaos Mesh adapter

`ChaosMeshAdapter` of `chaos_adapter.py`: registered manifests are applied and
deleted with `kubectl`.  The command runner, the files and the clock are computations
of the environment; `_run` turns every exception of the runner into a return code.

A manifest is the list of the components of its resolved path.
-/

import AiopsK8s.Experiment.Runtime

namespace AiopsK8s
namespace Experiment

open Effect

variable {σ : Type}

/-- `str(path)` of a resolved path. -/
def pathText (path : List String) : String := "/" ++ String.intercalate "/" path

/-- `ChaosScenario`. -/
structure ChaosScenario where
  scenarioId : String
  manifest : List String
  kind : String
  deriving DecidableEq, Repr

/-- `ChaosApplication`. -/
structure ChaosApplication where
  scenario : ChaosScenario
  appliedAt : String
  valid : Bool
  stdout : String
  stderr : String
  cleanupRequired : Bool
  deriving DecidableEq, Repr

/-- `ChaosMeshAdapter`. -/
structure ChaosMeshAdapter (σ : Type) where
  runner : List String → Eff σ RuntimeException (ℤ × String × String)
  sleeper : Eff σ RuntimeException Unit
  isFile : List String → Eff σ RuntimeException Bool
  readText : List String → Eff σ RuntimeException String
  now : Eff σ RuntimeException String
  manifestRoot : List String
  waitTimeoutSeconds : ℕ
  commandTimeoutSeconds : ℕ
  scenarios : List (String × ChaosScenario)

/-- `_SUPPORTED_KINDS`. -/
def supportedKinds : List String :=
  ["stresschaos", "networkchaos", "podchaos", "iochaos", "timechaos"]

/-- `_KIND_PATTERN` on the characters of a line: `kind`, a colon and a name, with spaces
between them and a comment at most after them. -/
def matchKind (line : List Char) : Option (List Char) :=
  match line.dropWhile Text.isSpace with
  | 'k' :: 'i' :: 'n' :: 'd' :: rest =>
    match rest.dropWhile Text.isSpace with
    | ':' :: rest =>
      let value := rest.dropWhile Text.isSpace
      let isName := fun c : Char => c.toNat < 128 && c.isAlphanum
      let kind := value.takeWhile isName
      match kind, (value.dropWhile isName).dropWhile Text.isSpace with
      | [], _ => none
      | _, [] => some kind
      | _, '#' :: _ => some kind
      | _, _ => none
    | _ => none
  | _ => none

/-- `stdout.split()` of one line. -/
def splitWords (line : List Char) : List (List Char) :=
  (line.splitOnP Text.isSpace).filter fun word => !word.isEmpty

namespace ChaosMeshAdapter

variable (adapter : ChaosMeshAdapter σ)

/-- The timeout of a command. -/
def timeoutOf (argv : List String) : ℕ :=
  match argv with
  | _ :: "wait" :: _ => adapter.commandTimeoutSeconds + adapter.waitTimeoutSeconds
  | _ => adapter.commandTimeoutSeconds

/-- `_run`. -/
def command (argv : List String) : Eff σ RuntimeException (ℤ × String × String) := do
  let outcome ← Eff.attempt (fun _ => true) (adapter.runner argv)
  match outcome with
  | .ok reply => pure reply
  | .error (.timeoutExpired stdout stderr _) =>
    pure (124, stdout, stderr ++ "command timed out after " ++ toString (adapter.timeoutOf argv) ++
      "s")
  | .error e => pure (if e.isOSError then 126 else 125, "", e.text)

/-- A manifest below the manifest root. -/
def IsSafe (manifest : List String) : Prop := adapter.manifestRoot <+: manifest

instance (manifest : List String) : Decidable (adapter.IsSafe manifest) :=
  inferInstanceAs (Decidable (_ <+: _))

/-- `_assert_manifest_is_safe`. -/
def assertManifestIsSafe (manifest : List String) : Except RuntimeException Unit :=
  rejectIf (¬adapter.IsSafe manifest) (.value ("manifest must resolve under " ++
    pathText adapter.manifestRoot ++ ": " ++ pathText manifest))

/-- The kind that the lines of a manifest give. -/
def kindOf (manifest : List String) : List (List Char) → Except RuntimeException String
  | [] => .error (.value ("manifest kind is missing: " ++ pathText manifest))
  | line :: lines =>
    match matchKind line with
    | none => kindOf manifest lines
    | some kind =>
      if String.ofList (kind.map Char.toLower) ∈ supportedKinds then .ok (String.ofList kind)
      else .error (.value ("unsupported Chaos Mesh resource kind: " ++ String.ofList kind))

/-- `_read_kind`. -/
def readKind (manifest : List String) : Eff σ RuntimeException String := do
  let outcome ← Eff.attempt RuntimeException.isOSError (adapter.readText manifest)
  match outcome with
  | .error _ => Eff.raise (.value ("cannot read manifest: " ++ pathText manifest))
  | .ok text => Eff.ofExcept (kindOf manifest (Text.splitLinesChars [] text.toList))

/-- The check of one registered scenario in `preflight`. -/
def checkScenario (scenario : ChaosScenario) : Eff σ RuntimeException Unit := do
  Eff.ofExcept (adapter.assertManifestIsSafe scenario.manifest)
  let present ← adapter.isFile scenario.manifest
  Eff.raiseIf (present = false)
    (.value ("manifest does not exist: " ++ pathText scenario.manifest))
  let _ ← adapter.readKind scenario.manifest
  pure ()

/-- The resource kinds that `kubectl api-resources` lists. -/
def resourcesOf (stdout : String) : List String :=
  (Text.splitLinesChars [] stdout.toList).flatMap fun line =>
    (splitWords line).map fun word => String.ofList (word.map Char.toLower)

/-- The `try` block of `preflight`. -/
def preflightBody : Eff σ RuntimeException ChaosStatus := do
  adapter.scenarios.forM fun scenario => adapter.checkScenario scenario.2
  let kinds ← adapter.scenarios.mapM fun scenario => adapter.readKind scenario.2.manifest
  let required := (kinds.map fun kind => String.ofList (kind.toList.map Char.toLower)).dedup
  if required.isEmpty then
    pure ⟨false, some "no chaos scenarios are registered"⟩
  else do
    let (code, stdout, stderr) ← adapter.command ["kubectl", "api-resources"]
    let missing := (required.filter (· ∉ resourcesOf stdout)).mergeSort (· ≤ ·)
    pure <|
      if code ≠ 0 then
        ⟨false, some (if stderr = "" then "kubectl api-resources failed" else stderr)⟩
      else if missing ≠ [] then
        ⟨false, some ("missing Chaos Mesh resources: " ++ String.intercalate ", " missing)⟩
      else ⟨true, some stderr⟩

/-- `preflight`. -/
def preflight : Eff σ RuntimeException ChaosStatus := do
  let caught := fun e : RuntimeException => e.isOSError || e.isValueError
  let outcome ← Eff.attempt caught adapter.preflightBody
  match outcome with
  | .ok status => pure status
  | .error e => pure ⟨false, some e.text⟩

/-- The argument vectors of `inject` and `cleanup`. -/
def applyArgv (manifest : List String) : List String :=
  ["kubectl", "apply", "-f", pathText manifest]

def waitArgv (manifest : List String) : List String :=
  ["kubectl", "wait", "--for=condition=AllInjected", "-f", pathText manifest,
    "--timeout=" ++ toString adapter.waitTimeoutSeconds ++ "s"]

def deleteArgv (manifest : List String) : List String :=
  ["kubectl", "delete", "-f", pathText manifest, "--ignore-not-found"]

/-- The part of `inject` after a successful `kubectl apply`. -/
def awaitInjected (scenario : ChaosScenario) (appliedAt applyOut applyErr : String) :
    Eff σ RuntimeException ChaosApplication := do
  let outcome ← Eff.attempt (fun _ => true) adapter.sleeper
  match outcome with
  | .error e => pure ⟨scenario, appliedAt, false, applyOut, applyErr ++ e.text, true⟩
  | .ok _ => do
    let (code, stdout, stderr) ← adapter.command (adapter.waitArgv scenario.manifest)
    pure ⟨scenario, appliedAt, code == 0, applyOut ++ stdout, applyErr ++ stderr, true⟩

/-- The part of `inject` after the scenario was found. -/
def applyScenario (scenario : ChaosScenario) : Eff σ RuntimeException ChaosApplication := do
  Eff.ofExcept (adapter.assertManifestIsSafe scenario.manifest)
  let kind ← adapter.readKind scenario.manifest
  let appliedAt ← adapter.now
  let (code, stdout, stderr) ← adapter.command (applyArgv scenario.manifest)
  if code ≠ 0 then
    pure ⟨{ scenario with kind }, appliedAt, false, stdout, stderr, true⟩
  else
    adapter.awaitInjected { scenario with kind } appliedAt stdout stderr

/-- `inject`. -/
def inject (scenarioId : String) : Eff σ RuntimeException ChaosApplication :=
  match adapter.scenarios.lookup (Text.strip scenarioId) with
  | none => Eff.raise (.value ("unknown chaos scenario: " ++ scenarioId))
  | some scenario => adapter.applyScenario scenario

/-- `cleanup`. -/
def cleanup (application : ChaosApplication) : Eff σ RuntimeException ChaosCleanup := do
  Eff.ofExcept (adapter.assertManifestIsSafe application.scenario.manifest)
  let (code, stdout, stderr) ← adapter.command (deleteArgv application.scenario.manifest)
  pure ⟨code == 0, stdout, stderr, code != 0⟩

/-- The adapter as the runtime uses it. -/
def toChaos : Chaos σ ChaosApplication :=
  { preflight := adapter.preflight
    inject := fun scenarioId => some <$> adapter.inject scenarioId
    status := fun application => ⟨application.valid, some application.stderr⟩
    cleanup := fun application => CleanupResult.chaosCleanup <$> adapter.cleanup application }

/-- A command raises nothing: an exception of the runner is a return code. -/
theorem command_ok (argv : List String) (w : σ) :
    ∃ reply w', (adapter.command argv).run w = (.ok reply, w') := by
  unfold command
  rcases hr : (Eff.attempt (fun _ => true) (adapter.runner argv)).run w with ⟨r, w'⟩
  rw [Eff.run_bind, hr]
  rcases Eff.run_attempt_cases hr with ⟨reply, _, rfl⟩ | ⟨e, _, _, rfl⟩ | ⟨e, _, hc, _⟩
  · exact ⟨reply, w', rfl⟩
  · cases e <;> exact ⟨_, w', rfl⟩
  · cases hc

/-- **An injected application has a safe manifest**: `inject` has checked it. -/
theorem inject_safe {scenarioId : String} {w w' : σ} {application : ChaosApplication}
    (h : (adapter.inject scenarioId).run w = (.ok application, w')) :
    adapter.IsSafe application.scenario.manifest := by
  unfold inject at h
  split at h
  · cases h
  · rename_i scenario _
    obtain ⟨⟨⟩, w₁, hsafe, h⟩ := Eff.run_bind_ok h
    have hs : adapter.IsSafe scenario.manifest := by
      rw [Eff.run_ofExcept, Prod.mk.injEq] at hsafe
      simpa [assertManifestIsSafe] using hsafe.1
    obtain ⟨kind, w₂, _, h⟩ := Eff.run_bind_ok h
    obtain ⟨appliedAt, w₃, _, h⟩ := Eff.run_bind_ok h
    obtain ⟨⟨code, stdout, stderr⟩, w₄, _, h⟩ := Eff.run_bind_ok h
    dsimp only at h
    split at h
    · cases h
      exact hs
    · obtain ⟨outcome, w₅, _, h⟩ := Eff.run_bind_ok h
      cases outcome with
      | error e =>
          cases h
          exact hs
      | ok u =>
          obtain ⟨⟨code, stdout, stderr⟩, w₆, _, h⟩ := Eff.run_bind_ok h
          cases h
          exact hs

/-- **A cleanup of a safe manifest raises nothing**, and is valid exactly if
`kubectl delete` returned 0. -/
theorem cleanup_ok {application : ChaosApplication}
    (hsafe : adapter.IsSafe application.scenario.manifest) (w : σ) :
    ∃ code stdout stderr w',
      (adapter.command (deleteArgv application.scenario.manifest)).run w
        = (.ok (code, stdout, stderr), w') ∧
      (adapter.cleanup application).run w
        = (.ok ⟨code == 0, stdout, stderr, code != 0⟩, w') := by
  obtain ⟨⟨code, stdout, stderr⟩, w', hr⟩ :=
    adapter.command_ok (deleteArgv application.scenario.manifest) w
  refine ⟨code, stdout, stderr, w', hr, ?_⟩
  unfold cleanup
  have hassert : adapter.assertManifestIsSafe application.scenario.manifest = .ok () := by
    simpa [assertManifestIsSafe] using hsafe
  rw [hassert, Eff.run_bind, Eff.run_ofExcept]
  dsimp only
  rw [Eff.run_bind, hr]
  rfl

end ChaosMeshAdapter

end Experiment
end AiopsK8s
