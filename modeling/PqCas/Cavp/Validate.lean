import PqCas.Lib.Fallible
import PqCas.Lib.Json
import PqCas.Lib.Text

/-!
This module contains the grader of submitted ACVP `results.json` files: the parameter sets of FIPS
204, the comparison of one case and `validate`.
-/

namespace PqCas

namespace cavp

structure ParameterSet where
  name : String
  pkLen : Nat
  skLen : Nat
  sigLen : Nat
  seedLen : Nat
  deriving DecidableEq, Repr

def ML_DSA_44 : ParameterSet :=
  {
    name := "ML-DSA-44"
    pkLen := 1312
    skLen := 2560
    sigLen := 2420
    seedLen := 32
  }

def ML_DSA_65 : ParameterSet :=
  {
    name := "ML-DSA-65"
    pkLen := 1952
    skLen := 4032
    sigLen := 3309
    seedLen := 32
  }

def ML_DSA_87 : ParameterSet :=
  {
    name := "ML-DSA-87"
    pkLen := 2592
    skLen := 4896
    sigLen := 4627
    seedLen := 32
  }

def ALL : List ParameterSet := [ML_DSA_44, ML_DSA_65, ML_DSA_87]

def lookup (name : String) : Option ParameterSet :=
  ALL.find? (fun p => Text.eqIgnoreAsciiCase p.name name)

inductive ValidateError where
  | json (err : String)
  | unknownParameterSet (name : String)
  | modeMismatch (got want : String)
  | vsIdMismatch (got want : Int)
  | missingTestGroups
  deriving DecidableEq, Repr

inductive CaseStatus where
  | correct
  | incorrect
  | malformed
  | missing
  deriving DecidableEq, Repr

structure CaseResult where
  tcId : Int
  status : CaseStatus
  field : Option String
  reason : Option String
  deriving DecidableEq, Repr

structure ValidationReport where
  vsId : Int
  mode : String
  parameterSet : String
  total : Nat
  correct : Nat
  incorrect : Nat
  malformed : Nat
  missing : Nat
  cases : List CaseResult
  deriving DecidableEq, Repr

def ValidationReport.allCorrect (r : ValidationReport) : Bool :=
  decide (r.total > 0) && r.correct == r.total

structure AnswerCase where
  tcId : Int
  pk : Option String
  sk : Option String
  signature : Option String
  testPassed : Option Bool
  deriving DecidableEq, Repr

structure AnswerKey where
  vsId : Int
  mode : String
  parameterSet : String
  cases : List AnswerCase
  deriving DecidableEq, Repr

def requiredField {α : Type} (j : Json) (name : String) (read : Json → Option α) : Except String α := do
  let value ← Fallible.okOr (j.get name) s!"missing field `{name}`"
  Fallible.okOr (read value) s!"invalid type in `{name}`"

/--
A field with `serde(default)` whose type is an `Option`: absent and `null` are `None`.
-/
def defaultField {α : Type} (j : Json) (name : String) (read : Json → Option α)
    : Except String (Option α) :=
  match j.get name with
  | none | some .null => .ok none
  | some value => (Fallible.okOr (read value) s!"invalid type in `{name}`").map some

def AnswerCase.fromValue (j : Json) : Except String AnswerCase := do
  let tcId ← requiredField j "tcId" Json.asI64
  let pk ← defaultField j "pk" Json.asStr
  let sk ← defaultField j "sk" Json.asStr
  let signature ← defaultField j "signature" Json.asStr
  let testPassed ← defaultField j "testPassed" Json.asBool
  return ⟨tcId, pk, sk, signature, testPassed⟩

/--
`serde_json::from_value` on the key as it is stored.
-/
def AnswerKey.fromValue (j : Json) : Except String AnswerKey := do
  let vsId ← requiredField j "vsId" Json.asI64
  let mode ← requiredField j "mode" Json.asStr
  let parameterSet ← requiredField j "parameterSet" Json.asStr
  let cases ← requiredField j "cases" Json.asArray
  let cases ← cases.mapM AnswerCase.fromValue
  return ⟨vsId, mode, parameterSet, cases⟩

/--
The two crates the grader calls: `serde_json::from_str` and `hex::decode`, with the texts of their
errors.
-/
structure Crates where
  fromStr : String → Except String Json
  hexDecode : String → Except String (List UInt8)

structure SubmittedCase where
  tcId : Int
  values : List (String × Json)

/--
One element of a `tests` array. Whatever is no object or has no integer `tcId` is skipped.
-/
def submittedCase (test : Json) : Option SubmittedCase := do
  let obj ← test.asObject
  let tcId ← (obj.lookup "tcId").bind Json.asI64
  return ⟨tcId, obj⟩

def groupTests (group : Json) : List Json :=
  ((group.get "tests").bind Json.asArray).getD []

def collectCases (value : Json) : Option (List SubmittedCase) := do
  let groups ← (value.get "testGroups").bind Json.asArray
  return groups.flatMap (fun group => (groupTests group).filterMap submittedCase)

def checkHex (crates : Crates) (tcId : Int) (actual : SubmittedCase) (field want : String)
    (expectedLen : Nat) : Except CaseResult Unit :=
  let malformed (reason : String) : Except CaseResult Unit :=
    .error {
      tcId := tcId
      status := .malformed
      field := some field
      reason := some reason
    }
  match (actual.values.lookup field).bind Json.asStr with
  | none => malformed s!"missing {field}"
  | some got =>
    if Text.trim got = "" then
      malformed s!"{field} is empty"
    else
      match crates.hexDecode (Text.trim got) with
      | .error err => malformed s!"{field} is not hex: {err}"
      | .ok bytes =>
        if bytes.length ≠ expectedLen then
          malformed s!"{field} is {bytes.length} bytes, expected {expectedLen}"
        else if !Text.eqIgnoreAsciiCase (Text.trim got) want then
          .error {
            tcId := tcId
            status := .incorrect
            field := some field
            reason := some s!"{field} does not match the reference value"
          }
        else
          .ok ()

/--
A field the key leaves out is not looked at.
-/
def checkWanted (crates : Crates) (tcId : Int) (actual : SubmittedCase) (field : String)
    (want : Option String) (expectedLen : Nat) : Except CaseResult Unit :=
  match want with
  | none => .ok ()
  | some want => checkHex crates tcId actual field want expectedLen

def CaseResult.ok (tcId : Int) : CaseResult :=
  {
    tcId := tcId
    status := .correct
    field := none
    reason := none
  }

def compareCase (crates : Crates) (expected : AnswerCase) (actual : SubmittedCase) (mode : String)
    (set : ParameterSet) : CaseResult :=
  match mode with
  | "keyGen" =>
    match checkWanted crates expected.tcId actual "pk" expected.pk set.pkLen with
    | .error result => result
    | .ok () =>
      match checkWanted crates expected.tcId actual "sk" expected.sk set.skLen with
      | .error result => result
      | .ok () => .ok expected.tcId
  | "sigGen" =>
    match checkWanted crates expected.tcId actual "signature" expected.signature set.sigLen with
    | .error result => result
    | .ok () => .ok expected.tcId
  | "sigVer" =>
    match expected.testPassed with
    | none => .ok expected.tcId
    | some want =>
      match (actual.values.lookup "testPassed").bind Json.asBool with
      | none =>
        {
          tcId := expected.tcId
          status := .malformed
          field := some "testPassed"
          reason := some "expected a boolean testPassed"
        }
      | some got =>
        if got = want then
          .ok expected.tcId
        else
          {
            tcId := expected.tcId
            status := .incorrect
            field := some "testPassed"
            reason := some s!"expected testPassed = {want}"
          }
  | _ =>
    {
      tcId := expected.tcId
      status := .malformed
      field := none
      reason := some s!"unsupported mode {mode}"
    }

/--
The result for one case of the key: the first submitted entry with its `tcId` counts.
-/
def gradeCase (crates : Crates) (key : AnswerKey) (set : ParameterSet)
    (submitted : List SubmittedCase) (expected : AnswerCase) : CaseResult :=
  match submitted.find? (fun c => c.tcId == expected.tcId) with
  | none =>
    {
      tcId := expected.tcId
      status := .missing
      field := none
      reason := some "no entry for this tcId"
    }
  | some actual => compareCase crates expected actual key.mode set

def report (key : AnswerKey) (cases : List CaseResult) : ValidationReport :=
  {
    vsId := key.vsId
    mode := key.mode
    parameterSet := key.parameterSet
    total := cases.length
    correct := cases.countP (fun c => c.status == .correct)
    incorrect := cases.countP (fun c => c.status == .incorrect)
    malformed := cases.countP (fun c => c.status == .malformed)
    missing := cases.countP (fun c => c.status == .missing)
    cases := cases
  }

/--
`if let Some(mode) = ...`: the mode is compared when there is a string.
-/
def checkMode (value : Json) (key : AnswerKey) : Except ValidateError Unit :=
  match (value.get "mode").bind Json.asStr with
  | some mode =>
    if mode ≠ key.mode then
      .error (.modeMismatch mode key.mode)
    else
      .ok ()
  | none => .ok ()

/--
`if let Some(vs_id) = ...`: the id is compared when there is an integer.
-/
def checkVsId (value : Json) (key : AnswerKey) : Except ValidateError Unit :=
  match (value.get "vsId").bind Json.asI64 with
  | some vsId =>
    if vsId ≠ key.vsId then
      .error (.vsIdMismatch vsId key.vsId)
    else
      .ok ()
  | none => .ok ()

def validate (crates : Crates) (resultsJson : String) (key : AnswerKey)
    : Except ValidateError ValidationReport := do
  let value ← (crates.fromStr resultsJson).mapError .json
  let set ← Fallible.okOr (lookup key.parameterSet) (.unknownParameterSet key.parameterSet)
  checkMode value key
  checkVsId value key
  let submitted ← Fallible.okOr (collectCases value) .missingTestGroups
  return report key (key.cases.map (gradeCase crates key set submitted))

def ModePasses (value : Json) (key : AnswerKey) : Prop :=
  ∀ mode, (value.get "mode").bind Json.asStr = some mode → mode = key.mode

def VsIdPasses (value : Json) (key : AnswerKey) : Prop :=
  ∀ vsId, (value.get "vsId").bind Json.asI64 = some vsId → vsId = key.vsId

theorem checkMode_eq_ok_iff (value : Json) (key : AnswerKey)
    : checkMode value key = .ok () ↔ ModePasses value key := by
  unfold checkMode ModePasses
  cases (value.get "mode").bind Json.asStr with
  | none => simp
  | some mode =>
    by_cases h : mode = key.mode
    . simp [h]
    . simp [h]

theorem checkVsId_eq_ok_iff (value : Json) (key : AnswerKey)
    : checkVsId value key = .ok () ↔ VsIdPasses value key := by
  unfold checkVsId VsIdPasses
  cases (value.get "vsId").bind Json.asI64 with
  | none => simp
  | some vsId =>
    by_cases h : vsId = key.vsId
    . simp [h]
    . simp [h]

theorem validate_eq_ok_iff (crates : Crates) (text : String) (key : AnswerKey) (r : ValidationReport)
    : validate crates text key = .ok r
        ↔
      ∃ value set submitted,
        crates.fromStr text = .ok value
          ∧
        lookup key.parameterSet = some set
          ∧
        ModePasses value key
          ∧
        VsIdPasses value key
          ∧
        collectCases value = some submitted
          ∧
        r = report key (key.cases.map (gradeCase crates key set submitted)) := by
  unfold validate
  simp only [Fallible.bind_eq_ok_iff, Fallible.mapError_eq_ok_iff, Fallible.okOr_eq_ok_iff]
  constructor
  . rintro ⟨value, hvalue, set, hset, ⟨⟩, hmode, ⟨⟩, hvsId, submitted, hsubmitted, hreport⟩
    rw [checkMode_eq_ok_iff] at hmode
    rw [checkVsId_eq_ok_iff] at hvsId
    exact ⟨value, set, submitted, hvalue, hset, hmode, hvsId, hsubmitted, (Except.ok.inj hreport).symm⟩
  . rintro ⟨value, set, submitted, hvalue, hset, hmode, hvsId, hsubmitted, rfl⟩
    rw [← checkMode_eq_ok_iff] at hmode
    rw [← checkVsId_eq_ok_iff] at hvsId
    exact ⟨value, hvalue, set, hset, (), hmode, (), hvsId, submitted, hsubmitted, rfl⟩

end cavp

end PqCas
