import PqCas.Cavp.Validate
import PqCas.Lib.Hex

/-!
This module contains the structural gate of the grader: the checks its documentation promises before
anything is compared, and the submissions on which the checks that are made amount to them.
-/

namespace PqCas

namespace cavp

def entryIds (groups : List Json) : List Int :=
  groups.flatMap (fun group =>
    (groupTests group).filterMap (fun test => (test.get "tcId").bind Json.asI64))

/--
A submission as the documentation wants it: matching `vsId`, `algorithm` and `mode`, one entry per
`tcId`.
-/
structure Promised (key : AnswerKey) (value : Json) : Prop where
  vsId : (value.get "vsId").bind Json.asI64 = some key.vsId
  mode : (value.get "mode").bind Json.asStr = some key.mode
  algorithm : (value.get "algorithm").bind Json.asStr = some "ML-DSA"
  testGroups : ∃ groups, (value.get "testGroups").bind Json.asArray = some groups ∧ (entryIds groups).Nodup

def Stopped (key : AnswerKey) (value : Json) : Prop :=
  (∃ mode, (value.get "mode").bind Json.asStr = some mode ∧ mode ≠ key.mode)
    ∨
  (∃ vsId, (value.get "vsId").bind Json.asI64 = some vsId ∧ vsId ≠ key.vsId)
    ∨
  (value.get "testGroups").bind Json.asArray = none

structure Complete (value : Json) : Prop where
  vsId : ((value.get "vsId").bind Json.asI64).isSome
  mode : ((value.get "mode").bind Json.asStr).isSome
  algorithm : (value.get "algorithm").bind Json.asStr = some "ML-DSA"
  entries : ∀ groups, (value.get "testGroups").bind Json.asArray = some groups → (entryIds groups).Nodup

theorem collectCases_isSome (value : Json)
    : (collectCases value).isSome = ((value.get "testGroups").bind Json.asArray).isSome := by
  unfold collectCases
  cases (value.get "testGroups").bind Json.asArray <;> rfl

theorem exists_validate_eq_ok_iff (crates : Crates) (text : String) (key : AnswerKey)
    : (∃ r, validate crates text key = .ok r)
        ↔
      ∃ value, crates.fromStr text = .ok value ∧ (lookup key.parameterSet).isSome ∧ ¬Stopped key value := by
  have hstopped : ∀ value, ¬Stopped key value
      ↔ ModePasses value key ∧ VsIdPasses value key ∧ (collectCases value).isSome := by
    intro value
    rw [collectCases_isSome, Option.isSome_iff_ne_none]
    unfold Stopped ModePasses VsIdPasses
    push Not
    rfl
  simp only [validate_eq_ok_iff, hstopped, Option.isSome_iff_exists]
  constructor
  . rintro ⟨r, value, set, submitted, hvalue, hset, hmode, hvsId, hsubmitted, -⟩
    exact ⟨value, hvalue, ⟨set, hset⟩, hmode, hvsId, submitted, hsubmitted⟩
  . rintro ⟨value, hvalue, ⟨set, hset⟩, hmode, hvsId, submitted, hsubmitted⟩
    exact ⟨_, value, set, submitted, hvalue, hset, hmode, hvsId, hsubmitted, rfl⟩

theorem promised_iff_of_not_stopped {key : AnswerKey} {value : Json} (h : ¬Stopped key value)
    : Promised key value ↔ Complete value := by
  unfold Stopped at h
  push Not at h
  obtain ⟨hmode, hvsId, hgroups⟩ := h
  constructor
  . intro hp
    obtain ⟨groups, hg, hnodup⟩ := hp.testGroups
    refine ⟨by rw [hp.vsId]; rfl, by rw [hp.mode]; rfl, hp.algorithm, ?_⟩
    intro groups' hg'
    rw [hg] at hg'
    cases hg'
    exact hnodup
  . intro hc
    obtain ⟨vsId, hv⟩ := Option.isSome_iff_exists.mp hc.vsId
    obtain ⟨mode, hm⟩ := Option.isSome_iff_exists.mp hc.mode
    obtain ⟨groups, hg⟩ := Option.ne_none_iff_exists'.mp hgroups
    refine ⟨?_, ?_, hc.algorithm, groups, hg, hc.entries groups hg⟩
    . rw [hv, hvsId vsId hv]
    . rw [hm, hmode mode hm]

/--
Accepting only what is promised: this is the case where the text is no JSON, the key names no
parameter set, the submission is stopped, or it is complete.
-/
theorem gate_iff (crates : Crates) (text : String) (key : AnswerKey)
    : ((∃ r, validate crates text key = .ok r)
          → ∃ value, crates.fromStr text = .ok value ∧ Promised key value)
        ↔
      (∃ err, crates.fromStr text = .error err)
        ∨
      lookup key.parameterSet = none
        ∨
      ∃ value, crates.fromStr text = .ok value ∧ (Stopped key value ∨ Complete value) := by
  rw [exists_validate_eq_ok_iff]
  cases hvalue : crates.fromStr text with
  | error err => simp
  | ok value =>
    cases hset : lookup key.parameterSet with
    | none => simp
    | some set =>
      by_cases hstopped : Stopped key value
      . simp [hstopped]
      . simp [hstopped, promised_iff_of_not_stopped hstopped]

def strayText : String :=
  "\x7b\"vsId\":\"42\",\"algorithm\":\"ML-KEM\",\"mode\":\"keyGen\",\"testGroups\":[\x7b\"tests\":[\x7b\"tcId\":1\x7d,\x7b\"tcId\":1\x7d]\x7d]\x7d"

def stray : Json :=
  .obj [
    ("vsId", .str "42"),
    ("algorithm", .str "ML-KEM"),
    ("mode", .str "keyGen"),
    ("testGroups", .arr [
      .obj [("tests", .arr [.obj [("tcId", .int 1)], .obj [("tcId", .int 1)]])]
    ])
  ]

def strayCrates : Crates :=
  {
    fromStr := fun text => if text = strayText then .ok stray else .error "expected value at line 1 column 1"
    hexDecode := fun text => Fallible.okOr (Hex.decode text.toList) "Odd number of digits"
  }

def strayKey : AnswerKey :=
  {
    vsId := 91021
    mode := "keyGen"
    parameterSet := "ML-DSA-65"
    cases := [
      {
        tcId := 1
        pk := some "AA"
        sk := some "BB"
        signature := none
        testPassed := none
      }
    ]
  }

theorem gate_open_for_stray
    : ¬((∃ r, validate strayCrates strayText strayKey = .ok r)
          → ∃ value, strayCrates.fromStr strayText = .ok value ∧ Promised strayKey value) := by
  intro h
  have hread : strayCrates.fromStr strayText = .ok stray := by
    simp [strayCrates]
  have hnot : ¬Stopped strayKey stray := by
    rintro (⟨mode, hmode, hne⟩ | ⟨vsId, hvsId, -⟩ | hgroups)
    . cases hmode
      exact hne rfl
    . cases hvsId
    . cases hgroups
  have hset : (lookup strayKey.parameterSet).isSome := by decide
  obtain ⟨value, hvalue, hpromised⟩ := h ((exists_validate_eq_ok_iff _ _ _).mpr ⟨stray, hread, hset, hnot⟩)
  rw [hread] at hvalue
  cases hvalue
  have hne : (stray.get "algorithm").bind Json.asStr ≠ some "ML-DSA" := by decide
  exact hne hpromised.algorithm

end cavp

end PqCas
