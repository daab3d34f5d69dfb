import PqCas.Cavp.Validate
import PqCas.Lib.Table

/-!
The report on a submission depends on its answers and not on how they are arranged.
-/

namespace PqCas

namespace cavp

/--
A well-formed entry of a submission: an object with an integer `tcId` in the `tests` of a group.
-/
def IsEntry (value : Json) (c : SubmittedCase) : Prop :=
  ∃ groups group tests, value.get "testGroups" = some (.arr groups)
    ∧ group ∈ groups
    ∧ group.get "tests" = some (.arr tests)
    ∧ Json.obj c.values ∈ tests
    ∧ (c.values.lookup "tcId").bind Json.asI64 = some c.tcId

def keyedEntries (key : AnswerKey) (value : Json) : List SubmittedCase :=
  ((collectCases value).getD []).filter (fun c => c.tcId ∈ key.cases.map AnswerCase.tcId)

/--
Two submissions with the same header and the same answers. They may differ in the order of the
entries, in the groups these are in, in entries for other cases and in whatever is no entry.
-/
structure SameAnswers (key : AnswerKey) (value value' : Json) : Prop where
  mode : value.get "mode" = value'.get "mode"
  vsId : value.get "vsId" = value'.get "vsId"
  testGroups : (∃ groups, value.get "testGroups" = some (.arr groups))
    ↔ ∃ groups, value'.get "testGroups" = some (.arr groups)
  entries : ∀ c : SubmittedCase, c.tcId ∈ key.cases.map AnswerCase.tcId →
    (IsEntry value c ↔ IsEntry value' c)
  distinct : (keyedEntries key value).Pairwise (fun a b => a.tcId ≠ b.tcId)
  distinct' : (keyedEntries key value').Pairwise (fun a b => a.tcId ≠ b.tcId)

structure OnePerCase (key : AnswerKey) (r : ValidationReport) : Prop where
  cases : List.Forall₂ (fun result expected => result.tcId = expected.tcId) r.cases key.cases
  total : r.total = key.cases.length
  sum : r.correct + r.incorrect + r.malformed + r.missing = r.total

section Entries

variable {value value' : Json} {key : AnswerKey}

theorem asArray_eq_some {j : Json} {items : List Json} : j.asArray = some items ↔ j = .arr items := by
  cases j <;> simp [Json.asArray]

theorem bind_asArray_eq_some {x : Option Json} {items : List Json}
    : x.bind Json.asArray = some items ↔ x = some (.arr items) := by
  cases x with
  | none => simp
  | some j => simp [asArray_eq_some]

theorem submittedCase_eq_some {test : Json} {c : SubmittedCase}
    : submittedCase test = some c
        ↔
      test = .obj c.values ∧ (c.values.lookup "tcId").bind Json.asI64 = some c.tcId := by
  unfold submittedCase
  cases test with
  | obj fields =>
    simp only [Json.asObject_obj, Option.bind_eq_bind, Option.bind_some, Option.bind_eq_some_iff,
      Option.pure_def, Option.some.injEq, Json.obj.injEq]
    constructor
    . rintro ⟨tcId, htcId, rfl⟩
      exact ⟨rfl, htcId⟩
    . rintro ⟨rfl, htcId⟩
      exact ⟨c.tcId, htcId, rfl⟩
  | _ => simp [Json.asObject]

theorem mem_collectCases {submitted : List SubmittedCase} (h : collectCases value = some submitted)
    (c : SubmittedCase) : c ∈ submitted ↔ IsEntry value c := by
  unfold collectCases at h
  obtain ⟨groups, hgroups, h⟩ := Option.bind_eq_some_iff.mp h
  cases h
  rw [bind_asArray_eq_some] at hgroups
  unfold IsEntry groupTests
  simp only [List.mem_flatMap, List.mem_filterMap, submittedCase_eq_some, hgroups]
  constructor
  . rintro ⟨group, hgroup, test, htest, rfl, htcId⟩
    cases htests : (group.get "tests").bind Json.asArray with
    | none => simp [htests] at htest
    | some tests =>
      rw [htests] at htest
      exact ⟨groups, group, tests, rfl, hgroup, bind_asArray_eq_some.mp htests, htest, htcId⟩
  . rintro ⟨_, group, tests, ⟨⟩, hgroup, htests, htest, htcId⟩
    refine ⟨group, hgroup, .obj c.values, ?_, rfl, htcId⟩
    rw [bind_asArray_eq_some.mpr htests]
    exact htest

theorem collectCases_eq_none_iff
    : collectCases value = none ↔ ¬ ∃ groups, value.get "testGroups" = some (.arr groups) := by
  unfold collectCases
  cases hgroups : (value.get "testGroups").bind Json.asArray with
  | none =>
    have : ¬ ∃ groups, value.get "testGroups" = some (.arr groups) := by
      rintro ⟨groups, h⟩
      rw [bind_asArray_eq_some.mpr h] at hgroups
      cases hgroups
    simp [this]
  | some groups => simp [bind_asArray_eq_some.mp hgroups]

theorem find?_keyedEntries {submitted : List SubmittedCase} (h : collectCases value = some submitted)
    {expected : AnswerCase} (hexpected : expected ∈ key.cases)
    : (keyedEntries key value).find? (fun c => c.tcId == expected.tcId)
        =
      submitted.find? (fun c => c.tcId == expected.tcId) := by
  unfold keyedEntries
  rw [h, Option.getD_some, List.find?_filter]
  congr 1
  funext c
  by_cases hc : c.tcId = expected.tcId
  . have hmem : ∃ a ∈ key.cases, a.tcId = expected.tcId := ⟨expected, hexpected, rfl⟩
    simp [hc, hmem]
  . simp [hc]

theorem mem_keyedEntries {submitted : List SubmittedCase} (h : collectCases value = some submitted)
    (c : SubmittedCase)
    : c ∈ keyedEntries key value ↔ IsEntry value c ∧ c.tcId ∈ key.cases.map AnswerCase.tcId := by
  unfold keyedEntries
  rw [h, Option.getD_some, List.mem_filter, mem_collectCases h, decide_eq_true_eq]

theorem map_gradeCase_congr (h : SameAnswers key value value') {submitted submitted' : List SubmittedCase}
    (hsubmitted : collectCases value = some submitted)
    (hsubmitted' : collectCases value' = some submitted') (crates : Crates) (set : ParameterSet)
    : key.cases.map (gradeCase crates key set submitted)
        =
      key.cases.map (gradeCase crates key set submitted') := by
  apply List.map_congr_left
  intro expected hexpected
  have hmem : ∀ c, c ∈ keyedEntries key value ↔ c ∈ keyedEntries key value' := by
    intro c
    rw [mem_keyedEntries hsubmitted, mem_keyedEntries hsubmitted']
    constructor
    . rintro ⟨hentry, hkey⟩
      exact ⟨(h.entries c hkey).mp hentry, hkey⟩
    . rintro ⟨hentry, hkey⟩
      exact ⟨(h.entries c hkey).mpr hentry, hkey⟩
  have hfind := Table.find?_key_congr h.distinct h.distinct' hmem expected.tcId
  rw [find?_keyedEntries hsubmitted hexpected, find?_keyedEntries hsubmitted' hexpected] at hfind
  unfold gradeCase
  rw [hfind]

end Entries

section Report

variable {crates : Crates} {key : AnswerKey}

theorem validate_congr {text text' : String} {value value' : Json}
    (hread : crates.fromStr text = .ok value) (hread' : crates.fromStr text' = .ok value')
    (h : SameAnswers key value value') : validate crates text key = validate crates text' key := by
  have hmode : checkMode value key = checkMode value' key := by
    unfold checkMode
    rw [h.mode]
  have hvsId : checkVsId value key = checkVsId value' key := by
    unfold checkVsId
    rw [h.vsId]
  unfold validate
  rw [hread, hread']
  dsimp only [Except.mapError, bind, Except.bind]
  rw [hmode, hvsId]
  cases hsubmitted : collectCases value with
  | none =>
    rw [collectCases_eq_none_iff, h.testGroups, ← collectCases_eq_none_iff] at hsubmitted
    rw [hsubmitted]
  | some submitted =>
    cases hsubmitted' : collectCases value' with
    | none =>
      rw [collectCases_eq_none_iff, ← h.testGroups, ← collectCases_eq_none_iff, hsubmitted] at hsubmitted'
      cases hsubmitted'
    | some submitted' =>
      dsimp only [Fallible.okOr]
      simp only [map_gradeCase_congr h hsubmitted hsubmitted']

theorem tcId_checkHex {tcId : Int} {actual : SubmittedCase} {field want : String} {len : Nat}
    {r : CaseResult} (h : checkHex crates tcId actual field want len = .error r) : r.tcId = tcId := by
  unfold checkHex at h
  dsimp only at h
  split at h
  . cases h
    rfl
  split at h
  . cases h
    rfl
  split at h
  . cases h
    rfl
  split at h
  . cases h
    rfl
  split at h <;> cases h
  rfl

theorem tcId_compareCase (expected : AnswerCase) (actual : SubmittedCase) (mode : String)
    (set : ParameterSet) : (compareCase crates expected actual mode set).tcId = expected.tcId := by
  have hwanted : ∀ {field : String} {want : Option String} {len : Nat} {r : CaseResult},
      checkWanted crates expected.tcId actual field want len = .error r → r.tcId = expected.tcId := by
    intro field want len r h
    unfold checkWanted at h
    split at h
    . cases h
    . exact tcId_checkHex h
  unfold compareCase
  split
  . split
    . next h => exact hwanted h
    . split
      . next h => exact hwanted h
      . rfl
  . split
    . next h => exact hwanted h
    . rfl
  . split
    . rfl
    . split
      . rfl
      . split <;> rfl
  . rfl

theorem tcId_gradeCase (key : AnswerKey) (set : ParameterSet) (submitted : List SubmittedCase)
    (expected : AnswerCase) : (gradeCase crates key set submitted expected).tcId = expected.tcId := by
  unfold gradeCase
  split
  . rfl
  . apply tcId_compareCase

theorem sum_report (key : AnswerKey) (cases : List CaseResult)
    : (report key cases).correct + (report key cases).incorrect + (report key cases).malformed
        + (report key cases).missing
        =
      (report key cases).total := by
  unfold report
  dsimp only
  induction cases with
  | nil => rfl
  | cons c cases ih =>
    simp only [List.countP_cons, List.length_cons]
    cases c.status <;> simp <;> omega

theorem onePerCase_of_ok {text : String} {r : ValidationReport} (h : validate crates text key = .ok r)
    : OnePerCase key r := by
  obtain ⟨value, set, submitted, -, -, -, -, -, rfl⟩ := (validate_eq_ok_iff _ _ _ _).mp h
  constructor
  . unfold report
    rw [List.forall₂_map_left_iff, List.forall₂_same]
    intro expected _
    apply tcId_gradeCase
  . unfold report
    rw [List.length_map]
  . apply sum_report

/--
Submissions with the same header and the same answers are graded alike, and a report has one result
for each case of the key.
-/
theorem validate_arrangement (crates : Crates) (key : AnswerKey)
    : (∀ text text' value value', crates.fromStr text = .ok value → crates.fromStr text' = .ok value' →
        SameAnswers key value value' → validate crates text key = validate crates text' key)
        ∧
      ∀ text r, validate crates text key = .ok r → OnePerCase key r :=
  ⟨fun _ _ _ _ hread hread' h => validate_congr hread hread' h, fun _ _ h => onePerCase_of_ok h⟩

end Report

namespace arrangementLab

def entry (tcId : Int) (testPassed : Bool) : Json :=
  .obj [("tcId", .int tcId), ("testPassed", .bool testPassed)]

def submission (groups : List Json) : Json :=
  .obj [("vsId", .int 91023), ("mode", .str "sigVer"), ("testGroups", .arr groups)]

def plain : Json :=
  submission [.obj [("tests", .arr [entry 1 true, entry 2 false])]]

def scattered : Json :=
  submission [
    .obj [("tests", .arr [.str "2", entry 2 false, entry 7 true])],
    .obj [("tgId", .int 2)],
    .obj [("tests", .arr [.obj [("tcId", .str "1")], entry 1 true])]
  ]

def key : AnswerKey :=
  {
    vsId := 91023
    mode := "sigVer"
    parameterSet := "ML-DSA-65"
    cases := [⟨1, none, none, none, some true⟩, ⟨2, none, none, none, some true⟩]
  }

def plainText : String :=
  "\x7b\"vsId\":91023,\"mode\":\"sigVer\",\"testGroups\":[\x7b\"tests\":["
    ++ "\x7b\"tcId\":1,\"testPassed\":true\x7d,\x7b\"tcId\":2,\"testPassed\":false\x7d]\x7d]\x7d"

def scatteredText : String :=
  "\x7b\"vsId\":91023,\"mode\":\"sigVer\",\"testGroups\":[\x7b\"tests\":["
    ++ "\"2\",\x7b\"tcId\":2,\"testPassed\":false\x7d,\x7b\"tcId\":7,\"testPassed\":true\x7d]\x7d,"
    ++ "\x7b\"tgId\":2\x7d,\x7b\"tests\":[\x7b\"tcId\":\"1\"\x7d,"
    ++ "\x7b\"tcId\":1,\"testPassed\":true\x7d]\x7d]\x7d"

def crates : Crates :=
  {
    fromStr := fun text => .ok (if text = plainText then plain else scattered)
    hexDecode := fun _ => .error "Odd number of digits"
  }

def submitted (tcId : Int) (testPassed : Bool) : SubmittedCase :=
  ⟨tcId, [("tcId", .int tcId), ("testPassed", .bool testPassed)]⟩

theorem sameAnswers : SameAnswers key plain scattered := by
  have hplain : collectCases plain = some [submitted 1 true, submitted 2 false] := rfl
  have hscattered : collectCases scattered
      = some [submitted 2 false, submitted 7 true, submitted 1 true] := rfl
  constructor
  case mode => rfl
  case vsId => rfl
  case testGroups => exact ⟨fun _ => ⟨_, rfl⟩, fun _ => ⟨_, rfl⟩⟩
  case entries =>
    intro c hc
    rw [← mem_collectCases hplain, ← mem_collectCases hscattered]
    have hne : c ≠ submitted 7 true := by
      rintro rfl
      simp [key, submitted] at hc
    simp [hne, or_comm]
  case distinct =>
    unfold keyedEntries
    rw [hplain]
    decide
  case distinct' =>
    unfold keyedEntries
    rw [hscattered]
    decide

theorem validate_arrangement_lab
    : validate crates plainText key = validate crates scatteredText key := by
  have hplain : crates.fromStr plainText = .ok plain := congrArg Except.ok (if_pos rfl)
  have hscattered : crates.fromStr scatteredText = .ok scattered := congrArg Except.ok (if_neg (by decide))
  exact (validate_arrangement crates key).1 plainText scatteredText plain scattered hplain hscattered sameAnswers

end arrangementLab

end cavp

end PqCas
