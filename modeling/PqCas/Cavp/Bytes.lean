import PqCas.Cavp.Validate
import PqCas.Lib.Hex
import PqCas.Lib.Scan

/-!
Grading by decoded bytes: the comparison of one case looks at the bytes a submitted text stands for,
although the code compares the texts.
-/

namespace PqCas

namespace cavp

/--
`hex::decode` accepts exactly the texts with an even number of hexadecimal digits.
-/
structure Crates.DecodesHex (crates : Crates) : Prop where
  ok : ∀ text bytes, Hex.decode text.toList = some bytes → crates.hexDecode text = .ok bytes
  error : ∀ text, Hex.decode text.toList = none → ∃ err, crates.hexDecode text = .error err

inductive Wanted where
  | hex (field want : String) (len : Nat)
  | testPassed (want : Bool)

namespace Wanted

def field (w : Wanted) : String :=
  match w with
  | .hex field _ _ => field
  | .testPassed _ => "testPassed"

def Valid (w : Wanted) : Prop :=
  match w with
  | .hex _ want len => ∃ bytes, Hex.decode want.toList = some bytes ∧ bytes.length = len
  | .testPassed _ => True

variable (actual : SubmittedCase)

def Matches (w : Wanted) : Prop :=
  match w with
  | .hex field want _ =>
    ∃ got bytes, actual.values.lookup field = some (.str got)
      ∧ Hex.decode (Text.trim got).toList = some bytes
      ∧ Hex.decode want.toList = some bytes
  | .testPassed want => actual.values.lookup "testPassed" = some (.bool want)

/--
The field is absent, of another type, blank, not hexadecimal or of another length.
-/
def Unusable (w : Wanted) : Prop :=
  match w with
  | .hex field _ len =>
    (∀ got, actual.values.lookup field ≠ some (.str got))
      ∨ ∃ got, actual.values.lookup field = some (.str got)
        ∧ (Text.trim got = ""
          ∨ ¬ Hex.IsHex (Text.trim got)
          ∨ ∃ bytes, Hex.decode (Text.trim got).toList = some bytes ∧ bytes.length ≠ len)
  | .testPassed _ => ∀ got, actual.values.lookup "testPassed" ≠ some (.bool got)

def Differs (w : Wanted) : Prop :=
  match w with
  | .hex field want len =>
    ∃ got bytes, actual.values.lookup field = some (.str got)
      ∧ Hex.decode (Text.trim got).toList = some bytes
      ∧ bytes.length = len
      ∧ Hex.decode want.toList ≠ some bytes
  | .testPassed want => actual.values.lookup "testPassed" = some (.bool !want)

end Wanted

def wanted (expected : AnswerCase) (mode : String) (set : ParameterSet) : List Wanted :=
  match mode with
  | "keyGen" =>
    (expected.pk.map (.hex "pk" · set.pkLen)).toList ++ (expected.sk.map (.hex "sk" · set.skLen)).toList
  | "sigGen" => (expected.signature.map (.hex "signature" · set.sigLen)).toList
  | "sigVer" => (expected.testPassed.map .testPassed).toList
  | _ => []

def FirstFailing (actual : SubmittedCase) (P : Wanted → Prop) (fields : List Wanted) : Prop :=
  ∃ before w after, fields = before ++ w :: after ∧ (∀ v ∈ before, v.Matches actual) ∧ P w

structure GradedByBytes (fields : List Wanted) (actual : SubmittedCase) (r : CaseResult) : Prop where
  correct : r.status = .correct ↔ ∀ w ∈ fields, w.Matches actual
  malformed : r.status = .malformed ↔ FirstFailing actual (fun w => w.Unusable actual) fields
  incorrect : r.status = .incorrect ↔ FirstFailing actual (fun w => w.Differs actual) fields
  field : r.status ≠ .correct →
    FirstFailing actual (fun w => ¬ w.Matches actual ∧ r.field = some w.field) fields
  length : r.status = .incorrect → ∀ w ∈ fields, r.field = some w.field → ¬ w.Unusable actual

/--
Two submitted values that are equal up to ASCII case and white space around them, if they are texts.
-/
def Respelled (a b : Option Json) : Prop :=
  a = b ∨ ∃ s t, a = some (.str s) ∧ b = some (.str t)
    ∧ Text.eqIgnoreAsciiCase (Text.trim s) (Text.trim t) = true

section Field

variable {crates : Crates} {actual : SubmittedCase} {tcId : Int}

def checkField (crates : Crates) (tcId : Int) (actual : SubmittedCase) (w : Wanted)
    : Except CaseResult Unit :=
  match w with
  | .hex field want len => checkHex crates tcId actual field want len
  | .testPassed want =>
    match (actual.values.lookup "testPassed").bind Json.asBool with
    | none =>
      .error {
        tcId := tcId
        status := .malformed
        field := some "testPassed"
        reason := some "expected a boolean testPassed"
      }
    | some got =>
      if got = want then
        .ok ()
      else
        .error {
          tcId := tcId
          status := .incorrect
          field := some "testPassed"
          reason := some s!"expected testPassed = {want}"
        }

inductive FieldOutcome (crates : Crates) (tcId : Int) (actual : SubmittedCase) (w : Wanted) : Prop where
  | ok (hcheck : checkField crates tcId actual w = .ok ()) (h : w.Matches actual)
      (hunusable : ¬ w.Unusable actual) (hdiffers : ¬ w.Differs actual)
  | malformed (r : CaseResult) (hcheck : checkField crates tcId actual w = .error r)
      (hstatus : r.status = .malformed) (hfield : r.field = some w.field) (h : w.Unusable actual)
      (hmatches : ¬ w.Matches actual) (hdiffers : ¬ w.Differs actual)
  | incorrect (r : CaseResult) (hcheck : checkField crates tcId actual w = .error r)
      (hstatus : r.status = .incorrect) (hfield : r.field = some w.field) (h : w.Differs actual)
      (hmatches : ¬ w.Matches actual) (hunusable : ¬ w.Unusable actual)

theorem checkHex_missing {field want : String} {len : Nat}
    (hgot : (actual.values.lookup field).bind Json.asStr = none)
    : FieldOutcome crates tcId actual (.hex field want len) := by
  have hnone : ∀ got, actual.values.lookup field ≠ some (.str got) := by
    intro got hlookup
    simp [hlookup] at hgot
  apply FieldOutcome.malformed
  case hcheck =>
    unfold checkField checkHex
    dsimp only
    rw [hgot]
  case hstatus => rfl
  case hfield => rfl
  case h => exact .inl hnone
  case hmatches => exact fun ⟨got, _, hlookup, _⟩ => hnone got hlookup
  case hdiffers => exact fun ⟨got, _, hlookup, _⟩ => hnone got hlookup

theorem checkHex_text (hhex : crates.DecodesHex) {field want got : String} {len : Nat} (hlen : 0 < len)
    (hvalid : (Wanted.hex field want len).Valid)
    (hgot : (actual.values.lookup field).bind Json.asStr = some got)
    : FieldOutcome crates tcId actual (.hex field want len) := by
  obtain ⟨wantBytes, hwant, hwantLen⟩ := hvalid
  have hlookup : actual.values.lookup field = some (.str got) := by
    obtain ⟨value, hvalue, hstr⟩ := Option.bind_eq_some_iff.mp hgot
    rw [hvalue, Json.asStr_eq_some.mp hstr]
  have hmatches : (Wanted.hex field want len).Matches actual
      ↔ Hex.decode (Text.trim got).toList = some wantBytes := by
    simp [Wanted.Matches, hlookup, hwant]
  have hdiffers : (Wanted.hex field want len).Differs actual
      ↔ ∃ bytes, Hex.decode (Text.trim got).toList = some bytes ∧ bytes.length = len
        ∧ bytes ≠ wantBytes := by
    simp [Wanted.Differs, hlookup, hwant, eq_comm]
  have hunusable : (Wanted.hex field want len).Unusable actual
      ↔ Text.trim got = "" ∨ ¬ Hex.IsHex (Text.trim got)
        ∨ ∃ bytes, Hex.decode (Text.trim got).toList = some bytes ∧ bytes.length ≠ len := by
    simp [Wanted.Unusable, hlookup]
  have hcheck : checkField crates tcId actual (.hex field want len)
      = checkHex crates tcId actual field want len := rfl
  unfold checkHex at hcheck
  rw [hgot] at hcheck
  dsimp only at hcheck
  by_cases hblank : Text.trim got = ""
  . rw [if_pos hblank] at hcheck
    have hempty : Hex.decode (Text.trim got).toList = some [] := by
      rw [hblank]
      rfl
    apply FieldOutcome.malformed _ hcheck rfl rfl (hunusable.mpr (.inl hblank))
    . rw [hmatches, hempty]
      rintro ⟨⟩
      simp at hwantLen
      omega
    . rw [hdiffers, hempty]
      rintro ⟨bytes, ⟨⟩, hbytes, -⟩
      simp at hbytes
      omega
  rw [if_neg hblank] at hcheck
  cases hdecode : Hex.decode (Text.trim got).toList with
  | none =>
    obtain ⟨err, herr⟩ := hhex.error _ hdecode
    rw [herr] at hcheck
    have hnot : ¬ Hex.IsHex (Text.trim got) := by
      intro h
      obtain ⟨bytes, hbytes, -⟩ := h.decode
      rw [hdecode] at hbytes
      cases hbytes
    exact .malformed _ hcheck rfl rfl (hunusable.mpr (.inr (.inl hnot))) (by simp [hmatches, hdecode])
      (by simp [hdiffers, hdecode])
  | some bytes =>
    rw [hhex.ok _ _ hdecode] at hcheck
    dsimp only at hcheck
    have hishex : Hex.IsHex (Text.trim got) := (Hex.decode_isSome_iff _).mp (by simp [hdecode])
    by_cases hbytes : bytes.length = len
    . rw [if_neg (by simp [hbytes])] at hcheck
      have husable : ¬ (Wanted.hex field want len).Unusable actual := by
        simp [hunusable, hblank, hishex, hdecode, hbytes]
      have hcompare : Text.eqIgnoreAsciiCase (Text.trim got) want = true ↔ bytes = wantBytes := by
        rw [Hex.eqIgnoreAsciiCase_iff_decode hwant, hdecode, Option.some.injEq]
      by_cases heq : bytes = wantBytes
      . rw [if_neg (by simp [hcompare.mpr heq])] at hcheck
        exact .ok hcheck (by simp [hmatches, hdecode, heq]) husable (by simp [hdiffers, hdecode, heq])
      . have hother : Text.eqIgnoreAsciiCase (Text.trim got) want = false := by
          rw [← Bool.not_eq_true]
          exact mt hcompare.mp heq
        rw [hother, Bool.not_false, if_pos rfl] at hcheck
        exact .incorrect _ hcheck rfl rfl (by simp [hdiffers, hdecode, hbytes, heq])
          (by simp [hmatches, hdecode, heq]) husable
    . rw [if_pos hbytes] at hcheck
      have hne : bytes ≠ wantBytes := by
        rintro rfl
        exact hbytes hwantLen
      exact .malformed _ hcheck rfl rfl (by simp [hunusable, hdecode, hbytes])
        (by simp [hmatches, hdecode, hne]) (by simp [hdiffers, hdecode, hbytes])

theorem checkHex_outcome (hhex : crates.DecodesHex) {field want : String} {len : Nat} (hlen : 0 < len)
    (hvalid : (Wanted.hex field want len).Valid)
    : FieldOutcome crates tcId actual (.hex field want len) := by
  cases hgot : (actual.values.lookup field).bind Json.asStr with
  | none => exact checkHex_missing hgot
  | some got => exact checkHex_text hhex hlen hvalid hgot

theorem checkTestPassed_outcome (want : Bool)
    : FieldOutcome crates tcId actual (.testPassed want) := by
  cases hgot : (actual.values.lookup "testPassed").bind Json.asBool with
  | none =>
    have hnone : ∀ got, actual.values.lookup "testPassed" ≠ some (.bool got) := by
      intro got hlookup
      simp [hlookup] at hgot
    have hcheck : checkField crates tcId actual (.testPassed want)
        = .error ⟨tcId, .malformed, some "testPassed", some "expected a boolean testPassed"⟩ := by
      unfold checkField
      dsimp only
      rw [hgot]
    exact .malformed _ hcheck rfl rfl hnone (hnone want) (hnone !want)
  | some got =>
    have hlookup : actual.values.lookup "testPassed" = some (.bool got) := by
      obtain ⟨value, hvalue, hbool⟩ := Option.bind_eq_some_iff.mp hgot
      rw [hvalue]
      cases value with
      | bool b =>
        cases hbool
        rfl
      | _ => cases hbool
    have husable : ¬ (Wanted.testPassed want).Unusable actual := by
      simp [Wanted.Unusable, hlookup]
    by_cases heq : got = want
    . have hcheck : checkField crates tcId actual (.testPassed want) = .ok () := by
        unfold checkField
        dsimp only
        rw [hgot]
        exact if_pos heq
      exact .ok hcheck (by simp [Wanted.Matches, hlookup, heq]) husable
        (by simp [Wanted.Differs, hlookup, heq])
    . have hcheck : checkField crates tcId actual (.testPassed want)
          = .error ⟨tcId, .incorrect, some "testPassed", some s!"expected testPassed = {want}"⟩ := by
        unfold checkField
        dsimp only
        rw [hgot]
        exact if_neg heq
      have hflip : got = !want := by
        cases got <;> cases want <;> simp_all
      exact .incorrect _ hcheck rfl rfl (by simp [Wanted.Differs, hlookup, hflip])
        (by simp [Wanted.Matches, hlookup, hflip]) husable

end Field

section Fields

variable {crates : Crates} {actual : SubmittedCase} {tcId : Int}

theorem firstFailing_cons {P : Wanted → Prop} {w : Wanted} {fields : List Wanted}
    : FirstFailing actual P (w :: fields)
        ↔
      P w ∨ (w.Matches actual ∧ FirstFailing actual P fields) := by
  constructor
  . rintro ⟨before, v, after, hsplit, hbefore, hv⟩
    cases before with
    | nil =>
      cases hsplit
      exact .inl hv
    | cons u before =>
      cases hsplit
      rw [List.forall_mem_cons] at hbefore
      exact .inr ⟨hbefore.1, before, v, after, rfl, hbefore.2, hv⟩
  . rintro (hw | ⟨hw, before, v, after, rfl, hbefore, hv⟩)
    . exact ⟨[], w, fields, rfl, by simp, hw⟩
    . exact ⟨w :: before, v, after, rfl, List.forall_mem_cons.mpr ⟨hw, hbefore⟩, hv⟩

theorem not_firstFailing_nil {P : Wanted → Prop} : ¬ FirstFailing actual P [] := by
  rintro ⟨before, w, after, hsplit, -⟩
  simp at hsplit

def gradeFields (crates : Crates) (tcId : Int) (actual : SubmittedCase) (fields : List Wanted)
    : CaseResult :=
  match fields with
  | [] => .ok tcId
  | w :: fields =>
    match checkField crates tcId actual w with
    | .error r => r
    | .ok () => gradeFields crates tcId actual fields

theorem compareCase_eq_gradeFields (expected : AnswerCase) (set : ParameterSet) {mode : String}
    (hmode : mode ∈ ["keyGen", "sigGen", "sigVer"])
    : compareCase crates expected actual mode set
        =
      gradeFields crates expected.tcId actual (wanted expected mode set) := by
  simp only [List.mem_cons, List.not_mem_nil, or_false] at hmode
  rcases hmode with rfl | rfl | rfl
  . dsimp only [compareCase, wanted]
    cases expected.pk with
    | none => cases expected.sk <;> rfl
    | some pk => cases expected.sk <;> rfl
  . dsimp only [compareCase, wanted]
    cases expected.signature <;> rfl
  . dsimp only [compareCase, wanted]
    cases expected.testPassed with
    | none => rfl
    | some want =>
      cases hgot : (actual.values.lookup "testPassed").bind Json.asBool with
      | none => simp [gradeFields, checkField, hgot]
      | some got =>
        by_cases heq : got = want
        . simp [gradeFields, checkField, hgot, heq]
        . simp [gradeFields, checkField, hgot, heq]

theorem gradedByBytes_gradeFields {fields : List Wanted}
    (houtcome : ∀ w ∈ fields, FieldOutcome crates tcId actual w)
    (hnames : (fields.map Wanted.field).Nodup)
    : (gradeFields crates tcId actual fields).status ≠ .missing
        ∧ GradedByBytes fields actual (gradeFields crates tcId actual fields) := by
  induction fields with
  | nil =>
    have hok : gradeFields crates tcId actual [] = .ok tcId := rfl
    rw [hok]
    refine ⟨by simp [CaseResult.ok], ?_⟩
    constructor
    case correct => simp [CaseResult.ok]
    case malformed => simp [CaseResult.ok, not_firstFailing_nil]
    case incorrect => simp [CaseResult.ok, not_firstFailing_nil]
    case field => simp [CaseResult.ok]
    case length => simp
  | cons w fields ih =>
    rw [List.forall_mem_cons] at houtcome
    rw [List.map_cons, List.nodup_cons] at hnames
    unfold gradeFields
    cases houtcome.1 with
    | ok hcheck hmatches hunusable hdiffers =>
      rw [hcheck]
      dsimp only
      obtain ⟨hmissing, hgraded⟩ := ih houtcome.2 hnames.2
      refine ⟨hmissing, ?_⟩
      constructor
      case correct => simp [hgraded.correct, hmatches]
      case malformed => simp [firstFailing_cons, hgraded.malformed, hmatches, hunusable]
      case incorrect => simp [firstFailing_cons, hgraded.incorrect, hmatches, hdiffers]
      case field => simpa [firstFailing_cons, hmatches] using hgraded.field
      case length =>
        intro hincorrect
        rw [List.forall_mem_cons]
        exact ⟨fun _ => hunusable, hgraded.length hincorrect⟩
    | malformed r hcheck hstatus hfield hunusable hmatches hdiffers =>
      rw [hcheck]
      dsimp only
      refine ⟨by simp [hstatus], ?_⟩
      constructor
      case correct => simp [hstatus, hmatches]
      case malformed => simp [firstFailing_cons, hstatus, hunusable]
      case incorrect => simp [firstFailing_cons, hstatus, hmatches, hdiffers]
      case field => simp [firstFailing_cons, hmatches, hfield]
      case length => simp [hstatus]
    | incorrect r hcheck hstatus hfield hdiffers hmatches hunusable =>
      rw [hcheck]
      dsimp only
      refine ⟨by simp [hstatus], ?_⟩
      constructor
      case correct => simp [hstatus, hmatches]
      case malformed => simp [firstFailing_cons, hstatus, hmatches, hunusable]
      case incorrect => simp [firstFailing_cons, hstatus, hdiffers]
      case field => simp [firstFailing_cons, hmatches, hfield]
      case length =>
        intro _
        rw [List.forall_mem_cons]
        refine ⟨fun _ => hunusable, ?_⟩
        intro v hv hvfield
        rw [hfield, Option.some.injEq] at hvfield
        rw [hvfield] at hnames
        exact absurd (List.mem_map_of_mem hv) hnames.1

theorem outcome_of_wanted (hhex : crates.DecodesHex) {expected : AnswerCase} {set : ParameterSet}
    {mode : String} (hset : set ∈ ALL) {w : Wanted} (hw : w ∈ wanted expected mode set)
    (hvalid : w.Valid) : FieldOutcome crates tcId actual w := by
  have hlen : ∀ set ∈ ALL, 0 < set.pkLen ∧ 0 < set.skLen ∧ 0 < set.sigLen := by decide
  obtain ⟨hpk, hsk, hsig⟩ := hlen set hset
  cases w with
  | testPassed want => exact checkTestPassed_outcome want
  | hex field want len =>
    apply checkHex_outcome hhex _ hvalid
    unfold wanted at hw
    split at hw
    . simp only [List.mem_append, Option.mem_toList, Option.map_eq_some_iff] at hw
      rcases hw with ⟨_, -, heq⟩ | ⟨_, -, heq⟩
      . cases heq
        exact hpk
      . cases heq
        exact hsk
    . simp only [Option.mem_toList, Option.map_eq_some_iff] at hw
      obtain ⟨_, -, heq⟩ := hw
      cases heq
      exact hsig
    . simp at hw
    . simp at hw

theorem nodup_wanted (expected : AnswerCase) (mode : String) (set : ParameterSet)
    : ((wanted expected mode set).map Wanted.field).Nodup := by
  unfold wanted
  split
  . cases expected.pk <;> cases expected.sk <;> simp [Wanted.field]
  . cases expected.signature <;> simp
  . cases expected.testPassed <;> simp
  . simp

variable {actual' : SubmittedCase} {w : Wanted}

theorem decode_trim_congr {s t : String}
    (h : Text.eqIgnoreAsciiCase (Text.trim s) (Text.trim t) = true)
    : Hex.decode (Text.trim s).toList = Hex.decode (Text.trim t).toList := by
  have hmap : (Text.trim s).toList.map Char.toLower = (Text.trim t).toList.map Char.toLower := by
    simpa only [Text.eqIgnoreAsciiCase, beq_iff_eq] using h
  rw [← Hex.decode_map_toLower, hmap, Hex.decode_map_toLower]

theorem matches_congr (h : Respelled (actual.values.lookup w.field) (actual'.values.lookup w.field))
    : w.Matches actual ↔ w.Matches actual' := by
  rcases h with heq | ⟨s, t, hs, ht, hst⟩
  . cases w with
    | hex field want len =>
      dsimp only [Wanted.field] at heq
      simp only [Wanted.Matches, heq]
    | testPassed want =>
      dsimp only [Wanted.field] at heq
      simp only [Wanted.Matches, heq]
  . cases w with
    | hex field want len =>
      dsimp only [Wanted.field] at hs ht
      simp [Wanted.Matches, hs, ht, decode_trim_congr hst]
    | testPassed want =>
      dsimp only [Wanted.field] at hs ht
      simp [Wanted.Matches, hs, ht]

theorem unusable_congr (h : Respelled (actual.values.lookup w.field) (actual'.values.lookup w.field))
    : w.Unusable actual ↔ w.Unusable actual' := by
  rcases h with heq | ⟨s, t, hs, ht, hst⟩
  . cases w with
    | hex field want len =>
      dsimp only [Wanted.field] at heq
      simp only [Wanted.Unusable, heq]
    | testPassed want =>
      dsimp only [Wanted.field] at heq
      simp only [Wanted.Unusable, heq]
  . cases w with
    | hex field want len =>
      dsimp only [Wanted.field] at hs ht
      have hlength := Text.length_eq_of_eqIgnoreAsciiCase hst
      have hblank : Text.trim s = "" ↔ Text.trim t = "" := by
        rw [← String.toList_eq_nil_iff, ← String.toList_eq_nil_iff, ← List.length_eq_zero_iff,
          ← List.length_eq_zero_iff, hlength]
      have hishex : Hex.IsHex (Text.trim s) ↔ Hex.IsHex (Text.trim t) := by
        unfold Hex.IsHex
        rw [← Hex.decode_isSome_iff, ← Hex.decode_isSome_iff, decode_trim_congr hst]
      simp [Wanted.Unusable, hs, ht, decode_trim_congr hst, hblank, hishex]
    | testPassed want =>
      dsimp only [Wanted.field] at hs ht
      simp [Wanted.Unusable, hs, ht]

theorem FirstFailing.congr {P P' : Wanted → Prop} {fields : List Wanted}
    (hmatches : ∀ w ∈ fields, w.Matches actual ↔ w.Matches actual') (hP : ∀ w ∈ fields, P w ↔ P' w)
    : FirstFailing actual P fields ↔ FirstFailing actual' P' fields := by
  induction fields with
  | nil => simp [not_firstFailing_nil]
  | cons w fields ih =>
    rw [List.forall_mem_cons] at hmatches hP
    rw [firstFailing_cons, firstFailing_cons, hP.1, hmatches.1, ih hmatches.2 hP.2]

end Fields

section Grading

variable {crates : Crates} {expected : AnswerCase} {mode : String} {set : ParameterSet}

theorem compareCase_gradedByBytes (hhex : crates.DecodesHex) (hset : set ∈ ALL)
    (hmode : mode ∈ ["keyGen", "sigGen", "sigVer"]) (hvalid : ∀ w ∈ wanted expected mode set, w.Valid)
    (actual : SubmittedCase)
    : (compareCase crates expected actual mode set).status ≠ .missing
        ∧ GradedByBytes (wanted expected mode set) actual (compareCase crates expected actual mode set)
    := by
  rw [compareCase_eq_gradeFields expected set hmode]
  apply gradedByBytes_gradeFields
  . exact fun w hw => outcome_of_wanted hhex hset hw (hvalid w hw)
  . apply nodup_wanted

/--
A case is graded by the bytes its fields stand for, and the case of letters and white space around a
field make no difference to its status.
-/
theorem compareCase_by_bytes (hhex : crates.DecodesHex) (hset : set ∈ ALL)
    (hmode : mode ∈ ["keyGen", "sigGen", "sigVer"]) (hvalid : ∀ w ∈ wanted expected mode set, w.Valid)
    (actual : SubmittedCase)
    : GradedByBytes (wanted expected mode set) actual (compareCase crates expected actual mode set)
        ∧
      ∀ actual' : SubmittedCase,
        (∀ w ∈ wanted expected mode set,
          Respelled (actual.values.lookup w.field) (actual'.values.lookup w.field)) →
        (compareCase crates expected actual' mode set).status
          = (compareCase crates expected actual mode set).status := by
  obtain ⟨hmissing, hgraded⟩ := compareCase_gradedByBytes hhex hset hmode hvalid actual
  refine ⟨hgraded, ?_⟩
  intro actual' hrespelled
  obtain ⟨hmissing', hgraded'⟩ := compareCase_gradedByBytes hhex hset hmode hvalid actual'
  have hmatches : ∀ w ∈ wanted expected mode set, w.Matches actual ↔ w.Matches actual' :=
    fun w hw => matches_congr (hrespelled w hw)
  have hcorrect : (compareCase crates expected actual mode set).status = .correct
      ↔ (compareCase crates expected actual' mode set).status = .correct := by
    rw [hgraded.correct, hgraded'.correct]
    exact forall₂_congr hmatches
  have hmalformed : (compareCase crates expected actual mode set).status = .malformed
      ↔ (compareCase crates expected actual' mode set).status = .malformed := by
    rw [hgraded.malformed, hgraded'.malformed]
    exact FirstFailing.congr hmatches (fun w hw => unusable_congr (hrespelled w hw))
  -- what is neither correct nor malformed is incorrect
  cases hstatus : (compareCase crates expected actual mode set).status with
  | correct => exact hcorrect.mp hstatus
  | malformed => exact hmalformed.mp hstatus
  | missing => exact absurd hstatus hmissing
  | incorrect =>
    rw [hstatus] at hcorrect hmalformed
    cases hstatus' : (compareCase crates expected actual' mode set).status with
    | correct => simp [hstatus'] at hcorrect
    | malformed => simp [hstatus'] at hmalformed
    | missing => exact absurd hstatus' hmissing'
    | incorrect => rfl

end Grading

namespace bytesLab

def crates : Crates :=
  {
    fromStr := fun _ => .error "expected value at line 1 column 1"
    hexDecode := fun text => Fallible.okOr (Hex.decode text.toList) "Odd number of digits"
  }

theorem crates_decodesHex : crates.DecodesHex := by
  constructor
  . intro text bytes h
    simp [crates, h, Fallible.okOr]
  . intro text h
    exact ⟨"Odd number of digits", by simp [crates, h, Fallible.okOr]⟩

def expected (signature : List UInt8) : AnswerCase :=
  ⟨1, none, none, some (Hex.encode signature), none⟩

def answer (signature : String) : SubmittedCase :=
  ⟨1, [("tcId", .int 1), ("signature", .str signature)]⟩

theorem compareCase_by_bytes_lab
    : ∃ signature : List UInt8, signature.length = 2420
        ∧ (compareCase crates (expected signature) (answer (Text.toAsciiLowercase (Hex.encode signature)))
            "sigGen" ML_DSA_44).status = .correct := by
  obtain ⟨signature, hlength⟩ : ∃ signature : List UInt8, signature.length = 2420 :=
    ⟨List.replicate 2420 171, List.length_replicate⟩
  have hdecode := Hex.decode_encode signature
  have hupper := Hex.isHex_encode signature
  have hlower : Hex.IsHex (Text.toAsciiLowercase (Hex.encode signature)) := by
    unfold Hex.IsHex Text.toAsciiLowercase
    rw [String.toList_ofList, ← Hex.decode_isSome_iff, Hex.decode_map_toLower, hdecode]
    rfl
  have hwanted : wanted (expected signature) "sigGen" ML_DSA_44
      = [.hex "signature" (Hex.encode signature) 2420] := rfl
  have hvalid : ∀ w ∈ wanted (expected signature) "sigGen" ML_DSA_44, w.Valid := by
    rw [hwanted, List.forall_mem_singleton]
    exact ⟨signature, hdecode, hlength⟩
  have hlowered : ∀ w ∈ wanted (expected signature) "sigGen" ML_DSA_44,
      Respelled ((answer (Hex.encode signature)).values.lookup w.field)
        ((answer (Text.toAsciiLowercase (Hex.encode signature))).values.lookup w.field) := by
    rw [hwanted, List.forall_mem_singleton]
    refine .inr ⟨_, _, rfl, rfl, ?_⟩
    rw [hupper.trim_eq, hlower.trim_eq]
    simp
  obtain ⟨hgraded, hrespelled⟩ := compareCase_by_bytes crates_decodesHex (by simp [ALL]) (by simp) hvalid
    (answer (Hex.encode signature))
  refine ⟨signature, hlength, ?_⟩
  rw [hrespelled _ hlowered, hgraded.correct, hwanted, List.forall_mem_singleton]
  refine ⟨Hex.encode signature, signature, rfl, ?_, hdecode⟩
  rw [hupper.trim_eq, hdecode]

end bytesLab

end cavp

end PqCas
