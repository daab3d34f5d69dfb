import PqCas.Cavp.Student
import PqCas.Cavp.Validate

/-!
This module contains the agreement of generator, browser and grader: whoever computes every case of a
pack with the library the key was made with is graded all correct.
-/

namespace PqCas

namespace cavp

open web

def IsHexOf (s : String) (len : Nat) : Prop :=
  ∃ bytes, s = Hex.encode bytes ∧ bytes.length = len

namespace web

def ComputeOutput.WellFormed (set : ParameterSet) (out : ComputeOutput) : Prop :=
  match out with
  | .keys pk sk => IsHexOf pk set.pkLen ∧ IsHexOf sk set.skLen
  | .signature value => IsHexOf value set.sigLen
  | .testPassed _ => True

end web

theorem IsHexOf.ne_empty {s : String} {len : Nat} (h : IsHexOf s len) (hlen : 0 < len) : s ≠ "" := by
  obtain ⟨bytes, rfl, rfl⟩ := h
  apply Hex.encode_ne_empty
  rwa [← List.length_pos_iff]

theorem nonEmpty_of_wellFormed {out : ComputeOutput} (h : out.WellFormed ML_DSA_65) : out.NonEmpty := by
  unfold ComputeOutput.WellFormed at h
  unfold ComputeOutput.NonEmpty
  cases out with
  | keys pk sk => exact ⟨h.1.ne_empty (by decide), h.2.ne_empty (by decide)⟩
  | signature value => exact h.ne_empty (by decide)
  | testPassed value => trivial

/--
A pack with one answer for each test of its prompt: the answer is what the browser computes, and the
answer key holds exactly these answers.
-/
structure Answerable (noble : Noble) (pack : Pack) (tests : List Json) (outs : List ComputeOutput) : Prop where
  vsId : pack.vsId ∈ [91021, 91022, 91023]
  parameterSet : pack.parameterSet = gen.PARAMETER_SET
  prompt : pack.prompt = gen.prompt pack.vsId pack.capability.acvpMode tests
  answerKey : pack.answerKey = gen.answerKey pack.vsId pack.capability.acvpMode (outs.mapIdx answerCase)
  length_lt : outs.length < 2 ^ 32
  length_eq : tests.length = outs.length
  tcId : ∀ i (h : i < tests.length), tests[i].get "tcId" = some (.int (i + 1))
  computed : ∀ i (h : i < tests.length) (h' : i < outs.length),
    computeCase noble ⟨pack.capability, pack.parameterSet, promptValues tests[i]⟩ = .ok outs[i]
  capability : ∀ out ∈ outs, out.capability = pack.capability
  wellFormed : ∀ out ∈ outs, out.WellFormed ML_DSA_65

def Crates.ReadsHex (crates : Crates) : Prop :=
  ∀ bytes, crates.hexDecode (Hex.encode bytes) = .ok bytes

theorem checkHex_self {crates : Crates} (hhex : crates.ReadsHex) {actual : SubmittedCase}
    {field want : String} {len : Nat} (hlookup : actual.values.lookup field = some (.str want))
    (h : IsHexOf want len) (hlen : 0 < len) (tcId : Int)
    : checkHex crates tcId actual field want len = .ok () := by
  have hne := h.ne_empty hlen
  obtain ⟨bytes, rfl, rfl⟩ := h
  unfold checkHex
  rw [hlookup]
  dsimp only [Option.bind_some, Json.asStr_str]
  rw [(Hex.isHex_encode bytes).trim_eq, if_neg hne, hhex]
  dsimp only
  rw [if_neg (by simp), if_neg (by simp)]

def keyCase (i : Nat) (out : ComputeOutput) : AnswerCase :=
  match out with
  | .keys pk sk => ⟨i + 1, some pk, some sk, none, none⟩
  | .signature value => ⟨i + 1, none, none, some value, none⟩
  | .testPassed value => ⟨i + 1, none, none, none, some value⟩

def submission (i : Nat) (out : ComputeOutput) : SubmittedCase :=
  ⟨i + 1, ("tcId", .int (i + 1)) :: out.fields⟩

@[simp]
theorem tcId_keyCase (i : Nat) (out : ComputeOutput) : (keyCase i out).tcId = i + 1 := by
  cases out <;> rfl

theorem compareCase_self {crates : Crates} (hhex : crates.ReadsHex) {out : ComputeOutput}
    (h : out.WellFormed ML_DSA_65) (i : Nat)
    : compareCase crates (keyCase i out) (submission i out) out.capability.acvpMode ML_DSA_65
        =
      .ok (i + 1) := by
  unfold ComputeOutput.WellFormed at h
  cases out with
  | keys pk sk =>
    have hpk : (submission i (.keys pk sk)).values.lookup "pk" = some (.str pk) := rfl
    have hsk : (submission i (.keys pk sk)).values.lookup "sk" = some (.str sk) := rfl
    dsimp only [compareCase, ComputeOutput.capability, Capability.acvpMode, keyCase, checkWanted]
    rw [checkHex_self hhex hpk h.1 (by decide), checkHex_self hhex hsk h.2 (by decide)]
    rfl
  | signature value =>
    have hsig : (submission i (.signature value)).values.lookup "signature" = some (.str value) := rfl
    dsimp only [compareCase, ComputeOutput.capability, Capability.acvpMode, keyCase, checkWanted]
    rw [checkHex_self hhex hsig h (by decide)]
    rfl
  | testPassed value =>
    have hpassed : (submission i (.testPassed value)).values.lookup "testPassed" = some (.bool value) := rfl
    dsimp only [compareCase, ComputeOutput.capability, Capability.acvpMode, keyCase]
    rw [hpassed]
    exact if_pos rfl

theorem asI64_tcId {i : Nat} (h : i < 2 ^ 32) : (Json.int (i + 1)).asI64 = some (i + 1 : Int) :=
  Json.asI64_int (by omega) (by omega)

theorem fromValue_answerCase {i : Nat} (h : i < 2 ^ 32) (out : ComputeOutput)
    : AnswerCase.fromValue (answerCase i out) = .ok (keyCase i out) := by
  have htcId : requiredField (answerCase i out) "tcId" Json.asI64 = .ok (i + 1 : Int) := by
    have hget : (answerCase i out).get "tcId" = some (.int (i + 1)) := rfl
    unfold requiredField
    rw [hget, Fallible.bind_eq_ok_iff]
    exact ⟨_, rfl, Fallible.okOr_eq_ok_iff.mpr (asI64_tcId h)⟩
  unfold AnswerCase.fromValue
  rw [Fallible.bind_eq_ok_iff]
  refine ⟨_, htcId, ?_⟩
  cases out <;> rfl

theorem submittedCase_answerCase {i : Nat} (h : i < 2 ^ 32) (out : ComputeOutput)
    : submittedCase (answerCase i out) = some (submission i out) := by
  have hget : (("tcId", Json.int (i + 1)) :: out.fields).lookup "tcId" = some (.int (i + 1)) := rfl
  unfold submittedCase answerCase
  rw [Json.asObject_obj, Option.bind_eq_bind, Option.bind_some, hget, Option.bind_some, asI64_tcId h]
  rfl

def keyOf (vsId : Int) (mode : String) (outs : List ComputeOutput) : AnswerKey :=
  {
    vsId := vsId
    mode := mode
    parameterSet := gen.PARAMETER_SET
    cases := outs.mapIdx keyCase
  }

theorem fromValue_answerKey {vsId : Int} {mode : String} {outs : List ComputeOutput}
    (hvsId : (Json.int vsId).asI64 = some vsId) (hlt : outs.length < 2 ^ 32)
    : AnswerKey.fromValue (gen.answerKey vsId mode (outs.mapIdx answerCase)) = .ok (keyOf vsId mode outs) := by
  have hcases : (outs.mapIdx answerCase).mapM AnswerCase.fromValue = .ok (outs.mapIdx keyCase) := by
    rw [Fallible.mapM_eq_ok_iff, List.forall₂_iff_get]
    refine ⟨by simp, ?_⟩
    intro i hi hi'
    rw [List.length_mapIdx] at hi
    simp only [List.get_eq_getElem, List.getElem_mapIdx]
    exact fromValue_answerCase (by omega) _
  unfold AnswerKey.fromValue requiredField
  simp only [Fallible.bind_eq_ok_iff, Fallible.okOr_eq_ok_iff]
  exact ⟨vsId, ⟨_, rfl, hvsId⟩, mode, ⟨_, rfl, rfl⟩, _, ⟨_, rfl, rfl⟩, _, ⟨_, rfl, rfl⟩, _, hcases, rfl⟩

theorem filterMap_submittedCase {outs : List ComputeOutput} (hlt : outs.length < 2 ^ 32)
    : (outs.mapIdx answerCase).filterMap submittedCase = outs.mapIdx submission := by
  apply Fallible.filterMap_mapIdx
  intro i hi
  exact submittedCase_answerCase (by omega) _

theorem lookup_parameterSet : lookup gen.PARAMETER_SET = some ML_DSA_65 := by
  decide

theorem collectCases_results {vsId : Int} {mode : String} {outs : List ComputeOutput}
    (hlt : outs.length < 2 ^ 32)
    : collectCases (results vsId mode (outs.mapIdx answerCase)) = some (outs.mapIdx submission) := by
  have hcollect : collectCases (results vsId mode (outs.mapIdx answerCase))
      = some ((outs.mapIdx answerCase).filterMap submittedCase ++ []) := rfl
  rw [hcollect, List.append_nil, filterMap_submittedCase hlt]

theorem find?_submission {outs : List ComputeOutput} {i : Nat} (hi : i < outs.length)
    : (outs.mapIdx submission).find? (fun c => c.tcId == (i + 1 : Int)) = some (submission i outs[i]) := by
  rw [List.find?_eq_some_iff_getElem]
  refine ⟨by simp [submission], i, by simpa using hi, by simp, ?_⟩
  intro j hj
  simp only [List.getElem_mapIdx, submission, Bool.not_eq_true', beq_eq_false_iff_ne, ne_eq]
  omega

theorem map_gradeCase {crates : Crates} (hhex : crates.ReadsHex) {vsId : Int} {c : Capability}
    {outs : List ComputeOutput} (hcap : ∀ out ∈ outs, out.capability = c)
    (hwf : ∀ out ∈ outs, out.WellFormed ML_DSA_65)
    : ∀ r ∈ (keyOf vsId c.acvpMode outs).cases.map
        (gradeCase crates (keyOf vsId c.acvpMode outs) ML_DSA_65 (outs.mapIdx submission)),
      r.status = .correct := by
  intro r hr
  obtain ⟨expected, hexpected, rfl⟩ := List.mem_map.mp hr
  dsimp only [keyOf] at hexpected
  obtain ⟨i, hi, rfl⟩ := List.mem_mapIdx.mp hexpected
  have hmem : outs[i] ∈ outs := List.getElem_mem hi
  unfold gradeCase
  rw [tcId_keyCase, find?_submission hi]
  dsimp only [keyOf]
  rw [← hcap _ hmem, compareCase_self hhex (hwf _ hmem)]
  rfl

theorem allCorrect_report {key : AnswerKey} {cases : List CaseResult} (hne : cases ≠ [])
    (h : ∀ r ∈ cases, r.status = .correct) : (report key cases).allCorrect = true := by
  have hcount : cases.countP (fun c => c.status == .correct) = cases.length := by
    rw [List.countP_eq_length]
    intro r hr
    rw [h r hr]
    rfl
  have hpos : 0 < cases.length := List.length_pos_iff.mpr hne
  simp [ValidationReport.allCorrect, report, hcount, hpos]

theorem validate_results {crates : Crates} (hhex : crates.ReadsHex) {text : String} {vsId : Int}
    {c : Capability} {outs : List ComputeOutput} (hlt : outs.length < 2 ^ 32) (hne : outs ≠ [])
    (hcap : ∀ out ∈ outs, out.capability = c) (hwf : ∀ out ∈ outs, out.WellFormed ML_DSA_65)
    (hvsId : (Json.int vsId).asI64 = some vsId)
    (hread : crates.fromStr text = .ok (results vsId c.acvpMode (outs.mapIdx answerCase)))
    : ∃ r, validate crates text (keyOf vsId c.acvpMode outs) = .ok r ∧ r.allCorrect = true := by
  refine ⟨_, (validate_eq_ok_iff _ _ _ _).mpr
    ⟨_, ML_DSA_65, _, hread, lookup_parameterSet, ?_, ?_, collectCases_results hlt, rfl⟩, ?_⟩
  . intro mode hmode
    exact (Option.some.inj hmode).symm
  . intro id hid
    have hget : ((results vsId c.acvpMode (outs.mapIdx answerCase)).get "vsId").bind Json.asI64
        = (Json.int vsId).asI64 := rfl
    rw [hget, hvsId] at hid
    exact (Option.some.inj hid).symm
  . apply allCorrect_report
    . simpa [keyOf] using hne
    . exact map_gradeCase hhex hcap hwf

theorem exampleAnswer_answerKey {vsId : Int} {mode : String} {outs : List ComputeOutput}
    (h : 0 < outs.length)
    : exampleAnswer (gen.answerKey vsId mode (outs.mapIdx answerCase)) = answerCase 0 outs[0] := by
  cases outs with
  | nil => cases h
  | cons out outs =>
    rw [List.mapIdx_cons]
    rfl

theorem honestResults_of_answerable {noble : Noble} {pack : Pack} {tests : List Json}
    {outs : List ComputeOutput} (h : Answerable noble pack tests outs)
    : honestResults noble (packDetail pack.slug pack)
        =
      .ok (results pack.vsId pack.capability.acvpMode (outs.mapIdx answerCase)) := by
  apply honestResults_eq h.prompt
  rw [List.forall₂_iff_get]
  refine ⟨by simpa using h.length_eq, ?_⟩
  intro i hi hi'
  rw [List.length_mapIdx] at hi'
  have hmem : outs[i] ∈ outs := List.getElem_mem hi'
  simp only [List.get_eq_getElem, List.getElem_mapIdx]
  rw [h.tcId i hi]
  apply fillCase_eq
  . intro hzero
    subst hzero
    dsimp only [packDetail]
    rw [h.answerKey]
    exact exampleAnswer_answerKey hi'
  . exact nonEmpty_of_wellFormed (h.wellFormed _ hmem)
  . exact h.capability _ hmem
  . exact h.computed i hi hi'

def gen.packFor (dsa : MlDsa) (inputs : Inputs) (c : Capability) : Except String Pack :=
  match c with
  | .keyGen => .ok (gen.keyGenPack dsa inputs)
  | .sigGen => do
    let cases ← gen.sigGenCases dsa inputs
    return gen.sigGenPack dsa inputs cases
  | .sigVer => do
    let tests ← gen.sigVerTests dsa inputs
    return gen.sigVerPack tests

structure Fips204 (set : ParameterSet) (dsa : MlDsa) : Prop where
  seed : dsa.lengthsSeed = set.seedLen
  publicKey : ∀ seed, seed.length = set.seedLen → (dsa.keygen seed).publicKey.length = set.pkLen
  secretKey : ∀ seed, seed.length = set.seedLen → (dsa.keygen seed).secretKey.length = set.skLen
  signature : ∀ message sk context, sk.length = set.skLen →
    (dsa.sign message sk context).length = set.sigLen

structure Inputs.Valid (inputs : Inputs) : Prop where
  seeds : ∀ s ∈ inputs.seeds, Hex.IsHex s ∧ s.toList.length = 64
  messages : ∀ s ∈ inputs.messages, Hex.IsHex s ∧ s ≠ ""
  contexts : ∀ s ∈ inputs.contexts, Hex.IsHex s
  length_messages : inputs.messages.length = inputs.seeds.length
  length_contexts : inputs.contexts.length = inputs.seeds.length

section Packs

variable {noble : Noble} {inputs : Inputs}

theorem length_unhex_of_valid (hvalid : inputs.Valid) {s : String} (h : s ∈ inputs.seeds)
    : (gen.unhex s).length = 32 := by
  obtain ⟨hhex, hlen⟩ := hvalid.seeds s h
  obtain ⟨bytes, hbytes, hlength⟩ := hhex.decode
  rw [gen.unhex, Hex.decodeLenient_of_decode hbytes]
  omega

theorem ne_empty_of_valid (hvalid : inputs.Valid) {s : String} (h : s ∈ inputs.seeds) : s ≠ "" := by
  rintro rfl
  have := (hvalid.seeds _ h).2
  cases this

def keyGenOut (dsa : MlDsa) (seed : String) : ComputeOutput :=
  .keys (gen.hex (dsa.keygen (gen.unhex seed)).publicKey) (gen.hex (dsa.keygen (gen.unhex seed)).secretKey)

theorem answerable_keyGenPack (hfips : Fips204 ML_DSA_65 noble.mlDsa65) (hvalid : inputs.Valid)
    : Answerable noble (gen.keyGenPack noble.mlDsa65 inputs) (inputs.seeds.mapIdx gen.keyGenTest)
        (inputs.seeds.map (keyGenOut noble.mlDsa65)) where
  vsId := by simp [gen.keyGenPack]
  parameterSet := rfl
  prompt := rfl
  answerKey := by
    dsimp only [gen.keyGenPack, Capability.acvpMode]
    congr 1
    apply List.ext_getElem
    . simp [gen.length_keypairs]
    . intro i hi hi'
      simp [gen.keypairs, gen.keyGenCase, answerCase, keyGenOut, ComputeOutput.fields]
  length_lt := by simpa using inputs.length_seeds_lt
  length_eq := by simp
  tcId := by
    intro i hi
    rw [List.getElem_mapIdx]
    rfl
  computed := by
    intro i hi hi'
    rw [List.length_mapIdx] at hi
    have hmem : inputs.seeds[i] ∈ inputs.seeds := List.getElem_mem hi
    rw [List.getElem_mapIdx, List.getElem_map]
    refine computeCase_keyGen (by rfl) (hvalid.seeds _ hmem).1 (ne_empty_of_valid hvalid hmem) ?_
    rw [length_unhex_of_valid hvalid hmem, hfips.seed]
    rfl
  capability := by
    intro out hout
    obtain ⟨seed, -, rfl⟩ := List.mem_map.mp hout
    rfl
  wellFormed := by
    intro out hout
    obtain ⟨seed, hseed, rfl⟩ := List.mem_map.mp hout
    have hlen := length_unhex_of_valid hvalid hseed
    exact ⟨⟨_, rfl, hfips.publicKey _ hlen⟩, ⟨_, rfl, hfips.secretKey _ hlen⟩⟩

theorem message_of_valid (hvalid : inputs.Valid) {i : Nat} (hi : i < inputs.seeds.length)
    : ∃ message, inputs.messages[i]? = some message ∧ Hex.IsHex message ∧ message ≠ "" := by
  have hlt : i < inputs.messages.length := by rwa [hvalid.length_messages]
  exact ⟨_, List.getElem?_eq_getElem hlt, hvalid.messages _ (List.getElem_mem hlt)⟩

theorem context_of_valid (hvalid : inputs.Valid) {i : Nat} (hi : i < inputs.seeds.length)
    : ∃ context, inputs.contexts[i]? = some context ∧ Hex.IsHex context := by
  have hlt : i < inputs.contexts.length := by rwa [hvalid.length_contexts]
  exact ⟨_, List.getElem?_eq_getElem hlt, hvalid.contexts _ (List.getElem_mem hlt)⟩

theorem length_secretKey (hfips : Fips204 ML_DSA_65 noble.mlDsa65) (hvalid : inputs.Valid) {s : String}
    (h : s ∈ inputs.seeds) : (noble.mlDsa65.keygen (gen.unhex s)).secretKey.length = 4032 :=
  hfips.secretKey _ (length_unhex_of_valid hvalid h)

def sigGenOut (dsa : MlDsa) (inputs : Inputs) (i : Nat) (seed : String) : ComputeOutput :=
  .signature (gen.hex (dsa.sign
    (gen.unhex (inputs.messages[i]?.getD ""))
    (dsa.keygen (gen.unhex seed)).secretKey
    (gen.unhex (inputs.contexts[i]?.getD ""))))

theorem sigGenCases_of_valid (hvalid : inputs.Valid) (dsa : MlDsa)
    : gen.sigGenCases dsa inputs = .ok ((inputs.seeds.mapIdx (sigGenOut dsa inputs)).mapIdx answerCase) := by
  unfold gen.sigGenCases
  rw [Fallible.mapM_eq_ok_iff, List.forall₂_iff_get]
  refine ⟨by simp [gen.sigGenTests, gen.keypairs], ?_⟩
  intro i hi hi'
  simp only [List.length_mapIdx] at hi'
  obtain ⟨message, hmessage, -⟩ := message_of_valid hvalid hi'
  simp only [gen.sigGenTests, gen.keypairs, List.get_eq_getElem, List.getElem_zip, List.getElem_mapIdx,
    List.getElem_map]
  rw [gen.sigGenCase_eq_ok_iff]
  refine ⟨message, hmessage, ?_⟩
  simp [answerCase, sigGenOut, ComputeOutput.fields, gen.sigGenTest, hmessage]

theorem answerable_sigGenPack (hfips : Fips204 ML_DSA_65 noble.mlDsa65) (hvalid : inputs.Valid)
    : Answerable noble
        (gen.sigGenPack noble.mlDsa65 inputs
          ((inputs.seeds.mapIdx (sigGenOut noble.mlDsa65 inputs)).mapIdx answerCase))
        ((gen.sigGenTests noble.mlDsa65 inputs).map gen.SigGenTest.toJson)
        (inputs.seeds.mapIdx (sigGenOut noble.mlDsa65 inputs)) where
  vsId := by simp [gen.sigGenPack]
  parameterSet := rfl
  prompt := rfl
  answerKey := rfl
  length_lt := by simpa using inputs.length_seeds_lt
  length_eq := by simp [gen.sigGenTests, gen.keypairs]
  tcId := by
    intro i hi
    simp only [gen.sigGenTests, List.getElem_map, List.getElem_mapIdx]
    rfl
  computed := by
    intro i hi hi'
    rw [List.length_mapIdx] at hi'
    have hmem : inputs.seeds[i] ∈ inputs.seeds := List.getElem_mem hi'
    obtain ⟨message, hmessage, hm, hmne⟩ := message_of_valid hvalid hi'
    obtain ⟨context, hcontext, hc⟩ := context_of_valid hvalid hi'
    have hsk : (noble.mlDsa65.keygen (gen.unhex inputs.seeds[i])).secretKey ≠ [] := by
      rw [← List.length_pos_iff, length_secretKey hfips hvalid hmem]
      decide
    simp only [gen.sigGenTests, gen.keypairs, List.getElem_map, List.getElem_mapIdx]
    unfold sigGenOut gen.sigGenTest gen.SigGenTest.toJson
    rw [hmessage, hcontext]
    exact computeCase_sigGen (by rfl) hsk (by rfl) hm hmne (by rfl) hc
  capability := by
    intro out hout
    obtain ⟨i, hi, rfl⟩ := List.mem_mapIdx.mp hout
    rfl
  wellFormed := by
    intro out hout
    obtain ⟨i, hi, rfl⟩ := List.mem_mapIdx.mp hout
    exact ⟨_, rfl, hfips.signature _ _ _ (length_secretKey hfips hvalid (List.getElem_mem hi))⟩

def sigVerTestOf (dsa : MlDsa) (inputs : Inputs) (i : Nat) (seed : String) : gen.SigVerTest :=
  let kp := dsa.keygen (gen.unhex seed)
  {
    tcId := i + 1
    pk := gen.hex kp.publicKey
    message := inputs.messages[i]?
    context := inputs.contexts[i]?
    signature := gen.hex (gen.shownSignature dsa inputs i kp (inputs.messages[i]?.getD ""))
    expected := !(i == 1)
  }

theorem sigVerTests_of_valid (hvalid : inputs.Valid) (dsa : MlDsa)
    : gen.sigVerTests dsa inputs = .ok (inputs.seeds.mapIdx (sigVerTestOf dsa inputs)) := by
  unfold gen.sigVerTests
  rw [Fallible.mapM_eq_ok_iff, List.forall₂_iff_get]
  refine ⟨by simp [gen.keypairs], ?_⟩
  intro i hi hi'
  rw [List.length_mapIdx] at hi'
  obtain ⟨message, hmessage, -⟩ := message_of_valid hvalid hi'
  simp only [gen.keypairs, List.get_eq_getElem, List.getElem_zipIdx, List.getElem_mapIdx, List.getElem_map,
    Nat.zero_add]
  rw [gen.sigVerTest_eq_ok_iff]
  refine ⟨message, hmessage, ?_⟩
  simp [sigVerTestOf, hmessage]

theorem shownSignature_ne_nil (hfips : Fips204 ML_DSA_65 noble.mlDsa65) (hvalid : inputs.Valid) {s : String}
    (h : s ∈ inputs.seeds) (i : Nat) (message : String)
    : gen.shownSignature noble.mlDsa65 inputs i (noble.mlDsa65.keygen (gen.unhex s)) message ≠ [] := by
  rw [← List.length_pos_iff, gen.length_shownSignature]
  rw [hfips.signature _ _ _ (length_secretKey hfips hvalid h)]
  decide

def sigVerOut (i : Nat) (_seed : String) : ComputeOutput :=
  .testPassed (!(i == 1))

theorem answerable_sigVerPack (hfips : Fips204 ML_DSA_65 noble.mlDsa65) (hvalid : inputs.Valid)
    (hcheck : gen.selfCheck noble.mlDsa65 inputs (inputs.seeds.mapIdx (sigVerTestOf noble.mlDsa65 inputs))
      = .ok ())
    : Answerable noble (gen.sigVerPack (inputs.seeds.mapIdx (sigVerTestOf noble.mlDsa65 inputs)))
        ((inputs.seeds.mapIdx (sigVerTestOf noble.mlDsa65 inputs)).map gen.SigVerTest.toJson)
        (inputs.seeds.mapIdx sigVerOut) where
  vsId := by simp [gen.sigVerPack]
  parameterSet := rfl
  prompt := rfl
  answerKey := by
    dsimp only [gen.sigVerPack, Capability.acvpMode]
    congr 1
    apply List.ext_getElem
    . simp
    . intro i hi hi'
      simp [gen.sigVerCase, sigVerTestOf, answerCase, sigVerOut, ComputeOutput.fields]
  length_lt := by simpa using inputs.length_seeds_lt
  length_eq := by simp
  tcId := by
    intro i hi
    rw [List.getElem_map, List.getElem_mapIdx]
    rfl
  computed := by
    intro i hi hi'
    rw [List.length_mapIdx] at hi'
    have hmem : inputs.seeds[i] ∈ inputs.seeds := List.getElem_mem hi'
    obtain ⟨message, hmessage, hm, hmne⟩ := message_of_valid hvalid hi'
    obtain ⟨context, hcontext, hc⟩ := context_of_valid hvalid hi'
    have hpk : (noble.mlDsa65.keygen (gen.unhex inputs.seeds[i])).publicKey ≠ [] := by
      rw [← List.length_pos_iff, hfips.publicKey _ (length_unhex_of_valid hvalid hmem)]
      decide
    have hverify := (gen.selfCheck_eq_ok_iff (by simp)).mp hcheck i hi' (by simpa using hi')
    rw [List.getElem_mapIdx, gen.selfCheckCase_eq_ok_iff] at hverify
    rw [List.getElem_map, List.getElem_mapIdx, List.getElem_mapIdx]
    unfold sigVerTestOf at hverify ⊢
    rw [hmessage, hcontext] at hverify ⊢
    obtain ⟨message', hmessage', hverify⟩ := hverify
    cases hmessage'
    dsimp only at hverify
    rw [unhex_hex] at hverify
    unfold sigVerOut
    rw [← hverify]
    exact computeCase_sigVer (by rfl) hpk (by rfl) hm hmne (by rfl)
      (shownSignature_ne_nil hfips hvalid hmem i _) (by rfl) hc
  capability := by
    intro out hout
    obtain ⟨i, hi, rfl⟩ := List.mem_mapIdx.mp hout
    rfl
  wellFormed := by
    intro out hout
    obtain ⟨i, hi, rfl⟩ := List.mem_mapIdx.mp hout
    trivial

end Packs

def KeyVerifies (noble : Noble) (inputs : Inputs) : Prop :=
  ∀ tests, gen.sigVerTests noble.mlDsa65 inputs = .ok tests →
    gen.selfCheck noble.mlDsa65 inputs tests = .ok ()

/--
The student's work on a pack goes through: the pack is built and given out, every blank case can be
computed, and the results file is graded all correct against the key of the pack.
-/
def HonestPasses (crates : Crates) (noble : Noble) (inputs : Inputs) (c : Capability) : Prop :=
  ∃ pack detail filled key,
    gen.packFor noble.mlDsa65 inputs c = .ok pack
      ∧
    getPack [pack] pack.slug = .ok detail
      ∧
    honestResults noble detail = .ok filled
      ∧
    AnswerKey.fromValue pack.answerKey = .ok key
      ∧
    ∀ text, crates.fromStr text = .ok filled →
      ∃ r, validate crates text key = .ok r ∧ r.allCorrect = true

theorem exists_answerable {noble : Noble} {inputs : Inputs} (hfips : Fips204 ML_DSA_65 noble.mlDsa65)
    (hvalid : inputs.Valid) {c : Capability} (hver : c = .sigVer → KeyVerifies noble inputs)
    : ∃ pack tests outs,
        gen.packFor noble.mlDsa65 inputs c = .ok pack
          ∧
        Answerable noble pack tests outs
          ∧
        outs.length = inputs.seeds.length := by
  cases c with
  | keyGen => exact ⟨_, _, _, rfl, answerable_keyGenPack hfips hvalid, by simp⟩
  | sigGen =>
    refine ⟨_, _, _, ?_, answerable_sigGenPack hfips hvalid, by simp⟩
    unfold gen.packFor
    rw [sigGenCases_of_valid hvalid]
    rfl
  | sigVer =>
    have htests := sigVerTests_of_valid hvalid noble.mlDsa65
    refine ⟨_, _, _, ?_, answerable_sigVerPack hfips hvalid (hver rfl _ htests), by simp⟩
    unfold gen.packFor
    rw [htests]
    rfl

theorem getPack_singleton (pack : Pack) : getPack [pack] pack.slug = .ok (packDetail pack.slug pack) := by
  simp [getPack, fetchPack, Fallible.okOr, bind, Except.bind, pure, Except.pure]

theorem asI64_vsId {vsId : Int} (h : vsId ∈ [91021, 91022, 91023]) : (Json.int vsId).asI64 = some vsId := by
  simp only [List.mem_cons, List.not_mem_nil, or_false] at h
  exact Json.asI64_int (by omega) (by omega)

/--
The honest student passes every pack with at least one case.
-/
theorem honestPasses {crates : Crates} {noble : Noble} {inputs : Inputs} (c : Capability)
    (hhex : crates.ReadsHex) (hfips : Fips204 ML_DSA_65 noble.mlDsa65) (hvalid : inputs.Valid)
    (hne : inputs.seeds ≠ []) (hver : c = .sigVer → KeyVerifies noble inputs)
    : HonestPasses crates noble inputs c := by
  obtain ⟨pack, tests, outs, hpack, hans, hlength⟩ := exists_answerable hfips hvalid hver
  have hvsId := asI64_vsId hans.vsId
  have houts : outs ≠ [] := by
    rw [← List.length_pos_iff, hlength, List.length_pos_iff]
    exact hne
  have hkey : AnswerKey.fromValue pack.answerKey = .ok (keyOf pack.vsId pack.capability.acvpMode outs) := by
    rw [hans.answerKey]
    exact fromValue_answerKey hvsId hans.length_lt
  refine ⟨pack, _, _, _, hpack, getPack_singleton pack, honestResults_of_answerable hans, hkey, ?_⟩
  intro text hread
  exact validate_results hhex hans.length_lt houts hans.capability hans.wellFormed hvsId hread

namespace lab

def mlDsa65 : MlDsa :=
  {
    lengthsSeed := 32
    keygen := fun _ => ⟨List.replicate 1952 0, List.replicate 4032 0⟩
    sign := fun _ _ _ => List.replicate 3309 0
    verify := fun signature _ _ _ => signature.head? == some 0
  }

def noble : Noble := ⟨mlDsa65, mlDsa65, mlDsa65⟩

def twoText : String :=
  "\x7b\"vsId\":91023,\"algorithm\":\"ML-DSA\",\"mode\":\"sigVer\",\"revision\":\"FIPS204\",\"testGroups\":[\x7b\"tgId\":1,\"tests\":[\x7b\"tcId\":1,\"testPassed\":true\x7d,\x7b\"tcId\":2,\"testPassed\":false\x7d]\x7d]\x7d"

def twoResults : Json :=
  results 91023 "sigVer" [answerCase 0 (.testPassed true), answerCase 1 (.testPassed false)]

def emptyText : String :=
  "\x7b\"vsId\":91021,\"algorithm\":\"ML-DSA\",\"mode\":\"keyGen\",\"revision\":\"FIPS204\",\"testGroups\":[\x7b\"tgId\":1,\"tests\":[]\x7d]\x7d"

def emptyResults : Json := results 91021 "keyGen" []

def crates : Crates :=
  {
    fromStr := fun text =>
      if text = twoText then
        .ok twoResults
      else if text = emptyText then
        .ok emptyResults
      else
        .error "expected value at line 1 column 1"
    hexDecode := fun text => Fallible.okOr (Hex.decode text.toList) "Odd number of digits"
  }

def noSeeds : Inputs :=
  {
    seeds := []
    messages := []
    contexts := []
    length_seeds_lt := by decide
  }

theorem readsHex_crates : crates.ReadsHex := by
  intro bytes
  simp [crates]

theorem fips204_mlDsa65 : Fips204 ML_DSA_65 mlDsa65 where
  seed := rfl
  publicKey := fun _ _ => List.length_replicate
  secretKey := fun _ _ => List.length_replicate
  signature := fun _ _ _ _ => List.length_replicate

theorem valid_twoSeeds : twoSeeds.Valid where
  seeds := by decide
  messages := by decide
  contexts := by decide
  length_messages := rfl
  length_contexts := rfl

theorem head?_shownSignature (inputs : Inputs) (i : Nat) (kp : KeyPair) (message : String)
    : ((gen.shownSignature mlDsa65 inputs i kp message).head? == some 0) = !(i == 1) := by
  unfold gen.shownSignature
  cases i == 1 <;> rfl

theorem keyVerifies {inputs : Inputs} (hvalid : inputs.Valid) : KeyVerifies noble inputs := by
  intro tests htests
  rw [sigVerTests_of_valid hvalid] at htests
  cases htests
  rw [gen.selfCheck_eq_ok_iff (by simp)]
  intro i hi ht
  obtain ⟨message, hmessage, -⟩ := message_of_valid hvalid hi
  rw [List.getElem_mapIdx, gen.selfCheckCase_eq_ok_iff]
  refine ⟨message, hmessage, ?_⟩
  dsimp only [sigVerTestOf]
  rw [unhex_hex]
  exact head?_shownSignature _ _ _ _

theorem honestPasses_twoSeeds
    : ∃ pack key r,
        gen.packFor mlDsa65 twoSeeds .sigVer = .ok pack
          ∧
        AnswerKey.fromValue pack.answerKey = .ok key
          ∧
        validate crates twoText key = .ok r
          ∧
        r.allCorrect = true := by
  have hpasses : HonestPasses crates noble twoSeeds .sigVer :=
    honestPasses .sigVer readsHex_crates fips204_mlDsa65 valid_twoSeeds (by decide)
      (fun _ => keyVerifies valid_twoSeeds)
  obtain ⟨pack, detail, filled, key, hpack, hdetail, hfilled, hkey, hvalidate⟩ := hpasses
  have htests := sigVerTests_of_valid valid_twoSeeds mlDsa65
  have hans : Answerable noble _ _ _ :=
    answerable_sigVerPack fips204_mlDsa65 valid_twoSeeds (keyVerifies valid_twoSeeds _ htests)
  have hsame : gen.packFor mlDsa65 twoSeeds .sigVer
      = .ok (gen.sigVerPack (twoSeeds.seeds.mapIdx (sigVerTestOf mlDsa65 twoSeeds))) := by
    unfold gen.packFor
    rw [htests]
    rfl
  have hpack' : gen.packFor mlDsa65 twoSeeds .sigVer = .ok pack := hpack
  rw [hsame] at hpack'
  cases hpack'
  rw [getPack_singleton] at hdetail
  cases hdetail
  have hresults : honestResults noble (packDetail "mldsa65-02-sigver"
      (gen.sigVerPack (twoSeeds.seeds.mapIdx (sigVerTestOf mlDsa65 twoSeeds)))) = .ok twoResults :=
    honestResults_of_answerable hans
  have hfilled' : Except.ok twoResults = (Except.ok filled : Except String Json) := hresults.symm.trans hfilled
  have hread : crates.fromStr twoText = .ok filled := by
    rw [← hfilled']
    simp [crates]
  obtain ⟨r, hr, hcorrect⟩ := hvalidate twoText hread
  exact ⟨_, key, r, hpack, hkey, hr, hcorrect⟩

theorem not_honestPasses_noSeeds : ¬HonestPasses crates noble noSeeds .keyGen := by
  rintro ⟨pack, detail, filled, key, hpack, hdetail, hfilled, hkey, hvalidate⟩
  cases hpack
  cases hdetail
  cases hfilled
  cases hkey
  have hread : crates.fromStr emptyText = .ok emptyResults := by
    have hne : emptyText ≠ twoText := by simp [emptyText, twoText]
    simp [crates, hne]
  obtain ⟨r, hr, hcorrect⟩ := hvalidate emptyText hread
  obtain ⟨value, set, submitted, -, -, -, -, -, rfl⟩ := (validate_eq_ok_iff _ _ _ _).mp hr
  cases hcorrect

end lab

end cavp

end PqCas
