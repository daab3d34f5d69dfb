import PqCas.Domain.Status
import PqCas.Lib.Fallible
import PqCas.Lib.Hex
import PqCas.Lib.Json

/-!
This module contains the generator of the question packs (`tools/gen-cavp-vectors.mjs`): the prompts
the students see and the answer keys the API grades against, all of them derived from the same key
pairs.
-/

namespace PqCas

namespace cavp

structure KeyPair where
  publicKey : List UInt8
  secretKey : List UInt8

/--
One parameter set of `@noble/post-quantum/ml-dsa.js`. Signing takes the message, the secret key and
the context, verification the signature, the message, the public key and the context.
-/
structure MlDsa where
  lengthsSeed : Nat
  keygen : List UInt8 → KeyPair
  sign : List UInt8 → List UInt8 → List UInt8 → List UInt8
  verify : List UInt8 → List UInt8 → List UInt8 → List UInt8 → Bool

/--
The constants `SEEDS`, `MESSAGES` and `CONTEXTS`. The test cases are the entries of an array, of which
there are fewer than `2 ^ 32`.
-/
structure Inputs where
  seeds : List String
  messages : List String
  contexts : List String
  length_seeds_lt : seeds.length < 2 ^ 32

structure Pack where
  slug : String
  capability : Capability
  parameterSet : String
  vsId : Int
  registration : Json
  prompt : Json
  answerKey : Json

namespace gen

def PARAMETER_SET : String := "ML-DSA-65"

def hex (bytes : List UInt8) : String := Hex.encode bytes

def unhex (s : String) : List UInt8 := Hex.decodeLenient s.toList

/--
`unhex` of an array element: there is no buffer of `undefined`.
-/
def unhexArg (s : Option String) : Except String (List UInt8) :=
  match s with
  | some s => .ok (unhex s)
  | none => .error "The first argument must be of type string or an instance of Buffer"

def keypairs (dsa : MlDsa) (inputs : Inputs) : List KeyPair :=
  inputs.seeds.map (fun seed => dsa.keygen (unhex seed))

def strings (items : List String) : Json := .arr (items.map .str)

def registration : List (String × Json) :=
  [
    ("algorithm", .str "ML-DSA"),
    ("revision", .str "FIPS204"),
    ("parameterSets", strings ["ML-DSA-44", "ML-DSA-65", "ML-DSA-87"]),
    ("selectedParameterSet", .str PARAMETER_SET),
    ("vectorTypes", strings ["AFT", "VAL"]),
    ("selectedVectorType", .str "AFT"),
    ("sample", .bool true),
    ("capabilityVsId", .int 42)
  ]

def limits (min max increment : Int) : Json :=
  .obj [("min", .int min), ("max", .int max), ("increment", .int increment), ("unit", .str "bits")]

def signatureOptions : List (String × Json) :=
  [
    ("signatureInterfaces", strings ["external", "internal"]),
    ("selectedSignatureInterface", .str "external"),
    ("preHash", strings ["pure", "preHash"]),
    ("selectedPreHash", .str "pure"),
    ("externalMu", .bool false),
    ("deterministic", .bool true),
    ("capabilityLimits", .obj [
      ("messageLength", limits 8 65536 8),
      ("contextLength", limits 0 2040 8),
      ("hashAlgorithms", strings [
        "SHA2-224", "SHA2-256", "SHA2-384", "SHA2-512", "SHA2-512/224", "SHA2-512/256",
        "SHA3-224", "SHA3-256", "SHA3-384", "SHA3-512"
      ])
    ])
  ]

def prompt (vsId : Int) (mode : String) (tests : List Json) : Json :=
  .obj [
    ("vsId", .int vsId),
    ("algorithm", .str "ML-DSA"),
    ("mode", .str mode),
    ("revision", .str "FIPS204"),
    ("isSample", .bool true),
    ("testGroups", .arr [
      .obj [
        ("tgId", .int 1),
        ("testType", .str "AFT"),
        ("parameterSet", .str PARAMETER_SET),
        ("tests", .arr tests)
      ]
    ])
  ]

def answerKey (vsId : Int) (mode : String) (cases : List Json) : Json :=
  .obj [
    ("vsId", .int vsId),
    ("mode", .str mode),
    ("parameterSet", .str PARAMETER_SET),
    ("cases", .arr cases)
  ]

def keyGenTest (i : Nat) (seed : String) : Json :=
  .obj [("tcId", .int (i + 1)), ("seed", .str seed)]

def keyGenCase (i : Nat) (kp : KeyPair) : Json :=
  .obj [("tcId", .int (i + 1)), ("pk", .str (hex kp.publicKey)), ("sk", .str (hex kp.secretKey))]

def keyGenPack (dsa : MlDsa) (inputs : Inputs) : Pack :=
  {
    slug := "mldsa65-02-keygen"
    capability := .keyGen
    parameterSet := PARAMETER_SET
    vsId := 91021
    registration := .obj (registration ++ [("mode", .str "keyGen")])
    prompt := prompt 91021 "keyGen" (inputs.seeds.mapIdx keyGenTest)
    answerKey := answerKey 91021 "keyGen" ((keypairs dsa inputs).mapIdx keyGenCase)
  }

structure SigGenTest where
  tcId : Int
  sk : String
  message : Option String
  context : Option String

def SigGenTest.toJson (test : SigGenTest) : Json :=
  .obj (
    [("tcId", .int test.tcId), ("sk", .str test.sk)]
      ++ Json.field "message" (test.message.map .str)
      ++ Json.field "context" (test.context.map .str)
  )

def sigGenTest (inputs : Inputs) (i : Nat) (kp : KeyPair) : SigGenTest :=
  {
    tcId := i + 1
    sk := hex kp.secretKey
    message := inputs.messages[i]?
    context := inputs.contexts[i]?
  }

def sigGenTests (dsa : MlDsa) (inputs : Inputs) : List SigGenTest :=
  (keypairs dsa inputs).mapIdx (sigGenTest inputs)

/--
Deterministic signing is what makes an answer key possible at all.
-/
def sigGenCase (dsa : MlDsa) (test : SigGenTest) (kp : KeyPair) : Except String Json := do
  let message ← unhexArg test.message
  let signature := dsa.sign message kp.secretKey (unhex (test.context.getD ""))
  return .obj [("tcId", .int test.tcId), ("signature", .str (hex signature))]

def sigGenCases (dsa : MlDsa) (inputs : Inputs) : Except String (List Json) :=
  ((sigGenTests dsa inputs).zip (keypairs dsa inputs)).mapM (fun t => sigGenCase dsa t.1 t.2)

def sigGenPack (dsa : MlDsa) (inputs : Inputs) (cases : List Json) : Pack :=
  {
    slug := "mldsa65-02-siggen"
    capability := .sigGen
    parameterSet := PARAMETER_SET
    vsId := 91022
    registration := .obj (registration ++ [("mode", .str "sigGen")] ++ signatureOptions)
    prompt := prompt 91022 "sigGen" ((sigGenTests dsa inputs).map SigGenTest.toJson)
    answerKey := answerKey 91022 "sigGen" cases
  }

structure SigVerTest where
  tcId : Int
  pk : String
  message : Option String
  context : Option String
  signature : String
  expected : Bool

/--
The test without `_expected`.
-/
def SigVerTest.toJson (test : SigVerTest) : Json :=
  .obj (
    [("tcId", .int test.tcId), ("pk", .str test.pk)]
      ++ Json.field "message" (test.message.map .str)
      ++ Json.field "context" (test.context.map .str)
      ++ [("signature", .str test.signature)]
  )

/--
`signature[0] ^= 0x01`, which does nothing to an empty array.
-/
def tamper (signature : List UInt8) : List UInt8 :=
  match signature with
  | [] => []
  | b :: bs => (b ^^^ 0x01) :: bs

/--
Case 2 is tampered on purpose, so the expected answer is a mix of true and false.
-/
def sigVerTest (dsa : MlDsa) (inputs : Inputs) (i : Nat) (kp : KeyPair) : Except String SigVerTest := do
  let message := inputs.messages[i]?
  let context := inputs.contexts[i]?
  let bytes ← unhexArg message
  let signature := dsa.sign bytes kp.secretKey (unhex (context.getD ""))
  let tampered := i == 1
  return {
    tcId := i + 1
    pk := hex kp.publicKey
    message := message
    context := context
    signature := hex (if tampered then tamper signature else signature)
    expected := !tampered
  }

def sigVerTests (dsa : MlDsa) (inputs : Inputs) : Except String (List SigVerTest) :=
  (keypairs dsa inputs).zipIdx.mapM (fun k => sigVerTest dsa inputs k.2 k.1)

def sigVerCase (test : SigVerTest) : Json :=
  .obj [("tcId", .int test.tcId), ("testPassed", .bool test.expected)]

def sigVerPack (tests : List SigVerTest) : Pack :=
  {
    slug := "mldsa65-02-sigver"
    capability := .sigVer
    parameterSet := PARAMETER_SET
    vsId := 91023
    registration := .obj (registration ++ [("mode", .str "sigVer")] ++ signatureOptions)
    prompt := prompt 91023 "sigVer" (tests.map SigVerTest.toJson)
    answerKey := answerKey 91023 "sigVer" (tests.map sigVerCase)
  }

/--
The key must actually verify under the library before it is shipped.
-/
def selfCheckCase (dsa : MlDsa) (test : SigVerTest) (kp : KeyPair) : Except String Unit := do
  let message ← unhexArg test.message
  let ok := dsa.verify (unhex test.signature) message kp.publicKey (unhex (test.context.getD ""))
  if ok ≠ test.expected then
    .error s!"sigVer tcId {test.tcId}: expected {test.expected}, library says {ok}"
  else
    .ok ()

def selfCheck (dsa : MlDsa) (inputs : Inputs) (tests : List SigVerTest) : Except String Unit := do
  let _ ← (tests.zip (keypairs dsa inputs)).mapM (fun t => selfCheckCase dsa t.1 t.2)
  return ()

def packs (dsa : MlDsa) (inputs : Inputs) : Except String (List Pack) := do
  let cases ← sigGenCases dsa inputs
  let tests ← sigVerTests dsa inputs
  selfCheck dsa inputs tests
  return [keyGenPack dsa inputs, sigGenPack dsa inputs cases, sigVerPack tests]

@[simp]
theorem unhexArg_eq_ok_iff {s : Option String} {bytes : List UInt8}
    : unhexArg s = .ok bytes ↔ ∃ text, s = some text ∧ unhex text = bytes := by
  cases s <;> simp [unhexArg]

theorem length_keypairs (dsa : MlDsa) (inputs : Inputs)
    : (keypairs dsa inputs).length = inputs.seeds.length := by
  simp [keypairs]

theorem packs_eq_ok_iff {dsa : MlDsa} {inputs : Inputs} {ps : List Pack}
    : packs dsa inputs = .ok ps
        ↔
      ∃ cases tests,
        sigGenCases dsa inputs = .ok cases
          ∧
        sigVerTests dsa inputs = .ok tests
          ∧
        selfCheck dsa inputs tests = .ok ()
          ∧
        ps = [keyGenPack dsa inputs, sigGenPack dsa inputs cases, sigVerPack tests] := by
  unfold packs
  simp only [Fallible.bind_eq_ok_iff]
  constructor
  . rintro ⟨cases, hcases, tests, htests, ⟨⟩, hcheck, hps⟩
    exact ⟨cases, tests, hcases, htests, hcheck, (Except.ok.inj hps).symm⟩
  . rintro ⟨cases, tests, hcases, htests, hcheck, rfl⟩
    exact ⟨cases, hcases, tests, htests, (), hcheck, rfl⟩

theorem sigGenCase_eq_ok_iff {dsa : MlDsa} {test : SigGenTest} {kp : KeyPair} {c : Json}
    : sigGenCase dsa test kp = .ok c
        ↔
      ∃ message, test.message = some message ∧
        c = .obj [
          ("tcId", .int test.tcId),
          ("signature",
            .str (hex (dsa.sign (unhex message) kp.secretKey (unhex (test.context.getD "")))))
        ] := by
  unfold sigGenCase
  simp only [Fallible.bind_eq_ok_iff, unhexArg_eq_ok_iff]
  constructor
  . rintro ⟨-, ⟨message, hmessage, rfl⟩, hc⟩
    exact ⟨message, hmessage, (Except.ok.inj hc).symm⟩
  . rintro ⟨message, hmessage, rfl⟩
    exact ⟨_, ⟨message, hmessage, rfl⟩, rfl⟩

@[simp]
theorem length_tamper (signature : List UInt8) : (tamper signature).length = signature.length := by
  cases signature <;> rfl

def shownSignature (dsa : MlDsa) (inputs : Inputs) (i : Nat) (kp : KeyPair) (message : String)
    : List UInt8 :=
  let signature := dsa.sign (unhex message) kp.secretKey (unhex (inputs.contexts[i]?.getD ""))
  if i == 1 then tamper signature else signature

theorem length_shownSignature (dsa : MlDsa) (inputs : Inputs) (i : Nat) (kp : KeyPair) (message : String)
    : (shownSignature dsa inputs i kp message).length
        =
      (dsa.sign (unhex message) kp.secretKey (unhex (inputs.contexts[i]?.getD ""))).length := by
  unfold shownSignature
  dsimp only
  split
  . rw [length_tamper]
  . rfl

theorem selfCheckCase_eq_ok_iff {dsa : MlDsa} {test : SigVerTest} {kp : KeyPair}
    : selfCheckCase dsa test kp = .ok ()
        ↔
      ∃ message, test.message = some message ∧
        dsa.verify (unhex test.signature) (unhex message) kp.publicKey (unhex (test.context.getD ""))
          =
        test.expected := by
  unfold selfCheckCase
  rw [Fallible.bind_eq_ok_iff]
  cases test.message with
  | none => simp [unhexArg]
  | some message => simp

theorem selfCheck_eq_ok_iff {dsa : MlDsa} {inputs : Inputs} {tests : List SigVerTest}
    (hlen : tests.length = inputs.seeds.length)
    : selfCheck dsa inputs tests = .ok ()
        ↔
      ∀ i (hi : i < inputs.seeds.length) (ht : i < tests.length),
        selfCheckCase dsa tests[i] (dsa.keygen (unhex inputs.seeds[i])) = .ok () := by
  have hzip : (tests.zip (keypairs dsa inputs)).length = inputs.seeds.length := by
    rw [List.length_zip, length_keypairs, hlen, Nat.min_self]
  unfold selfCheck
  rw [Fallible.bind_eq_ok_iff]
  constructor
  . rintro ⟨units, hunits, -⟩ i hi ht
    have hunit : i < units.length := by rwa [Fallible.length_of_mapM hunits, hzip]
    have hcase := Fallible.getElem_of_mapM hunits (by rwa [hzip]) hunit
    simpa [keypairs] using hcase
  . intro h
    have hall : ∀ t ∈ tests.zip (keypairs dsa inputs), ∃ u, selfCheckCase dsa t.1 t.2 = .ok u := by
      intro t ht
      obtain ⟨i, hi, rfl⟩ := List.mem_iff_getElem.mp ht
      rw [hzip] at hi
      refine ⟨(), ?_⟩
      rw [List.getElem_zip]
      simpa [keypairs] using h i hi (by rwa [hlen])
    obtain ⟨units, hunits⟩ := Fallible.exists_mapM_eq_ok hall
    exact ⟨units, hunits, rfl⟩

theorem sigVerTest_eq_ok_iff {dsa : MlDsa} {inputs : Inputs} {i : Nat} {kp : KeyPair} {t : SigVerTest}
    : sigVerTest dsa inputs i kp = .ok t
        ↔
      ∃ message, inputs.messages[i]? = some message ∧
        t = {
          tcId := i + 1
          pk := hex kp.publicKey
          message := some message
          context := inputs.contexts[i]?
          signature := hex (shownSignature dsa inputs i kp message)
          expected := !(i == 1)
        } := by
  unfold sigVerTest
  simp only [Fallible.bind_eq_ok_iff, unhexArg_eq_ok_iff]
  constructor
  . rintro ⟨-, ⟨message, hmessage, rfl⟩, ht⟩
    rw [hmessage] at ht
    exact ⟨message, hmessage, (Except.ok.inj ht).symm⟩
  . rintro ⟨message, hmessage, rfl⟩
    refine ⟨_, ⟨message, hmessage, rfl⟩, ?_⟩
    rw [hmessage]
    rfl

theorem length_of_sigGenCases {dsa : MlDsa} {inputs : Inputs} {cases : List Json}
    (h : sigGenCases dsa inputs = .ok cases) : cases.length = inputs.seeds.length := by
  rw [Fallible.length_of_mapM h, List.length_zip]
  simp [sigGenTests, length_keypairs]

theorem getElem_of_sigGenCases {dsa : MlDsa} {inputs : Inputs} {cases : List Json}
    (h : sigGenCases dsa inputs = .ok cases) {i : Nat} (hi : i < inputs.seeds.length)
    (hc : i < cases.length)
    : sigGenCase dsa (sigGenTest inputs i (dsa.keygen (unhex inputs.seeds[i])))
        (dsa.keygen (unhex inputs.seeds[i])) = .ok cases[i] := by
  have hzip : i < ((sigGenTests dsa inputs).zip (keypairs dsa inputs)).length := by
    rw [← Fallible.length_of_mapM h]
    exact hc
  have hcase := Fallible.getElem_of_mapM h hzip hc
  simpa [sigGenTests, keypairs] using hcase

theorem length_of_sigVerTests {dsa : MlDsa} {inputs : Inputs} {tests : List SigVerTest}
    (h : sigVerTests dsa inputs = .ok tests) : tests.length = inputs.seeds.length := by
  rw [Fallible.length_of_mapM h, List.length_zipIdx, length_keypairs]

theorem getElem_of_sigVerTests {dsa : MlDsa} {inputs : Inputs} {tests : List SigVerTest}
    (h : sigVerTests dsa inputs = .ok tests) {i : Nat} (hi : i < inputs.seeds.length)
    (ht : i < tests.length)
    : sigVerTest dsa inputs i (dsa.keygen (unhex inputs.seeds[i])) = .ok tests[i] := by
  have hzip : i < (keypairs dsa inputs).zipIdx.length := by
    rw [← Fallible.length_of_mapM h]
    exact ht
  have htest := Fallible.getElem_of_mapM h hzip ht
  simpa [keypairs] using htest

end gen

end cavp

end PqCas
