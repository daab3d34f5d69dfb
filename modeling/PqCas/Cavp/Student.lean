import PqCas.Cavp.Packs

/-!
This module contains the browser's side of the exercise: the results file a student starts from
(`buildResultsSkeleton`), the local computation of one case (`computeCase`) and the work of a student
who copies the one into the other.
-/

namespace PqCas

namespace cavp

structure Noble where
  mlDsa44 : MlDsa
  mlDsa65 : MlDsa
  mlDsa87 : MlDsa

namespace web

/--
`testGroups[0]` of a prompt or of a results file.
-/
def firstGroup (j : Json) : Except String (Option Json) :=
  match j.get "testGroups" with
  | some (.arr groups) => .ok groups.head?
  | some (.obj fields) => .ok (fields.lookup "0")
  -- A character of a string has none of the fields that are read.
  | some (.bool _) | some (.num _) | some (.str _) => .ok none
  | some .null => .error "Cannot read properties of null (reading '0')"
  | none => .error "Cannot read properties of undefined (reading '0')"

/--
`group?.tests ?? []`.
-/
def testsOf (group : Option Json) : List Json :=
  ((group.bind (fun g => g.get "tests")).bind Json.asArray).getD []

/--
`value ?? default`.
-/
def orDefault (value : Option Json) (default : Json) : Json :=
  match value with
  | none | some .null => default
  | some value => value

/--
`Number(value)` of a value that is a number. A number that is none is written as `null`.
-/
def number (value : Option Json) : Json :=
  match value with
  | some (.num n) => .num n
  | _ => .null

def isOne (j : Json) : Bool :=
  match j with
  | .num (.int n) => n == 1
  | _ => false

/--
`pack.example ?? {}`.
-/
def exampleFields (pack : PackDetail) : List (String × Json) :=
  (pack.worked.asObject).getD []

def emptyCase (capability : Capability) (tcId : Json) : Json :=
  match capability with
  | .keyGen => .obj [("tcId", tcId), ("pk", .str ""), ("sk", .str "")]
  | .sigGen => .obj [("tcId", tcId), ("signature", .str "")]
  | .sigVer => .obj [("tcId", tcId), ("testPassed", .null)]

/--
`tcId` 1 carries the worked example, every other case is blank for the student to fill in.
-/
def blank (pack : PackDetail) (tcId : Json) : Json :=
  if isOne tcId && !(exampleFields pack).isEmpty then
    .obj (("tcId", tcId) :: (exampleFields pack).filter (fun f => f.1 ≠ "tcId"))
  else
    emptyCase pack.capability tcId

def buildResultsSkeleton (pack : PackDetail) : Except String Json := do
  let group ← firstGroup pack.prompt
  return .obj (
    [("vsId", .int pack.vsId)]
      ++ Json.field "algorithm" (pack.prompt.get "algorithm")
      ++ Json.field "mode" (pack.prompt.get "mode")
      ++ Json.field "revision" (pack.prompt.get "revision")
      ++ [
        ("testGroups", .arr [
          .obj [
            ("tgId", orDefault (group.bind (fun g => g.get "tgId")) (.int 1)),
            ("tests", .arr ((testsOf group).map (fun test => blank pack (number (test.get "tcId")))))
          ]
        ])
      ]
  )

structure ComputeInput where
  capability : Capability
  parameterSet : String
  values : List (String × String)

inductive ComputeOutput where
  | keys (pk sk : String)
  | signature (value : String)
  | testPassed (value : Bool)

def ComputeOutput.capability (out : ComputeOutput) : Capability :=
  match out with
  | .keys _ _ => .keyGen
  | .signature _ => .sigGen
  | .testPassed _ => .sigVer

def ComputeOutput.fields (out : ComputeOutput) : List (String × Json) :=
  match out with
  | .keys pk sk => [("pk", .str pk), ("sk", .str sk)]
  | .signature value => [("signature", .str value)]
  | .testPassed value => [("testPassed", .bool value)]

/--
White space is taken out everywhere. The rest has to be an even number of hexadecimal digits, which is
what the strict reader accepts.
-/
def hexToBytes (label hex : String) : Except String (List UInt8) :=
  let clean := (Text.jsTrim hex).toList.filter (fun c => !Text.isJsSpace c)
  Fallible.okOr (Hex.decode clean) s!"{label} is not a hex string"

def bytesToHex (bytes : List UInt8) : String := Hex.encode bytes

def required (values : List (String × String)) (field : String) : Except String String :=
  match (values.lookup field).map Text.jsTrim with
  | none => .error s!"{field} is required"
  | some value =>
    if value = "" then
      .error s!"{field} is required"
    else
      .ok value

def algorithmFor (noble : Noble) (parameterSet : String) : Except String MlDsa :=
  match Text.jsToUpperCase parameterSet with
  | "ML-DSA-44" => .ok noble.mlDsa44
  | "ML-DSA-65" => .ok noble.mlDsa65
  | "ML-DSA-87" => .ok noble.mlDsa87
  | _ => .error s!"unsupported parameter set {parameterSet}"

def requiredBytes (values : List (String × String)) (field : String) : Except String (List UInt8) := do
  hexToBytes field (← required values field)

def computeCase (noble : Noble) (input : ComputeInput) : Except String ComputeOutput := do
  let algorithm ← algorithmFor noble input.parameterSet
  match input.capability with
  | .keyGen =>
    let seed ← requiredBytes input.values "seed"
    if seed.length ≠ algorithm.lengthsSeed then
      .error s!"seed must be {algorithm.lengthsSeed} bytes"
    else
      let keys := algorithm.keygen seed
      return .keys (bytesToHex keys.publicKey) (bytesToHex keys.secretKey)
  | .sigGen =>
    let sk ← requiredBytes input.values "sk"
    let message ← requiredBytes input.values "message"
    let context ← hexToBytes "context" ((input.values.lookup "context").getD "")
    return .signature (bytesToHex (algorithm.sign message sk context))
  | .sigVer =>
    let pk ← requiredBytes input.values "pk"
    let message ← requiredBytes input.values "message"
    let signature ← requiredBytes input.values "signature"
    let context ← hexToBytes "context" ((input.values.lookup "context").getD "")
    return .testPassed (algorithm.verify signature message pk context)

def promptValues (test : Json) : List (String × String) :=
  ((test.asObject).getD []).filterMap (fun f => (f.2.asStr).map (fun s => (f.1, s)))

def isBlank (answer : Json) : Bool :=
  ((answer.asObject).getD []).any (fun f =>
    match f.2 with
    | .str s => s == ""
    | .null => true
    | _ => false)

def fillCase (noble : Noble) (pack : PackDetail) (test answer : Json) : Except String Json :=
  if isBlank answer then do
    let input := ⟨pack.capability, pack.parameterSet, promptValues test⟩
    let out ← computeCase noble input
    return out.fields.foldl (fun answer f => answer.setField f.1 f.2) answer
  else
    .ok answer

def honestResults (noble : Noble) (pack : PackDetail) : Except String Json := do
  let skeleton ← buildResultsSkeleton pack
  let group ← firstGroup skeleton
  let tests := testsOf (← firstGroup pack.prompt)
  let answers ← (tests.zip (testsOf group)).mapM (fun t => fillCase noble pack t.1 t.2)
  return skeleton.setField "testGroups" (.arr [(group.getD .null).setField "tests" (.arr answers)])

theorem hexToBytes_of_isHex {s : String} (h : Hex.IsHex s) (label : String)
    : hexToBytes label s = .ok (gen.unhex s) := by
  obtain ⟨bytes, hbytes, -⟩ := h.decode
  have hclean : s.toList.filter (fun c => !Text.isJsSpace c) = s.toList := by
    rw [List.filter_eq_self]
    intro c hc
    rw [h.not_space Hex.value_of_isJsSpace c hc]
    rfl
  unfold hexToBytes gen.unhex
  rw [h.jsTrim_eq, hclean, Hex.decodeLenient_of_decode hbytes]
  exact Fallible.okOr_eq_ok_iff.mpr hbytes

theorem required_of_isHex {values : List (String × String)} {field s : String}
    (hlookup : values.lookup field = some s) (h : Hex.IsHex s) (hne : s ≠ "")
    : required values field = .ok s := by
  unfold required
  rw [hlookup, Option.map_some, h.jsTrim_eq]
  exact if_neg hne

theorem requiredBytes_of_isHex {values : List (String × String)} {field s : String}
    (hlookup : values.lookup field = some s) (h : Hex.IsHex s) (hne : s ≠ "")
    : requiredBytes values field = .ok (gen.unhex s) := by
  unfold requiredBytes
  rw [Fallible.bind_eq_ok_iff]
  exact ⟨s, required_of_isHex hlookup h hne, hexToBytes_of_isHex h field⟩

@[simp]
theorem unhex_hex (bytes : List UInt8) : gen.unhex (gen.hex bytes) = bytes :=
  Hex.decodeLenient_encode bytes

theorem requiredBytes_hex {values : List (String × String)} {field : String} {bytes : List UInt8}
    (hlookup : values.lookup field = some (gen.hex bytes)) (hne : bytes ≠ [])
    : requiredBytes values field = .ok bytes := by
  rw [requiredBytes_of_isHex hlookup (Hex.isHex_encode bytes) (Hex.encode_ne_empty hne), unhex_hex]

theorem algorithmFor_parameterSet (noble : Noble)
    : algorithmFor noble gen.PARAMETER_SET = .ok noble.mlDsa65 := rfl

theorem computeCase_keyGen {noble : Noble} {values : List (String × String)} {seed : String}
    (hseed : values.lookup "seed" = some seed) (h : Hex.IsHex seed) (hne : seed ≠ "")
    (hlen : (gen.unhex seed).length = noble.mlDsa65.lengthsSeed)
    : computeCase noble ⟨.keyGen, gen.PARAMETER_SET, values⟩
        =
      .ok (.keys
        (bytesToHex (noble.mlDsa65.keygen (gen.unhex seed)).publicKey)
        (bytesToHex (noble.mlDsa65.keygen (gen.unhex seed)).secretKey)) := by
  unfold computeCase
  simp only [algorithmFor_parameterSet, Fallible.bind_eq_ok_iff]
  refine ⟨_, rfl, _, requiredBytes_of_isHex hseed h hne, ?_⟩
  rw [if_neg (by simp [hlen])]
  rfl

theorem computeCase_sigGen {noble : Noble} {values : List (String × String)} {sk : List UInt8}
    {message context : String}
    (hsk : values.lookup "sk" = some (gen.hex sk)) (hskne : sk ≠ [])
    (hmessage : values.lookup "message" = some message) (hm : Hex.IsHex message) (hmne : message ≠ "")
    (hcontext : values.lookup "context" = some context) (hc : Hex.IsHex context)
    : computeCase noble ⟨.sigGen, gen.PARAMETER_SET, values⟩
        =
      .ok (.signature (bytesToHex (noble.mlDsa65.sign (gen.unhex message) sk (gen.unhex context)))) := by
  unfold computeCase
  simp only [algorithmFor_parameterSet, Fallible.bind_eq_ok_iff]
  refine ⟨_, rfl, _, requiredBytes_hex hsk hskne, _, requiredBytes_of_isHex hmessage hm hmne, _, ?_, rfl⟩
  rw [hcontext]
  exact hexToBytes_of_isHex hc _

theorem computeCase_sigVer {noble : Noble} {values : List (String × String)} {pk signature : List UInt8}
    {message context : String}
    (hpk : values.lookup "pk" = some (gen.hex pk)) (hpkne : pk ≠ [])
    (hmessage : values.lookup "message" = some message) (hm : Hex.IsHex message) (hmne : message ≠ "")
    (hsig : values.lookup "signature" = some (gen.hex signature)) (hsigne : signature ≠ [])
    (hcontext : values.lookup "context" = some context) (hc : Hex.IsHex context)
    : computeCase noble ⟨.sigVer, gen.PARAMETER_SET, values⟩
        =
      .ok (.testPassed (noble.mlDsa65.verify signature (gen.unhex message) pk (gen.unhex context))) := by
  unfold computeCase
  simp only [algorithmFor_parameterSet, Fallible.bind_eq_ok_iff]
  refine ⟨_, rfl, _, requiredBytes_hex hpk hpkne, _, requiredBytes_of_isHex hmessage hm hmne, _,
    requiredBytes_hex hsig hsigne, _, ?_, rfl⟩
  rw [hcontext]
  exact hexToBytes_of_isHex hc _

def results (vsId : Int) (mode : String) (tests : List Json) : Json :=
  .obj [
    ("vsId", .int vsId),
    ("algorithm", .str "ML-DSA"),
    ("mode", .str mode),
    ("revision", .str "FIPS204"),
    ("testGroups", .arr [.obj [("tgId", .int 1), ("tests", .arr tests)]])
  ]

def answerCase (i : Nat) (out : ComputeOutput) : Json :=
  .obj (("tcId", .int (i + 1)) :: out.fields)

def ComputeOutput.NonEmpty (out : ComputeOutput) : Prop :=
  match out with
  | .keys pk sk => pk ≠ "" ∧ sk ≠ ""
  | .signature value => value ≠ ""
  | .testPassed _ => True

theorem isBlank_answerCase {out : ComputeOutput} (h : out.NonEmpty) (i : Nat)
    : isBlank (answerCase i out) = false := by
  unfold ComputeOutput.NonEmpty at h
  cases out with
  | keys pk sk => simpa [isBlank, answerCase, ComputeOutput.fields, Json.int] using h
  | signature value => simpa [isBlank, answerCase, ComputeOutput.fields, Json.int] using h
  | testPassed value => rfl

theorem isBlank_emptyCase (c : Capability) (n : Int) : isBlank (emptyCase c (.int n)) = true := by
  cases c <;> rfl

theorem foldl_setField_emptyCase (out : ComputeOutput) (tcId : Json)
    : out.fields.foldl (fun answer f => answer.setField f.1 f.2) (emptyCase out.capability tcId)
        =
      .obj (("tcId", tcId) :: out.fields) := by
  cases out <;> rfl

theorem blank_worked {pack : PackDetail} {out : ComputeOutput} (h : pack.worked = answerCase 0 out)
    : blank pack (.int 1) = answerCase 0 out := by
  have hfields : exampleFields pack = ("tcId", .int 1) :: out.fields := by
    unfold exampleFields
    rw [h]
    rfl
  unfold blank
  rw [hfields]
  cases out <;> rfl

theorem isOne_int (n : Int) : isOne (.int n) = (n == 1) := rfl

theorem fillCase_blank {noble : Noble} {pack : PackDetail} {test : Json} {out : ComputeOutput} {i : Nat}
    (hi : 0 < i) (hcap : out.capability = pack.capability)
    (hcompute : computeCase noble ⟨pack.capability, pack.parameterSet, promptValues test⟩ = .ok out)
    : fillCase noble pack test (blank pack (.int (i + 1))) = .ok (answerCase i out) := by
  have hone : isOne (.int (i + 1)) = false := by
    rw [isOne_int, beq_eq_false_iff_ne]
    omega
  have hblank : blank pack (.int (i + 1)) = emptyCase out.capability (.int (i + 1)) := by
    unfold blank
    rw [hone, hcap]
    rfl
  unfold fillCase
  rw [hblank, isBlank_emptyCase, if_pos rfl]
  dsimp only
  rw [hcompute, answerCase, ← foldl_setField_emptyCase]
  rfl

theorem fillCase_eq {noble : Noble} {pack : PackDetail} {test : Json} {out : ComputeOutput} {i : Nat}
    (hworked : i = 0 → pack.worked = answerCase i out) (hne : out.NonEmpty)
    (hcap : out.capability = pack.capability)
    (hcompute : computeCase noble ⟨pack.capability, pack.parameterSet, promptValues test⟩ = .ok out)
    : fillCase noble pack test (blank pack (.int (i + 1))) = .ok (answerCase i out) := by
  by_cases hi : i = 0
  . subst hi
    have hblank : blank pack (.int ((0 : Nat) + 1)) = answerCase 0 out := blank_worked (hworked rfl)
    rw [hblank]
    unfold fillCase
    rw [isBlank_answerCase hne]
    rfl
  . exact fillCase_blank (by omega) hcap hcompute

theorem buildResultsSkeleton_eq {pack : PackDetail} {mode : String} {tests : List Json}
    (h : pack.prompt = gen.prompt pack.vsId mode tests)
    : buildResultsSkeleton pack
        =
      .ok (results pack.vsId mode (tests.map (fun test => blank pack (number (test.get "tcId"))))) := by
  unfold buildResultsSkeleton
  rw [h]
  rfl

theorem honestResults_eq {noble : Noble} {pack : PackDetail} {mode : String} {tests answers : List Json}
    (hprompt : pack.prompt = gen.prompt pack.vsId mode tests)
    (hfill : List.Forall₂
      (fun test answer => fillCase noble pack test (blank pack (number (test.get "tcId"))) = .ok answer)
      tests answers)
    : honestResults noble pack = .ok (results pack.vsId mode answers) := by
  have hanswers : (tests.zip (tests.map (fun test => blank pack (number (test.get "tcId"))))).mapM
      (fun t => fillCase noble pack t.1 t.2) = .ok answers := Fallible.mapM_zip_map_eq_ok hfill
  have hgroup : firstGroup pack.prompt = firstGroup (gen.prompt pack.vsId mode tests) := by
    rw [hprompt]
  unfold honestResults
  simp only [Fallible.bind_eq_ok_iff]
  exact ⟨_, buildResultsSkeleton_eq hprompt, _, rfl, _, hgroup, answers, hanswers, rfl⟩

end web

end cavp

end PqCas
