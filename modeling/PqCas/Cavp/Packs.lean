import PqCas.Api.Error
import PqCas.Cavp.Generator

/-!
This module contains the handler that gives a question pack out (`get_pack`) and what the packs give
away of the answers that are not worked examples.
-/

namespace PqCas

namespace cavp

structure PackDetail where
  slug : String
  capability : Capability
  parameterSet : String
  vsId : Int
  registration : Json
  prompt : Json
  /-- The `example` of the response: `tcId` 1 ships pre-filled. -/
  worked : Json

/--
Only `tcId` 1 of the key is exposed.
-/
def exampleAnswer (answerKey : Json) : Json :=
  (((answerKey.get "cases").bind Json.asArray).bind (fun cases =>
    cases.find? (fun c => (c.get "tcId").bind Json.asI64 == some 1))).getD .null

def fetchPack (rows : List Pack) (slug : String) : Except api.ApiError Pack :=
  Fallible.okOr (rows.find? (fun row => row.slug == slug)) (.notFound "cavp pack")

def packDetail (slug : String) (row : Pack) : PackDetail :=
  {
    slug := slug
    capability := row.capability
    parameterSet := row.parameterSet
    vsId := row.vsId
    registration := row.registration
    prompt := row.prompt
    worked := exampleAnswer row.answerKey
  }

def getPack (rows : List Pack) (slug : String) : Except api.ApiError PackDetail := do
  let row ← fetchPack rows slug
  return packDetail slug row

def keyCases (answerKey : Json) : List Json :=
  ((answerKey.get "cases").bind Json.asArray).getD []

/--
A `pk`, `sk` or `signature` of a case of some answer key that is not the worked example.
-/
def Hidden (rows : List Pack) (v : Json) : Prop :=
  ∃ row ∈ rows, ∃ c ∈ keyCases row.answerKey,
    (c.get "tcId").bind Json.asI64 ≠ some 1
      ∧
    ∃ name ∈ ["pk", "sk", "signature"], c.get name = some v

def NoLeak (rows : List Pack) : Prop :=
  ∀ v, Hidden rows v → ∀ slug detail, getPack rows slug = .ok detail →
    ¬Json.Occurs v detail.prompt ∧ ¬Json.Occurs v detail.worked

namespace gen

theorem occurs_prompt {v : Json} {vsId : Int} {mode : String} {tests : List Json} (test : Json)
    (hmem : test ∈ tests) (h : Json.Occurs v test) : Json.Occurs v (prompt vsId mode tests) := by
  have htests : Json.Occurs v (.arr tests) := .inItem hmem h
  refine Json.Occurs.of_get_of_occurs "testGroups" (by rfl) ?_
  apply Json.Occurs.inItem (List.mem_singleton.mpr rfl)
  exact Json.Occurs.of_get_of_occurs "tests" (by rfl) htests

@[simp]
theorem keyCases_answerKey (vsId : Int) (mode : String) (cases : List Json)
    : keyCases (answerKey vsId mode cases) = cases := rfl

theorem tcId_of_keyGenPack {dsa : MlDsa} {inputs : Inputs} {c : Json}
    (h : c ∈ keyCases (keyGenPack dsa inputs).answerKey)
    : ∃ i < inputs.seeds.length, c.get "tcId" = some (.int (i + 1)) := by
  dsimp only [keyGenPack] at h
  rw [keyCases_answerKey, List.mem_mapIdx] at h
  obtain ⟨i, hi, rfl⟩ := h
  rw [length_keypairs] at hi
  exact ⟨i, hi, rfl⟩

theorem tcId_of_sigGenPack {dsa : MlDsa} {inputs : Inputs} {cases : List Json} {c : Json}
    (hcases : sigGenCases dsa inputs = .ok cases)
    (h : c ∈ keyCases (sigGenPack dsa inputs cases).answerKey)
    : ∃ i < inputs.seeds.length, c.get "tcId" = some (.int (i + 1)) := by
  dsimp only [sigGenPack] at h
  rw [keyCases_answerKey, List.mem_iff_getElem] at h
  obtain ⟨i, hi, rfl⟩ := h
  have hlt : i < inputs.seeds.length := by rwa [length_of_sigGenCases hcases] at hi
  obtain ⟨message, -, hc⟩ := sigGenCase_eq_ok_iff.mp (getElem_of_sigGenCases hcases hlt hi)
  rw [hc]
  exact ⟨i, hlt, rfl⟩

theorem tcId_of_sigVerPack {dsa : MlDsa} {inputs : Inputs} {tests : List SigVerTest} {c : Json}
    (htests : sigVerTests dsa inputs = .ok tests)
    (h : c ∈ keyCases (sigVerPack tests).answerKey)
    : ∃ i < inputs.seeds.length, c.get "tcId" = some (.int (i + 1)) := by
  dsimp only [sigVerPack] at h
  rw [keyCases_answerKey, List.mem_map] at h
  obtain ⟨test, htest, rfl⟩ := h
  obtain ⟨i, hi, rfl⟩ := List.mem_iff_getElem.mp htest
  have hlt : i < inputs.seeds.length := by rwa [length_of_sigVerTests htests] at hi
  obtain ⟨message, -, ht⟩ := sigVerTest_eq_ok_iff.mp (getElem_of_sigVerTests htests hlt hi)
  rw [ht]
  exact ⟨i, hlt, rfl⟩

theorem tcId_of_packs {dsa : MlDsa} {inputs : Inputs} {ps : List Pack} (hps : packs dsa inputs = .ok ps)
    {pack : Pack} (hpack : pack ∈ ps) {c : Json} (hc : c ∈ keyCases pack.answerKey)
    : ∃ i < inputs.seeds.length, c.get "tcId" = some (.int (i + 1)) := by
  obtain ⟨cases, tests, hcases, htests, -, rfl⟩ := packs_eq_ok_iff.mp hps
  simp only [List.mem_cons, List.not_mem_nil, or_false] at hpack
  rcases hpack with rfl | rfl | rfl
  . exact tcId_of_keyGenPack hc
  . exact tcId_of_sigGenPack hcases hc
  . exact tcId_of_sigVerPack htests hc

theorem noLeak_of_one_seed {dsa : MlDsa} {inputs : Inputs} {ps : List Pack}
    (hps : packs dsa inputs = .ok ps) (h : inputs.seeds.length ≤ 1) : NoLeak ps := by
  rintro v ⟨pack, hpack, c, hc, htcId, -⟩
  exfalso
  obtain ⟨i, hi, hget⟩ := tcId_of_packs hps hpack hc
  have hzero : i = 0 := by omega
  subst hzero
  rw [hget] at htcId
  exact htcId rfl

/--
With a second seed, the secret key that the key generation pack hides under `tcId` 2 is in the prompt
of the signature generation pack.
-/
theorem leak_of_two_seeds {dsa : MlDsa} {inputs : Inputs} {ps : List Pack}
    (hps : packs dsa inputs = .ok ps) (h : 1 < inputs.seeds.length) : ¬NoLeak ps := by
  obtain ⟨cases, tests, -, -, -, rfl⟩ := packs_eq_ok_iff.mp hps
  let kp := dsa.keygen (unhex inputs.seeds[1])
  intro hno
  have hhidden : Hidden [keyGenPack dsa inputs, sigGenPack dsa inputs cases, sigVerPack tests]
      (.str (hex kp.secretKey)) := by
    have htcId : ((keyGenCase 1 kp).get "tcId").bind Json.asI64 = some 2 := rfl
    refine ⟨keyGenPack dsa inputs, by simp, keyGenCase 1 kp, ?_, by simp [htcId], "sk", by simp, by rfl⟩
    dsimp only [keyGenPack]
    rw [keyCases_answerKey, List.mem_mapIdx]
    exact ⟨1, by rwa [length_keypairs], by simp [keypairs, kp]⟩
  have hget : getPack [keyGenPack dsa inputs, sigGenPack dsa inputs cases, sigVerPack tests] "mldsa65-02-siggen"
      = .ok _ := rfl
  have hocc : Json.Occurs (.str (hex kp.secretKey)) (sigGenPack dsa inputs cases).prompt := by
    refine occurs_prompt (sigGenTest inputs 1 kp).toJson ?_ (.of_get "sk" (by rfl))
    apply List.mem_map_of_mem
    unfold sigGenTests
    rw [List.mem_mapIdx]
    exact ⟨1, by rwa [length_keypairs], by simp [keypairs, kp]⟩
  exact (hno _ hhidden _ _ hget).1 hocc

end gen

/--
The packs keep the hidden answers to themselves exactly when there is at most one seed.
-/
theorem noLeak_packs_iff (dsa : MlDsa) (inputs : Inputs) (ps : List Pack)
    (hps : gen.packs dsa inputs = .ok ps) : NoLeak ps ↔ inputs.seeds.length ≤ 1 := by
  constructor
  . intro hno
    by_contra hlt
    exact gen.leak_of_two_seeds hps (by omega) hno
  . exact gen.noLeak_of_one_seed hps

def toyDsa : MlDsa :=
  {
    lengthsSeed := 32
    keygen := fun seed => ⟨seed, seed⟩
    sign := fun _ _ _ => [0]
    verify := fun signature _ _ _ => signature == [0]
  }

def oneSeed : Inputs :=
  {
    seeds := ["B512EEEEB054DF62F61935C22F24465FBF982EA8B4FFA913EEBFABD92B1F4D64"]
    messages := ["4207B9170C"]
    contexts := ["1C"]
    length_seeds_lt := by decide
  }

def twoSeeds : Inputs :=
  {
    seeds := [
      "B512EEEEB054DF62F61935C22F24465FBF982EA8B4FFA913EEBFABD92B1F4D64",
      "B850D898A3D3D11C4E64ADE5A86FFED951B237C60D2A67A2DEF0A792B8F6990D"
    ]
    messages := ["4207B9170C", "00"]
    contexts := ["1C", ""]
    length_seeds_lt := by decide
  }

theorem noLeak_packs_oneSeed : ∃ ps, gen.packs toyDsa oneSeed = .ok ps ∧ NoLeak ps := by
  have hps : ∃ ps, gen.packs toyDsa oneSeed = .ok ps := ⟨_, rfl⟩
  obtain ⟨ps, hps⟩ := hps
  exact ⟨ps, hps, (noLeak_packs_iff toyDsa oneSeed ps hps).mpr (by decide)⟩

theorem leak_packs_twoSeeds : ∃ ps, gen.packs toyDsa twoSeeds = .ok ps ∧ ¬NoLeak ps := by
  have hps : ∃ ps, gen.packs toyDsa twoSeeds = .ok ps := ⟨_, rfl⟩
  obtain ⟨ps, hps⟩ := hps
  exact ⟨ps, hps, gen.leak_of_two_seeds hps (by decide)⟩

end cavp

end PqCas
