import PqCas.Api.Matrix
import PqCas.Cli.Backend
import PqCas.Lib.Http
import PqCas.Worker.Probe

/-!
The request a client is fed on its standard input (`adapters/cli/src/backend.rs`), for a test that
`create_test` has accepted.
-/

namespace PqCas

namespace cli

def httpRequestLine (request : ProbeRequest) : String :=
  let path := request.target.httpPath.getD "/"
  let host := request.target.sni.getD request.target.host
  s!"GET {path} HTTP/1.1\r\nHost: {host}\r\nUser-Agent: pqcas-probe\r\nConnection: close\r\nAccept: */*\r\n\r\n"

def getRequest (path host : String) : Http.Request :=
  {
    method := "GET"
    target := path
    version := "HTTP/1.1"
    fields := [
      ("Host", host),
      ("User-Agent", "pqcas-probe"),
      ("Connection", "close"),
      ("Accept", "*/*")
    ]
  }

theorem httpRequestLine_eq (request : ProbeRequest)
    : httpRequestLine request
        =
      (getRequest (request.target.httpPath.getD "/") (request.target.sni.getD request.target.host)).text := by
  unfold httpRequestLine getRequest Http.Request.text Http.Request.startLine
  rw [← String.toList_inj]
  simp [Http.fieldLine, Text.unlines, Text.lineEnd, toString]

theorem isWord_names : ∀ name ∈ ["GET", "HTTP/1.1", "Host"], Http.IsWord name := by
  decide +kernel

theorem fieldOk_fixed
    : ∀ field ∈ [("User-Agent", "pqcas-probe"), ("Connection", "close"), ("Accept", "*/*")], Http.FieldOk field := by
  decide +kernel

theorem wellFormed_getRequest {path host : String} (hpath : path ≠ "")
    (hhost : Text.trimList Http.isPadding host.toList = host.toList)
    : (getRequest path host).WellFormed
        ↔
      (∀ c ∈ path.toList, Http.isBlank c = false ∧ c ≠ '\n') ∧ '\r' ∉ host.toList ∧ '\n' ∉ host.toList := by
  constructor
  . intro h
    have hfield := h.fields ("Host", host) (by simp [getRequest])
    exact ⟨(Http.isWord_iff.mp h.target).2, hfield.noReturn, hfield.oneLine⟩
  . rintro ⟨htarget, hreturn, hline⟩
    constructor
    case method => exact isWord_names _ (by simp [getRequest])
    case target => exact Http.isWord_iff.mpr ⟨hpath, htarget⟩
    case version => exact isWord_names _ (by simp [getRequest])
    case fields =>
      intro field hfield
      rcases List.mem_cons.mp hfield with rfl | hfield
      . have hcolon : ':' ∉ "Host".toList := by decide
        exact ⟨isWord_names _ (by simp), hcolon, hline, hreturn, hhost⟩
      . exact fieldOk_fixed field hfield

end cli

namespace api

variable {env : CreateEnv} {config : Config} {body : NewTest} {s s' : State} {test : Test}

theorem ne_empty_of_validate {groups sigAlgs : List String} (h : validate config body = .ok (groups, sigAlgs))
    : body.httpPath ≠ "" := by
  rintro hempty
  unfold validate at h
  have hslash : Text.startsWith "" "/" = false := by decide
  rw [hempty, hslash] at h
  split at h
  . cases h
  split at h
  . cases h
  split at h
  . cases h
  . cases h

/--
The probes of an accepted test send the one request they are meant to make exactly if the path has neither
white space nor a line break in it and the host has no line break in it.
-/
theorem one_request_iff (h : (createTest env config body).eval s = (.ok test, s'))
    : (∃ inserted : List (Uuid × String × String), s'.probeStream
        = s.probeStream ++ inserted.map (jobOf config (adapterFor body.plugin config.defaultAdapter) test))
      ∧ test.httpPath = body.httpPath
      ∧ ∀ row : Uuid × String × String,
          Http.readRequest (cli.httpRequestLine (probe.requestFor
            (jobOf config (adapterFor body.plugin config.defaultAdapter) test row)))
              = some (cli.getRequest test.httpPath test.host, [])
            ↔
          (∀ c ∈ body.httpPath.toList, Http.isBlank c = false ∧ c ≠ '\n')
            ∧ '\r' ∉ (Text.trim body.host).toList ∧ '\n' ∉ (Text.trim body.host).toList := by
  obtain ⟨groups, sigAlgs, haccepted, rfl, rfl⟩ := createTest_ok h
  refine ⟨⟨_, rfl⟩, rfl, ?_⟩
  intro row
  have hhost : Text.trimList Http.isPadding (Text.trim body.host).toList = (Text.trim body.host).toList := by
    have hspace : ∀ c, Http.isPadding c = true → Text.isWhitespace c = true := by
      intro c hc
      unfold Http.isPadding at hc
      rw [Bool.or_eq_true, beq_iff_eq, beq_iff_eq] at hc
      rcases hc with rfl | rfl
      . decide
      . decide
    unfold Text.trim
    rw [String.toList_ofList]
    exact Text.trimList_of_imp hspace (Text.trimList_trimList _ _)
  rw [cli.httpRequestLine_eq]
  exact Http.readRequest_text_iff.trans
    (cli.wellFormed_getRequest (ne_empty_of_validate haccepted.axes) hhost)

theorem one_request_lab
    : ∃ test s',
        (createTest labCreateEnv labConfig labBody).eval labState = (.ok test, s')
          ∧ Http.readRequest (cli.httpRequestLine (probe.requestFor
              (jobOf labConfig "openssl" test (2, "X25519MLKEM768", "mldsa65"))))
            = some (cli.getRequest "/" "tls-good", []) := by
  have hok : (createTest labCreateEnv labConfig labBody).eval labState
      = (.ok (testRow labCreateEnv labBody ["X25519MLKEM768"] ["mldsa65", "mldsa44"]),
        committed labCreateEnv labBody labState ["X25519MLKEM768"] ["mldsa65", "mldsa44"]
          (createdJobs labCreateEnv labConfig labBody ["X25519MLKEM768"] ["mldsa65", "mldsa44"])) := by
    rfl
  have hclean : (∀ c ∈ labBody.httpPath.toList, Http.isBlank c = false ∧ c ≠ '\n')
      ∧ '\r' ∉ (Text.trim labBody.host).toList ∧ '\n' ∉ (Text.trim labBody.host).toList := by
    have hpath : ∀ c ∈ labBody.httpPath.toList, c = '/' := by simp [labBody]
    refine ⟨?_, by decide, by decide⟩
    intro c hc
    rw [hpath c hc]
    decide
  exact ⟨_, _, hok, ((one_request_iff hok).2.2 (2, "X25519MLKEM768", "mldsa65")).mpr hclean⟩

def forgedBody : NewTest :=
  { labBody with httpPath := "/ HTTP/1.1\r\nX-Forged: 1\r\nA: b" }

def forgedRequest : Http.Request :=
  {
    method := "GET"
    target := "/"
    version := "HTTP/1.1"
    fields := [
      ("X-Forged", "1"),
      ("A", "b HTTP/1.1"),
      ("Host", "tls-good"),
      ("User-Agent", "pqcas-probe"),
      ("Connection", "close"),
      ("Accept", "*/*")
    ]
  }

theorem wellFormed_forgedRequest : forgedRequest.WellFormed := by
  have hwords : ∀ word ∈ ["GET", "/", "HTTP/1.1"], Http.IsWord word := by decide +kernel
  have hfields : ∀ field ∈ forgedRequest.fields, Http.FieldOk field := by decide +kernel
  exact ⟨hwords _ (by simp [forgedRequest]), hwords _ (by simp [forgedRequest]),
    hwords _ (by simp [forgedRequest]), hfields⟩

/--
The line break is accepted, and what is behind it reaches the server as a header of its own.
-/
theorem request_forged
    : ∃ test s',
        (createTest labCreateEnv labConfig forgedBody).eval labState = (.ok test, s')
          ∧ Http.readRequest (cli.httpRequestLine (probe.requestFor
              (jobOf labConfig "openssl" test (2, "X25519MLKEM768", "mldsa65"))))
            = some (forgedRequest, [])
          ∧ ("X-Forged", "1") ∈ forgedRequest.fields := by
  have hok : (createTest labCreateEnv labConfig forgedBody).eval labState
      = (.ok (testRow labCreateEnv forgedBody ["X25519MLKEM768"] ["mldsa65", "mldsa44"]),
        committed labCreateEnv forgedBody labState ["X25519MLKEM768"] ["mldsa65", "mldsa44"]
          (createdJobs labCreateEnv labConfig forgedBody ["X25519MLKEM768"] ["mldsa65", "mldsa44"])) := by
    rfl
  refine ⟨_, _, hok, ?_, by simp [forgedRequest]⟩
  have htext : cli.httpRequestLine (probe.requestFor (jobOf labConfig "openssl"
      (testRow labCreateEnv forgedBody ["X25519MLKEM768"] ["mldsa65", "mldsa44"])
      (2, "X25519MLKEM768", "mldsa65"))) = forgedRequest.text := by
    decide +kernel
  rw [htext]
  exact Http.readRequest_text_iff.mpr wellFormed_forgedRequest

end api

end PqCas
