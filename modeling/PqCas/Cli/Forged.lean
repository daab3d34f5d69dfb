import PqCas.Cli.Parse

/-!
What application data that a client prints after its summary can change in the report.
-/

namespace PqCas

namespace cli

theorem valueAfter_append (s t needle : String)
    : valueAfter (s ++ "\n" ++ t) needle = (valueAfter (s ++ "\n") needle).or (valueAfter t needle) := by
  unfold valueAfter
  rw [Text.lines_append, List.findSome?_append]

theorem valueAfter_eq_none {text needle : String} (h : ¬ needle.toList <:+: text.toList)
    : valueAfter text needle = none := by
  unfold valueAfter
  rw [List.findSome?_eq_none_iff]
  intro line hline
  have hnone : Text.after needle line = none := by
    rw [Text.after_eq_none_iff]
    exact fun hin => h (hin.trans (Text.infix_of_mem_lines hline))
  simp [valueOn, hnone]

theorem valueAfter_front {front : String} (hfront : front = "" ∨ ∃ t, front = t ++ "\n")
    (t needle : String)
    : valueAfter (front ++ t) needle = (valueAfter front needle).or (valueAfter t needle) := by
  rcases hfront with rfl | ⟨s, rfl⟩
  . rw [String.empty_append]
    rfl
  . apply valueAfter_append

theorem valueAfter_line {line : List Char} (hline : '\n' ∉ line) (t needle : String)
    : valueAfter (String.ofList line ++ "\n" ++ t) needle
        =
      (valueOn needle (String.ofList (Text.chomp (line ++ ['\n'])))).or (valueAfter t needle) := by
  rw [valueAfter_append]
  congr 1
  unfold valueAfter
  rw [Text.lines_line hline]
  simp

theorem chomp_line_of_visible (line : List Char) {c : Char} (hc : Text.isWhitespace c = false)
    : Text.chomp ((line ++ [c]) ++ ['\n']) = line ++ [c] := by
  apply Text.chomp_line
  rw [List.getLast?_concat]
  rintro ⟨⟩
  cases hc

theorem valueOn_append {needle : String} {line rest : List Char}
    (h : Search.after needle.toList line = some rest) {c : Char} (hc : Text.isWhitespace c = false)
    : ∃ v, valueOn needle (String.ofList (line ++ [c])) = some v ∧ v.toList.getLast? = some c := by
  have hafter : Text.after needle (String.ofList (line ++ [c])) = some (String.ofList (rest ++ [c])) := by
    unfold Text.after
    rw [String.toList_ofList, Search.after_append_right h]
    rfl
  have htrim : (Text.trim (String.ofList (rest ++ [c]))).toList.getLast? = some c := by
    unfold Text.trim
    rw [String.toList_ofList, String.toList_ofList, Text.trimList_append_singleton _ hc]
    simp
  refine ⟨Text.trim (String.ofList (rest ++ [c])), ?_, htrim⟩
  unfold valueOn
  rw [hafter]
  apply if_pos
  intro hempty
  rw [hempty] at htrim
  cases htrim

theorem exists_forged {front : String} {line : List Char} {needle : String}
    (hfront : front = "" ∨ ∃ t, front = t ++ "\n") (hline : '\n' ∉ line)
    (hneedle : '\n' ∉ needle.toList) (hnone : valueAfter front needle = none)
    : ∃ body : Char → String, ∀ c, Text.isWhitespace c = false → ∀ t, ∃ v,
        valueAfter (front ++ String.ofList line ++ body c ++ "\n" ++ t) needle = some v
          ∧ v.toList.getLast? = some c := by
  have hnewline : ∀ c, Text.isWhitespace c = false → ∀ s : List Char, '\n' ∉ s → '\n' ∉ s ++ [c] := by
    intro c hc s hs
    rw [List.mem_append, List.mem_singleton, not_or]
    refine ⟨hs, ?_⟩
    rintro rfl
    cases hc
  cases hafter : Search.after needle.toList line with
  | some rest =>
    -- The last line of the summary has the needle: lengthen its value.
    refine ⟨fun c => String.ofList [c], ?_⟩
    intro c hc t
    obtain ⟨v, hv, hlast⟩ := valueOn_append hafter hc
    refine ⟨v, ?_, hlast⟩
    have htext : front ++ String.ofList line ++ String.ofList [c] ++ "\n" ++ t
        = front ++ (String.ofList (line ++ [c]) ++ "\n" ++ t) := by
      rw [String.ofList_append]
      simp only [String.append_assoc]
    rw [htext, valueAfter_front hfront, hnone, valueAfter_line (hnewline c hc line hline),
      chomp_line_of_visible _ hc, hv]
    rfl
  | none =>
    -- Start a new line with the needle.
    refine ⟨fun c => "\n" ++ String.ofList (needle.toList ++ [c]), ?_⟩
    intro c hc t
    obtain ⟨v, hv, hlast⟩ := valueOn_append (Search.after_self needle.toList []) hc
    rw [List.append_nil] at hv
    refine ⟨v, ?_, hlast⟩
    have htext : front ++ String.ofList line ++ ("\n" ++ String.ofList (needle.toList ++ [c])) ++ "\n" ++ t
        = front ++ (String.ofList line ++ "\n"
          ++ (String.ofList (needle.toList ++ [c]) ++ "\n" ++ t)) := by
      simp [String.append_assoc]
    have hskip : valueOn needle (String.ofList (Text.chomp (line ++ ['\n']))) = none := by
      have habsent : Text.after needle (String.ofList (Text.chomp (line ++ ['\n']))) = none := by
        rw [Text.after_eq_none_iff, String.toList_ofList]
        intro hin
        apply Search.after_eq_none_iff.mp hafter
        exact hin.trans (Text.prefix_chomp_line line).isInfix
      simp [valueOn, habsent]
    rw [htext, valueAfter_front hfront, hnone, valueAfter_line hline, hskip,
      valueAfter_line (hnewline c hc _ hneedle), chomp_line_of_visible _ hc, hv]
    rfl

def connectionOf (response : ProbeResponse) : Negotiated × List Certificate × UInt64 × UInt64 :=
  (response.negotiated, response.certChain, response.evidence.bytesSent, response.evidence.bytesReceived)

/--
The report is the same whatever application data follows the summary on stdout.
-/
def Unforgeable (backend : Backend) (adapter : String) (request : ProbeRequest)
    (summary stderr : String) : Prop :=
  ∀ body body' : String,
    (parse backend adapter request (summary ++ body) stderr).map connectionOf
      = (parse backend adapter request (summary ++ body') stderr).map connectionOf

/--
The summary settles the report before any application data can: BoringSSL keeps the two apart, and
wolfSSL takes the first value for each needle it asks for.
-/
def Settled (backend : Backend) (summary : String) : Prop :=
  match backend with
  | .openSsl => False
  | .boringSsl | .mock => True
  | .wolfSsl =>
    ∃ front rest, summary = front ++ "\n" ++ rest
      ∧ ∀ needle ∈ ["SSL version is ", "SSL cipher suite is ", "Using Post-Quantum KEM: "],
        (valueAfter (front ++ "\n") needle).isSome = true

section Forge

variable {adapter : String} {request : ProbeRequest} {summary stderr : String}

theorem parseOpensslCerts_append (s t : String)
    : parseOpensslCerts (s ++ "\n" ++ t) = parseOpensslCerts (s ++ "\n") ++ parseOpensslCerts t := by
  unfold parseOpensslCerts
  rw [Text.lines_append, List.filterMap_append]

theorem not_unforgeable_openssl : ¬ Unforgeable .openSsl adapter request summary stderr := by
  intro h
  have hbodies := h ("\n" ++ "0 s:CN=a") ("\n" ++ "0 s:CN=b")
  simp only [parse, Option.map_some, Option.some.injEq, connectionOf, Prod.mk.injEq] at hbodies
  have hcerts : parseOpensslCerts (summary ++ ("\n" ++ "0 s:CN=a"))
      = parseOpensslCerts (summary ++ ("\n" ++ "0 s:CN=b")) := hbodies.2.1
  rw [← String.append_assoc, ← String.append_assoc, parseOpensslCerts_append,
    parseOpensslCerts_append, List.append_cancel_left_eq] at hcerts
  revert hcerts
  decide

theorem unforgeable_boringssl : Unforgeable .boringSsl adapter request summary stderr :=
  fun _ _ => rfl

theorem wolfssl_unforgeable_of_settled (h : Settled .wolfSsl summary)
    : Unforgeable .wolfSsl adapter request summary stderr := by
  obtain ⟨front, rest, rfl, hvalues⟩ := h
  intro body body'
  have hvalue : ∀ needle ∈ ["SSL version is ", "SSL cipher suite is ", "Using Post-Quantum KEM: "],
      ∀ t, valueAfter (front ++ "\n" ++ rest ++ t ++ "\n" ++ stderr) needle
        = valueAfter (front ++ "\n") needle := by
    intro needle hneedle t
    obtain ⟨v, hv⟩ := Option.isSome_iff_exists.mp (hvalues needle hneedle)
    have htext : front ++ "\n" ++ rest ++ t ++ "\n" ++ stderr
        = front ++ "\n" ++ (rest ++ t ++ "\n" ++ stderr) := by
      simp [String.append_assoc]
    rw [htext, valueAfter_append, hv]
    rfl
  have hnegotiated : ∀ t, wolfsslNegotiated (front ++ "\n" ++ rest ++ t ++ "\n" ++ stderr)
      = wolfsslNegotiated (front ++ "\n") := by
    intro t
    unfold wolfsslNegotiated
    rw [hvalue _ (by simp), hvalue _ (by simp), hvalue _ (by simp)]
    obtain ⟨v, hv⟩ := Option.isSome_iff_exists.mp (hvalues "Using Post-Quantum KEM: " (by simp))
    rw [hv]
    rfl
  have hreport : ∀ t, (parse .wolfSsl adapter request (front ++ "\n" ++ rest ++ t) stderr).map connectionOf
      = some (wolfsslNegotiated (front ++ "\n" ++ rest ++ t ++ "\n" ++ stderr), [], 0, 0) :=
    fun _ => rfl
  rw [hreport, hreport, hnegotiated, hnegotiated]

theorem wolfssl_settled_of_unforgeable (h : Unforgeable .wolfSsl adapter request summary stderr)
    : Settled .wolfSsl summary := by
  obtain ⟨front, rest, rfl, hrest, hfront⟩ := Text.exists_unterminated summary
  -- A needle without a value would let the application data choose one.
  have hvalues : ∀ needle ∈ ["SSL version is ", "SSL cipher suite is ", "Using Post-Quantum KEM: "],
      (valueAfter front needle).isSome = true := by
    intro needle hneedle
    by_contra hnot
    have hnone : valueAfter front needle = none := by simpa using hnot
    have hnewline : ∀ n ∈ ["SSL version is ", "SSL cipher suite is ", "Using Post-Quantum KEM: "],
        '\n' ∉ n.toList := by
      decide
    obtain ⟨body, hbody⟩ := exists_forged hfront hrest (hnewline needle hneedle) hnone
    obtain ⟨v, hv, hlast⟩ := hbody 'x' (by decide) stderr
    obtain ⟨v', hv', hlast'⟩ := hbody 'y' (by decide) stderr
    rw [String.ofList_toList] at hv hv'
    have hsame := h (body 'x') (body 'y')
    simp only [parse, Option.map_some, Option.some.injEq, connectionOf, Prod.mk.injEq] at hsame
    have hnegotiated : wolfsslNegotiated (front ++ rest ++ body 'x' ++ "\n" ++ stderr)
        = wolfsslNegotiated (front ++ rest ++ body 'y' ++ "\n" ++ stderr) := hsame.1
    have heq : v = v' := by
      simp only [wolfsslNegotiated, Negotiated.mk.injEq] at hnegotiated
      simp only [List.mem_cons, List.not_mem_nil, or_false] at hneedle
      rcases hneedle with rfl | rfl | rfl
      . rw [hv, hv'] at hnegotiated
        exact Option.some.inj hnegotiated.1
      . rw [hv, hv'] at hnegotiated
        exact Option.some.inj hnegotiated.2.1
      . rw [hv, hv'] at hnegotiated
        exact Option.some.inj hnegotiated.2.2.1
    rw [heq, hlast'] at hlast
    cases hlast
  rcases hfront with rfl | ⟨t, rfl⟩
  . cases hvalues "SSL version is " (by simp)
  . exact ⟨t, rest, rfl, hvalues⟩

/--
The target can change the report by what it sends after the handshake exactly if the client prints that
to the stream the summary is read from and the summary does not come first with every value.
-/
theorem unforgeable_iff {backend : Backend}
    : Unforgeable backend adapter request summary stderr ↔ Settled backend summary := by
  cases backend with
  | openSsl => exact iff_of_false not_unforgeable_openssl id
  | boringSsl => exact iff_of_true unforgeable_boringssl trivial
  | wolfSsl => exact ⟨wolfssl_settled_of_unforgeable, wolfssl_unforgeable_of_settled⟩
  | mock => exact iff_of_true (fun _ _ => rfl) trivial

end Forge

def labProbe : ProbeRequest :=
  .new ⟨"tls-good", 443, none, some "/"⟩

theorem forged_openssl
    : ¬ Unforgeable .openSsl "openssl" labProbe "Cipher    : TLS_AES_128_GCM_SHA256\n" ""
        ∧ parseOpensslCerts ("Cipher    : TLS_AES_128_GCM_SHA256\n" ++ "0 s:CN=forged") =
          [⟨"CN=forged", "", none, none, none, none, none⟩] := by
  refine ⟨not_unforgeable_openssl, ?_⟩
  decide

end cli

end PqCas
