import PqCas.Cli.Printed

/-!
The certificate chain as `s_client` prints it, and how much of it the parser reports.
-/

namespace PqCas

namespace cli

structure ChainEntry where
  blanks : String
  subject : String
  issuer : String

structure ChainEntry.WellFormed (e : ChainEntry) : Prop where
  blanks : ∀ c ∈ e.blanks.toList, Text.isWhitespace c = true ∧ c ≠ '\n'
  subject_ne_empty : e.subject ≠ ""
  subject_trimmed : Text.trim e.subject = e.subject
  subject_oneLine : '\n' ∉ e.subject.toList
  noIssuer : ¬ " i:".toList <:+: e.subject.toList
  issuer_ne_empty : e.issuer ≠ ""
  issuer_trimmed : Text.trim e.issuer = e.issuer
  issuer_oneLine : '\n' ∉ e.issuer.toList

def ChainEntry.line (e : ChainEntry) (depth : Nat) : String :=
  e.blanks ++ toString depth ++ " s:" ++ e.subject ++ " i:" ++ e.issuer

def chainLines (depth : Nat) : List ChainEntry → List String
  | [] => []
  | e :: chain => e.line depth :: chainLines (depth + 1) chain

def ChainEntry.certificate (e : ChainEntry) : Certificate :=
  {
    subject := e.subject
    issuer := e.issuer
    notBefore := none
    notAfter := none
    signatureAlgorithm := none
    publicKeyAlgorithm := none
    sha256Fingerprint := none
  }

section Line

variable {e : ChainEntry}

theorem isNumeric_of_isDigit {c : Char} (h : c.isDigit = true) : Text.isNumeric c = true := by
  have hrange : 48 ≤ c.toNat ∧ c.toNat ≤ 57 := by
    simpa [Char.isDigit, UInt32.le_iff_toNat_le] using h
  unfold Text.isNumeric Text.numericRanges
  rw [List.any_cons, Bool.or_eq_true]
  left
  simpa using hrange

theorem ChainEntry.WellFormed.trim_line (h : e.WellFormed) (depth : Nat)
    : (Text.trim (e.line depth)).toList
        =
      (toString depth).toList ++ " s:".toList ++ e.subject.toList ++ " i:".toList ++ e.issuer.toList := by
  obtain ⟨s, c, hs, hc⟩ := Text.exists_last_of_trim_eq_self h.issuer_trimmed h.issuer_ne_empty
  have hblanks : ∀ c ∈ e.blanks.toList, Text.isWhitespace c = true := fun c hc => (h.blanks c hc).1
  have hlist : (e.line depth).toList
      = (e.blanks.toList
          ++ ((toString depth).toList ++ " s:".toList ++ e.subject.toList ++ " i:".toList ++ s)) ++ [c] := by
    unfold ChainEntry.line
    simp only [String.toList_append, hs, List.append_assoc]
  unfold Text.trim
  rw [String.toList_ofList, hlist, Text.trimList_append_singleton _ hc, hs,
    List.dropWhile_append_of_pos hblanks]
  cases hdigits : (toString depth).toList with
  | nil =>
    rw [Text.toList_toString] at hdigits
    exact absurd hdigits Nat.toDigits_ne_nil
  | cons d digits =>
    have hdigit : Text.isWhitespace d = false := by
      apply Text.isWhitespace_of_isDigit
      apply Text.isDigit_of_mem_toString (n := depth)
      rw [hdigits]
      exact List.mem_cons_self
    simp [hdigit]

theorem parseOpensslCert_eq (h : e.WellFormed) {depth : Nat} {d : Char} {digits : List Char}
    (hdigits : (toString depth).toList = d :: digits)
    : parseOpensslCert (e.line depth)
        =
      (Text.stripPrefix "s:" (Text.trimStart (String.ofList
        (digits ++ " s:".toList ++ e.subject.toList ++ " i:".toList ++ e.issuer.toList)))).map (fun subject =>
          let (subject, issuer) := match Text.splitOnce " i:" subject with
            | some (s, i) => (Text.trim s, Text.trim i)
            | none => (Text.trim subject, "")
          { e.certificate with subject := subject, issuer := issuer }) := by
  have hnumeric : Text.isNumeric d = true := by
    apply isNumeric_of_isDigit
    apply Text.isDigit_of_mem_toString (n := depth)
    rw [hdigits]
    exact List.mem_cons_self
  have hstrip : Text.stripChar Text.isNumeric (Text.trim (e.line depth))
      = some (String.ofList (digits ++ " s:".toList ++ e.subject.toList ++ " i:".toList ++ e.issuer.toList)) := by
    unfold Text.stripChar
    rw [h.trim_line, hdigits]
    simp only [List.cons_append, hnumeric, ↓reduceIte]
  unfold parseOpensslCert
  rw [hstrip, Option.bind_eq_bind, Option.bind_some, Option.map_eq_bind]
  rfl

theorem parseOpensslCert_line (h : e.WellFormed) {depth : Nat} (hdepth : depth < 10)
    : parseOpensslCert (e.line depth) = some e.certificate := by
  have hdigits : (toString depth).toList = depth.digitChar :: [] := by
    rw [Text.toList_toString, Nat.toDigits_of_lt_base hdepth]
  have hapart : Search.Apart " i:".toList " i:".toList := by decide
  have hsplit : Text.splitOnce " i:" (String.ofList (e.subject.toList ++ (" i:".toList ++ e.issuer.toList)))
      = some (e.subject, e.issuer) := by
    have hlist : (String.ofList (e.subject.toList ++ (" i:".toList ++ e.issuer.toList))).toList
        = e.subject.toList ++ (" i:".toList ++ e.issuer.toList) := String.toList_ofList
    unfold Text.splitOnce
    rw [hlist, hapart.splitOnce_eq h.noIssuer, Option.map_some]
    dsimp only
    rw [String.ofList_toList, String.ofList_toList]
  have hprefix : Text.stripPrefix "s:" (Text.trimStart (String.ofList
      ([] ++ " s:".toList ++ e.subject.toList ++ " i:".toList ++ e.issuer.toList)))
        = some (String.ofList (e.subject.toList ++ (" i:".toList ++ e.issuer.toList))) := by
    have hspace : Text.isWhitespace ' ' = true := by decide
    have hvisible : Text.isWhitespace 's' = false := by decide
    have hlist : [] ++ " s:".toList ++ e.subject.toList ++ " i:".toList ++ e.issuer.toList
        = ' ' :: 's' :: ':' :: (e.subject.toList ++ (" i:".toList ++ e.issuer.toList)) := by simp
    have htrim : Text.trimStart (String.ofList
        ([] ++ " s:".toList ++ e.subject.toList ++ " i:".toList ++ e.issuer.toList))
          = String.ofList ("s:".toList ++ (e.subject.toList ++ (" i:".toList ++ e.issuer.toList))) := by
      unfold Text.trimStart
      rw [hlist]
      simp [hspace, hvisible]
    have hrest : (String.ofList ("s:".toList ++ (e.subject.toList ++ (" i:".toList ++ e.issuer.toList)))).toList
        = "s:".toList ++ (e.subject.toList ++ (" i:".toList ++ e.issuer.toList)) := String.toList_ofList
    unfold Text.stripPrefix
    rw [htrim, hrest, if_pos (List.prefix_append _ _), List.drop_left]
  rw [parseOpensslCert_eq h hdigits, hprefix, Option.map_some, hsplit]
  dsimp only
  rw [h.subject_trimmed, h.issuer_trimmed]
  rfl

theorem parseOpensslCert_deep (h : e.WellFormed) {depth : Nat} (hdepth : 10 ≤ depth)
    : parseOpensslCert (e.line depth) = none := by
  obtain ⟨d, d', digits, hdigits⟩ : ∃ d d' digits, (toString depth).toList = d :: d' :: digits := by
    have hlength : ¬ (Nat.toDigits 10 depth).length ≤ 1 := by
      rw [Nat.length_toDigits_le_iff (by omega) (by omega)]
      omega
    rw [Text.toList_toString]
    cases hlist : Nat.toDigits 10 depth with
    | nil => simp [hlist] at hlength
    | cons d rest =>
      cases rest with
      | nil => simp [hlist] at hlength
      | cons d' digits => exact ⟨d, d', digits, rfl⟩
  have hdigit : d'.isDigit = true := by
    apply Text.isDigit_of_mem_toString (n := depth)
    rw [hdigits]
    simp
  have hvisible : Text.isWhitespace d' = false := Text.isWhitespace_of_isDigit hdigit
  have hne : ¬ 's' = d' := by
    rintro rfl
    cases hdigit
  have hprefix : Text.stripPrefix "s:" (Text.trimStart (String.ofList
      (d' :: digits ++ " s:".toList ++ e.subject.toList ++ " i:".toList ++ e.issuer.toList))) = none := by
    unfold Text.stripPrefix Text.trimStart
    simp [hvisible, hne]
  rw [parseOpensslCert_eq h hdigits, hprefix]
  rfl

theorem ChainEntry.WellFormed.isLine (h : e.WellFormed) (depth : Nat) : Text.IsLine (e.line depth) := by
  have hs : Text.IsLine " s:" := by decide
  have hi : Text.IsLine " i:" := by decide
  have hsubject := Text.isLine_of_trim h.subject_trimmed h.subject_oneLine
  have hissuer := Text.isLine_of_trim h.issuer_trimmed h.issuer_oneLine
  have hrest := (((Text.isLine_toString depth).append hs).append hsubject).append (hi.append hissuer)
  have hline : e.line depth = e.blanks ++ (toString depth ++ " s:" ++ e.subject ++ (" i:" ++ e.issuer)) := by
    unfold ChainEntry.line
    simp only [String.append_assoc]
  have hblanks : '\n' ∉ e.blanks.toList := fun hmem => (h.blanks _ hmem).2 rfl
  rw [hline]
  constructor
  . rw [String.toList_append, List.mem_append, not_or]
    exact ⟨hblanks, hrest.1⟩
  . -- Behind the blanks there is at least the depth.
    obtain ⟨s, c, hs, hc⟩ := Text.exists_last_of_trim_eq_self h.issuer_trimmed h.issuer_ne_empty
    simp only [String.toList_append, hs, ← List.append_assoc, List.getLast?_concat]
    rintro ⟨⟩
    cases hc

end Line

section Chain

variable {chain : List ChainEntry}

theorem filterMap_chainLines (h : ∀ e ∈ chain, e.WellFormed) (depth : Nat)
    : (chainLines depth chain).filterMap parseOpensslCert
        =
      (chain.take (10 - depth)).map ChainEntry.certificate := by
  induction chain generalizing depth with
  | nil => simp [chainLines]
  | cons e chain ih =>
    have he := h e List.mem_cons_self
    have hchain := ih (fun e' he' => h e' (List.mem_cons_of_mem _ he')) (depth + 1)
    unfold chainLines
    by_cases hdepth : depth < 10
    . have htake : 10 - depth = (10 - (depth + 1)) + 1 := by omega
      rw [List.filterMap_cons_some (parseOpensslCert_line he hdepth), hchain, htake, List.take_succ_cons,
        List.map_cons]
    . have htake : 10 - depth = 0 := by omega
      have hnext : 10 - (depth + 1) = 0 := by omega
      rw [List.filterMap_cons_none (parseOpensslCert_deep he (by omega)), hchain, htake, hnext]
      rfl

theorem isLine_of_mem_chainLines (h : ∀ e ∈ chain, e.WellFormed) {depth : Nat} {line : String}
    (hline : line ∈ chainLines depth chain) : Text.IsLine line := by
  induction chain generalizing depth with
  | nil => cases hline
  | cons e chain ih =>
    rcases List.mem_cons.mp hline with rfl | hline
    . exact (h e List.mem_cons_self).isLine depth
    . exact ih (fun e' he' => h e' (List.mem_cons_of_mem _ he')) hline

theorem parseOpensslCerts_chain (h : ∀ e ∈ chain, e.WellFormed) (crlf : Bool)
    : parseOpensslCerts (Text.unlines crlf (chainLines 0 chain))
        =
      (chain.take 10).map ChainEntry.certificate := by
  have hall : ∀ line ∈ chainLines 0 chain, Text.IsLine line := fun line hline => isLine_of_mem_chainLines h hline
  have hlines := Text.lines_unlines hall crlf ""
  rw [String.append_empty, Text.lines_empty, List.append_nil] at hlines
  unfold parseOpensslCerts
  rw [hlines, filterMap_chainLines h]

/--
A chain is reported as a whole exactly if no depth in it has a second digit.
-/
theorem chain_reported_iff (h : ∀ e ∈ chain, e.WellFormed) (crlf : Bool)
    : parseOpensslCerts (Text.unlines crlf (chainLines 0 chain)) = chain.map ChainEntry.certificate
        ↔
      chain.length ≤ 10 := by
  rw [parseOpensslCerts_chain h]
  constructor
  . intro heq
    have hlength := congrArg List.length heq
    rw [List.length_map, List.length_map, List.length_take] at hlength
    omega
  . intro hle
    rw [List.take_of_length_le hle]

end Chain

def labEntry : ChainEntry :=
  ⟨" ", "CN=lab.example", "CN=pqcas-lab-ca"⟩

def labIssuer : ChainEntry :=
  ⟨" ", "CN=pqcas-lab-ca", "CN=pqcas-lab-root"⟩

theorem blank_of_all {text : String} (h : text.toList.all (fun c => Text.isWhitespace c && c != '\n') = true)
    : ∀ c ∈ text.toList, Text.isWhitespace c = true ∧ c ≠ '\n' := by
  intro c hc
  simpa using List.all_eq_true.mp h c hc

theorem labEntry_wellFormed : labEntry.WellFormed := by
  constructor
  case blanks => exact blank_of_all (by decide)
  all_goals decide +kernel

theorem labIssuer_wellFormed : labIssuer.WellFormed := by
  constructor
  case blanks => exact blank_of_all (by decide)
  all_goals decide +kernel

theorem chain_reported_lab
    : parseOpensslCerts (Text.unlines false (chainLines 0 [labEntry, labIssuer]))
        =
      [
        ⟨"CN=lab.example", "CN=pqcas-lab-ca", none, none, none, none, none⟩,
        ⟨"CN=pqcas-lab-ca", "CN=pqcas-lab-root", none, none, none, none, none⟩
      ] := by
  have h : ∀ e ∈ [labEntry, labIssuer], e.WellFormed := by
    intro e he
    rcases List.mem_pair.mp he with rfl | rfl
    . exact labEntry_wellFormed
    . exact labIssuer_wellFormed
  exact (chain_reported_iff h false).mpr (by decide)

theorem chain_cut
    : (∀ e ∈ List.replicate 11 labEntry, e.WellFormed)
        ∧ parseOpensslCerts (Text.unlines false (chainLines 0 (List.replicate 11 labEntry)))
          ≠ (List.replicate 11 labEntry).map ChainEntry.certificate := by
  have h : ∀ e ∈ List.replicate 11 labEntry, e.WellFormed := by
    intro e he
    rw [List.eq_of_mem_replicate he]
    exact labEntry_wellFormed
  refine ⟨h, ?_⟩
  rw [parseOpensslCerts_chain h]
  intro heq
  have hlength := congrArg List.length heq
  revert hlength
  decide

end cli

end PqCas
