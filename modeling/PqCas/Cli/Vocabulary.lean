import PqCas.Cli.Printed

/-!
The name of a group on its way to a stack and back: the stack prints it in its own spelling, and the
report is compared with the offer.
-/

namespace PqCas

namespace cli

/--
A name that is read off a line as it was printed there. `earlier` are the search strings that are tried
before the one of the line.
-/
structure Legible (backend : Backend) (earlier : List (String × LineKind)) (layout : Layout)
    (name : String) : Prop where
  oneLine : '\n' ∉ name.toList
  trimmed : Text.trim name = name
  unclaimed : ∀ p ∈ earlier, ¬ p.1.toList <:+: name.toList
  real : name ∉ placeholders backend
  fits : layout.Fits name

section Legible

variable {backend : Backend} {earlier later : List (String × LineKind)} {needle pre post name group : String}
  {layout : Layout}

theorem readOff_of_unclaimed (hneedles : groupNeedles backend = earlier ++ (needle, layout.kind) :: later)
    (h : ∀ p ∈ earlier, ¬ p.1.toList <:+: name.toList)
    : earlier.findSome? (readOff (layout.text name.toList)) = none := by
  rw [List.findSome?_eq_none_iff]
  intro p hp
  have hsearch := searchable backend p (by simp [hneedles, hp])
  have hhead : p.1.toList.head? ≠ some ' ' := by
    intro hspace
    have hopens := hsearch.opens
    rw [hspace] at hopens
    revert hopens
    decide
  unfold readOff
  rw [valueOn_of_absent]
  . rfl
  . have hmechanism : ∀ ephemeral, ':' ∉ (mechanismName ephemeral).toList := by decide
    rw [infix_text_iff (colon_mem_of_earlier hneedles p hp) (by decide) (by decide) hmechanism
      hsearch.noComma hhead]
    exact h p hp

theorem groupOf_of_legible (hneedles : groupNeedles backend = earlier ++ (needle, layout.kind) :: later)
    (hpre : ∀ p ∈ groupNeedles backend, ¬ p.1.toList <:+: pre.toList)
    (hpost : ∀ p ∈ groupNeedles backend, ¬ p.1.toList <:+: post.toList) (hends : EndsLine post)
    (h : Legible backend earlier layout name)
    : groupOf backend (pre ++ needle ++ String.ofList (layout.text name.toList) ++ post) = some name := by
  rw [groupOf_line hneedles hpre hpost hends h.oneLine, readOff_of_unclaimed hneedles h.unclaimed,
    readBack_of_fits h.fits h.trimmed]
  simp [h.real]

theorem count_colon_text (layout : Layout) (name : List Char)
    : (layout.text name).count ':' = name.count ':' := by
  have hsize : ∀ bits, (sizeText bits).count ':' = 0 :=
    fun bits => List.count_eq_zero.mpr (not_mem_sizeText (by decide) (by decide) bits)
  cases layout with
  | plain | bare => rfl
  | keySize bits => simp [Layout.text, hsize]
  | mechanism ephemeral bits =>
    have hmechanism : (mechanismName ephemeral).toList.count ':' = 0 := by cases ephemeral <;> decide
    simp [Layout.text_mechanism, hsize, hmechanism]

theorem count_lt_of_readOff {line : List Char} {p : String × LineKind} (hcolon : ':' ∈ p.1.toList)
    (h : readOff line p = some group) : group.toList.count ':' < line.count ':' := by
  obtain ⟨value, hvalue, rfl⟩ := Option.map_eq_some_iff.mp h
  obtain ⟨lead, rest, hline, rfl, -⟩ := valueOn_eq_some hvalue
  have hread := p.2.count_read_le ':' (Text.trim (String.ofList rest))
  have htrim := (infix_trim rest).sublist.count_le ':'
  have hneedle : 0 < p.1.toList.count ':' := List.count_pos_iff.mpr hcolon
  rw [String.toList_ofList] at hline
  rw [hline, List.count_append, List.count_append]
  omega

theorem isWhitespace_of_shown_eq_none {rest : List Char} (h : shown rest = none)
    : ∀ c ∈ rest, Text.isWhitespace c = true := by
  have hblank : Text.trim (String.ofList rest) = "" := by
    unfold shown at h
    dsimp only at h
    split at h
    . cases h
    . next hne => simpa using hne
  intro c hc
  rw [← Bool.not_eq_false]
  intro hvisible
  have hmem : c ∈ (Text.trim (String.ofList rest)).toList := by
    unfold Text.trim
    rw [String.toList_ofList, String.toList_ofList]
    exact Text.mem_trimList hc hvisible
  rw [hblank] at hmem
  cases hmem

theorem readOff_of_blank {line : List Char} (hblank : ∀ c ∈ line, Text.isWhitespace c = true)
    {p : String × LineKind} (hp : Searchable p.1.toList) : readOff line p = none := by
  unfold readOff
  rw [valueOn_of_absent]
  . rfl
  . intro hin
    obtain ⟨c, hc, hvisible⟩ := Option.map_eq_some_iff.mp hp.opens
    rw [hblank c (hin.subset (List.mem_of_mem_head? hc))] at hvisible
    cases hvisible

theorem not_infix_of_readOff {line : List Char} {c : Char} (hc : Text.isWhitespace c = false)
    {p : String × LineKind} (hp : Searchable p.1.toList) (h : readOff (line ++ [c]) p = none)
    : ¬ p.1.toList <:+: line ++ [c] := by
  intro hin
  cases hafter : Search.after p.1.toList (line ++ [c]) with
  | none => exact Search.after_eq_none_iff.mp hafter hin
  | some rest =>
    have hblank : shown rest = none := by
      unfold readOff at h
      rw [valueOn_of_some hafter] at h
      simpa using h
    obtain ⟨lead, hline⟩ := Search.eq_append_of_after hafter
    have hlast := congrArg List.getLast? hline
    rw [List.getLast?_concat, List.getLast?_append, List.getLast?_append, hp.closes] at hlast
    cases hrest : rest.getLast? with
    | none =>
      rw [hrest] at hlast
      cases hlast
      cases hc
    | some d =>
      rw [hrest] at hlast
      cases hlast
      rw [isWhitespace_of_shown_eq_none hblank c (List.mem_of_getLast? hrest)] at hc
      cases hc

theorem legible_of_groupOf (hneedles : groupNeedles backend = earlier ++ (needle, layout.kind) :: later)
    (hpre : ∀ p ∈ groupNeedles backend, ¬ p.1.toList <:+: pre.toList)
    (hpost : ∀ p ∈ groupNeedles backend, ¬ p.1.toList <:+: post.toList) (hends : EndsLine post)
    (hname : '\n' ∉ name.toList)
    (h : groupOf backend (pre ++ needle ++ String.ofList (layout.text name.toList) ++ post) = some group)
    (heq : Text.eqIgnoreAsciiCase group name = true) : Legible backend earlier layout name := by
  rw [groupOf_line hneedles hpre hpost hends hname, Option.filter_eq_some_iff] at h
  obtain ⟨hfound, hreal⟩ := h
  have hearlier : earlier.findSome? (readOff (layout.text name.toList)) = none := by
    cases hsome : earlier.findSome? (readOff (layout.text name.toList)) with
    | none => rfl
    | some other =>
      rw [hsome] at hfound
      cases hfound
      obtain ⟨p, hp, hread⟩ := List.exists_of_findSome?_eq_some hsome
      have hlt := count_lt_of_readOff (colon_mem_of_earlier hneedles p hp) hread
      rw [count_colon_text, Text.count_eq_of_eqIgnoreAsciiCase heq (by decide)] at hlt
      exact absurd hlt (Nat.lt_irrefl _)
  have hread : layout.readBack name = some group := by
    cases hback : layout.readBack name with
    | some other =>
      rw [hearlier, hback] at hfound
      exact hfound
    | none =>
      -- The line is blank, and there is nothing to find for the search strings that are left.
      have hblank := isWhitespace_of_shown_eq_none (Option.map_eq_none_iff.mp hback)
      have hlater : later.findSome? (readOff (layout.text name.toList)) = none := by
        rw [List.findSome?_eq_none_iff]
        exact fun p hp => readOff_of_blank hblank (searchable backend p (by simp [hneedles, hp]))
      rw [hearlier, hback, hlater] at hfound
      cases hfound
  obtain ⟨htrim, hfits⟩ := fits_of_readBack hread heq
  have hsame : group = name := by
    rw [readBack_of_fits hfits htrim] at hread
    cases hread
    rfl
  refine ⟨hname, htrim, ?_, by simpa [hsame] using hreal, hfits⟩
  intro p hp hin
  have hsearch := searchable backend p (by simp [hneedles, hp])
  have hnone := List.findSome?_eq_none_iff.mp hearlier p hp
  have hlong : p.1.toList <:+: layout.text name.toList := by
    cases layout with
    | plain | bare => exact hin
    | keySize bits => exact hin.trans (List.prefix_append _ _).isInfix
    | mechanism ephemeral bits =>
      rw [Layout.text_mechanism]
      exact hin.trans ⟨(mechanismName ephemeral).toList ++ [',', ' '], ',' :: sizeText bits, by simp⟩
  have hne : layout.text name.toList ≠ [] := by
    intro hnil
    rw [hnil, List.infix_nil] at hlong
    exact hsearch.ne_empty (by simpa using hlong)
  obtain ⟨s, c, hs, hc⟩ := exists_last_text htrim hne
  rw [hs] at hnone hlong
  exact not_infix_of_readOff hc hsearch hnone hlong

end Legible

section Names

def respelled (backend : Backend) : List String :=
  match backend with
  | .openSsl | .boringSsl => ["secp256r1", "secp384r1", "secp521r1"]
  | .wolfSsl => ["mlkem512", "mlkem768", "mlkem1024"]
  | .mock => []

def isWord (backend : Backend) (word : String) : Bool :=
  word ≠ "" && word.toList.all (fun c => !Text.isWhitespace c && c ≠ ',') && !isMechanism word
    && word ∉ (placeholders backend).map Text.toAsciiLowercase

theorem isWord_renamings (backend : Backend)
    : ∀ p ∈ renamings backend, isWord backend p.1 = true ∧ isWord backend (Text.toAsciiLowercase p.2) = true := by
  cases backend <;> decide

theorem renamings_respelled (backend : Backend)
    : ∀ p ∈ renamings backend, Text.toAsciiLowercase p.2 = p.1 ↔ p.1 ∉ respelled backend := by
  cases backend <;> decide

variable {backend : Backend} {name : String}

theorem stackGroup_of_respelled (h : Text.toAsciiLowercase name ∈ respelled backend)
    : Text.eqIgnoreAsciiCase (stackGroup backend name) name = false := by
  have hother : ∀ spelling, stackGroup backend name = spelling →
      Text.toAsciiLowercase spelling ∉ respelled backend →
      Text.eqIgnoreAsciiCase (stackGroup backend name) name = false := by
    intro spelling hspelling hnot
    rw [← Bool.not_eq_true, Text.eqIgnoreAsciiCase_iff, hspelling]
    intro heq
    rw [heq] at hnot
    exact hnot h
  cases backend with
  | openSsl | boringSsl =>
    simp only [respelled, List.mem_cons, List.not_mem_nil, or_false] at h
    rcases h with h | h | h
    . exact hother "P-256" (by simp [stackGroup, h]) (by decide)
    . exact hother "P-384" (by simp [stackGroup, h]) (by decide)
    . exact hother "P-521" (by simp [stackGroup, h]) (by decide)
  | wolfSsl =>
    simp only [respelled, List.mem_cons, List.not_mem_nil, or_false] at h
    rcases h with h | h | h
    . exact hother "ML_KEM_512" (by simp [stackGroup, h]) (by decide)
    . exact hother "ML_KEM_768" (by simp [stackGroup, h]) (by decide)
    . exact hother "ML_KEM_1024" (by simp [stackGroup, h]) (by decide)
  | mock => cases h

theorem legible_of_isWord (h : isWord backend (Text.toAsciiLowercase name) = true)
    {earlier later : List (String × LineKind)} {needle : String} {layout : Layout}
    (hneedles : groupNeedles backend = earlier ++ (needle, layout.kind) :: later)
    : Legible backend earlier layout name := by
  simp only [isWord, Bool.and_eq_true, decide_eq_true_eq, Bool.not_eq_true', List.all_eq_true] at h
  obtain ⟨⟨⟨hne, hchars⟩, hmechanism⟩, hreal⟩ := h
  have hvisible : ∀ c ∈ name.toList, Text.isWhitespace c = false := by
    intro c hc
    rw [← Text.isWhitespace_toLower]
    apply (hchars c.toLower _).1
    unfold Text.toAsciiLowercase
    rw [String.toList_ofList]
    exact List.mem_map_of_mem hc
  have hcomma : ',' ∉ name.toList := by
    intro hmem
    exact (hchars ',' ((Text.mem_toAsciiLowercase (by decide) name).mpr hmem)).2 rfl
  have hnameMechanism : isMechanism name = false := by
    simpa [isMechanism, Text.eqIgnoreAsciiCase, Text.toAsciiLowercase, Function.comp_def] using hmechanism
  have hnameNe : name ≠ "" := by
    rintro rfl
    exact hne rfl
  constructor
  . intro hmem
    have := hvisible _ hmem
    revert this
    decide
  . exact Text.trim_eq_self hvisible
  . intro p hp hin
    have hsearch := searchable backend p (by simp [hneedles, hp])
    have := hvisible _ (hin.subset (List.mem_of_getLast? hsearch.closes))
    revert this
    decide
  . exact fun hmem => hreal (List.mem_map_of_mem hmem)
  . cases layout with
    | plain => exact hnameNe
    | bare => exact ⟨hnameNe, hcomma⟩
    | keySize bits => exact ⟨hcomma, hnameMechanism⟩
    | mechanism ephemeral bits => exact hcomma

end Names

/--
A client that reports a group in the spelling of its stack is understood exactly when the spelling is
the name but for case, and the name can be told apart on the line.
-/
theorem group_recognised_iff {backend : Backend} {adapter : String} {request : ProbeRequest}
    {stdout stderr : String} {response : ProbeResponse} {earlier later : List (String × LineKind)}
    {needle pre post group : String} {layout : Layout}
    (hparse : parse backend adapter request stdout stderr = some response)
    (hneedles : groupNeedles backend = earlier ++ (needle, layout.kind) :: later)
    (hout : groupText backend stdout stderr
      = pre ++ needle ++ String.ofList (layout.text (stackGroup backend group).toList) ++ post)
    (hpre : ∀ p ∈ groupNeedles backend, ¬ p.1.toList <:+: pre.toList)
    (hpost : ∀ p ∈ groupNeedles backend, ¬ p.1.toList <:+: post.toList) (hends : EndsLine post)
    : (∃ found, response.negotiated.group = some found ∧ Text.eqIgnoreAsciiCase group found = true)
        ↔
      Text.toAsciiLowercase group ∉ respelled backend ∧ Legible backend earlier layout group := by
  rw [negotiated_group hparse, hout]
  constructor
  . rintro ⟨found, hfound, hsame⟩
    rw [Text.eqIgnoreAsciiCase_comm] at hsame
    have hoffered : Text.toAsciiLowercase (stackGroup backend group) = Text.toAsciiLowercase group →
        Text.toAsciiLowercase group ∉ respelled backend := by
      intro heq hmem
      have hdiffer := stackGroup_of_respelled hmem
      rw [Text.eqIgnoreAsciiCase_iff.mpr heq] at hdiffer
      cases hdiffer
    rcases stackGroup_cases backend group with htable | hsame'
    . have hword := isWord_renamings backend _ htable
      have hlegible := legible_of_isWord hword.2 hneedles
      rw [groupOf_of_legible hneedles hpre hpost hends hlegible, Option.some.injEq] at hfound
      rw [← hfound, Text.eqIgnoreAsciiCase_iff] at hsame
      exact ⟨hoffered hsame, legible_of_isWord hword.1 hneedles⟩
    . rw [hsame'] at hfound hoffered
      have hline : '\n' ∉ group.toList := by
        rw [← Text.mem_iff_of_eqIgnoreAsciiCase hsame (by decide)]
        exact newline_not_mem_of_groupOf hfound
      exact ⟨hoffered rfl, legible_of_groupOf hneedles hpre hpost hends hline hfound hsame⟩
  . rintro ⟨hspelled, hlegible⟩
    refine ⟨stackGroup backend group, ?_, ?_⟩
    . apply groupOf_of_legible hneedles hpre hpost hends
      rcases stackGroup_cases backend group with htable | hsame
      . exact legible_of_isWord (isWord_renamings backend _ htable).2 hneedles
      . rwa [hsame]
    . rw [Text.eqIgnoreAsciiCase_iff]
      rcases stackGroup_cases backend group with htable | hsame
      . exact ((renamings_respelled backend _ htable).mpr hspelled).symm
      . rw [hsame]

def labFront : String := "CONNECTED(00000003)\n"

def labRest : String := "\nNew, TLSv1.3, Cipher is TLS_AES_256_GCM_SHA384\nProtocol: TLSv1.3\n"

def labOutput : String :=
  labFront ++ "Peer Temp Key: " ++ "ECDH, P-256, 256 bits" ++ labRest

def labOffer (group : String) : ProbeRequest :=
  { labProbe with kemGroups := [group] }

theorem labFront_clear : ∀ p ∈ groupNeedles .openSsl, ¬ p.1.toList <:+: labFront.toList := by
  decide

set_option maxRecDepth 10000 in
theorem labRest_clear : ∀ p ∈ groupNeedles .openSsl, ¬ p.1.toList <:+: labRest.toList := by
  decide

theorem labRest_ends : EndsLine labRest :=
  .inr (.inl ⟨"New, TLSv1.3, Cipher is TLS_AES_256_GCM_SHA384\nProtocol: TLSv1.3\n", by decide⟩)

theorem labOutput_eq {group : String} (h : stackGroup .openSsl group = "P-256")
    : labOutput = labFront ++ "Peer Temp Key: "
        ++ String.ofList ((Layout.mechanism false 256).text (stackGroup .openSsl group).toList) ++ labRest := by
  have htext : String.ofList ((Layout.mechanism false 256).text "P-256".toList) = "ECDH, P-256, 256 bits" := by
    decide
  rw [h, htext]
  rfl

theorem group_recognised_lab
    : ∃ found, (parseOpenssl "openssl" (labOffer "p-256") labOutput "").negotiated.group = some found
        ∧ Text.eqIgnoreAsciiCase "p-256" found = true := by
  have hneedles : groupNeedles .openSsl = [("Negotiated TLS1.3 group: ", .plain)]
      ++ ("Peer Temp Key: ", (Layout.mechanism false 256).kind) :: [("Server Temp Key: ", .tempKey)] := rfl
  have hparse : parse .openSsl "openssl" (labOffer "p-256") labOutput ""
      = some (parseOpenssl "openssl" (labOffer "p-256") labOutput "") := rfl
  have hspelling : stackGroup .openSsl "p-256" = "P-256" := by decide
  apply (group_recognised_iff hparse hneedles (labOutput_eq hspelling) labFront_clear labRest_clear
    labRest_ends).mpr
  exact ⟨by decide, legible_of_isWord (by decide) hneedles⟩

set_option maxRecDepth 10000 in
/--
The server picks the only group of the offer, and the report names another one.
-/
theorem group_not_recognised_lab
    : labOutput = labFront ++ "Peer Temp Key: "
          ++ String.ofList ((Layout.mechanism false 256).text (stackGroup .openSsl "secp256r1").toList) ++ labRest
        ∧ (∀ p ∈ groupNeedles .openSsl, ¬ p.1.toList <:+: labFront.toList ∧ ¬ p.1.toList <:+: labRest.toList)
        ∧ EndsLine labRest
        ∧ (parseOpenssl "openssl" (labOffer "secp256r1") labOutput "").negotiated.group = some "P-256"
        ∧ ¬ ∃ found, (parseOpenssl "openssl" (labOffer "secp256r1") labOutput "").negotiated.group = some found
          ∧ Text.eqIgnoreAsciiCase "secp256r1" found = true := by
  have hgroup : (parseOpenssl "openssl" (labOffer "secp256r1") labOutput "").negotiated.group = some "P-256" := by
    decide
  refine ⟨labOutput_eq (by decide), ?_, labRest_ends, hgroup, ?_⟩
  . exact fun p hp => ⟨labFront_clear p hp, labRest_clear p hp⟩
  . rw [hgroup]
    rintro ⟨found, hfound, hsame⟩
    cases hfound
    revert hsame
    decide

end cli

end PqCas
